import Markweave.Proofs.Html.TagsOnly
import Markweave.Proofs.Text.Cut
import Markweave.Proofs.Text.Pattern

namespace Markweave.Html

/-- A tag, as far as nesting goes. -/
inductive TagMark
  | opening (name : Text)
  | closing (name : Text)
deriving Repr, DecidableEq

/-- What follows the bracket that ends a tag. Between quotes a bracket ends nothing, and no tag holds a `<`. -/
def endOfTag? : Bool → Text → Option Text
  | _, [] => none
  | quoted, c :: s =>
    if c = '<' then none
    else if c = '"' then endOfTag? (!quoted) s
    else if c = '>' && !quoted then some s
    else endOfTag? quoted s

/-- A name and what ends it, up to the end of the tag. -/
def readNamed? (s : Text) : Option (Text × Text) :=
  if s.takeWhile Char.isAlphanum ≠ [] ∧ (s.dropWhile Char.isAlphanum).head?.any endsName then
    (endOfTag? false (s.dropWhile Char.isAlphanum)).map (s.takeWhile Char.isAlphanum, ·)
  else none

def readMark? : Text → Option (TagMark × Text)
  | '<' :: '/' :: s => (readNamed? s).map fun (name, rest) => (.closing name, rest)
  | '<' :: s => (readNamed? s).map fun (name, rest) => (.opening name, rest)
  | _ => none

theorem length_of_endOfTag? {quoted : Bool} {s r : Text} (h : endOfTag? quoted s = some r) :
    r.length < s.length := by
  induction s generalizing quoted with
  | nil => cases h
  | cons c s ih =>
    rw [endOfTag?] at h
    rw [List.length_cons]
    split at h
    · cases h
    · split at h
      · exact Nat.lt_succ_of_lt (ih h)
      · split at h
        · obtain rfl := Option.some.inj h
          exact Nat.lt_succ_self _
        · exact Nat.lt_succ_of_lt (ih h)

theorem length_of_readNamed? {s name r : Text} (h : readNamed? s = some (name, r)) : r.length < s.length := by
  unfold readNamed? at h
  split at h
  · obtain ⟨rest, hrest, he⟩ := Option.map_eq_some_iff.mp h
    obtain ⟨_, rfl⟩ := Prod.mk.inj he
    exact Nat.lt_of_lt_of_le (length_of_endOfTag? hrest) (List.dropWhile_suffix _).length_le
  · cases h

def tagMark : Pattern TagMark where
  read? := readMark?
  shorter := by
    intro s a r h
    unfold readMark? at h
    split at h
    · obtain ⟨⟨name, rest⟩, hread, he⟩ := Option.map_eq_some_iff.mp h
      obtain ⟨_, rfl⟩ := Prod.mk.inj he
      exact Nat.lt_succ_of_lt (Nat.lt_succ_of_lt (length_of_readNamed? hread))
    · obtain ⟨⟨name, rest⟩, hread, he⟩ := Option.map_eq_some_iff.mp h
      obtain ⟨_, rfl⟩ := Prod.mk.inj he
      exact Nat.lt_succ_of_lt (length_of_readNamed? hread)
    · cases h

/-- The tags of a text, from left to right. -/
def tagMarks (html : Text) : List TagMark :=
  (tagMark.split html).filterMap fun
    | .plain _ => none
    | .found mark => some mark

/-- An element without a closing tag. -/
def isVoid (name : Text) : Bool := (List.map String.toList ["br", "hr", "input", "img"]).contains name

/-- Each closing tag has the name of the last one that is open, and in the end none is open. -/
def matched : List Text → List TagMark → Bool
  | opened, [] => opened.isEmpty
  | opened, .opening name :: marks => matched (if isVoid name then opened else name :: opened) marks
  | name :: opened, .closing closed :: marks => name == closed && matched opened marks
  | [], .closing _ :: _ => false

/-- Every `<` is one of a tag, and the tags are nested well. -/
structure WellFormed (html : Text) : Prop where
  tagsOnly : ∀ t, Piece.plain t ∈ tagMark.split html → '<' ∉ t
  matched : matched [] (tagMarks html) = true

/-- The tag that a piece of markup is. -/
def Markup.mark? : Markup → Option TagMark
  | verbatim _ => none
  | opening name _ => some (.opening name)
  | standalone name _ => some (.opening name)
  | closing name => some (.closing name)

def marks (ms : List Markup) : List TagMark := ms.filterMap Markup.mark?

theorem marks_append (xs ys : List Markup) : marks (xs ++ ys) = marks xs ++ marks ys := List.filterMap_append

section Read

/-- The reading of a text: its tags, and whether no `<` is left. -/
def ReadsAs (html : Text) (ms : List TagMark) : Prop :=
  tagMarks html = ms ∧ ∀ t, Piece.plain t ∈ tagMark.split html → '<' ∉ t

theorem readsAs_nil : ReadsAs [] [] := by
  rw [ReadsAs, tagMarks, Pattern.split]
  exact ⟨rfl, fun t ht => absurd ht List.not_mem_nil⟩

theorem ReadsAs.tag {s r : Text} {mark : TagMark} {ms : List TagMark} (hread : readMark? s = some (mark, r))
    (h : ReadsAs r ms) : ReadsAs s (mark :: ms) := by
  rw [ReadsAs, tagMarks, tagMark.split_of_read? hread]
  refine ⟨congrArg (mark :: ·) h.1, ?_⟩
  intro t ht
  rcases List.mem_cons.mp ht with ht | ht
  · cases ht
  · exact h.2 t ht

/-- A character in front of pieces is text: no tag is added. -/
theorem filterMap_consChar {f : Piece TagMark → Option TagMark} (hf : ∀ t, f (.plain t) = none) (c : Char)
    (ps : List (Piece TagMark)) : (Piece.consChar c ps).filterMap f = ps.filterMap f := by
  match ps with
  | [] | .plain _ :: _ | .found _ :: _ => simp [Piece.consChar, List.filterMap_cons, hf]

theorem notMem_plain_consChar {c : Char} (hc : c ≠ '<') {ps : List (Piece TagMark)}
    (hplain : ∀ t, Piece.plain t ∈ ps → '<' ∉ t) : ∀ t, Piece.plain t ∈ Piece.consChar c ps → '<' ∉ t := by
  have hcons : ∀ {t}, '<' ∉ t → '<' ∉ c :: t := fun ht hmem => (List.mem_cons.mp hmem).elim (hc ·.symm) ht
  intro t ht
  match ps, hplain, ht with
  | [], _, ht =>
    obtain rfl := Piece.plain.inj (List.mem_singleton.mp ht)
    exact hcons List.not_mem_nil
  | .plain u :: ps, hplain, ht =>
    rcases List.mem_cons.mp ht with ht | ht
    · obtain rfl := Piece.plain.inj ht
      exact hcons (hplain u List.mem_cons_self)
    · exact hplain t (List.mem_cons_of_mem _ ht)
  | .found mark :: ps, hplain, ht =>
    rcases List.mem_cons.mp ht with ht | ht
    · obtain rfl := Piece.plain.inj ht
      exact hcons List.not_mem_nil
    · exact hplain t ht

theorem ReadsAs.char {c : Char} (hc : c ≠ '<') {s : Text} {ms : List TagMark} (h : ReadsAs s ms) :
    ReadsAs (c :: s) ms := by
  have hnone : tagMark.read? (c :: s) = none := by
    change readMark? (c :: s) = none
    unfold readMark?
    split
    · next he => exact absurd (List.cons.inj he).1 hc
    · next he => exact absurd (List.cons.inj he).1 hc
    · rfl
  rw [ReadsAs, tagMarks, tagMark.split_cons hnone, filterMap_consChar (fun _ => rfl)]
  exact ⟨h.1, notMem_plain_consChar hc h.2⟩

theorem ReadsAs.text {a s : Text} {ms : List TagMark} (ha : '<' ∉ a) (h : ReadsAs s ms) : ReadsAs (a ++ s) ms := by
  induction a with
  | nil => exact h
  | cons c a ih =>
    simp only [List.mem_cons, not_or] at ha
    exact (ih ha.2).char (Ne.symm ha.1)

/-- A stretch of value characters does not end a tag, between quotes or not. -/
theorem endOfTag?_append {t : Text} (ht : t.all isValueChar = true) (quoted : Bool) (s : Text) :
    endOfTag? quoted (t ++ s) = endOfTag? quoted s := by
  induction t with
  | nil => rfl
  | cons c t ih =>
    rw [List.all_cons, Bool.and_eq_true] at ht
    obtain ⟨hlt, hgt, hquot⟩ := ne_of_isValueChar ht.1
    rw [List.cons_append, endOfTag?, if_neg hlt, if_neg hquot, if_neg (by simp [hgt]), ih ht.2]

theorem endOfTag?_attribute {a : Attribute} (ha : a.Over (isValueChar · = true)) (s : Text) :
    endOfTag? false (a.write ++ s) = endOfTag? false s := by
  have hname : a.name.all isValueChar = true :=
    List.all_eq_true.mpr fun c hc => isValueChar_of_class rfl rfl rfl (List.all_eq_true.mp ha.1 c hc)
  have hblank : ∀ t, endOfTag? false (" " ++ t) = endOfTag? false t := endOfTag?_append (by decide) false
  unfold Attribute.write
  split
  · rw [List.append_assoc, hblank, endOfTag?_append hname]
  · next v hv =>
    have hvalue : v.all isValueChar = true := List.all_eq_true.mpr (ha.2 v hv)
    simp only [List.append_assoc]
    rw [hblank, endOfTag?_append hname]
    change endOfTag? true (v ++ '"' :: s) = _
    rw [endOfTag?_append hvalue]
    rfl

theorem endOfTag?_attributes {as : List Attribute} (has : ∀ a ∈ as, a.Over (isValueChar · = true)) (s : Text) :
    endOfTag? false (writeAttributes as ++ s) = endOfTag? false s := by
  induction as with
  | nil => rfl
  | cons a as ih =>
    rw [List.forall_mem_cons] at has
    rw [writeAttributes, List.flatMap_cons, List.append_assoc, endOfTag?_attribute has.1]
    exact ih has.2

/-- A name of the vocabulary is read up to the end of its tag. -/
theorem readNamed?_name {n : Text} (hn : n ∈ tagNames) {c : Char} (hc : endsName c = true) (r : Text) :
    readNamed? (n ++ c :: r) = (endOfTag? false (c :: r)).map (n, ·) := by
  have hall := List.all_eq_true.mp (alphanum_of_mem_tagNames hn)
  have hne : n ≠ [] := by
    have hnames : ∀ n ∈ tagNames, n ≠ [] := by decide
    exact hnames n hn
  have hstop : c.isAlphanum = false := by
    rw [← Bool.not_eq_true]
    intro h
    exact Bool.false_ne_true ((endsName_of_isAlphanum h).symm.trans hc)
  rw [readNamed?, Text.takeWhile_append_cons hall hstop, Text.dropWhile_append_cons hall hstop, if_pos ⟨hne, hc⟩]

theorem readMark?_opening {n : Text} (hn : n ∈ tagNames) {as : List Attribute}
    (has : ∀ a ∈ as, a.Over (isValueChar · = true)) {e : Char} (he : endsName e = true) (r : Text) :
    readMark? ('<' :: (n ++ (writeAttributes as ++ e :: r))) =
      (endOfTag? false (e :: r)).map (.opening n, ·) := by
  obtain ⟨c, t, hc, ht⟩ := endsName_attributes as he r
  have hslash : ∀ t u, n ++ t ≠ '/' :: u := by
    have hne : ∀ n ∈ tagNames, n ≠ [] := by decide
    obtain ⟨d, m, rfl⟩ := List.exists_cons_of_ne_nil (hne n hn)
    rintro t u h
    obtain ⟨rfl, _⟩ := List.cons.inj h
    exact absurd (List.all_eq_true.mp (alphanum_of_mem_tagNames hn) '/' List.mem_cons_self) (by decide)
  have hread : readMark? ('<' :: (n ++ c :: t)) = (readNamed? (n ++ c :: t)).map fun p => (.opening p.1, p.2) := by
    unfold readMark?
    split
    · next he => exact absurd (List.cons.inj he).2 (hslash _ _)
    · next he =>
      obtain ⟨_, rfl⟩ := List.cons.inj he
      rfl
    · next h => exact absurd rfl (h _)
  rw [ht, hread, readNamed?_name hn hc, ← ht, endOfTag?_attributes has, Option.map_map]
  rfl

theorem readMark?_closing {n : Text} (hn : n ∈ tagNames) (r : Text) :
    readMark? ('<' :: '/' :: (n ++ '>' :: r)) = some (.closing n, r) := by
  rw [readMark?, readNamed?_name hn (by decide)]
  rfl

/-- Markup with quoted values is read as it was written. -/
theorem ReadsAs.markup {m : Markup} (hm : m.Uses tagNames (isValueChar · = true)) {s : Text} {ms : List TagMark}
    (h : ReadsAs s ms) : ReadsAs (m.write ++ s) (m.mark?.toList ++ ms) := by
  cases m with
  | verbatim t => exact h.text hm
  | opening n as =>
    rw [write_opening_append]
    exact h.tag (readMark?_opening hm.1 hm.2 (by decide) s)
  | standalone n as =>
    rw [write_standalone_append]
    exact h.tag (readMark?_opening hm.1 hm.2 (by decide) _)
  | closing n =>
    rw [write_closing_append]
    exact h.tag (readMark?_closing hm s)

theorem readsAs_writeAll {ms : List Markup} (h : ∀ m ∈ ms, m.Uses tagNames (isValueChar · = true)) :
    ReadsAs (writeAll ms) (marks ms) := by
  induction ms with
  | nil => exact readsAs_nil
  | cons m ms ih =>
    rw [List.forall_mem_cons] at h
    have hm := (ih h.2).markup h.1
    cases hmark : m.mark? with
    | none =>
      rw [hmark] at hm
      rw [marks, List.filterMap_cons_none hmark]
      exact hm
    | some mark =>
      rw [hmark] at hm
      rw [marks, List.filterMap_cons_some hmark]
      exact hm

/-- Markup is well-formed HTML exactly when its tags are nested well. -/
theorem wellFormed_writeAll {ms : List Markup} (h : ∀ m ∈ ms, m.Uses tagNames (isValueChar · = true)) :
    WellFormed (writeAll ms) ↔ matched [] (marks ms) = true := by
  obtain ⟨hmarks, hplain⟩ := readsAs_writeAll h
  rw [← hmarks]
  exact ⟨WellFormed.matched, fun hm => ⟨hplain, hm⟩⟩

end Read

/-- Text that is written as it stands is over the class of characters, so it has no `<` where the class has none. -/
theorem AllUse.forall_uses {A : Char → Prop} {opens : List Text} (hA : ¬ A '<') {ms : List Markup}
    (h : AllUse opens A ms) : ∀ m ∈ ms, m.Uses opens A := by
  induction h with
  | nil => exact fun m hm => absurd hm List.not_mem_nil
  | cons hm _ ih => exact List.forall_mem_cons.mpr ⟨hm, ih⟩
  | raw ht hn _ ih =>
    exact List.forall_mem_cons.mpr ⟨fun hc => hA (ht '<' hc), List.forall_mem_cons.mpr ⟨hn, ih⟩⟩

end Markweave.Html
