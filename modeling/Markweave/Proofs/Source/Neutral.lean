import Mathlib.Data.Bool.AllAny
import Markweave.Proofs.Html.Reference
import Markweave.Proofs.Text.Cut
import Markweave.Source.BlockComment

namespace Markweave.Source

open Html (ReferenceName opensReference)

def isReferenceChar (c : Char) : Bool := c.isAlphanum || Text.isHexDigit c || c == '#'

/-- What stands between the `&` and the semicolon of a reference, whatever follows. -/
structure IsReference (name : Text) : Prop where
  chars : ∀ c ∈ name, isReferenceChar c = true
  opens : ∀ s, opensReference (name ++ ';' :: s) = true

/-- The close of a comment may take dashes of its opening, and a cut may leave the beginning of an opening at
the end of a line. -/
inductive Neutral : Text → Prop
  | nil : Neutral []
  | char {c : Char} {s : Text} (hc : c ≠ '&' ∧ c ≠ '<' ∧ c ≠ '>') (hs : Neutral s) : Neutral (c :: s)
  | reference {name s : Text} (hname : IsReference name) (hs : Neutral s) :
      Neutral ('&' :: (name ++ ';' :: s))
  | lineBreak {s : Text} (hs : Neutral s) : Neutral ('<' :: 'b' :: 'r' :: '>' :: s)
  | opening {s : Text} (hstart : s.head? = some '-' ∨ s.head? = some '\n') (hs : Neutral s) :
      Neutral ('<' :: '!' :: s)
  | closing {s : Text} (hs : Neutral s) : Neutral ('-' :: '-' :: '-' :: '>' :: s)

theorem IsReference.of_name {name : Text} (h : ReferenceName name) : IsReference name := by
  refine ⟨fun c hc => ?_, h.opensReference⟩
  rcases h.chars c hc with hc | hc | rfl
  · simp [isReferenceChar, hc]
  · simp [isReferenceChar, hc]
  · rfl

theorem eq_append_of_opensReference {s : Text} (h : opensReference s = true) :
    ∃ name rest, s = name ++ ';' :: rest ∧ IsReference name := by
  obtain ⟨name, rest, rfl, hname⟩ := Html.opensReference_iff.mp h
  exact ⟨name, rest, rfl, .of_name hname⟩

namespace IsReference

theorem notMem {name : Text} (h : IsReference name) {c : Char} (hc : isReferenceChar c = false) : c ∉ name := by
  intro hmem
  rw [h.chars c hmem] at hc
  cases hc

/-- Text of references and semicolons without the `&`. -/
theorem plain {name : Text} (h : IsReference name) :
    ∀ c ∈ name ++ [';'], (c ≠ '&' ∧ c ≠ '<' ∧ c ≠ '>') ∧ c ≠ '-' := by
  intro c hc
  have hname : ∀ {d}, isReferenceChar d = false → d ≠ ';' → c ≠ d := by
    rintro d hd hsemi rfl
    rcases List.mem_append.mp hc with hc | hc
    · exact h.notMem hd hc
    · exact hsemi (List.mem_singleton.mp hc)
  exact ⟨⟨hname rfl (by decide), hname rfl (by decide), hname rfl (by decide)⟩, hname rfl (by decide)⟩

end IsReference

namespace Neutral

variable {a s : Text}

theorem append_plain (ha : ∀ c ∈ a, c ≠ '&' ∧ c ≠ '<' ∧ c ≠ '>') (hs : Neutral s) : Neutral (a ++ s) := by
  induction a with
  | nil => exact hs
  | cons c a ih =>
    rw [List.forall_mem_cons] at ha
    exact .char ha.1 (ih ha.2)

/-- A character that begins no delimiter can be taken away; of a reference its `&` can. -/
theorem tail {c : Char} (hc : c ≠ '<' ∧ c ≠ '-') (h : Neutral (c :: s)) : Neutral s := by
  cases h with
  | char _ hs => exact hs
  | @reference name s hname hs =>
    have happ := append_plain (fun c hc => (hname.plain c hc).1) hs
    rw [List.append_assoc] at happ
    exact happ
  | lineBreak _ => exact absurd rfl hc.1
  | opening _ _ => exact absurd rfl hc.1
  | closing _ => exact absurd rfl hc.2

theorem of_append_plain (ha : ∀ c ∈ a, c ≠ '<' ∧ c ≠ '-') (h : Neutral (a ++ s)) : Neutral s := by
  induction a with
  | nil => exact h
  | cons c a ih =>
    rw [List.forall_mem_cons] at ha
    exact ih ha.2 (h.tail ha.1)

/-- A dash that does not begin a close can be taken away. -/
theorem tail_dash (h : Neutral ('-' :: s)) (hs : ∀ r, s ≠ '-' :: '-' :: '>' :: r) : Neutral s := by
  cases h with
  | char _ hs => exact hs
  | closing _ => exact absurd rfl (hs _)

theorem tail_opening (h : Neutral ('<' :: '!' :: s)) : Neutral s := by
  cases h with
  | char hc _ => exact absurd rfl hc.2.1
  | opening _ hs => exact hs

theorem not_gt : ¬ Neutral ('>' :: s) := by
  intro h
  cases h with
  | char hc _ => exact hc.2.2 rfl

theorem tail_closing (h : Neutral ('-' :: '-' :: '-' :: '>' :: s)) : Neutral s := by
  cases h with
  | char _ h =>
    have hdash := h.tail_dash (by simp)
    exact absurd (hdash.tail_dash (by simp)) not_gt
  | closing hs => exact hs

end Neutral

/-- A replacement that keeps a text neutral: what is replaced begins with a plain character or a whole reference,
and neutral text can stand in its place. -/
structure KeepsNeutral (o : Char) (os new : Text) : Prop where
  plain : isReferenceChar o = false
  notMem : o ∉ ";<!>".toList
  skip (s : Text) : Text.replace (o :: os) new (os ++ s) = os ++ Text.replace (o :: os) new s
  close (s : Text) : Text.replace (o :: os) new ('-' :: '-' :: '-' :: '>' :: s) =
    '-' :: '-' :: '-' :: '>' :: Text.replace (o :: os) new s
  head : o = '-' ∨ o = '\n' → new.head? = some o
  neutral {s : Text} (h : Neutral (os ++ s)) : Neutral (new ++ s)

namespace KeepsNeutral

variable {o : Char} {os new s : Text}

theorem head?_replace (hr : KeepsNeutral o os new) {c : Char} (hc : c = '-' ∨ c = '\n') (s : Text) :
    (Text.replace (o :: os) new (c :: s)).head? = some c := by
  have hne : o :: os ≠ [] := List.cons_ne_nil o os
  cases hd : Text.dropStart? (o :: os) (c :: s) with
  | none => rw [Text.replace_cons new hne hd, List.head?_cons]
  | some r =>
    obtain ⟨rfl, _⟩ := List.cons.inj (Text.eq_append_of_dropStart? hd)
    obtain ⟨n, hn⟩ := List.head?_eq_some_iff.mp (hr.head hc)
    rw [Text.replace_of_dropStart? new hne hd, hn, List.cons_append, List.head?_cons]

theorem found (hr : KeepsNeutral o os new) (h : Neutral (Text.replace (o :: os) new (os ++ s))) :
    Neutral (Text.replace (o :: os) new (o :: (os ++ s))) := by
  have hreplace : Text.replace (o :: os) new (o :: (os ++ s)) = _ :=
    Text.replace_of_dropStart? new (List.cons_ne_nil o os) (Text.dropStart?_append (o :: os) s)
  rw [hr.skip] at h
  rw [hreplace]
  exact hr.neutral h

theorem char (hr : KeepsNeutral o os new) {c : Char} (hc : c ≠ '&' ∧ c ≠ '<' ∧ c ≠ '>')
    (ih : Neutral (Text.replace (o :: os) new s)) : Neutral (Text.replace (o :: os) new (c :: s)) := by
  cases hd : Text.dropStart? (o :: os) (c :: s) with
  | none =>
    rw [Text.replace_cons new (List.cons_ne_nil o os) hd]
    exact .char hc ih
  | some r =>
    obtain ⟨rfl, rfl⟩ := List.cons.inj (Text.eq_append_of_dropStart? hd)
    exact hr.found ih

theorem reference (hr : KeepsNeutral o os new) {name : Text} (hname : IsReference name)
    (ih : Neutral (Text.replace (o :: os) new s)) :
    Neutral (Text.replace (o :: os) new ('&' :: (name ++ ';' :: s))) := by
  have hmem : o ∉ name ++ [';'] := by
    rw [List.mem_append, not_or]
    exact ⟨hname.notMem hr.plain, fun h => hr.notMem (by rw [List.mem_singleton.mp h]; decide)⟩
  have hrest : Text.replace (o :: os) new _ = _ := Text.replace_append_of_notMem new hmem s
  cases hd : Text.dropStart? (o :: os) ('&' :: (name ++ ';' :: s)) with
  | none =>
    rw [List.append_assoc, List.append_assoc, List.singleton_append, List.singleton_append] at hrest
    rw [Text.replace_cons new (List.cons_ne_nil o os) hd, hrest]
    exact .reference hname ih
  | some r =>
    -- What is replaced begins with the `&`, so the rest of the reference becomes plain text.
    obtain ⟨rfl, hfound⟩ := List.cons.inj (Text.eq_append_of_dropStart? hd)
    have hplain := Neutral.append_plain (fun c hc => (hname.plain c hc).1) ih
    rw [← hrest, List.append_assoc, List.singleton_append, hfound] at hplain
    rw [hfound]
    exact hr.found hplain

theorem lineBreak (hr : KeepsNeutral o os new) (ih : Neutral (Text.replace (o :: os) new s)) :
    Neutral (Text.replace (o :: os) new ('<' :: 'b' :: 'r' :: '>' :: s)) := by
  have hmem : o ∉ "<br>".toList := by
    intro h
    obtain rfl | rfl | rfl | rfl : o = '<' ∨ o = 'b' ∨ o = 'r' ∨ o = '>' := by simpa using h
    · exact hr.notMem (by decide)
    · exact absurd hr.plain (by decide)
    · exact absurd hr.plain (by decide)
    · exact hr.notMem (by decide)
  have hrest : Text.replace (o :: os) new ('<' :: 'b' :: 'r' :: '>' :: s) = _ :=
    Text.replace_append_of_notMem new hmem s
  rw [hrest]
  exact .lineBreak ih

theorem opening (hr : KeepsNeutral o os new) (hstart : s.head? = some '-' ∨ s.head? = some '\n')
    (ih : Neutral (Text.replace (o :: os) new s)) : Neutral (Text.replace (o :: os) new ('<' :: '!' :: s)) := by
  have hmem : o ∉ "<!".toList := fun h => hr.notMem ((by decide : "<!".toList ⊆ ";<!>".toList) h)
  have hrest : Text.replace (o :: os) new ('<' :: '!' :: s) = _ := Text.replace_append_of_notMem new hmem s
  rw [hrest]
  apply Neutral.opening _ ih
  cases s with
  | nil => simp at hstart
  | cons c s =>
    rw [hr.head?_replace (by simpa using hstart)]
    exact hstart

end KeepsNeutral

theorem Neutral.replace {o : Char} {os new t : Text} (hr : KeepsNeutral o os new) (h : Neutral t) :
    Neutral (Text.replace (o :: os) new t) := by
  induction h with
  | nil =>
    rw [Text.replace_nil]
    exact .nil
  | char hc _ ih => exact hr.char hc ih
  | reference hname _ ih => exact hr.reference hname ih
  | lineBreak _ ih => exact hr.lineBreak ih
  | opening hstart _ ih => exact hr.opening hstart ih
  | closing _ ih =>
    rw [hr.close]
    exact .closing ih

/-- A text cut in two goes through no delimiter, and other text can follow the first part. -/
structure Cuts (a b : Text) : Prop where
  rest : Neutral b
  mend : ∀ t, Neutral t → t.head? = some '-' ∨ t.head? = some '\n' ∨ t.head? = b.head? → Neutral (a ++ t)

namespace Cuts

variable {a b s t : Text} {d : Char}

theorem nil (h : Neutral b) : Cuts [] b := ⟨h, fun _ ht _ => ht⟩

theorem prepend {x : Text} (hx : ∀ t, Neutral t → Neutral (x ++ t)) (h : Cuts a b) : Cuts (x ++ a) b := by
  refine ⟨h.rest, ?_⟩
  intro t ht hstart
  rw [List.append_assoc]
  exact hx _ (h.mend t ht hstart)

theorem opening (hstart : (a ++ b).head? = some '-' ∨ (a ++ b).head? = some '\n') (h : Cuts a b) :
    Cuts ('<' :: '!' :: a) b := by
  refine ⟨h.rest, ?_⟩
  intro t ht ht'
  apply Neutral.opening _ (h.mend t ht ht')
  cases a with
  | nil =>
    rw [List.nil_append] at hstart ⊢
    rcases ht' with ht' | ht' | ht'
    · exact .inl ht'
    · exact .inr ht'
    · rw [ht']
      exact hstart
  | cons c a => exact hstart

/-- A cut goes through no delimiter if it goes through no close and what follows cannot stand inside another. -/
theorem intro (hd : d ∉ "br>!;".toList ∧ isReferenceChar d = false)
    (hclose : ∀ {a s}, a ++ d :: b = "-->" ++ s → ∃ a', a = "-->" ++ a' ∧ s = a' ++ d :: b)
    (h : Neutral (a ++ d :: b)) : Cuts a (d :: b) := by
  have hbreak : d ∉ "br>".toList := fun h => hd.1 ((by decide : "br>".toList ⊆ "br>!;".toList) h)
  have hbang : d ∉ "!".toList := fun h => hd.1 ((by decide : "!".toList ⊆ "br>!;".toList) h)
  have hsemi : d ∉ [';'] := fun h => hd.1 ((by decide : [';'] ⊆ "br>!;".toList) h)
  have hnil : ∀ {a t}, Neutral t → a ++ d :: b = t → a = [] → Cuts a (d :: b) := by
    rintro a t ht rfl rfl
    exact .nil ht
  generalize he : a ++ d :: b = t at h
  induction h generalizing a with
  | nil => simp at he
  | @char c s hc hs ih =>
    cases a with
    | nil => exact hnil (.char hc hs) he rfl
    | cons c' a =>
      obtain ⟨rfl, hs'⟩ := List.cons.inj he
      exact prepend (x := [c']) (fun t ht => .char hc ht) (ih hs')
  | @reference name s hname hs ih =>
    cases a with
    | nil => exact hnil (.reference hname hs) he rfl
    | cons c a =>
      obtain ⟨rfl, hs'⟩ := List.cons.inj he
      have hmem : d ∉ name ++ [';'] := by
        rw [List.mem_append, not_or]
        exact ⟨hname.notMem hd.2, hsemi⟩
      have happ : ∀ t, name ++ ';' :: t = name ++ [';'] ++ t := by simp
      obtain ⟨a', rfl, rfl⟩ := Text.eq_append_of_append_eq hmem (hs'.trans (happ s))
      refine prepend (x := '&' :: (name ++ [';'])) ?_ (ih rfl)
      intro t ht
      rw [List.cons_append, ← happ]
      exact .reference hname ht
  | lineBreak hs ih =>
    cases a with
    | nil => exact hnil (.lineBreak hs) he rfl
    | cons c a =>
      obtain ⟨rfl, hs'⟩ := List.cons.inj he
      obtain ⟨a', rfl, rfl⟩ := Text.eq_append_of_append_eq hbreak hs'
      exact prepend (x := "<br>") (fun t ht => .lineBreak ht) (ih rfl)
  | opening hstart hs ih =>
    cases a with
    | nil => exact hnil (.opening hstart hs) he rfl
    | cons c a =>
      obtain ⟨rfl, hs'⟩ := List.cons.inj he
      obtain ⟨a', rfl, rfl⟩ := Text.eq_append_of_append_eq hbang hs'
      exact opening hstart (ih rfl)
  | closing hs ih =>
    cases a with
    | nil => exact hnil (.closing hs) he rfl
    | cons c a =>
      obtain ⟨rfl, hs'⟩ := List.cons.inj he
      obtain ⟨a', rfl, rfl⟩ := hclose hs'
      exact prepend (x := "--->") (fun t ht => .closing ht) (ih rfl)

/-- A cut before a character that no delimiter goes on with. -/
theorem before (hd : d ∈ "<`\r\n".toList) (h : Neutral (a ++ d :: b)) : Cuts a (d :: b) := by
  have hall : ∀ d ∈ "<`\r\n".toList,
      (d ∉ "br>!;".toList ∧ isReferenceChar d = false) ∧ d ∉ "-->".toList :=
    List.all_iff_forall_prop.mp rfl
  obtain ⟨hplain, hdash⟩ := hall d hd
  exact intro hplain (Text.eq_append_of_append_eq hdash) h

/-- A cut before the close of a comment. -/
theorem beforeClose (h : Neutral (a ++ commentClose ++ b)) : Cuts a (commentClose ++ b) := by
  rw [List.append_assoc] at h
  refine intro (d := '-') (b := '-' :: '-' :: '>' :: b) (by decide) ?_ h
  intro a s he
  change _ = '-' :: '-' :: '>' :: s at he
  match a with
  | [] => simp at he
  | [_] => simp at he
  | [_, _] => simp at he
  | c :: d :: e :: a =>
    simp only [List.cons_append, List.cons.injEq] at he
    obtain ⟨rfl, rfl, rfl, rfl⟩ := he
    exact ⟨a, rfl, rfl⟩

end Cuts
end Markweave.Source
