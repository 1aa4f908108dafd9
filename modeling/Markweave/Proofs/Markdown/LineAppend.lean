import Mathlib.Data.List.TakeDrop
import Mathlib.Data.List.TakeWhile
import Markweave.Markdown.BlockReader
import Markweave.Proofs.Text.Cut

namespace Markweave.Markdown

variable {s w : Text}

/-- A find, and a rest with more text behind. -/
def restAppend {α : Type} (w : Text) (found : α × Text) : α × Text := (found.1, found.2 ++ w)

/-- The same place with more text behind. -/
def Cursor.append (c : Cursor) (w : Text) : Cursor := { c with rest := c.rest ++ w }

/-- With more text behind the same is found, and the rest is a rest of the text that has a property. -/
structure Finds {α : Type} (P : Text → Prop) (s w : Text) (found longer : Option (α × Text)) : Prop where
  longer_eq : longer = found.map (restAppend w)
  rest : ∀ a r, found = some (a, r) → r <:+ s ∧ P r

namespace Finds

variable {α β : Type} {P : Text → Prop} {found longer : Option (α × Text)}

theorem none : Finds (α := α) P s w none none := ⟨rfl, fun _ _ h => by cases h⟩

theorem some {r : Text} (a : α) (hr : r <:+ s) (hP : P r) : Finds P s w (some (a, r)) (some (a, r ++ w)) := by
  refine ⟨rfl, ?_⟩
  intro b r' h
  obtain ⟨rfl, rfl⟩ := Prod.mk.inj (Option.some.inj h)
  exact ⟨hr, hP⟩

theorem map (h : Finds P s w found longer) (f : α → β) (x : Text) :
    Finds P (x ++ s) w (found.map fun (a, rest) => (f a, rest)) (longer.map fun (a, rest) => (f a, rest)) := by
  refine ⟨?_, ?_⟩
  · rw [h.longer_eq, Option.map_map, Option.map_map]
    rfl
  · intro b r hr
    obtain ⟨⟨a, r'⟩, hfound, heq⟩ := Option.map_eq_some_iff.mp hr
    obtain ⟨rfl, rfl⟩ := Prod.mk.inj heq
    obtain ⟨hsuffix, hP⟩ := h.rest a r' hfound
    exact ⟨hsuffix.trans (List.suffix_append x s), hP⟩

theorem mono {Q : Text → Prop} (h : Finds P s w found longer) (hPQ : ∀ r, P r → Q r) : Finds Q s w found longer :=
  ⟨h.longer_eq, fun a r hr => ⟨(h.rest a r hr).1, hPQ r (h.rest a r hr).2⟩⟩

theorem suffix {t : Text} (h : Finds P s w found longer) (hs : s <:+ t) : Finds P t w found longer :=
  ⟨h.longer_eq, fun a r hr => ⟨(h.rest a r hr).1.trans hs, (h.rest a r hr).2⟩⟩

theorem filter (h : Finds P s w found longer) (p : α → Bool) :
    Finds P s w (found.filter fun (a, _) => p a) (longer.filter fun (a, _) => p a) := by
  refine ⟨?_, fun a r hr => h.rest a r (Option.filter_eq_some_iff.mp hr).1⟩
  rw [h.longer_eq]
  cases found with
  | none => rfl
  | some find =>
    simp only [Option.map_some, restAppend, Option.filter_some]
    split <;> rfl

end Finds

section Line

theorem dropWhile_append_of_newline {p : Char → Bool} (hp : p '\n' = false) (h : '\n' ∈ s) (w : Text) :
    (s ++ w).dropWhile p = s.dropWhile p ++ w := by
  have hne : s.dropWhile p ≠ [] := by
    intro hnil
    have hall := List.dropWhile_eq_nil_iff.mp hnil '\n' h
    rw [hp] at hall
    cases hall
  rw [List.dropWhile_append, if_neg (by simpa using hne)]

theorem newline_mem_dropWhile {p : Char → Bool} (hp : p '\n' = false) (h : '\n' ∈ s) : '\n' ∈ s.dropWhile p := by
  rw [← List.takeWhile_append_dropWhile (p := p) (l := s), List.mem_append] at h
  rcases h with h | h
  · rw [List.mem_takeWhile_imp h] at hp
    cases hp
  · exact h

theorem takeWhile_append_of_newline {p : Char → Bool} (hp : p '\n' = false) (h : '\n' ∈ s) (w : Text) :
    (s ++ w).takeWhile p = s.takeWhile p := by
  obtain ⟨a, b, rfl⟩ := List.append_of_mem h
  induction a with
  | nil => simp [hp]
  | cons c a ih =>
    simp only [List.cons_append, List.takeWhile_cons]
    rw [ih (by simp)]

theorem dropLineEnd?_append (h : '\n' ∈ s) (w : Text) :
    dropLineEnd? (s ++ w) = (dropLineEnd? s).map (· ++ w) := by
  match s with
  | '\r' :: '\n' :: s => rfl
  | ['\r'] => exact absurd h (by decide)
  | c :: d :: s =>
    by_cases hreturn : c = '\r' ∧ d = '\n'
    · obtain ⟨rfl, rfl⟩ := hreturn
      rfl
    · have hcons : ∀ t, dropLineEnd? (c :: d :: t) = if isLineEnd c then some (d :: t) else none := by
        intro t
        rw [dropLineEnd?]
        rintro t' rfl he
        exact hreturn ⟨rfl, (List.cons.inj he).1⟩
      rw [List.cons_append, List.cons_append, hcons, hcons]
      split <;> rfl
  | [c] =>
    obtain rfl := List.mem_singleton.mp h
    rfl

theorem dropBlankLine?_append (h : '\n' ∈ s) (w : Text) :
    dropBlankLine? (s ++ w) = (dropBlankLine? s).map (· ++ w) := by
  rw [dropBlankLine?, dropWhile_append_of_newline rfl h, dropLineEnd?_append (newline_mem_dropWhile rfl h)]
  rfl

theorem isBlank_append (h : '\n' ∈ s) (w : Text) : isBlank (s ++ w) = isBlank s := by
  rw [isBlank, dropBlankLine?_append h, Option.isSome_map]
  rfl

theorem head?_append (h : '\n' ∈ s) (w : Text) : (s ++ w).head? = s.head? := by
  obtain ⟨c, r, rfl⟩ := List.exists_cons_of_ne_nil (List.ne_nil_of_mem h)
  rfl

theorem atLineEnd_append (h : '\n' ∈ s) (w : Text) : atLineEnd (s ++ w) = atLineEnd s := by
  rw [atLineEnd, head?_append h]
  rfl

theorem cutLine_append (h : '\n' ∈ s) (w : Text) :
    cutLine (s ++ w) = ((cutLine s).1, (cutLine s).2.1, (cutLine s).2.2 ++ w) := by
  have hp : (!isLineEnd '\n') = false := rfl
  have hmem := newline_mem_dropWhile (p := (!isLineEnd ·)) hp h
  rw [cutLine, cutLine, List.span_eq_takeWhile_dropWhile, List.span_eq_takeWhile_dropWhile,
    takeWhile_append_of_newline hp h, dropWhile_append_of_newline hp h]
  dsimp only
  generalize s.dropWhile (!isLineEnd ·) = rest at hmem ⊢
  match rest with
  | '\r' :: '\n' :: r => rfl
  | ['\r'] => exact absurd hmem (by decide)
  | c :: d :: r =>
    by_cases hreturn : c = '\r' ∧ d = '\n'
    · obtain ⟨rfl, rfl⟩ := hreturn
      rfl
    · rw [not_and] at hreturn
      by_cases hc : c = '\r'
      · subst hc
        simp [hreturn rfl]
      · simp [hc]
  | [c] =>
    obtain rfl := List.mem_singleton.mp hmem
    rfl

theorem cutFullLine_append (h : '\n' ∈ s) (w : Text) :
    cutFullLine (s ++ w) = restAppend w (cutFullLine s) := by
  have hmem := newline_mem_dropWhile (p := (· != '\n')) rfl h
  rw [cutFullLine, cutFullLine, List.span_eq_takeWhile_dropWhile, List.span_eq_takeWhile_dropWhile,
    takeWhile_append_of_newline (p := (· != '\n')) rfl h, dropWhile_append_of_newline (p := (· != '\n')) rfl h]
  dsimp only
  obtain ⟨c, r, he⟩ := List.exists_cons_of_ne_nil (List.ne_nil_of_mem hmem)
  rw [he]
  rfl

end Line

/-- The second place is reached without leaving the line. -/
def SameLine (s t : Text) : Prop := ∃ u, s = u ++ t ∧ ∀ c ∈ u, isLineEnd c = false

namespace SameLine

variable {t : Text}

theorem refl (s : Text) : SameLine s s := ⟨[], rfl, fun _ h => absurd h List.not_mem_nil⟩

theorem trans {r : Text} (h : SameLine s t) (h' : SameLine t r) : SameLine s r := by
  obtain ⟨u, rfl, hu⟩ := h
  obtain ⟨v, rfl, hv⟩ := h'
  refine ⟨u ++ v, by simp, ?_⟩
  intro c hc
  exact (List.mem_append.mp hc).elim (hu c) (hv c)

theorem tail {c : Char} (hc : isLineEnd c = false) (s : Text) : SameLine (c :: s) s :=
  ⟨[c], rfl, by simpa using hc⟩

theorem dropWhile {p : Char → Bool} (hp : ∀ c, p c = true → isLineEnd c = false) (s : Text) :
    SameLine s (s.dropWhile p) :=
  ⟨s.takeWhile p, List.takeWhile_append_dropWhile.symm, fun c hc => hp c (List.mem_takeWhile_imp hc)⟩

theorem newline_mem (h : SameLine s t) (hs : '\n' ∈ s) : '\n' ∈ t := by
  obtain ⟨u, rfl, hu⟩ := h
  rcases List.mem_append.mp hs with hs | hs
  · exact absurd (hu '\n' hs) (by decide)
  · exact hs

/-- What is below the line. -/
theorem cutLine_eq (h : SameLine s t) : (cutLine s).2 = (cutLine t).2 := by
  obtain ⟨u, rfl, hu⟩ := h
  have hall : ∀ c ∈ u, (!isLineEnd c) = true := fun c hc => by simp [hu c hc]
  rw [cutLine, cutLine, List.span_eq_takeWhile_dropWhile, List.span_eq_takeWhile_dropWhile,
    List.dropWhile_append_of_pos hall]
  dsimp only
  split <;> rfl

end SameLine

/-- Indentation and the marks of quotes. -/
def isMargin (c : Char) : Bool := c == ' ' || c == '\t' || c == '>'

/-- The second place is reached over a margin. -/
def BehindMargin (s t : Text) : Prop := ∃ u, s = u ++ t ∧ ∀ c ∈ u, isMargin c = true

namespace BehindMargin

variable {t : Text}

theorem refl (s : Text) : BehindMargin s s := ⟨[], rfl, fun _ h => absurd h List.not_mem_nil⟩

theorem trans {r : Text} (h : BehindMargin s t) (h' : BehindMargin t r) : BehindMargin s r := by
  obtain ⟨u, rfl, hu⟩ := h
  obtain ⟨v, rfl, hv⟩ := h'
  exact ⟨u ++ v, by simp, List.forall_mem_append.mpr ⟨hu, hv⟩⟩

theorem tail {c : Char} (hc : isMargin c = true) (s : Text) : BehindMargin (c :: s) s := ⟨[c], rfl, by simpa using hc⟩

theorem sameLine (h : BehindMargin s t) : SameLine s t := by
  obtain ⟨u, rfl, hu⟩ := h
  refine ⟨u, rfl, ?_⟩
  intro c hc
  have hmargin := hu c hc
  simp only [isMargin, Bool.or_eq_true, beq_iff_eq] at hmargin
  rcases hmargin with (rfl | rfl) | rfl <;> rfl

end BehindMargin

theorem isLineEnd_of_isInlineBlank {c : Char} (h : isInlineBlank c = true) : isLineEnd c = false := by
  simp only [isInlineBlank, Bool.or_eq_true, beq_iff_eq] at h
  rcases h with ((rfl | rfl) | rfl) | rfl <;> rfl

theorem below_of_dropLineEnd? {below : Text} (hne : s ≠ []) (hd : dropLineEnd? s = some below) :
    (cutLine s).2.2 = below := by
  have hend : ∀ c t, isLineEnd c = true → (c :: t).span (!isLineEnd ·) = ([], c :: t) := by
    intro c t hc
    rw [List.span_eq_takeWhile_dropWhile, List.takeWhile_cons, List.dropWhile_cons, if_neg (by simp [hc]),
      if_neg (by simp [hc])]
  fun_cases dropLineEnd? s with
  | case1 => exact absurd rfl hne
  | case2 s =>
    rw [dropLineEnd?] at hd
    rw [cutLine, hend _ _ rfl]
    exact Option.some.inj hd
  | case3 c s hreturn hc =>
    rw [dropLineEnd?, if_pos hc] at hd
    · rw [cutLine, hend _ _ hc]
      dsimp only
      split
      · next he =>
        obtain ⟨rfl, rfl⟩ := List.cons.inj he
        exact absurd rfl (hreturn _ rfl)
      · next he =>
        obtain ⟨rfl, rfl⟩ := List.cons.inj he
        exact Option.some.inj hd
      · next he => cases he
    · exact hreturn
  | case4 c s hreturn hc =>
    rw [dropLineEnd?, if_neg hc] at hd
    · cases hd
    · exact hreturn

/-- A blank rest of a line is dropped with the line. -/
theorem below_of_dropBlankLine? {below : Text} (h : '\n' ∈ s) (hd : dropBlankLine? s = some below) :
    (cutLine s).2.2 = below := by
  have hline := SameLine.dropWhile (fun _ => isLineEnd_of_isInlineBlank) s
  rw [hline.cutLine_eq]
  exact below_of_dropLineEnd? (List.ne_nil_of_mem (hline.newline_mem h)) hd

theorem SameLine.suffix {t : Text} (h : SameLine s t) : t <:+ s := by
  obtain ⟨u, rfl, _⟩ := h
  exact List.suffix_append u t

theorem cutLine_suffix (s : Text) : (cutLine s).2.2 <:+ s := by
  have hdrop := List.dropWhile_suffix (l := s) (!isLineEnd ·)
  rw [cutLine, List.span_eq_takeWhile_dropWhile]
  dsimp only
  split
  · next he =>
    rw [he] at hdrop
    exact .trans ⟨['\r', '\n'], rfl⟩ hdrop
  · next he =>
    rw [he] at hdrop
    exact .trans ⟨[_], rfl⟩ hdrop
  · exact List.nil_suffix

theorem suffix_of_dropLineEnd? {c : Char} {t below : Text} (h : dropLineEnd? (c :: t) = some below) :
    below <:+ t := by
  rw [dropLineEnd?.eq_def] at h
  split at h
  · next he => cases he
  · next he =>
    obtain ⟨rfl, rfl⟩ := List.cons.inj he
    obtain rfl := Option.some.inj h
    exact ⟨['\n'], rfl⟩
  · next he =>
    obtain ⟨rfl, rfl⟩ := List.cons.inj he
    split at h
    · obtain rfl := Option.some.inj h
      exact List.suffix_refl _
    · cases h

/-- What is left of a text from the beginning of a line on. -/
def StartsLine (s r : Text) : Prop := r = [] ∨ ∃ p c, s = p ++ c :: r ∧ isLineEnd c = true

theorem StartsLine.of_suffix {t r : Text} (h : StartsLine t r) (ht : t <:+ s) : StartsLine s r := by
  obtain ⟨x, rfl⟩ := ht
  rcases h with hnil | ⟨p, c, rfl, hc⟩
  · exact .inl hnil
  · exact .inr ⟨x ++ p, c, by simp, hc⟩

theorem startsLine_cutLine (s : Text) : StartsLine s (cutLine s).2.2 := by
  have hsplit := List.takeWhile_append_dropWhile (p := (!isLineEnd ·)) (l := s)
  have hhead := List.head?_dropWhile_not (!isLineEnd ·) s
  rw [cutLine, List.span_eq_takeWhile_dropWhile]
  dsimp only
  split
  · next he =>
    rw [he] at hsplit
    exact .inr ⟨s.takeWhile (!isLineEnd ·) ++ ['\r'], '\n', by simpa using hsplit.symm, rfl⟩
  · next c r _ he =>
    rw [he] at hsplit hhead
    exact .inr ⟨s.takeWhile (!isLineEnd ·), c, hsplit.symm, by simpa using hhead⟩
  · exact .inl rfl

theorem startsLine_cutFullLine (s : Text) : StartsLine s (cutFullLine s).2 := by
  have hsplit := List.takeWhile_append_dropWhile (p := (· != '\n')) (l := s)
  have hhead := List.head?_dropWhile_not (· != '\n') s
  rw [cutFullLine, List.span_eq_takeWhile_dropWhile]
  dsimp only
  split
  · next c r he =>
    rw [he] at hsplit hhead
    have hc : c = '\n' := by simpa using hhead
    exact .inr ⟨s.takeWhile (· != '\n'), c, hsplit.symm, by rw [hc]; rfl⟩
  · exact .inl rfl

theorem startsLine_of_dropLineEnd? {r : Text} (h : dropLineEnd? s = some r) : StartsLine s r := by
  cases s with
  | nil =>
    obtain rfl := Option.some.inj h
    exact .inl rfl
  | cons c t =>
    rw [← below_of_dropLineEnd? (List.cons_ne_nil c t) h]
    exact startsLine_cutLine _

theorem startsLine_of_dropBlankLine? {r : Text} (h : dropBlankLine? s = some r) : StartsLine s r :=
  (startsLine_of_dropLineEnd? h).of_suffix (List.dropWhile_suffix _)

namespace Cursor

variable {c : Cursor}

theorem skipFrom_append (n : Nat) (h : '\n' ∈ s) (column pending : Nat) (w : Text) :
    skipFrom n (s ++ w) column pending =
      ((skipFrom n s column pending).1, (skipFrom n s column pending).2.append w) := by
  fun_induction skipFrom n s column pending with
  | case1 n s column pending ih => exact ih (by simpa using h)
  | case2 n s column pending width used ih => exact ih (by simpa using h)
  | case3 n s column pending hspace htab =>
    obtain ⟨c, s, rfl⟩ := List.exists_cons_of_ne_nil (List.ne_nil_of_mem h)
    rw [List.cons_append, skipFrom]
    · rfl
    · rintro m t rfl he
      obtain ⟨rfl, _⟩ := List.cons.inj he
      exact hspace m s rfl rfl
    · rintro m t rfl he
      obtain ⟨rfl, _⟩ := List.cons.inj he
      exact htab m s rfl rfl

theorem behindMargin_skipFrom (n : Nat) (s : Text) (column pending : Nat) :
    BehindMargin s (skipFrom n s column pending).2.rest := by
  fun_induction skipFrom n s column pending with
  | case1 n s column pending ih => exact (BehindMargin.tail rfl s).trans ih
  | case2 n s column pending width used ih => exact (BehindMargin.tail rfl s).trans ih
  | case3 n s column pending => exact .refl s

theorem behindMargin_skip (c : Cursor) (n : Nat) : BehindMargin c.rest (c.skip n).2.rest :=
  behindMargin_skipFrom _ _ _ _

theorem sameLine_skip (c : Cursor) (n : Nat) : SameLine c.rest (c.skip n).2.rest := (c.behindMargin_skip n).sameLine

/-- Skipping gets as far with more text behind, and not over the end of the line. -/
theorem exists_skip (h : '\n' ∈ c.rest) (n : Nat) (w : Text) : ∃ missing place, c.skip n = (missing, place) ∧
    (c.append w).skip n = (missing, place.append w) ∧ SameLine c.rest place.rest :=
  ⟨_, _, rfl, skipFrom_append _ h _ _ w, c.sameLine_skip n⟩

theorem skipAll_append (h : '\n' ∈ c.rest) (w : Text) : (c.append w).skipAll = c.skipAll.append w := by
  have hdrop := dropWhile_append_of_newline (p := fun x => x == ' ' || x == '\t') rfl h w
  have hlength := (List.dropWhile_suffix (l := c.rest) fun x => x == ' ' || x == '\t').length_le
  simp only [skipAll, append, hdrop, List.length_append, mk.injEq, true_and, and_true]
  omega

theorem advance_append {n : Nat} (h : n ≤ c.rest.length) (w : Text) :
    (c.append w).advance n = (c.advance n).append w := by
  simp only [advance, append, List.drop_append_of_le_length h]

end Cursor

namespace Frame

variable {c inside : Cursor} {f : Frame}

theorem behindMargin_quoteMark? (h : quoteMark? c = some inside) : BehindMargin c.rest inside.rest := by
  have hmargin := Cursor.behindMargin_skip c 3
  rw [quoteMark?] at h
  split at h
  next place hskip =>
    rw [hskip] at hmargin
    split at h
    · next rest hrest =>
      obtain rfl := Option.some.inj h
      have hbehind : (place.advance 1).rest = rest := by rw [Cursor.advance, hrest, List.drop_one, List.tail_cons]
      have hmore := Cursor.behindMargin_skip (place.advance 1) 1
      rw [hbehind] at hmore
      rw [hrest] at hmargin
      exact (hmargin.trans (.tail rfl rest)).trans hmore
    · cases h

theorem sameLine_quoteMark? (h : quoteMark? c = some inside) : SameLine c.rest inside.rest :=
  (behindMargin_quoteMark? h).sameLine

theorem behindMargin_enter? (h : f.enter? c = some inside) : BehindMargin c.rest inside.rest := by
  cases f with
  | quote blocks => exact behindMargin_quoteMark? h
  | list l =>
    rw [enter?] at h
    split at h
    · obtain rfl := Option.some.inj h
      exact .refl _
    · next item _ =>
      have hmargin := Cursor.behindMargin_skip c item.indent
      split at h
      · next hskip =>
        rw [hskip] at hmargin
        obtain rfl := Option.some.inj h
        exact hmargin
      · next hskip =>
        rw [hskip] at hmargin
        split at h
        · obtain rfl := Option.some.inj h
          exact hmargin
        · cases h

theorem behindMargin_enterAll (c : Cursor) (fs : List Frame) : BehindMargin c.rest (enterAll c fs).2.rest := by
  induction fs generalizing c with
  | nil => exact .refl _
  | cons f fs ih =>
    rw [enterAll]
    cases he : f.enter? c with
    | none => exact .refl _
    | some inside => exact (behindMargin_enter? he).trans (ih inside)

theorem quoteMark?_append (h : '\n' ∈ c.rest) (w : Text) :
    quoteMark? (c.append w) = (quoteMark? c).map (·.append w) := by
  obtain ⟨missing, ⟨rest, column, pending⟩, hskip, happend, hline⟩ := Cursor.exists_skip h 3 w
  have hmem := hline.newline_mem h
  rw [quoteMark?, quoteMark?, hskip, happend]
  match rest with
  | [] => exact absurd hmem List.not_mem_nil
  | d :: rest =>
    by_cases hd : d = '>'
    · subst hd
      have hrest : '\n' ∈ rest := by simpa using hmem
      obtain ⟨_, _, hnext, hbehind, _⟩ := Cursor.exists_skip (c := ⟨rest, column + 1, pending⟩) hrest 1 w
      have hone : (Cursor.advance ⟨'>' :: rest, column, pending⟩ 1).skip 1 = _ := hnext
      have hone' : ((Cursor.append ⟨'>' :: rest, column, pending⟩ w).advance 1).skip 1 = _ := hbehind
      simp only [Cursor.append, List.cons_append] at hone' ⊢
      rw [hone, hone']
      rfl
    · simp [Cursor.append, hd]

theorem enter?_append (h : '\n' ∈ c.rest) (f : Frame) (w : Text) :
    enter? (c.append w) f = (enter? c f).map (·.append w) := by
  cases f with
  | quote blocks => exact quoteMark?_append h w
  | list l =>
    rw [enter?, enter?]
    cases l.item with
    | none => rfl
    | some item =>
      obtain ⟨missing, place, hskip, happend, hline⟩ := Cursor.exists_skip h item.indent w
      have hend : atLineEnd (place.append w).rest = atLineEnd place.rest := atLineEnd_append (hline.newline_mem h) w
      dsimp only
      rw [hskip, happend]
      cases missing with
      | zero => rfl
      | succ n =>
        simp only [hend]
        split <;> rfl

theorem enterAll_append (h : '\n' ∈ c.rest) (fs : List Frame) (w : Text) :
    enterAll (c.append w) fs = ((enterAll c fs).1, (enterAll c fs).2.append w) := by
  induction fs generalizing c with
  | nil => rfl
  | cons f fs ih =>
    rw [enterAll, enterAll, enter?_append h]
    cases he : f.enter? c with
    | none => rfl
    | some inside =>
      simp only [Option.map_some, ih ((behindMargin_enter? he).sameLine.newline_mem h)]

end Frame

namespace Outline

theorem behindMargin_enter (o : Outline) (s : Text) : BehindMargin s (o.enter s).2.rest :=
  Frame.behindMargin_enterAll (.start s) _

theorem sameLine_enter (o : Outline) (s : Text) : SameLine s (o.enter s).2.rest := (o.behindMargin_enter s).sameLine

theorem exists_enter (h : '\n' ∈ s) (o : Outline) (w : Text) : ∃ n inside, o.enter s = (n, inside) ∧
    o.enter (s ++ w) = (n, inside.append w) ∧ SameLine s inside.rest :=
  ⟨_, _, rfl, Frame.enterAll_append (c := .start s) h o.frames.reverse w, o.sameLine_enter s⟩

theorem enterAll?_append (h : '\n' ∈ s) (o : Outline) (w : Text) :
    o.enterAll? (s ++ w) = (o.enterAll? s).map (·.append w) ∧
      ∀ inside, o.enterAll? s = some inside → SameLine s inside.rest := by
  obtain ⟨n, inside, henter, happend, hline⟩ := exists_enter h o w
  rw [enterAll?, enterAll?, henter, happend]
  dsimp only
  split
  · simpa using hline
  · simp

end Outline

namespace Marker

theorem runLength_append {c : Char} (hc : c ≠ '\n') (h : '\n' ∈ s) (w : Text) :
    runLength c (s ++ w) = runLength c s := by
  rw [runLength, runLength, takeWhile_append_of_newline (by simpa using hc.symm) h]

theorem drop_takeWhile_length (p : Char → Bool) (s : Text) : s.drop (s.takeWhile p).length = s.dropWhile p := by
  have hsplit := List.takeWhile_append_dropWhile (p := p) (l := s)
  calc s.drop (s.takeWhile p).length
    _ = (s.takeWhile p ++ s.dropWhile p).drop (s.takeWhile p).length := by rw [hsplit]
    _ = s.dropWhile p := List.drop_left

theorem thematicBreak?_append (h : '\n' ∈ s) (w : Text) :
    thematicBreak? (s ++ w) = (thematicBreak? s).map (· ++ w) := by
  rw [thematicBreak?, thematicBreak?, head?_append h, cutLine_append h]
  split
  · rfl
  · dsimp only
    split <;> rfl

theorem drop_runLength (c : Char) (s : Text) : s.drop (runLength c s) = s.dropWhile (· == c) :=
  drop_takeWhile_length _ s

theorem headingLevel?_append (h : '\n' ∈ s) (w : Text) : headingLevel? (s ++ w) = headingLevel? s := by
  have hmem := newline_mem_dropWhile (p := (· == '#')) rfl h
  have hrun := runLength_append (c := '#') (by decide) h w
  have hdrop := drop_runLength '#' (s ++ w)
  rw [dropWhile_append_of_newline rfl h, hrun] at hdrop
  rw [headingLevel?, headingLevel?, hrun, hdrop, drop_runLength, head?_append hmem]

theorem underline?_append (h : '\n' ∈ s) (w : Text) : underline? (s ++ w) = (underline? s).map (restAppend w) := by
  obtain ⟨c, s, rfl⟩ := List.exists_cons_of_ne_nil (List.ne_nil_of_mem h)
  have hmark : ∀ (d : Char) (level : HeadingLevel), d ≠ '\n' →
      (dropBlankLine? ((c :: (s ++ w)).dropWhile (· == d))).map (level, ·) =
        ((dropBlankLine? ((c :: s).dropWhile (· == d))).map (level, ·)).map (restAppend w) := by
    intro d level hd
    have hp : ('\n' == d) = false := by simpa using hd.symm
    rw [← List.cons_append, dropWhile_append_of_newline (p := (· == d)) hp h,
      dropBlankLine?_append (newline_mem_dropWhile (p := (· == d)) hp h), Option.map_map, Option.map_map]
    rfl
  rw [List.cons_append, underline?.eq_def, underline?.eq_def]
  by_cases hequals : c = '='
  · subst hequals
    exact hmark '=' .h1 (by decide)
  · by_cases hdash : c = '-'
    · subst hdash
      exact hmark '-' .h2 (by decide)
    · simp [hequals, hdash]

theorem fence?_append (h : '\n' ∈ s) (w : Text) : fence? (s ++ w) = (fence? s).map (restAppend w) := by
  obtain ⟨mark, s, rfl⟩ := List.exists_cons_of_ne_nil (List.ne_nil_of_mem h)
  by_cases hmark : mark = '\n'
  · subst hmark
    simp [fence?]
  · have hrun := runLength_append hmark h w
    have hdrop := drop_runLength mark (mark :: s ++ w)
    have hmem := newline_mem_dropWhile (p := (· == mark)) (by simpa using Ne.symm hmark) h
    rw [dropWhile_append_of_newline (p := (· == mark)) (by simpa using Ne.symm hmark) h, hrun] at hdrop
    have hdrop' := drop_runLength mark (mark :: s)
    rw [List.cons_append] at hrun hdrop ⊢
    have hcut := congrArg Prod.fst (cutFullLine_append hmem w)
    rw [restAppend] at hcut
    rw [fence?, fence?, hrun, hdrop, hdrop', hcut]
    split
    · rfl
    · split
      · rfl
      · split <;> rfl

theorem fenceEnd?_append {f : Fence} (hf : f.mark ≠ '\n') (h : '\n' ∈ s) (w : Text) :
    fenceEnd? f (s ++ w) = (fenceEnd? f s).map (· ++ w) := by
  have hp : ('\n' == f.mark) = false := by simpa using hf.symm
  have hdrop := drop_runLength f.mark (s ++ w)
  have hmem := newline_mem_dropWhile (p := (· == f.mark)) hp h
  rw [dropWhile_append_of_newline (p := (· == f.mark)) hp h, runLength_append hf h] at hdrop
  rw [fenceEnd?, fenceEnd?, runLength_append hf h, hdrop, drop_runLength, dropWhile_append_of_newline rfl hmem,
    dropLineEnd?_append (newline_mem_dropWhile rfl hmem)]
  split <;> rfl

theorem listMark?_append (h : '\n' ∈ s) (w : Text) : listMark? (s ++ w) = listMark? s := by
  have hmem := newline_mem_dropWhile (p := Char.isDigit) rfl h
  have hdrop := drop_takeWhile_length Char.isDigit (s ++ w)
  rw [dropWhile_append_of_newline rfl h, takeWhile_append_of_newline rfl h] at hdrop
  rw [listMark?, listMark?, head?_append h, takeWhile_append_of_newline rfl h]
  dsimp only
  rw [hdrop, drop_takeWhile_length]
  obtain ⟨d, r, he⟩ := List.exists_cons_of_ne_nil (List.ne_nil_of_mem hmem)
  rw [he]
  rfl

theorem sameLine_drop_listMark? {m : ListMark} (hm : listMark? s = some m) : SameLine s (s.drop m.width) := by
  rw [listMark?] at hm
  split at hm
  · cases hm
  · next c hc =>
    obtain ⟨t, rfl⟩ := List.head?_eq_some_iff.mp hc
    split at hm
    · next hbullet =>
      obtain rfl := Option.some.inj hm
      apply SameLine.tail
      simp only [Bool.or_eq_true, beq_iff_eq] at hbullet
      rcases hbullet with (rfl | rfl) | rfl <;> rfl
    · have hsplit := List.takeWhile_append_dropWhile (p := Char.isDigit) (l := c :: t)
      dsimp only at hm
      rw [drop_takeWhile_length] at hm
      split at hm
      · next d r hd =>
        split at hm
        · cases hm
        · split at hm
          · next hdelimiter =>
            obtain rfl := Option.some.inj hm
            have hdrop : (c :: t).drop (((c :: t).takeWhile Char.isDigit).length + 1) = r := by
              rw [← List.drop_drop, drop_takeWhile_length, hd]
              rfl
            dsimp only
            rw [hdrop]
            refine (SameLine.dropWhile (p := Char.isDigit) ?_ (c :: t)).trans ?_
            · intro x hx
              by_contra hend
              rw [Bool.not_eq_false, isLineEnd, Bool.or_eq_true, beq_iff_eq, beq_iff_eq] at hend
              rcases hend with rfl | rfl <;> exact absurd hx (by decide)
            · rw [hd]
              apply SameLine.tail
              simp only [Bool.or_eq_true, beq_iff_eq] at hdelimiter
              rcases hdelimiter with rfl | rfl <;> rfl
          · cases hm
      · cases hm

theorem listItem?_append {c : Cursor} (h : '\n' ∈ c.rest) (w : Text) :
    listItem? (c.append w) = (listItem? c).map (fun (m, indent, place) => (m, indent, place.append w)) ∧
      ∀ m indent place, listItem? c = some (m, indent, place) → SameLine c.rest place.rest := by
  have hmark : listMark? (c.append w).rest = listMark? c.rest := listMark?_append h w
  have hrule : thematicBreak? (c.append w).rest = (thematicBreak? c.rest).map (· ++ w) := thematicBreak?_append h w
  rw [listItem?, listItem?, hmark, hrule]
  cases hm : listMark? c.rest with
  | none => simp
  | some m =>
    have hdrop : SameLine c.rest (c.advance m.width).rest := sameLine_drop_listMark? hm
    have hbehind := hdrop.newline_mem h
    have hwidth : m.width ≤ c.rest.length := by
      by_contra hlong
      rw [Cursor.advance, List.drop_of_length_le (by omega)] at hbehind
      exact absurd hbehind List.not_mem_nil
    obtain ⟨missing, next, hskip, happend, hnext⟩ := Cursor.exists_skip hbehind 1 w
    have hmem := hnext.newline_mem hbehind
    obtain ⟨unused, content, hcontent, hmore, hline⟩ := Cursor.exists_skip hmem 4 w
    have hend : atLineEnd ((c.advance m.width).append w).rest = _ := atLineEnd_append hbehind w
    have hblank : isBlank (next.append w).rest = isBlank next.rest := isBlank_append hmem w
    dsimp only
    rw [Option.isSome_map, Cursor.advance_append hwidth, hskip, happend]
    dsimp only
    rw [hend, hblank, hcontent, hmore]
    dsimp only
    split
    · simp
    · split
      · simp
      · split
        · simpa using hdrop.trans hnext
        · split
          · simpa using hdrop.trans hnext
          · simpa using hdrop.trans (hnext.trans hline)

/-- A box does not go over the end of a line. -/
theorem taskBox?_of_newline {c : Cursor} (h : '\n' ∈ (c.skip 3).2.rest.take 3) : taskBox? c = none := by
  rw [taskBox?]
  split
  next box hskip =>
    rw [hskip] at h
    split
    · next x after rest hbox =>
      rw [hbox] at h
      obtain rfl : '\n' = x := by simpa using h
      split
      · rfl
      · rfl
    · rfl

theorem taskBox?_append {c : Cursor} (h : '\n' ∈ c.rest) (w : Text) :
    taskBox? (c.append w) = (taskBox? c).map (fun (checked, place) => (checked, place.append w)) ∧
      ∀ checked place, taskBox? c = some (checked, place) → SameLine c.rest place.rest := by
  obtain ⟨missing, ⟨rest, column, pending⟩, hskip, happend, hline⟩ := Cursor.exists_skip h 3 w
  have hmem := hline.newline_mem h
  by_cases hshort : '\n' ∈ rest.take 3
  · have hnone : taskBox? c = none := taskBox?_of_newline (by rw [hskip]; exact hshort)
    have hnone' : taskBox? (c.append w) = none := by
      apply taskBox?_of_newline
      rw [happend]
      simp only [Cursor.append, List.take_append, List.mem_append]
      exact .inl hshort
    rw [hnone, hnone']
    simp
  · rw [taskBox?, taskBox?, hskip, happend]
    simp only [Cursor.append]
    match rest with
    | a :: x :: b :: after :: r =>
      by_cases ha : a = '['
      · by_cases hb : b = ']'
        · subst ha hb
          have hplace : isLineEnd x = false → SameLine c.rest (after :: r) := fun hx =>
            hline.trans ((SameLine.tail rfl _).trans ((SameLine.tail hx _).trans (.tail rfl _)))
          simp only [List.cons_append, Cursor.advance, List.drop_succ_cons, List.drop_zero]
          split
          · simp
          · split
            · next hx => simpa using hplace (isLineEnd_of_isInlineBlank hx)
            · split
              · next hx =>
                simp only [Bool.or_eq_true, beq_iff_eq] at hx
                simpa using hplace (by rcases hx with rfl | rfl <;> rfl)
              · simp
        · simp [hb]
      · simp [ha]
    | [_, _, _] | [_, _] | [_] | [] => exact absurd hmem hshort

/-- Whether an item is empty shows on the line below. -/
theorem interruptsAsItem_append (h : '\n' ∈ s) (hbelow : '\n' ∈ (cutLine s).2.2) (anyNumber : Bool) (w : Text) :
    interruptsAsItem anyNumber (s ++ w) = interruptsAsItem anyNumber s := by
  rw [interruptsAsItem, interruptsAsItem, listMark?_append h]
  cases hm : listMark? s with
  | none => rfl
  | some m =>
    have hdrop := sameLine_drop_listMark? hm
    have hmem := hdrop.newline_mem h
    have hwidth : m.width ≤ s.length := by
      by_contra hlong
      rw [List.drop_of_length_le (by omega)] at hmem
      exact absurd hmem List.not_mem_nil
    have hempty : interruptsAsItem.isEmptyItem (listItemRest m s ++ w) =
        interruptsAsItem.isEmptyItem (listItemRest m s) := by
      rw [interruptsAsItem.isEmptyItem, interruptsAsItem.isEmptyItem, listItemRest, dropBlankLine?_append hmem]
      cases hd : dropBlankLine? (s.drop m.width) with
      | none => rfl
      | some below =>
        rw [hdrop.cutLine_eq, below_of_dropBlankLine? hmem hd] at hbelow
        exact isBlank_append hbelow w
    have hrest : listItemRest m (s ++ w) = listItemRest m s ++ w := List.drop_append_of_le_length hwidth
    dsimp only
    rw [hrest, hempty, head?_append (s := listItemRest m s) hmem]

end Marker

namespace RawHtml

theorem opensComment_append (h : '\n' ∈ s) (w : Text) : opensComment (s ++ w) = opensComment s := by
  obtain ⟨a, b, rfl⟩ := List.append_of_mem h
  have hneedle : '\n' ∉ "<!--".toList := by decide
  rw [opensComment, opensComment, Text.startsWith, Text.startsWith, Text.dropStart?_append_wall hneedle,
    List.append_assoc, List.cons_append, Text.dropStart?_append_wall hneedle, Option.isSome_map, Option.isSome_map]

theorem blockStart?_append (h : '\n' ∈ s) (w : Text) : blockStart? (s ++ w) = blockStart? s := by
  rw [blockStart?, blockStart?, opensComment_append h, cutLine_append h]

end RawHtml

namespace Table

theorem dashLine?_append {c : Cursor} (h : '\n' ∈ c.rest) (w : Text) :
    dashLine? (c.append w) = (dashLine? c).map (restAppend w) := by
  obtain ⟨missing, place, hskip, happend, hline⟩ := Cursor.exists_skip h 4 w
  have hcut : cutLine (place.append w).rest = _ := cutLine_append (hline.newline_mem h) w
  rw [dashLine?, dashLine?, hskip, happend]
  cases missing with
  | zero => rfl
  | succ n =>
    have hbind : ∀ below (r : Text), ((alignmentsFrom? .fresh r).bind fun as =>
        if as = [] then none else some (as, below ++ w)) =
          ((alignmentsFrom? .fresh r).bind fun as => if as = [] then none else some (as, below)).map
            (restAppend w) := by
      intro below r
      rw [Option.map_bind]
      congr 1
      funext as
      simp only [Function.comp_apply]
      split <;> rfl
    simp only [hcut]
    split
    · rfl
    · exact hbind _ _
    · exact hbind _ _

end Table
end Markweave.Markdown
