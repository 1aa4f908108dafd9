import Markweave.Text.Pattern

namespace Markweave.Pattern

variable {α : Type} (p : Pattern α) (write : UInt64 → α → Text)

theorem read?_nil : p.read? [] = none := by
  cases h : p.read? [] with
  | none => rfl
  | some find => exact absurd (p.shorter h) (by simp)

/-- To prove something of all texts, step over finds and over single characters. -/
theorem induction {motive : Text → Prop} (nil : motive [])
    (found : ∀ s a r, p.read? s = some (a, r) → motive r → motive s)
    (skip : ∀ c s, p.read? (c :: s) = none → motive s → motive (c :: s)) (s : Text) : motive s := by
  match s with
  | [] => exact nil
  | c :: s =>
    cases h : p.read? (c :: s) with
    | none => exact skip c s h (induction nil found skip s)
    | some find => exact found (c :: s) find.1 find.2 h (induction nil found skip find.2)
termination_by s.length
decreasing_by
  · simp
  · exact p.shorter h

theorem split_of_read? {s r : Text} {a : α} (h : p.read? s = some (a, r)) :
    p.split s = .found a :: p.split r := by
  cases s with
  | nil => simp [p.read?_nil] at h
  | cons c s =>
    rw [split]
    split <;> simp_all

theorem split_cons {c : Char} {s : Text} (h : p.read? (c :: s) = none) :
    p.split (c :: s) = Piece.consChar c (p.split s) := by
  rw [split]
  split <;> simp_all

/-- A text in which nothing is found is one plain piece. -/
theorem split_of_none {c : Char} {s : Text} (h : ∀ d v, d :: v <:+ c :: s → p.read? (d :: v) = none) :
    p.split (c :: s) = [.plain (c :: s)] := by
  induction s generalizing c with
  | nil =>
    rw [p.split_cons (h c [] (List.suffix_refl _)), split]
    rfl
  | cons d s ih =>
    have hrest : p.split (d :: s) = [.plain (d :: s)] := ih fun e v hv => h e v (hv.trans (List.suffix_cons c _))
    rw [p.split_cons (h c (d :: s) (List.suffix_refl _)), hrest]
    rfl

theorem number_consChar (ids : IdCounter) (c : Char) (ps : List (Piece α)) :
    Piece.number write ids (Piece.consChar c ps) =
      (c :: (Piece.number write ids ps).1, (Piece.number write ids ps).2) := by
  match ps with
  | [] => rfl
  | .plain _ :: _ => rfl
  | .found _ :: _ => rfl

theorem renumber_nil (ids : IdCounter) : p.renumber write ids [] = ([], ids) := by
  rw [renumber, split]
  rfl

theorem renumber_of_read? {s r : Text} {a : α} (ids : IdCounter) (h : p.read? s = some (a, r)) :
    p.renumber write ids s =
      (write ids.next a ++ (p.renumber write ⟨ids.next + 1⟩ r).1,
        (p.renumber write ⟨ids.next + 1⟩ r).2) := by
  rw [renumber, p.split_of_read? h]
  rfl

theorem renumber_cons {c : Char} {s : Text} (ids : IdCounter) (h : p.read? (c :: s) = none) :
    p.renumber write ids (c :: s) =
      (c :: (p.renumber write ids s).1, (p.renumber write ids s).2) := by
  rw [renumber, p.split_cons h, number_consChar]
  rfl

/-- A stretch that no find starts in is copied. -/
theorem renumber_append {t s : Text} (ids : IdCounter)
    (h : ∀ u c v, t = u ++ c :: v → p.read? (c :: v ++ s) = none) :
    p.renumber write ids (t ++ s) =
      (t ++ (p.renumber write ids s).1, (p.renumber write ids s).2) := by
  induction t with
  | nil => rfl
  | cons c t ih =>
    have hc : p.read? (c :: (t ++ s)) = none := h [] c t rfl
    have ht := ih fun u d v he => h (c :: u) d v (by rw [he, List.cons_append])
    rw [List.cons_append, p.renumber_cons write ids hc, ht]
    rfl

/-- A pass puts in no character that it neither reads nor writes. -/
theorem notMem_renumber {d : Char}
    (h : ∀ {s a r}, p.read? s = some (a, r) → d ∉ s → d ∉ r ∧ ∀ id, d ∉ write id a) (ids : IdCounter) {s : Text}
    (hs : d ∉ s) : d ∉ (p.renumber write ids s).1 := by
  induction s using p.induction generalizing ids with
  | nil =>
    rw [p.renumber_nil]
    exact hs
  | found s a r hread ih =>
    obtain ⟨hr, hwrite⟩ := h hread hs
    rw [p.renumber_of_read? write ids hread, List.mem_append, not_or]
    exact ⟨hwrite _, ih _ hr⟩
  | skip c s hread ih =>
    rw [List.mem_cons, not_or] at hs
    rw [p.renumber_cons write ids hread, List.mem_cons, not_or]
    exact ⟨hs.1, ih _ hs.2⟩

end Markweave.Pattern
