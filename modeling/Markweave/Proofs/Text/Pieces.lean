import Mathlib.Data.List.Chain
import Markweave.Proofs.Text.Pattern

namespace Markweave

variable {α : Type}

namespace Piece

def IsPlain : Piece α → Prop
  | plain _ => True
  | found _ => False

/-- The ways to write a piece, when finds can be written in several ways. -/
inductive Spells (spells : α → Text → Prop) : Piece α → Text → Prop
  | plain (t : Text) : Spells spells (.plain t) t
  | found {a : α} {x : Text} (h : spells a x) : Spells spells (.found a) x

end Piece

namespace Pattern

variable (p : Pattern α) {s t r : Text} {a : α}

/-- Nothing is found that begins in the text when the other text follows it. -/
def FreeBefore (t r : Text) : Prop := ∀ u c v, t = u ++ c :: v → p.read? (c :: v ++ r) = none

theorem freeBefore_nil (r : Text) : p.FreeBefore [] r := by
  intro u c v he
  cases u <;> cases he

variable {p} in
theorem FreeBefore.cons {c : Char} (hc : p.read? (c :: t ++ r) = none) (h : p.FreeBefore t r) :
    p.FreeBefore (c :: t) r := by
  intro u d v he
  cases u with
  | nil =>
    obtain ⟨rfl, rfl⟩ := List.cons.inj he
    exact hc
  | cons e u =>
    obtain ⟨_, rfl⟩ := List.cons.inj he
    exact h u d v rfl

theorem split_nil : p.split [] = [] := by
  rw [split]

/-- A text that begins with no find is a plain piece as far as no find begins, and behind it comes a find. -/
theorem exists_stretch {c : Char} (h : p.read? (c :: s) = none) :
    ∃ t r, c :: s = c :: t ++ r ∧ p.FreeBefore (c :: t) r ∧ (∀ q ∈ (p.split r).head?, ¬ q.IsPlain) ∧
      p.split (c :: s) = .plain (c :: t) :: p.split r := by
  induction s generalizing c with
  | nil =>
    have hnil := p.split_nil
    refine ⟨[], [], rfl, (p.freeBefore_nil []).cons h, ?_, ?_⟩
    · rw [hnil]
      exact nofun
    · rw [p.split_cons h, hnil]
      rfl
  | cons d s ih =>
    rw [p.split_cons h]
    cases hd : p.read? (d :: s) with
    | some find =>
      have hfind := p.split_of_read? hd
      refine ⟨[], d :: s, rfl, (p.freeBefore_nil _).cons h, ?_, ?_⟩
      · rw [hfind]
        rintro q ⟨⟩ hplain
        exact hplain
      · rw [hfind]
        rfl
    | none =>
      obtain ⟨t, r, he, hfree, hnext, hsplit⟩ := ih hd
      rw [hsplit]
      refine ⟨d :: t, r, congrArg (c :: ·) he, hfree.cons ?_, hnext, rfl⟩
      rwa [List.cons_append, ← he]

/-- To prove something of the pieces of all texts, step over finds and over whole plain stretches. -/
theorem split_induction {motive : Text → List (Piece α) → Prop} (nil : motive [] [])
    (found : ∀ s a r, p.read? s = some (a, r) → motive r (p.split r) → motive s (.found a :: p.split r))
    (plain : ∀ t r, t ≠ [] → p.FreeBefore t r → (∀ q ∈ (p.split r).head?, ¬ q.IsPlain) → motive r (p.split r) →
      motive (t ++ r) (.plain t :: p.split r)) (s : Text) : motive s (p.split s) := by
  match s with
  | [] =>
    rw [p.split_nil]
    exact nil
  | c :: s =>
    cases h : p.read? (c :: s) with
    | none =>
      obtain ⟨t, r, he, hfree, hnext, hsplit⟩ := p.exists_stretch h
      rw [hsplit, he]
      exact plain (c :: t) r (List.cons_ne_nil c t) hfree hnext (split_induction nil found plain r)
    | some find =>
      rw [p.split_of_read? h]
      exact found (c :: s) find.1 find.2 h (split_induction nil found plain find.2)
termination_by s.length
decreasing_by
  · rw [he, List.length_append, List.length_cons]
    omega
  · exact p.shorter h

theorem isChain_split (s : Text) : (p.split s).IsChain fun q q' => ¬ (q.IsPlain ∧ q'.IsPlain) := by
  induction s using p.split_induction with
  | nil => exact .nil
  | found s a r _ ih => exact List.isChain_cons.mpr ⟨fun _ _ h => h.1, ih⟩
  | plain t r _ _ hnext ih => exact List.isChain_cons.mpr ⟨fun q hq h => hnext q hq h.2, ih⟩

theorem plain_ne_nil (h : .plain t ∈ p.split s) : t ≠ [] := by
  induction s using p.split_induction with
  | nil => cases h
  | found s a r _ ih => exact ih ((List.mem_cons.mp h).resolve_left nofun)
  | plain t' r hne _ _ ih =>
    rcases List.mem_cons.mp h with he | h
    · cases he
      exact hne
    · exact ih h

theorem exists_read?_of_found (h : .found a ∈ p.split s) : ∃ s' r, p.read? s' = some (a, r) := by
  induction s using p.split_induction with
  | nil => cases h
  | found s a' r hread ih =>
    rcases List.mem_cons.mp h with he | h
    · cases he
      exact ⟨s, r, hread⟩
    · exact ih h
  | plain t r _ _ _ ih => exact ih ((List.mem_cons.mp h).resolve_left nofun)

section Spells

variable {spells : α → Text → Prop}

/-- If the text begins with every find, written somehow, then the pieces make up the text. -/
theorem exists_spelled (hread : ∀ {s a r}, p.read? s = some (a, r) → ∃ x, spells a x ∧ s = x ++ r) (s : Text) :
    ∃ xs, List.Forall₂ (Piece.Spells spells) (p.split s) xs ∧ s = xs.flatten := by
  induction s using p.split_induction with
  | nil => exact ⟨[], .nil, rfl⟩
  | found s a r h ih =>
    obtain ⟨xs, hxs, he⟩ := ih
    obtain ⟨x, hx, rfl⟩ := hread h
    exact ⟨x :: xs, .cons (.found hx) hxs, congrArg (x ++ ·) he⟩
  | plain t r _ _ _ ih =>
    obtain ⟨xs, hxs, he⟩ := ih
    exact ⟨t :: xs, .cons (.plain t) hxs, congrArg (t ++ ·) he⟩

/-- If every find is read wherever it is written, then none is written in a plain piece. -/
theorem not_infix_of_plain {x : Text} (hx : spells a x) (hne : x ≠ [])
    (hread : ∀ r, p.read? (x ++ r) ≠ none) (h : .plain t ∈ p.split s) : ¬ x <:+: t := by
  induction s using p.split_induction with
  | nil => cases h
  | found s a r _ ih => exact ih ((List.mem_cons.mp h).resolve_left nofun)
  | plain t' r _ hfree _ ih =>
    rcases List.mem_cons.mp h with he | h
    · cases he
      rintro ⟨u, v, rfl⟩
      obtain ⟨c, x, rfl⟩ := List.exists_cons_of_ne_nil hne
      have hnone := hfree u c (x ++ v) (List.append_assoc u (c :: x) v)
      exact hread (v ++ r) (by rwa [← List.append_assoc])
    · exact ih h

end Spells

end Pattern
end Markweave
