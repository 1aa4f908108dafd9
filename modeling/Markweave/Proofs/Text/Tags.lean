import Markweave.Proofs.Text.Lines

namespace Markweave.Text

/-- The property holds behind every `<` of the text. -/
def AtTags (P : Text → Prop) (t : Text) : Prop := ∀ u v, t = u ++ '<' :: v → P v

namespace AtTags

variable {P : Text → Prop}

theorem of_notMem {t : Text} (h : '<' ∉ t) : AtTags P t := by
  intro u v he
  exact absurd (by simp [he]) h

/-- A text with one `<`, where it begins. -/
theorem tag {t : Text} (ht : '<' ∉ t) (h : P t) : AtTags P ('<' :: t) := by
  intro u v he
  cases u with
  | nil =>
    simp only [List.nil_append, List.cons.injEq, true_and] at he
    rw [← he]
    exact h
  | cons d u =>
    simp only [List.cons_append, List.cons.injEq] at he
    exact absurd (by simp [he.2]) ht

/-- Behind a `<` of the first part the second part follows as well. -/
theorem append (hP : ∀ v s, P v → P (v ++ s)) {a b : Text} (ha : AtTags P a) (hb : AtTags P b) :
    AtTags P (a ++ b) := by
  intro u v he
  rcases List.append_eq_append_iff.mp he with ⟨w, rfl, hw⟩ | ⟨w, rfl, hw⟩
  · exact hb w v hw
  · cases w with
    | nil => exact hb [] v (by simpa using hw.symm)
    | cons d w =>
      simp only [List.cons_append, List.cons.injEq] at hw
      obtain ⟨rfl, rfl⟩ := hw
      exact hP w b (ha u w rfl)

theorem append_cons_iff {a b : Text} (ha : '<' ∉ a) :
    AtTags P (a ++ '<' :: b) ↔ P b ∧ AtTags P b := by
  constructor
  · intro h
    refine ⟨h a b rfl, ?_⟩
    intro u v he
    exact h (a ++ '<' :: u) v (by simp [he])
  · rintro ⟨hb, h⟩ u v he
    rcases List.append_eq_append_iff.mp he with ⟨w, rfl, hw⟩ | ⟨w, rfl, hw⟩
    · cases w with
      | nil =>
        simp only [List.nil_append, List.cons.injEq, true_and] at hw
        rw [← hw]
        exact hb
      | cons d w =>
        simp only [List.cons_append, List.cons.injEq] at hw
        exact h w v hw.2
    · cases w with
      | nil =>
        simp only [List.nil_append, List.cons.injEq, true_and] at hw
        rw [hw]
        exact hb
      | cons d w =>
        simp only [List.cons_append, List.cons.injEq] at hw
        obtain ⟨rfl, _⟩ := hw
        exact absurd (by simp) ha

end AtTags

/-- To prove something of all texts, step from one `<` to the next. -/
theorem tags_induction {motive : Text → Prop} (plain : ∀ a, '<' ∉ a → motive a)
    (tag : ∀ a b, '<' ∉ a → motive b → motive (a ++ '<' :: b)) (t : Text) : motive t :=
  segments_induction '<' plain tag t

/-- The function works on both sides of the character for itself. -/
def Splits (c : Char) (f : Text → Text) : Prop := ∀ a b, f (a ++ c :: b) = f a ++ c :: f b

theorem Splits.comp {c : Char} {f g : Text → Text} (hf : Splits c f) (hg : Splits c g) :
    Splits c (f ∘ g) := by
  intro a b
  rw [Function.comp_apply, hg, hf]
  rfl

theorem AtTags.apply {P Q : Text → Prop} {f : Text → Text} (hf : Splits '<' f)
    (hplain : ∀ a, '<' ∉ a → '<' ∉ f a) (hPQ : ∀ v, P v → Q (f v)) {t : Text} (h : AtTags P t) :
    AtTags Q (f t) := by
  induction t using tags_induction with
  | plain a ha => exact .of_notMem (hplain a ha)
  | tag a b ha ih =>
    obtain ⟨hb, hrest⟩ := (append_cons_iff ha).mp h
    rw [hf]
    exact (append_cons_iff (hplain a ha)).mpr ⟨hPQ b hb, ih hrest⟩

end Markweave.Text
