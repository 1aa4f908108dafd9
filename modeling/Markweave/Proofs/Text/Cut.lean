import Markweave.Text

namespace Markweave.Text

theorem dropStart?_append (p s : Text) : dropStart? p (p ++ s) = some s := by
  induction p with
  | nil => rfl
  | cons c p ih => simpa [dropStart?] using ih

theorem dropStart?_eq_some_iff {p s r : Text} : dropStart? p s = some r ↔ s = p ++ r := by
  constructor
  · exact eq_append_of_dropStart?
  · intro h
    rw [h]
    exact dropStart?_append p r

theorem dropStart?_of_head_ne {c d : Char} {p s : Text} (h : c ≠ d) :
    dropStart? (c :: p) (d :: s) = none := by
  simp [dropStart?, h]

/-- A needle without the character `c` cannot reach over it. -/
theorem dropStart?_append_wall {p : Text} {c : Char} (hc : c ∉ p) (a b : Text) :
    dropStart? p (a ++ c :: b) = (dropStart? p a).map (· ++ c :: b) := by
  induction p generalizing a with
  | nil => simp [dropStart?]
  | cons d p ih =>
    simp only [List.mem_cons, not_or] at hc
    cases a with
    | nil =>
      rw [List.nil_append, dropStart?_of_head_ne (Ne.symm hc.1)]
      simp [dropStart?]
    | cons e a =>
      by_cases he : d = e
      · subst he
        simpa [dropStart?] using ih hc.2 a
      · simp [dropStart?, he]

/-- The first occurrence stands where the needle's first character stands first. -/
theorem cut?_of_notMem {c : Char} {n a : Text} (hc : c ∉ a) (b : Text) :
    cut? (c :: n) (a ++ (c :: n ++ b)) = some (a, b) := by
  induction a with
  | nil =>
    have hd := dropStart?_append (c :: n) b
    simp only [List.cons_append] at hd
    simp only [List.nil_append, List.cons_append, cut?, hd]
  | cons d a ih =>
    simp only [List.mem_cons, not_or] at hc
    rw [List.cons_append, cut?, dropStart?_of_head_ne hc.1, ih hc.2]
    rfl

theorem cut?_eq_none_of_notMem {c : Char} {n s : Text} (hc : c ∈ n) (hs : c ∉ s) :
    cut? n s = none := by
  cases h : cut? n s with
  | none => rfl
  | some pair =>
    have he := eq_append_of_cut? h
    exact absurd (by simp [he, hc]) hs

theorem cut?_eq_some_of_dropStart? {n s r : Text} (h : dropStart? n s = some r) :
    cut? n s = some ([], r) := by
  cases s with
  | nil => simp [cut?, h]
  | cons c s => simp [cut?, h]

/-- A stretch without the character `c` lies wholly before the first `c` of a text. -/
theorem eq_append_of_append_eq {c : Char} {x s a b : Text} (hc : c ∉ x) (h : a ++ c :: b = x ++ s) :
    ∃ a', a = x ++ a' ∧ s = a' ++ c :: b := by
  rcases List.append_eq_append_iff.mp h with ⟨w, rfl, hw⟩ | ⟨w, rfl, rfl⟩
  · cases w with
    | nil => exact ⟨[], by simp, by simpa using hw.symm⟩
    | cons d w =>
      obtain ⟨rfl, _⟩ := List.cons.inj hw
      exact absurd (by simp) hc
  · exact ⟨w, rfl, rfl⟩

section While

variable {p : Char → Bool} {x : Text} {d : Char} (hx : ∀ c ∈ x, p c = true) (hd : p d = false) (s : Text)
include hx hd

/-- A class of characters holds up to a character that is not in it. -/
theorem takeWhile_append_cons : (x ++ d :: s).takeWhile p = x := by
  rw [List.takeWhile_append_of_pos hx, List.takeWhile_cons, hd, if_neg Bool.false_ne_true, List.append_nil]

theorem dropWhile_append_cons : (x ++ d :: s).dropWhile p = d :: s := by
  rw [List.dropWhile_append_of_pos hx, List.dropWhile_cons, hd, if_neg Bool.false_ne_true]

end While

section Replace

variable {old : Text} (new : Text) (hold : old ≠ [])

theorem replace_nil (old new : Text) : replace old new [] = [] := by
  cases old with
  | nil => simp [replace]
  | cons o os => rw [replace]; simp [cut?, dropStart?]

include hold in
theorem replace_of_cut? {s : Text} :
    replace old new s =
      match cut? old s with
      | none => s
      | some (before, after) => before ++ new ++ replace old new after := by
  obtain ⟨o, os, rfl⟩ := List.exists_cons_of_ne_nil hold
  rw [replace]
  split <;> simp_all

include hold in
theorem replace_of_dropStart? {s r : Text} (h : dropStart? old s = some r) :
    replace old new s = new ++ replace old new r := by
  rw [replace_of_cut? new hold, cut?_eq_some_of_dropStart? h]
  rfl

include hold in
theorem replace_cons {c : Char} {s : Text} (h : dropStart? old (c :: s) = none) :
    replace old new (c :: s) = c :: replace old new s := by
  rw [replace_of_cut? new hold, replace_of_cut? (s := s) new hold, cut?, h]
  cases cut? old s <;> rfl

/-- To prove something of all texts, step over occurrences of a needle and over single characters. -/
theorem replace_induction (old : Text) (hold : old ≠ []) {motive : Text → Prop} (nil : motive [])
    (found : ∀ s, motive s → motive (old ++ s))
    (skip : ∀ c s, dropStart? old (c :: s) = none → motive s → motive (c :: s)) (s : Text) :
    motive s := by
  match s with
  | [] => exact nil
  | c :: s =>
    cases h : dropStart? old (c :: s) with
    | none => exact skip c s h (replace_induction old hold nil found skip s)
    | some r =>
      have he := eq_append_of_dropStart? h
      rw [he]
      exact found r (replace_induction old hold nil found skip r)
termination_by s.length
decreasing_by
  · simp
  · have hl := congrArg List.length he
    have := List.length_pos_iff.mpr hold
    simp only [List.length_append] at hl
    omega

include hold in
/-- Replacing works on both sides of a wall for itself. -/
theorem replace_append_wall {c : Char} (hc : c ∉ old) (a b : Text) :
    replace old new (a ++ c :: b) = replace old new a ++ c :: replace old new b := by
  induction a using replace_induction old hold with
  | nil =>
    have hd := dropStart?_append_wall hc [] b
    rw [List.nil_append] at hd
    obtain ⟨o, os, rfl⟩ := List.exists_cons_of_ne_nil hold
    rw [replace_nil, List.nil_append, replace_cons new hold (by rw [hd]; rfl), List.nil_append]
  | found s ih =>
    rw [List.append_assoc, replace_of_dropStart? new hold (dropStart?_append old _), ih,
      replace_of_dropStart? new hold (dropStart?_append old s), List.append_assoc]
  | skip d s h ih =>
    have hd := dropStart?_append_wall hc (d :: s) b
    rw [h, List.cons_append] at hd
    rw [List.cons_append, replace_cons new hold hd, ih, replace_cons new hold h, List.cons_append]

theorem replace_of_notMem {c : Char} {s : Text} (hc : c ∈ old) (hs : c ∉ s) :
    replace old new s = s := by
  rw [replace_of_cut? new (List.ne_nil_of_mem hc), cut?_eq_none_of_notMem hc hs]

/-- A beginning without the first character of `old` stays as it is. -/
theorem replace_append_of_notMem {o : Char} {os t : Text} (ht : o ∉ t) (s : Text) :
    replace (o :: os) new (t ++ s) = t ++ replace (o :: os) new s := by
  induction t with
  | nil => rfl
  | cons c t ih =>
    simp only [List.mem_cons, not_or] at ht
    rw [List.cons_append, replace_cons new (List.cons_ne_nil o os) (dropStart?_of_head_ne ht.1), ih ht.2,
      List.cons_append]

/-- Where no occurrence begins, the text goes on to be replaced behind what holds no beginning of one. -/
theorem replace_cons_append {o : Char} {os t s : Text} (ht : o ∉ t)
    (h : dropStart? (o :: os) (o :: (t ++ s)) = none) :
    replace (o :: os) new (o :: (t ++ s)) = o :: (t ++ replace (o :: os) new s) := by
  rw [replace_cons new (List.cons_ne_nil o os) h, replace_append_of_notMem new ht]

include hold in
/-- A beginning of the result without the first character of `new` was there before. -/
theorem eq_append_of_replace {d : Char} {ds t r s : Text} (ht : d ∉ t)
    (h : replace old (d :: ds) s = t ++ r) : ∃ r', s = t ++ r' := by
  induction t generalizing s with
  | nil => exact ⟨s, rfl⟩
  | cons c t ih =>
    simp only [List.mem_cons, not_or] at ht
    cases s with
    | nil =>
      rw [replace_nil] at h
      cases h
    | cons e s =>
      cases hd : dropStart? old (e :: s) with
      | some rest =>
        rw [replace_of_dropStart? (d :: ds) hold hd] at h
        exact absurd (List.cons.inj h).1 ht.1
      | none =>
        rw [replace_cons (d :: ds) hold hd] at h
        obtain ⟨rfl, hrest⟩ := List.cons.inj h
        obtain ⟨r', rfl⟩ := ih ht.2 hrest
        exact ⟨r', rfl⟩

end Replace
end Markweave.Text
