import Markweave.Text

namespace Markweave.Text

variable {sep : Char}

theorem splitOn_eq (sep : Char) (s : Text) : splitOn sep s = List.splitOn sep s := by
  induction s with
  | nil => rw [splitOn, List.splitOn_nil]
  | cons c s ih =>
    rw [splitOn, List.splitOn_cons_eq_if_modifyHead, ih]
    by_cases hc : c = sep
    · simp [hc]
    · rw [if_neg hc, if_neg (by simpa using hc)]
      obtain ⟨first, more, he⟩ := List.exists_cons_of_ne_nil (List.splitOn_ne_nil sep s)
      rw [he, List.modifyHead_cons]

theorem splitOn_ne_nil (sep : Char) (s : Text) : splitOn sep s ≠ [] := by
  rw [splitOn_eq]
  exact List.splitOn_ne_nil sep s

theorem joinWith_splitOn (sep : Char) (s : Text) : joinWith sep (splitOn sep s) = s := by
  rw [splitOn_eq]
  exact List.intercalate_splitOn sep

theorem splitOn_joinWith {lines : List Text} (hlines : ∀ l ∈ lines, sep ∉ l) (hne : lines ≠ []) :
    splitOn sep (joinWith sep lines) = lines := by
  rw [splitOn_eq]
  exact List.splitOn_intercalate sep hlines hne

theorem splitOn_append_cons (sep : Char) (a b : Text) :
    splitOn sep (a ++ sep :: b) = splitOn sep a ++ splitOn sep b := by
  rw [splitOn_eq, splitOn_eq, splitOn_eq, List.splitOn_append_cons_self]

theorem splitOn_of_notMem {a : Text} (ha : sep ∉ a) : splitOn sep a = [a] := by
  rw [splitOn_eq]
  exact List.splitOn_eq_singleton ha

theorem splitOn_append_cons_of_notMem {a : Text} (ha : sep ∉ a) (b : Text) :
    splitOn sep (a ++ sep :: b) = a :: splitOn sep b := by
  rw [splitOn_append_cons, splitOn_of_notMem ha, List.singleton_append]

/-- To prove something of all texts, step from one separator to the next. -/
theorem segments_induction (sep : Char) {motive : Text → Prop} (last : ∀ a, sep ∉ a → motive a)
    (more : ∀ a b, sep ∉ a → motive b → motive (a ++ sep :: b)) (s : Text) : motive s := by
  by_cases h : sep ∈ s
  · obtain ⟨a, b, he, ha⟩ := List.eq_append_cons_of_mem h
    rw [he]
    exact more a b ha (segments_induction sep last more b)
  · exact last s h
termination_by s.length
decreasing_by
  rw [he]
  simp only [List.length_append, List.length_cons]
  omega

theorem joinWith_singleton (line : Text) : joinWith sep [line] = line := List.intercalate_singleton

theorem joinWith_cons (first : Text) {more : List Text} (hmore : more ≠ []) :
    joinWith sep (first :: more) = first ++ sep :: joinWith sep more := by
  obtain ⟨second, others, rfl⟩ := List.exists_cons_of_ne_nil hmore
  rw [joinWith, List.intercalate_cons_cons, List.append_assoc]
  rfl

theorem joinWith_append {first more : List Text} (hfirst : first ≠ []) (hmore : more ≠ []) :
    joinWith sep (first ++ more) = joinWith sep first ++ sep :: joinWith sep more := by
  induction first with
  | nil => exact absurd rfl hfirst
  | cons line first ih =>
    cases first with
    | nil => rw [List.singleton_append, joinWith_cons line hmore, joinWith_singleton]
    | cons second others =>
      rw [List.cons_append, joinWith_cons line (by simp), ih (List.cons_ne_nil _ _),
        joinWith_cons line (List.cons_ne_nil _ _), List.append_assoc]
      rfl

/-- Lines each of which is ended. -/
theorem joinWith_append_nil (lines : List Text) : joinWith sep (lines ++ [[]]) = lines.flatMap (· ++ [sep]) := by
  induction lines with
  | nil => rfl
  | cons first more ih =>
    rw [List.cons_append, joinWith_cons first (by simp), ih, List.flatMap_cons, List.append_assoc]
    rfl

theorem lines_cons (line : Text) (more : List Text) (s : Text) :
    (line :: more).flatMap (· ++ [sep]) ++ s = line ++ sep :: (more.flatMap (· ++ [sep]) ++ s) := by
  simp

theorem notMem_lines {c : Char} (hc : c ≠ sep) {lines : List Text} (h : ∀ l ∈ lines, c ∉ l) :
    c ∉ lines.flatMap (· ++ [sep]) := by
  simp only [List.mem_flatMap, List.mem_append, List.mem_singleton, not_exists, not_and, not_or]
  exact fun l hl => ⟨h l hl, hc⟩

/-- Behind the end of the last line there is an empty segment. -/
theorem splitOn_lines {lines : List Text} (h : ∀ l ∈ lines, sep ∉ l) :
    splitOn sep (lines.flatMap (· ++ [sep])) = lines ++ [[]] := by
  rw [← joinWith_append_nil]
  refine splitOn_joinWith ?_ (by simp)
  simpa [or_imp, forall_and] using h

end Markweave.Text
