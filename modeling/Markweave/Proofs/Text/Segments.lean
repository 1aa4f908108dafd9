import Markweave.Directive.Arguments
import Markweave.Proofs.Text.Lines
import Markweave.Source.Fence

namespace Markweave

namespace Text

theorem mem_of_mem_splitOn {sep c : Char} {s segment : Text} (hs : segment ∈ splitOn sep s)
    (hc : c ∈ segment) : c ∈ s := by
  induction s using segments_induction sep with
  | last a ha =>
    rw [splitOn_of_notMem ha, List.mem_singleton] at hs
    rwa [← hs]
  | more a b ha ih =>
    rw [splitOn_append_cons_of_notMem ha] at hs
    rcases List.mem_cons.mp hs with rfl | hs
    · exact List.mem_append_left _ hc
    · exact List.mem_append_right _ (List.mem_cons_of_mem sep (ih hs))

theorem sep_notMem_of_mem_splitOn {sep : Char} {s segment : Text} (hs : segment ∈ splitOn sep s) :
    sep ∉ segment := by
  induction s using segments_induction sep with
  | last a ha =>
    rw [splitOn_of_notMem ha, List.mem_singleton] at hs
    rwa [hs]
  | more a b ha ih =>
    rw [splitOn_append_cons_of_notMem ha] at hs
    rcases List.mem_cons.mp hs with rfl | hs
    · exact ha
    · exact ih hs

theorem mem_joinWith {sep c : Char} {segments : List Text} (h : c ∈ joinWith sep segments) :
    c = sep ∨ ∃ segment ∈ segments, c ∈ segment := by
  induction segments with
  | nil => exact absurd h List.not_mem_nil
  | cons first more ih =>
    cases more with
    | nil =>
      rw [joinWith_singleton] at h
      exact .inr ⟨first, List.mem_cons_self, h⟩
    | cons second more =>
      rw [joinWith_cons first (List.cons_ne_nil second more)] at h
      rcases List.mem_append.mp h with h | h
      · exact .inr ⟨first, List.mem_cons_self, h⟩
      · rcases List.mem_cons.mp h with h | h
        · exact .inl h
        · rcases ih h with hsep | ⟨segment, hs, hc⟩
          · exact .inl hsep
          · exact .inr ⟨segment, List.mem_cons_of_mem first hs, hc⟩

theorem mem_splitOn {c : Char} {s : Text} (sep : Char) (h : c ∈ s) :
    c = sep ∨ ∃ segment ∈ splitOn sep s, c ∈ segment := by
  rw [← joinWith_splitOn sep s] at h
  exact mem_joinWith h

theorem mem_of_mem_trimWhile {p : Char → Bool} {c : Char} {s : Text} (h : c ∈ trimWhile p s) : c ∈ s := by
  rw [trimWhile, dropEndWhile, List.mem_reverse] at h
  have hd := (List.dropWhile_suffix p).subset h
  rw [List.mem_reverse] at hd
  exact (List.dropWhile_suffix p).subset hd

end Text

theorem Directive.mem_of_mem_words {c : Char} {s word : Text} (hw : word ∈ words s) (hc : c ∈ word) :
    c ∈ s := by
  induction s generalizing word with
  | nil => exact absurd hw (by simp [words])
  | cons d s ih =>
    rw [words] at hw
    split at hw
    · split at hw
      · exact absurd hw List.not_mem_nil
      · rw [List.mem_singleton] at hw
        subst hw
        rw [List.mem_singleton] at hc
        subst hc
        exact List.mem_cons_self
    · next first more he =>
      have hmore : ∀ w ∈ first :: more, c ∈ w → c ∈ d :: s := by
        intro w hw hc
        exact List.mem_cons_of_mem d (ih (by rw [he]; exact hw) hc)
      split at hw
      · exact hmore word hw hc
      · split at hw
        · rcases List.mem_cons.mp hw with rfl | hw
          · rw [List.mem_singleton] at hc
            subst hc
            exact List.mem_cons_self
          · exact hmore word hw hc
        · rcases List.mem_cons.mp hw with rfl | hw
          · rcases List.mem_cons.mp hc with rfl | hc
            · exact List.mem_cons_self
            · exact hmore first List.mem_cons_self hc
          · exact hmore word (List.mem_cons_of_mem _ hw) hc

theorem Source.mem_restoreBlankLines {c : Char} {code : Text} (h : c ∈ restoreBlankLines code) :
    c = '\n' ∨ c ∈ code := by
  rcases Text.mem_joinWith h with rfl | ⟨line, hline, hc⟩
  · exact .inl rfl
  · obtain ⟨l, hl, rfl⟩ := List.mem_map.mp hline
    right
    split at hc
    · exact absurd hc List.not_mem_nil
    · exact Text.mem_of_mem_splitOn hl hc

end Markweave
