import Markweave.Proofs.Text.Segments
import Markweave.Settings.Validity

namespace Markweave.Settings

variable {q : Char}

theorem notMem_stylePrefix {stylePrefix : Text} (h : stylePrefix.all isPrefixChar = true)
    (hq : isPrefixChar q = false) : q ∉ stylePrefix := by
  intro hmem
  exact Bool.false_ne_true (hq.symm.trans (List.all_eq_true.mp h q hmem))

theorem isIdentifierChar_of_isIdentifierStart {c : Char} (h : isIdentifierStart c = true) :
    isIdentifierChar c = true := by
  simp only [isIdentifierStart, isIdentifierChar, Char.isAlphanum, Bool.or_eq_true] at h ⊢
  rcases h with (h | h) | h
  · exact .inl (.inl (.inl h))
  · exact .inl (.inr h)
  · exact .inr h

theorem notMem_identifier {s : Text} (h : isIdentifier s = true) (hq : isIdentifierChar q = false) : q ∉ s := by
  cases s with
  | nil => exact List.not_mem_nil
  | cons c s =>
    obtain ⟨hstart, hrest⟩ := Bool.and_eq_true_iff.mp h
    have hall : ∀ d ∈ c :: s, isIdentifierChar d = true :=
      List.forall_mem_cons.mpr ⟨isIdentifierChar_of_isIdentifierStart hstart, List.all_eq_true.mp hrest⟩
    intro hmem
    exact Bool.false_ne_true (hq.symm.trans (hall q hmem))

theorem notMem_app {app : Text} (h : isDottedIdentifier app = true) (hdot : q ≠ '.')
    (hq : isIdentifierChar q = false) : q ∉ app := by
  intro hmem
  rcases Text.mem_splitOn '.' hmem with rfl | ⟨segment, hs, hc⟩
  · exact hdot rfl
  · exact notMem_identifier (List.all_eq_true.mp h segment hs) hq hc

end Markweave.Settings
