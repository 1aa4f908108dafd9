import Markweave.Unicode.CaseFold
import Markweave.Unicode.Ranges

namespace Markweave.Unicode

/-- The runs of foldings to one character; those behind the common ones are of characters whose full folding is
longer. -/
def simpleFoldRuns : List FoldRun :=
  ⟨0x0041, 0x005A, 1, 32⟩ :: foldRuns ++
    [⟨0x1E9E, 0x1E9E, 1, -7615⟩, ⟨0x1F88, 0x1F8F, 1, -8⟩, ⟨0x1F98, 0x1F9F, 1, -8⟩, ⟨0x1FA8, 0x1FAF, 1, -8⟩,
      ⟨0x1FBC, 0x1FBC, 1, -9⟩, ⟨0x1FCC, 0x1FCC, 1, -9⟩, ⟨0x1FD3, 0x1FD3, 1, -7235⟩, ⟨0x1FE3, 0x1FE3, 1, -7219⟩,
      ⟨0x1FFC, 0x1FFC, 1, -9⟩, ⟨0xFB05, 0xFB05, 1, 1⟩, ⟨0x1C89, 0x1C89, 1, 1⟩, ⟨0xA7CB, 0xA7CB, 1, -42343⟩,
      ⟨0xA7CC, 0xA7CC, 1, 1⟩, ⟨0xA7DA, 0xA7DA, 1, 1⟩, ⟨0xA7DC, 0xA7DC, 1, -42561⟩, ⟨0x10D50, 0x10D65, 1, 32⟩]

/-- The code point to which one folds. -/
def simpleFold (n : Nat) : Nat := (simpleFoldRuns.findSome? (·.fold? n)).getD n

namespace Ranges

variable {rs : Ranges} {n : Nat}

def has (rs : Ranges) (n : Nat) : Bool := rs.any fun r => r.1 ≤ n && n ≤ r.2

/-- The ranges as the bits of a number. -/
def mask (rs : Ranges) : Nat := rs.foldr (fun r bits => (1 <<< (r.2 + 1 - r.1) - 1) <<< r.1 ||| bits) 0

theorem mem_eq_has (rs : Ranges) (c : Char) : rs.mem c = rs.has c.toNat := rfl

theorem testBit_mask (rs : Ranges) (n : Nat) : rs.mask.testBit n = rs.has n := by
  induction rs with
  | nil => exact Nat.zero_testBit n
  | cons r rs ih =>
    have hrange : (r.1 ≤ n ∧ n - r.1 < r.2 + 1 - r.1) ↔ (r.1 ≤ n ∧ n ≤ r.2) := by omega
    change Nat.testBit (_ ||| mask rs) n = (_ || has rs n)
    rw [Nat.testBit_or, ih, Nat.testBit_shiftLeft, Nat.one_shiftLeft, Nat.testBit_two_pow_sub_one]
    simp only [ge_iff_le, ← Bool.decide_and, hrange]

end Ranges

namespace FoldRun

variable {bits n m : Nat} {r : FoldRun}

/-- No member of the run enters or leaves the class when it is folded. -/
def keeps (bits : Nat) (r : FoldRun) : Bool :=
  (List.range' r.first (r.last + 1 - r.first)).all fun n =>
    (r.fold? n).all fun m => bits.testBit m == bits.testBit n

theorem testBit_of_keeps (h : r.keeps bits = true) (hfold : r.fold? n = some m) : bits.testBit m = bits.testBit n := by
  have hrange : r.first ≤ n ∧ n ≤ r.last := by
    rw [fold?] at hfold
    split at hfold
    · next hn => exact ⟨hn.1, hn.2.1⟩
    · cases hfold
  have hn := List.all_eq_true.mp h n (List.mem_range'_1.mpr (by omega))
  rw [hfold] at hn
  exact beq_iff_eq.mp hn

end FoldRun

/-- A class that every run keeps is closed under folding. -/
theorem Ranges.has_simpleFold {rs : Ranges} (h : simpleFoldRuns.all (·.keeps rs.mask) = true) (n : Nat) :
    rs.has (simpleFold n) = rs.has n := by
  rw [simpleFold]
  cases hfold : simpleFoldRuns.findSome? (·.fold? n) with
  | none => rfl
  | some m =>
    obtain ⟨r, hr, hrun⟩ := List.exists_of_findSome?_eq_some hfold
    rw [Option.getD_some, ← testBit_mask, ← testBit_mask]
    exact FoldRun.testBit_of_keeps (List.all_eq_true.mp h r hr) hrun

end Markweave.Unicode
