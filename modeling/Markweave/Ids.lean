import Markweave.Text

namespace Markweave

/-- Hands out successive 64-bit numbers and wraps around. -/
structure IdCounter where
  next : UInt64
deriving Repr, DecidableEq

namespace IdCounter

def first : IdCounter := ⟨1⟩

def draw (c : IdCounter) : UInt64 × IdCounter := (c.next, ⟨c.next + 1⟩)

end IdCounter

/-- Whether every document has its own counter or all share one. -/
inductive IdScope
  | session
  | shared (counter : IdCounter)
deriving Repr, DecidableEq

namespace IdScope

/-- The counter a new document draws from. -/
def counter : IdScope → IdCounter
  | session => .first
  | shared c => c

/-- The scope after a document has left its counter at `c`. -/
def advance : IdScope → IdCounter → IdScope
  | session, _ => session
  | shared _, c => shared c

end IdScope

def UInt64.text (n : UInt64) : Text := Text.ofNat n.toNat

namespace UInt64

theorem isDigit_of_mem_text {n : UInt64} {c : Char} (h : c ∈ text n) : c.isDigit = true :=
  Nat.isDigit_of_mem_toDigits (by decide) (by decide) h

theorem notMem_text {c : Char} (hc : c.isDigit = false) (n : UInt64) : c ∉ text n := by
  intro h
  rw [isDigit_of_mem_text h] at hc
  cases hc

/-- Counting on from the next number is counting one further. -/
theorem add_one_add_ofNat (n : UInt64) (k : Nat) : n + 1 + .ofNat k = n + .ofNat (k + 1) := by
  rw [UInt64.ofNat_add, UInt64.add_comm (.ofNat k), ← UInt64.add_assoc]
  rfl

theorem text_injective {m n : UInt64} (h : text m = text n) : m = n := UInt64.toNat_inj.mp (Text.ofNat_injective h)

end UInt64

end Markweave
