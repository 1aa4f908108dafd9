namespace Markweave.Unicode

/-- A property of characters as ranges of code points, both ends included and in ascending order. -/
abbrev Ranges := List (Nat × Nat)

def Ranges.mem (rs : Ranges) (c : Char) : Bool := rs.any fun (lo, hi) => lo ≤ c.toNat && c.toNat ≤ hi

/-- The characters with the property White_Space. -/
def blankRanges : Ranges :=
  [(0x0009, 0x000D), (0x0020, 0x0020), (0x0085, 0x0085), (0x00A0, 0x00A0), (0x1680, 0x1680),
  (0x2000, 0x200A), (0x2028, 0x2029), (0x202F, 0x202F), (0x205F, 0x205F), (0x3000, 0x3000)]

def isBlank (c : Char) : Bool := blankRanges.mem c

end Markweave.Unicode
