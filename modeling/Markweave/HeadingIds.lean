import Markweave.Text.Pattern
import Markweave.Unicode.Ranges

namespace Markweave.HeadingIds

/-- The digit of a heading tag and what stands behind it up to the closing bracket. -/
structure HeadingTag where
  digit : Char
  attributes : Text
deriving Repr, DecidableEq

def isHeadingDigit (c : Char) : Bool := '1' ≤ c && c ≤ '8'

theorem isDigit_of_isHeadingDigit {d : Char} (h : isHeadingDigit d = true) : d.isDigit = true := by
  simp only [isHeadingDigit, Bool.and_eq_true, decide_eq_true_eq, Char.le_def, UInt32.le_iff_toNat_le] at h
  simp only [Char.isDigit, Bool.and_eq_true, decide_eq_true_eq, UInt32.le_iff_toNat_le, ge_iff_le]
  change 49 ≤ d.val.toNat ∧ d.val.toNat ≤ 56 at h
  change 48 ≤ d.val.toNat ∧ d.val.toNat ≤ 57
  omega

/-- Nothing, or a blank and everything up to the closing bracket. -/
def readAttributes? : Text → Option (Text × Text)
  | '>' :: rest => some ([], rest)
  | c :: cs =>
    if Unicode.isBlank c then (Text.cut? ">" cs).map fun (inside, rest) => (c :: inside, rest)
    else none
  | [] => none

/-- A tag runs from `<h` and a digit to the next `>`, whatever stands between them after a blank. -/
def readTag? (s : Text) : Option (HeadingTag × Text) :=
  match Text.dropStart? "<h" s with
  | some (d :: rest) =>
    if isHeadingDigit d then (readAttributes? rest).map fun (inside, rest) => (⟨d, inside⟩, rest)
    else none
  | _ => none

theorem length_of_readAttributes? {s a r : Text} (h : readAttributes? s = some (a, r)) :
    r.length < s.length := by
  unfold readAttributes? at h
  split at h
  · simp only [Option.some.injEq, Prod.mk.injEq] at h
    simp [h.2]
  · split at h
    · simp only [Option.map_eq_some_iff, Prod.mk.injEq, Prod.exists] at h
      obtain ⟨x, y, hxy, _, rfl⟩ := h
      simp [Text.eq_append_of_cut? hxy]
      omega
    · simp at h
  · simp at h

def tag : Pattern HeadingTag where
  read? := readTag?
  shorter := by
    intro s a r h
    unfold readTag? at h
    split at h
    · next d rest hd =>
      split at h
      · simp only [Option.map_eq_some_iff, Prod.mk.injEq, Prod.exists] at h
        obtain ⟨x, y, hxy, _, rfl⟩ := h
        have := length_of_readAttributes? hxy
        simp [Text.eq_append_of_dropStart? hd]
        omega
      · simp at h
    · simp at h

def writeTag (id : UInt64) (t : HeadingTag) : Text :=
  "<h" ++ [t.digit] ++ " id=\"heading_" ++ UInt64.text id ++ "\"" ++ t.attributes ++ ">"

def inject (ids : IdCounter) (html : Text) : Text × IdCounter := tag.renumber writeTag ids html

end Markweave.HeadingIds
