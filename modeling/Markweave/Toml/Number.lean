import Markweave.Text

namespace Markweave.Toml

/-- Digits, in which single underscores may stand between two digits. -/
def digits? (isDigit : Char → Bool) (s : Text) : Option Text :=
  let groups := Text.splitOn '_' s
  if groups.all fun g => !g.isEmpty && g.all isDigit then some groups.flatten else none

/-- Digits of a decimal number, which begins with a zero only when it is zero. -/
def decimalDigits? (s : Text) : Option Text :=
  match digits? Char.isDigit s with
  | some ('0' :: _ :: _) => none
  | ds => ds

/-- Whether a sign is a minus, and what it stands before. -/
def splitSign : Text → Bool × Text
  | '-' :: s => (true, s)
  | '+' :: s => (false, s)
  | s => (false, s)

def integer? (s : Text) : Option Int :=
  match s with
  | '0' :: 'x' :: s => (digits? Text.isHexDigit s).map fun ds => Text.valueOf 16 ds
  | '0' :: 'o' :: s => (digits? (fun c => '0' ≤ c && c ≤ '7') s).map fun ds => Text.valueOf 8 ds
  | '0' :: 'b' :: s => (digits? (fun c => c = '0' || c = '1') s).map fun ds => Text.valueOf 2 ds
  | s =>
    let (minus, s) := splitSign s
    (decimalDigits? s).map fun ds =>
      let n : Int := Text.valueOf 10 ds
      if minus then -n else n

def fitsInteger (n : Int) : Bool := -Nat.pow 2 127 ≤ n && n < Nat.pow 2 128

/-- The number `m · 10^e` is nearer to a finite double than to the next power of two above them. The
count of its digits decides all but the close cases. -/
def fitsFloat (m : Nat) (e : Int) : Bool :=
  let magnitude := (Text.ofNat m).length + e
  if m = 0 || magnitude < 300 then true
  else if 320 < magnitude then false
  else
    let bound := Nat.pow 2 1024 - Nat.pow 2 970
    m * Nat.pow 10 e.toNat < bound * Nat.pow 10 (-e).toNat

/-- Mantissa and exponent of a word with a fraction, an exponent, or both. -/
def scientific? (s : Text) : Option (Nat × Int) := do
  let (mantissa, exponent) := s.span fun c => c ≠ 'e' && c ≠ 'E'
  let (whole, fraction) := mantissa.span (· ≠ '.')
  if exponent = [] && fraction = [] then none
  let whole ← decimalDigits? whole
  let fraction ← match fraction with
    | [] => some []
    | _ :: ds => digits? Char.isDigit ds
  let (minus, power) ← match exponent with
    | [] => some (false, [])
    | _ :: s =>
      let (minus, s) := splitSign s
      (digits? Char.isDigit s).map (minus, ·)
  let power : Int := Text.valueOf 10 power
  return (Text.valueOf 10 (whole ++ fraction), (if minus then -power else power) - fraction.length)

def isFloat (s : Text) : Bool :=
  let s := (splitSign s).2
  s = "inf".toList || s = "nan".toList || (scientific? s).any fun (m, e) => fitsFloat m e

end Markweave.Toml
