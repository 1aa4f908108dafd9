import Markweave.Text
import Markweave.Markdown.CharacterReference.Names

namespace Markweave.Markdown.CharacterReference

/-- Code point zero is written as U+FFFD; what is no code point is no reference. -/
def ofCodePoint? (n : Nat) : Option Char :=
  if n = 0 then some '\ufffd' else if n.isValidChar then some (Char.ofNat n) else none

/-- A run of digits of limited length, a semicolon, and what follows. -/
def numeric? (base limit : Nat) (isDigit : Char → Bool) (s : Text) : Option (Text × Text) :=
  match s.span isDigit with
  | (digits, ';' :: rest) =>
    if digits = [] ∨ limit < digits.length then none
    else (ofCodePoint? (Text.valueOf base digits)).map fun c => ([c], rest)
  | _ => none

def named? (name : Text) : Option Text :=
  let find (names : List (String × Nat)) : Option Text :=
    (names.find? fun (n, _) => n.toList == name).map fun (_, code) => [Char.ofNat code]
  (find common).or <| (find (name.head?.elim [] startingWith)).or <|
    (double.find? fun (n, _, _) => n.toList == name).map fun (_, a, b) => [Char.ofNat a, Char.ofNat b]

/-- The value of the reference that a `&` opens, given what follows it, and the rest. -/
def read? : Text → Option (Text × Text)
  | '#' :: 'x' :: s => numeric? 16 6 Text.isHexDigit s
  | '#' :: 'X' :: s => numeric? 16 6 Text.isHexDigit s
  | '#' :: s => numeric? 10 7 Char.isDigit s
  | s =>
    match s.span Char.isAlphanum with
    | (name, ';' :: rest) => (named? name).map (·, rest)
    | _ => none

end Markweave.Markdown.CharacterReference
