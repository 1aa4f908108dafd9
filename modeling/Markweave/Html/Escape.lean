import Markweave.Text

namespace Markweave.Html

def escapeChar : Char → Text
  | '&' => "&amp;"
  | '<' => "&lt;"
  | '>' => "&gt;"
  | '"' => "&quot;"
  | '\'' => "&#x27;"
  | c => [c]

/-- Strict escaping writes the five special characters as references. -/
def escape (s : Text) : Text := s.flatMap escapeChar

/-- At least one character of the class, then a semicolon. -/
def closesReference (p : Char → Bool) (s : Text) : Bool :=
  !(s.takeWhile p).isEmpty && (s.dropWhile p).head? == some ';'

/-- What follows a `&` makes a terminated character reference of it. -/
def opensReference : Text → Bool
  | '#' :: 'x' :: s => closesReference Text.isHexDigit s
  | '#' :: 'X' :: s => closesReference Text.isHexDigit s
  | '#' :: s => closesReference Char.isDigit s
  | c :: s => c.isAlpha && closesReference Char.isAlphanum (c :: s)
  | [] => false

/-- Lenient escaping leaves a `&` alone that already opens a reference and touches no quotes. -/
def escapeLenient : Text → Text
  | [] => []
  | '&' :: s => (if opensReference s then "&" else "&amp;" : Text) ++ escapeLenient s
  | '<' :: s => "&lt;" ++ escapeLenient s
  | '>' :: s => "&gt;" ++ escapeLenient s
  | c :: s => c :: escapeLenient s

end Markweave.Html
