import Markweave.Text

namespace Markweave.Markdown

/-- A line ends with a line feed, a carriage return, both, or the text. -/
def isLineEnd (c : Char) : Bool := c == '\n' || c == '\r'

/-- White space of ASCII within a line. -/
def isInlineBlank (c : Char) : Bool := c == ' ' || c == '\t' || c == '\x0b' || c == '\x0c'

def isAsciiBlank (c : Char) : Bool := isInlineBlank c || isLineEnd c

/-- The text behind a line end. -/
def dropLineEnd? : Text → Option Text
  | [] => some []
  | '\r' :: '\n' :: s => some s
  | c :: s => if isLineEnd c then some s else none

/-- The text behind a blank rest of a line. -/
def dropBlankLine? (s : Text) : Option Text := dropLineEnd? (s.dropWhile isInlineBlank)

def isBlank (s : Text) : Bool := (dropBlankLine? s).isSome

def atLineEnd (s : Text) : Bool := s.head?.all isLineEnd

/-- A line without its end, its end, and what follows. -/
def cutLine (s : Text) : Text × Text × Text :=
  let (line, rest) := s.span (!isLineEnd ·)
  match rest with
  | '\r' :: '\n' :: after => (line, ['\r', '\n'], after)
  | c :: after => (line, [c], after)
  | [] => (line, [], [])

/-- Everything up to a line feed and with it, and what follows. -/
def cutFullLine (s : Text) : Text × Text :=
  let (line, rest) := s.span (· != '\n')
  match rest with
  | c :: after => (line ++ [c], after)
  | [] => (line, [])

/-- A line of code or of HTML: a carriage return right before its last character goes. -/
def unifyLine (line : Text) : Text :=
  match line.reverse with
  | c :: '\r' :: s => (c :: s).reverse
  | _ => line

end Markweave.Markdown
