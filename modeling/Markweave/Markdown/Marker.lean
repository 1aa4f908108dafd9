import Markweave.Markdown.Cursor
import Markweave.Markdown.Event
import Markweave.Unicode.Punctuation

namespace Markweave.Markdown.Marker

/-- The length of a run of one character. -/
def runLength (c : Char) (s : Text) : Nat := (s.takeWhile (· == c)).length

/-- Three or more of one mark and nothing else but blanks. -/
def thematicBreak? (s : Text) : Option Text :=
  match s.head? with
  | none => none
  | some mark =>
    let (line, _, rest) := cutLine s
    if (mark == '*' || mark == '-' || mark == '_') &&
        line.all (fun c => c == mark || c == ' ' || c == '\t') && 3 ≤ line.count mark then some rest
    else none

/-- One to six number signs and a blank or the end. -/
def headingLevel? (s : Text) : Option HeadingLevel :=
  let n := runLength '#' s
  if (s.drop n).head?.all isAsciiBlank then HeadingLevel.ofNat? n else none

/-- The text of a heading line behind its marks, without the closing marks and the spaces around. -/
def headingContent (line : Text) : Text :=
  let content := Text.dropEndWhile (fun c => isLineEnd c || c == ' ') line
  let unclosed := Text.dropEndWhile (· == '#') content
  if unclosed = [] then []
  else
    let trimmed := Text.dropEndWhile (· == ' ') unclosed
    if trimmed.length < unclosed.length then trimmed else content

/-- The line under a heading. -/
def underline? (s : Text) : Option (HeadingLevel × Text) :=
  match s with
  | '=' :: _ => (dropBlankLine? (s.dropWhile (· == '='))).map (.h1, ·)
  | '-' :: _ => (dropBlankLine? (s.dropWhile (· == '-'))).map (.h2, ·)
  | _ => none

structure Fence where
  mark : Char
  length : Nat
deriving Repr, DecidableEq

/-- At least three backticks or tildes; no backtick may follow backticks on the line. -/
def fence? (s : Text) : Option (Fence × Text) :=
  match s with
  | [] => none
  | mark :: _ =>
    let n := runLength mark s
    let rest := s.drop n
    if n < 3 then none
    else if mark == '~' then some (⟨mark, n⟩, rest)
    else if mark.toNat = 96 && !(cutFullLine rest).1.any (· == mark) then some (⟨mark, n⟩, rest)
    else none

/-- The text behind a line that closes a fence. -/
def fenceEnd? (f : Fence) (s : Text) : Option Text :=
  if runLength f.mark s < f.length then none
  else dropLineEnd? ((s.drop (runLength f.mark s)).dropWhile (· == ' '))

/-- The mark of a list, with the number of an ordered item. -/
structure ListMark where
  mark : Char
  number : Nat
  /-- Characters of the mark. -/
  width : Nat
deriving Repr, DecidableEq

def ListMark.isOrdered (m : ListMark) : Bool := m.mark == '.' || m.mark == ')'

/-- A bullet, or at most nine digits and a delimiter. What follows is not looked at. -/
def listMark? (s : Text) : Option ListMark :=
  match s.head? with
  | none => none
  | some c =>
    if c == '-' || c == '+' || c == '*' then some ⟨c, 0, 1⟩
    else
      let digits := s.takeWhile Char.isDigit
      match s.drop digits.length with
      | d :: _ =>
        if digits = [] ∨ 9 < digits.length then none
        else if d == '.' || d == ')' then
          some ⟨d, digits.foldl (fun n c => n * 10 + (c.toNat - 48)) 0, digits.length + 1⟩
        else none
      | [] => none

/-- A list item where a new block may begin: its mark, the columns its content is indented by, counted
from the cursor, and the place behind the mark and its blanks. -/
def listItem? (c : Cursor) : Option (ListMark × Nat × Cursor) :=
  match listMark? c.rest with
  | none => none
  | some m =>
    if (thematicBreak? c.rest).isSome then none
    else
      let behind := c.advance m.width
      let (missing, next) := behind.skip 1
      if missing ≠ 0 && !atLineEnd behind.rest then none
      else if isBlank next.rest then some (m, m.width + 1, next)
      else
        let (unused, content) := next.skip 4
        if unused = 0 then some (m, m.width + 1, next)
        else some (m, m.width + 1 + (4 - unused), content)

def listItemRest (m : ListMark) (s : Text) : Text := s.drop m.width

/-- A list item that may begin where a paragraph stands. An item without content on two lines may not,
and a number other than one may not where the paragraph could go on. -/
def interruptsAsItem (anyNumber : Bool) (s : Text) : Bool :=
  match listMark? s with
  | none => false
  | some m =>
    let rest := listItemRest m s
    if !(rest.head?.all fun c => c == ' ' || c == '\t' || isLineEnd c) then false
    else anyNumber || ((!m.isOrdered || m.number = 1) && !isEmptyItem rest)
where
  /-- The rest of the line and the line below are blank. -/
  isEmptyItem (rest : Text) : Bool :=
    match dropBlankLine? rest with
    | none => false
    | some below => isBlank below

/-- A box at the start of an item: whether it is checked, and the place behind it. -/
def taskBox? (c : Cursor) : Option (Bool × Cursor) :=
  let (_, box) := c.skip 3
  match box.rest with
  | '[' :: x :: ']' :: after :: _ =>
    if !isInlineBlank after then none
    else if isInlineBlank x then some (false, box.advance 3)
    else if x == 'x' || x == 'X' then some (true, box.advance 3)
    else none
  | _ => none

end Markweave.Markdown.Marker
