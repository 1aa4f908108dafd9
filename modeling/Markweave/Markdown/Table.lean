import Markweave.Markdown.Cursor
import Markweave.Markdown.Event
import Markweave.Unicode.Punctuation

namespace Markweave.Markdown.Table

open Unicode (isAsciiPunctuation)

/-- What has been read of a column of the dash line. -/
structure Column where
  alignment : Alignment
  begun : Bool
  dashed : Bool
deriving Repr, DecidableEq

def Column.fresh : Column := ⟨.none, false, false⟩

/-- A colon before the dashes aligns left, one after them right, both center. -/
def Column.colon (c : Column) : Column :=
  let alignment := match c.begun, c.alignment with
    | false, .none => .left
    | true, .left => .center
    | true, .none => .right
    | _, a => a
  { c with alignment, begun := true }

/-- The alignments of the columns of a dash line; every column needs a dash. -/
def alignmentsFrom? : Column → Text → Option (List Alignment)
  | c, [] => if !c.begun then some [] else if c.dashed then some [c.alignment] else none
  | c, ' ' :: s => alignmentsFrom? c s
  | c, ':' :: s => alignmentsFrom? c.colon s
  | c, '-' :: s => alignmentsFrom? { c with begun := true, dashed := true } s
  | c, '|' :: s => if c.dashed then (alignmentsFrom? .fresh s).map (c.alignment :: ·) else none
  | _, _ :: _ => none

/-- The columns that a dash line sets up, from a place with at most three columns of indentation, and
the text below the line. -/
def dashLine? (c : Cursor) : Option (List Alignment × Text) :=
  match c.skip 4 with
  | (0, _) => none
  | (_, inside) =>
    let (line, _, rest) := cutLine inside.rest
    match line with
    | [] => none
    | '|' :: s => (alignmentsFrom? .fresh s).bind fun as => if as = [] then none else some (as, rest)
    | s => (alignmentsFrom? .fresh s).bind fun as => if as = [] then none else some (as, rest)

/-- Puts characters in front of the first segment. -/
def extendFirst (cs : Text) : List Text → List Text
  | [] => [cs]
  | first :: more => (cs ++ first) :: more

/-- The segments between the bars that count. A backslash before punctuation takes it along; in a row,
two backslashes before a bar take the bar along. -/
def splitBars (inRow : Bool) : Text → List Text
  | [] => [[]]
  | '\\' :: c :: s =>
    if inRow && c == '\\' && s.head? == some '|' then
      match s with
      | bar :: more => extendFirst ['\\', c, bar] (splitBars inRow more)
      | [] => [['\\', c]]
    else if isAsciiPunctuation c then extendFirst ['\\', c] (splitBars inRow s)
    else extendFirst ['\\'] (splitBars inRow (c :: s))
  | c :: s => if c = '|' then [] :: splitBars inRow s else extendFirst [c] (splitBars inRow s)

def dropBlankLast (segments : List Text) : List Text :=
  match segments.getLast? with
  | some last => if last.all isInlineBlank then segments.dropLast else segments
  | none => []

/-- The segments that bound a cell. A bar at the start of a line and one at its end, blanks aside, bound
none. -/
def boundedSegments (segments : List Text) : List Text :=
  dropBlankLast <| match segments with
    | [] :: more => more
    | all => all

/-- The columns of a heading line; none if it has no bar. -/
def headingColumns (line : Text) : Nat :=
  match splitBars false line with
  | [_] => 0
  | segments => (boundedSegments segments).length

/-- The cells of a line without its end. -/
def cells (line : Text) : List Text :=
  (boundedSegments (splitBars true line)).map (·.dropWhile isInlineBlank)

/-- Exactly as many cells as there are columns: more are dropped, missing ones are empty. -/
def fit (columns : Nat) (row : List Text) : List Text :=
  row.take columns ++ List.replicate (columns - row.length) []

end Markweave.Markdown.Table
