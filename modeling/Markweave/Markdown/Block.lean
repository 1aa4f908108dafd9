import Markweave.Markdown.Inline.Scan

namespace Markweave.Markdown

/-- A line of raw HTML and the blanks before it. -/
structure HtmlLine where
  indentation : Text
  content : Text
deriving Repr, DecidableEq

/-- Running text is kept as it is written, line ends included, until every definition is known. -/
inductive Block
  /-- The box of a task stands before the text of its item. -/
  | paragraph (task : Option Bool) (content : Text)
  | underlined (level : HeadingLevel) (task : Option Bool) (content : Text)
  | heading (level : HeadingLevel) (content : Text)
  /-- A box in an item without text. -/
  | task (checked : Bool)
  | code (kind : CodeKind) (content : Text)
  | html (lines : List HtmlLine)
  | rule
  | quote (inside : List Block)
  | list (start : Option Nat) (tight : Bool) (items : List (List Block))
  | table (alignments : List Alignment) (head : List Text) (rows : List (List Text))
deriving Repr

/-- What running text needs to be read. -/
structure TextReader where
  strikethrough : Bool
  definitions : Link.Definitions

namespace TextReader

def events (r : TextReader) (inTable trimEnd : Bool) (s : Text) : List Event :=
  Inline.eventsOfList (Inline.read ⟨r.strikethrough, r.definitions, inTable, trimEnd⟩ s)

def taskEvents (task : Option Bool) : List Event := task.toList.map .taskMarker

def paragraph (r : TextReader) (task : Option Bool) (s : Text) : List Event :=
  taskEvents task ++ r.events false true s

def cell (r : TextReader) (s : Text) : List Event := Event.within .tableCell (r.events true true s)

def row (r : TextReader) (tag : Tag) (cells : List Text) : List Event :=
  Event.within tag (cells.flatMap r.cell)

end TextReader

def HtmlLine.events (l : HtmlLine) : List Event :=
  (if l.indentation = [] then [] else [.text l.indentation]) ++ [.html l.content]

namespace Block

mutual

/-- In a tight item paragraphs are not marked as such. -/
def events (r : TextReader) (tight : Bool) : Block → List Event
  | paragraph box s => if tight then r.paragraph box s else Event.within .paragraph (r.paragraph box s)
  | underlined level box s => Event.within (.heading level) (r.paragraph box s)
  | heading level s => Event.within (.heading level) (r.events false false s)
  | task checked => [.taskMarker checked]
  | code kind s => Event.within (.code kind) (if s = [] then [] else [.text s])
  | html lines => Event.within .htmlBlock (lines.flatMap HtmlLine.events)
  | rule => [.rule]
  | quote inside => Event.within .blockQuote (eventsOfList r false inside)
  | list start tight items => Event.within (.list start) (eventsOfItems r tight items)
  | table alignments head rows =>
    Event.within (.table alignments) (r.row .tableHead head ++ rows.flatMap (r.row .tableRow))

def eventsOfList (r : TextReader) (tight : Bool) : List Block → List Event
  | [] => []
  | b :: bs => events r tight b ++ eventsOfList r tight bs

def eventsOfItems (r : TextReader) (tight : Bool) : List (List Block) → List Event
  | [] => []
  | item :: items => Event.within .item (eventsOfList r tight item) ++ eventsOfItems r tight items

end

end Block
end Markweave.Markdown
