import Markweave.Text

namespace Markweave.Markdown

inductive Alignment
  | none
  | left
  | center
  | right
deriving Repr, DecidableEq

inductive HeadingLevel
  | h1
  | h2
  | h3
  | h4
  | h5
  | h6
deriving Repr, DecidableEq

namespace HeadingLevel

def number : HeadingLevel → Nat
  | h1 => 1
  | h2 => 2
  | h3 => 3
  | h4 => 4
  | h5 => 5
  | h6 => 6

def ofNat? : Nat → Option HeadingLevel
  | 1 => some h1
  | 2 => some h2
  | 3 => some h3
  | 4 => some h4
  | 5 => some h5
  | 6 => some h6
  | _ => none

end HeadingLevel

inductive CodeKind
  | fenced (info : Text)
  | indented
deriving Repr, DecidableEq

/-- What starts an element. -/
inductive Tag
  | paragraph
  | heading (level : HeadingLevel)
  | blockQuote
  | code (kind : CodeKind)
  | htmlBlock
  /-- A numbered list has the number of its first item. -/
  | list (start : Option Nat)
  | item
  | footnote (label : Text)
  | metadata
  | definitionList
  | definitionTitle
  | definition
  | table (alignments : List Alignment)
  | tableHead
  | tableRow
  | tableCell
  | emphasis
  | strong
  | strikethrough
  | superscript
  | subscript
  | link (url title : Text)
  | image (url title : Text)
deriving Repr, DecidableEq

/-- What stops an element. -/
inductive StopTag
  | paragraph
  | heading (level : HeadingLevel)
  | blockQuote
  | code
  | htmlBlock
  | list (ordered : Bool)
  | item
  | footnote
  | metadata
  | definitionList
  | definitionTitle
  | definition
  | table
  | tableHead
  | tableRow
  | tableCell
  | emphasis
  | strong
  | strikethrough
  | superscript
  | subscript
  | link
  | image
deriving Repr, DecidableEq

/-- The stop that belongs to a start. -/
def Tag.stop : Tag → StopTag
  | paragraph => .paragraph
  | heading level => .heading level
  | blockQuote => .blockQuote
  | code _ => .code
  | htmlBlock => .htmlBlock
  | list start => .list start.isSome
  | item => .item
  | footnote _ => .footnote
  | metadata => .metadata
  | definitionList => .definitionList
  | definitionTitle => .definitionTitle
  | definition => .definition
  | table _ => .table
  | tableHead => .tableHead
  | tableRow => .tableRow
  | tableCell => .tableCell
  | emphasis => .emphasis
  | strong => .strong
  | strikethrough => .strikethrough
  | superscript => .superscript
  | subscript => .subscript
  | link _ _ => .link
  | image _ _ => .image

inductive Event
  | start (tag : Tag)
  | stop (tag : StopTag)
  | text (s : Text)
  | code (s : Text)
  | html (s : Text)
  | inlineHtml (s : Text)
  | softBreak
  | hardBreak
  | rule
  | taskMarker (checked : Bool)
  | footnoteReference (label : Text)
  | inlineMath (s : Text)
  | displayMath (s : Text)
deriving Repr, DecidableEq

/-- Joins texts that stand side by side. -/
def Event.mergeText : List Event → List Event
  | [] => []
  | .text s :: es =>
    match mergeText es with
    | .text t :: more => .text (s ++ t) :: more
    | more => .text s :: more
  | e :: es => e :: mergeText es

/-- The events of an element with these events inside. -/
def Event.within (tag : Tag) (inside : List Event) : List Event :=
  .start tag :: (inside ++ [.stop tag.stop])

end Markweave.Markdown
