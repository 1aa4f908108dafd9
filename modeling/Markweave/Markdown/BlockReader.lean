import Markweave.Markdown.Outline

namespace Markweave.Markdown

/-- The parts of the language that can be switched on. -/
structure Options where
  tables : Bool
  strikethrough : Bool
  taskLists : Bool
deriving Repr, DecidableEq

namespace BlockReader

open Marker

variable (opts : Options)

/-- A line that begins a table by its first character alone: a heading line over dashes for as many
columns. -/
def isHeavyTable (o : Outline) (s : Text) : Bool :=
  opts.tables && s.head? == some '|' &&
    let (line, _, below) := cutLine s
    ((o.enterAll? below).bind Table.dashLine?).any fun (as, _) => as.length = Table.headingColumns line

/-- What ends a paragraph, or a table if an item may begin with any number. -/
def endsText (entered anyNumber : Bool) (s : Text) : Bool :=
  atLineEnd s || (thematicBreak? s).isSome || (headingLevel? s).isSome || (fence? s).isSome ||
    s.head? == some '>' || interruptsAsItem (anyNumber || !entered) s || RawHtml.opensComment s

def endsParagraph (o : Outline) (entered : Bool) (s : Text) : Bool :=
  endsText entered false s || (entered && isHeavyTable opts o s)

/-- What is left of a line that goes on with what stands above it. -/
def continueLine? (o : Outline) (s : Text) : Option Text :=
  let (n, inside) := o.enter s
  let entered := n = o.frames.length
  match inside.skip 4 with
  | (0, behind) => some behind.rest
  | (_, behind) =>
    if endsParagraph opts o entered behind.rest || (entered && (underline? behind.rest).isSome) then none
    else some behind.rest

/-- Blanks with at most one line end among them; also says whether there was one. -/
def skipToNext? (o : Outline) (s : Text) : Option (Bool × Text) :=
  let s := s.dropWhile isInlineBlank
  match dropLineEnd? s with
  | none => some (false, s)
  | some next =>
    (continueLine? opts o next).bind fun next =>
      let next := next.dropWhile isInlineBlank
      if atLineEnd next then none else some (true, next)

/-- A title may go over lines that are not blank. -/
def titleLine (o : Outline) : Link.NextLine := fun s =>
  let (_, inside) := o.enter s
  if isBlank inside.rest then none else some inside.rest

/-- The title of a definition and what follows, given what follows its destination; they must not
touch. A title on a line of its own that is none, or has something behind it, is not part of the
definition. -/
def definitionEnd? (o : Outline) (s : Text) : Option (Text × Text) :=
  match skipToNext? opts o s with
  | none => some ([], s)
  | some (onNextLine, next) =>
    if next.length = s.length then none
    else match Link.title? false (titleLine o) next with
    | some (title, rest) =>
      if isBlank rest then some (title, rest) else if onNextLine then some ([], s) else none
    | none => if onNextLine then some ([], s) else none

/-- A label, its target, and what follows. -/
def definition? (o : Outline) (s : Text) : Option (Text × Link.Target × Text) :=
  match s with
  | '[' :: s => do
    let (label, rest) ← Link.label? (continueLine? opts o) s
    let (_, rest) ← skipToNext? opts o (← Text.dropStart? ":" rest)
    let (url, behind) ← Link.destination? Link.definitionNesting rest
    if behind.length = rest.length then none
    else
      let (title, rest) ← definitionEnd? opts o behind
      some (label, ⟨Link.unescape false url, title⟩, (dropBlankLine? rest).getD rest)
  | _ => none

/-- Opens the frames whose marks stand at a place; so many may be opened. Nothing is left to do on a line
that ends with the mark of an item. -/
def openFrames : Nat → Outline → Cursor → Outline × Cursor × Bool
  | 0, o, c => (o, c, false)
  | n + 1, o, c =>
    match c.skip 4 with
    | (0, _) => (o, c, false)
    | (missing, mark) =>
      match listItem? mark with
      | some (m, indent, content) =>
        let o := o.openItem m (4 - missing + indent)
        match dropBlankLine? content.rest with
        | some rest => ({ o with emptyItem := true }, ⟨rest, 0, 0⟩, true)
        | none =>
          match if opts.taskLists then taskBox? content else none with
          | none => openFrames n o content
          | some (checked, behind) =>
            match dropBlankLine? behind.rest with
            | some rest => ({ o.add (.task checked) with emptyItem := true }, ⟨rest, 0, 0⟩, true)
            | none => openFrames n { o with task := some checked } behind
      | none =>
        match Frame.quoteMark? c with
        | some inside =>
          let o := o.finishList
          openFrames n { o with frames := .quote [] :: o.frames } inside
        | none => (o, c, false)

def startIndented (o : Outline) (c : Cursor) : Outline × Text :=
  let (line, rest) := cutFullLine c.rest
  ({ o with leaf := .indented (c.indentation ++ unifyLine line) [] }, rest)

/-- A line of raw HTML; a comment block ends with the line that closes it. -/
def addHtml (o : Outline) (ending : RawHtml.BlockEnd) (lines : List HtmlLine) (indentation s : Text) :
    Outline × Text :=
  let (line, rest) := cutFullLine s
  let o := { o with leaf := .html ending (⟨indentation, unifyLine line⟩ :: lines) }
  if ending = .comment && Text.contains "-->" line then (o.closeLeaf, rest) else (o, rest)

def startHeading (o : Outline) (level : HeadingLevel) (s : Text) : Outline × Text :=
  let behind := s.drop level.number
  match dropLineEnd? behind with
  | some rest => (o.add (.heading level []), rest)
  | none =>
    let (line, rest) := cutFullLine (behind.dropWhile isInlineBlank)
    (o.add (.heading level (headingContent line)), rest)

def startFenced (o : Outline) (f : Fence) (indent : Nat) (behind : Text) : Outline × Text :=
  let (line, rest) := cutFullLine (behind.dropWhile isInlineBlank)
  let info := Link.unescape false (Text.dropEndWhile isAsciiBlank line)
  ({ o with leaf := .fenced f indent info [] }, rest)

def startParagraph (o : Outline) (s : Text) : Outline × Text :=
  let (line, lineEnd, rest) := cutLine s
  ({ o with leaf := .paragraph o.task (line ++ lineEnd) 1, task := none }, rest)

/-- A block that has no frame, on a line that is not blank. -/
def startLeaf (o : Outline) (c : Cursor) : Outline × Text :=
  match c.skip 4 with
  | (0, code) => startIndented o code
  | (missing, place) =>
    let indent := 4 - missing
    let s := place.rest
    match RawHtml.blockStart? s with
    | some ending => addHtml o ending [] (List.replicate (max c.pending indent) ' ') s
    | none =>
      match thematicBreak? s with
      | some rest => (o.add .rule, rest)
      | none =>
        match headingLevel? s with
        | some level => startHeading o level s
        | none =>
          match fence? s with
          | some (f, behind) => startFenced o f indent behind
          | none =>
            match definition? opts o s with
            | some (label, target, rest) =>
              ({ o with definitions := o.definitions.add label target }, rest)
            | none => startParagraph o s

def startBlock (o : Outline) (s : Text) : Outline × Text :=
  let (n, inside) := o.enter s
  match openFrames opts s.length (o.leave (o.frames.length - n)) inside with
  | (o, c, true) => (o, c.rest)
  | (o, c, false) =>
    match dropBlankLine? c.rest with
    | some rest => (o.blankLine, rest)
    | none => startLeaf opts { o.finishList with emptyItem := false } c

/-- The dashes under the first line of a paragraph that make a table of it. -/
def table? (o : Outline) (content : Text) (lines : Nat) (s : Text) : Option (Leaf × Text) :=
  let heading := (cutLine content).1
  let columns := Table.headingColumns heading
  if !opts.tables || lines ≠ 1 || columns = 0 then none
  else do
    let (alignments, rest) ← Table.dashLine? (← o.enterAll? s)
    if alignments.length = columns then
      some (.table alignments (Table.fit columns (Table.cells heading)) [], rest)
    else none

def continueParagraph (o : Outline) (task : Option Bool) (content : Text) (lines : Nat) (s : Text) :
    Outline × Text :=
  match table? opts o content lines s with
  | some (leaf, rest) => ({ o with leaf }, rest)
  | none =>
    let (n, inside) := o.enter s
    let entered := n = o.frames.length
    let (missing, place) := inside.skip 4
    match if missing ≠ 0 && entered then underline? place.rest else none with
    | some (level, rest) =>
      ({ o with leaf := .none }.add (.underlined level task (Leaf.dropFinalEnd content)), rest)
    | none =>
      if (missing ≠ 0 && endsParagraph opts o entered place.rest) || atLineEnd place.skipAll.rest then
        startBlock opts o.closeLeaf s
      else
        let (line, lineEnd, rest) := cutLine inside.rest
        ({ o with leaf := .paragraph task (content ++ line ++ lineEnd) (lines + 1) }, rest)

def continueFenced (o : Outline) (f : Fence) (indent : Nat) (info content : Text) (c : Cursor) :
    Outline × Text :=
  let (_, place) := c.skip indent
  let (missing, mark) := place.skip (4 - indent)
  match if missing ≠ 0 then fenceEnd? f mark.rest else none with
  | some rest => (o.closeLeaf, rest)
  | none =>
    let (line, rest) := cutFullLine place.rest
    ({ o with leaf := .fenced f indent info (content ++ place.indentation ++ unifyLine line) }, rest)

def continueIndented (o : Outline) (content blanks : Text) (c : Cursor) (s : Text) : Outline × Text :=
  let (missing, place) := c.skip 4
  if missing ≠ 0 && !atLineEnd place.rest then startBlock opts o.closeLeaf s
  else
    let (line, rest) := cutFullLine place.rest
    let line := place.indentation ++ unifyLine line
    if isBlank place.rest then ({ o with leaf := .indented content (blanks ++ line) }, rest)
    else ({ o with leaf := .indented (content ++ blanks ++ line) [] }, rest)

def continueHtml (o : Outline) (ending : RawHtml.BlockEnd) (lines : List HtmlLine) (c : Cursor)
    (s : Text) : Outline × Text :=
  if c.rest = [] || (ending = .blankLine && isBlank c.rest) then startBlock opts o.closeLeaf s
  else addHtml o ending lines c.indentation c.rest

def continueTable (o : Outline) (alignments : List Alignment) (head : List Text)
    (rows : List (List Text)) (c : Cursor) (s : Text) : Outline × Text :=
  let place := c.skipAll.rest
  let (line, _, rest) := cutLine place
  let cells := Table.cells line
  if endsText true true place || cells = [] then startBlock opts o.closeLeaf s
  else
    let row := Table.fit alignments.length cells
    ({ o with leaf := .table alignments head (row :: rows) }, rest)

/-- Uses up a line or more. -/
def step (o : Outline) (s : Text) : Outline × Text :=
  match o.leaf with
  | .none => startBlock opts o s
  | .paragraph task content lines => continueParagraph opts o task content lines s
  | leaf =>
    match o.enterAll? s with
    | none => startBlock opts o.closeLeaf s
    | some c =>
      match leaf with
      | .fenced f indent info content => continueFenced o f indent info content c
      | .indented content blanks => continueIndented opts o content blanks c s
      | .html ending lines => continueHtml opts o ending lines c s
      | .table alignments head rows => continueTable opts o alignments head rows c s
      | _ => startBlock opts o s

/-- Reads a text from a place on; so many of its characters are used up already. -/
def run : Outline → Nat → Text → Outline
  | o, _, [] => o
  | o, n + 1, _ :: s => run o n s
  | o, 0, c :: s =>
    let (o, rest) := step opts o (c :: s)
    run o (s.length - rest.length) s

end BlockReader
end Markweave.Markdown
