import Markweave.Markdown.Block
import Markweave.Markdown.Table

namespace Markweave.Markdown

structure OpenItem where
  /-- The columns by which lines of the item are indented. -/
  indent : Nat
  /-- Finished blocks, last first. -/
  blocks : List Block
deriving Repr

structure OpenList where
  mark : Char
  start : Option Nat
  tight : Bool
  /-- Finished items, last first. -/
  items : List (List Block)
  item : Option OpenItem
deriving Repr

/-- A quote, or a list; only a list whose item is open can have something inside. -/
inductive Frame
  | quote (blocks : List Block)
  | list (l : OpenList)
deriving Repr

/-- The block whose lines are coming. -/
inductive Leaf
  | none
  /-- Paragraph text with the end of its last line; the number of its lines. -/
  | paragraph (task : Option Bool) (content : Text) (lines : Nat)
  | fenced (fence : Marker.Fence) (indent : Nat) (info content : Text)
  /-- Indented code, and blank lines that belong to it only if more code follows. -/
  | indented (content blanks : Text)
  /-- Lines of raw HTML, last first. -/
  | html (ending : RawHtml.BlockEnd) (lines : List HtmlLine)
  | table (alignments : List Alignment) (head : List Text) (rows : List (List Text))
deriving Repr

/-- The item that is open counts as finished. -/
def OpenList.closeItem (l : OpenList) : OpenList :=
  match l.item with
  | some item => { l with items := item.blocks.reverse :: l.items, item := none }
  | none => l

namespace Frame

def add (b : Block) : Frame → Frame
  | quote blocks => quote (b :: blocks)
  | list l =>
    match l.item with
    | some item => list { l with item := some { item with blocks := b :: item.blocks } }
    | none => list { l with items := [b] :: l.items }

def toBlock : Frame → Block
  | quote blocks => .quote blocks.reverse
  | list l => .list l.start l.tight l.closeItem.items.reverse

/-- The mark of a quote and a blank that may follow it. -/
def quoteMark? (c : Cursor) : Option Cursor :=
  let (_, inside) := c.skip 3
  match inside.rest with
  | '>' :: _ => some ((inside.advance 1).skip 1).2
  | _ => none

/-- The place in a line behind what shows that the frame goes on. A list between two items always
does; an item does if the line is indented far enough or blank. -/
def enter? (c : Cursor) : Frame → Option Cursor
  | quote _ => quoteMark? c
  | list l =>
    match l.item with
    | none => some c
    | some item =>
      match c.skip item.indent with
      | (0, inside) => some inside
      | (_, inside) => if atLineEnd inside.rest then some inside else none

/-- How many frames go on in a line, outermost first, and the place behind them. -/
def enterAll (c : Cursor) : List Frame → Nat × Cursor
  | [] => (0, c)
  | f :: fs =>
    match f.enter? c with
    | some inside =>
      let (n, inside) := enterAll inside fs
      (n + 1, inside)
    | none => (0, c)

end Frame

namespace Leaf

/-- A paragraph ends without the end of its last line. -/
def dropFinalEnd (s : Text) : Text :=
  match s.reverse with
  | '\n' :: '\r' :: t => t.reverse
  | c :: t => if isLineEnd c then t.reverse else s
  | [] => s

def toBlock? : Leaf → Option Block
  | none => .none
  | paragraph task content _ => some (.paragraph task (dropFinalEnd content))
  | fenced _ _ info content => some (.code (.fenced info) content)
  | indented content _ => some (.code .indented content)
  | html _ lines => some (.html lines.reverse)
  | table alignments head rows => some (.table alignments head rows.reverse)

/-- Blank lines behind indented code. -/
def endsBlank : Leaf → Bool
  | indented _ blanks => blanks ≠ []
  | _ => false

end Leaf

/-- Quotes and lists around each other, and in the innermost of them the block whose lines are still coming. -/
structure Outline where
  /-- Open quotes and lists, innermost first. -/
  frames : List Frame
  /-- Finished blocks outside all of them, last first. -/
  blocks : List Block
  leaf : Leaf
  definitions : Link.Definitions
  /-- The last line was blank and nothing has come since. -/
  lastBlank : Bool
  /-- The innermost item has only its mark so far. -/
  emptyItem : Bool
  /-- The box of an item whose text is still to come. -/
  task : Option Bool
deriving Repr

namespace Outline

def empty : Outline := ⟨[], [], .none, [], false, false, none⟩

def add (o : Outline) (b : Block) : Outline :=
  match o.frames with
  | [] => { o with blocks := b :: o.blocks }
  | top :: below => { o with frames := top.add b :: below }

def closeTop (o : Outline) : Outline :=
  match o.frames with
  | [] => o
  | top :: below => { o with frames := below }.add top.toBlock

/-- Leaves a number of frames; of a list outermost among them only the item is left. -/
def leave : Nat → Outline → Outline
  | 0, o => o
  | 1, o =>
    match o.frames with
    | .list l :: below => { o with frames := .list l.closeItem :: below }
    | _ => o.closeTop
  | n + 1, o => leave n o.closeTop

def closeLeaf (o : Outline) : Outline :=
  match o.leaf.toBlock? with
  | none => o
  | some b => { o with leaf := .none, lastBlank := o.lastBlank || o.leaf.endsBlank }.add b

/-- The frames that go on in a line, and the place behind their marks. -/
def enter (o : Outline) (s : Text) : Nat × Cursor := Frame.enterAll (.start s) o.frames.reverse

/-- The place behind the marks of all frames, if they all go on. -/
def enterAll? (o : Outline) (s : Text) : Option Cursor :=
  match o.enter s with
  | (n, inside) => if n = o.frames.length then some inside else none

/-- A blank line before more blocks of an item makes its list loose. -/
def loosen (o : Outline) : Outline :=
  if !o.lastBlank then o
  else
    let frames := match o.frames with
      | .list l :: below => if l.item.isSome then .list { l with tight := false } :: below else o.frames
      | frames => frames
    { o with frames, lastBlank := false }

/-- A list between two items ends where something else begins. -/
def finishList (o : Outline) : Outline :=
  match o.frames with
  | .list l :: _ => if l.item.isNone then o.closeTop.loosen else o.loosen
  | _ => o.loosen

def startList (o : Outline) (m : Marker.ListMark) (indent : Nat) : Outline :=
  let start := if m.isOrdered then some m.number else none
  let l : OpenList := ⟨m.mark, start, true, [], some ⟨indent, []⟩⟩
  { o with frames := .list l :: o.frames, lastBlank := false }

/-- An item of the list that stands between two items if the mark is the same, else of a new one. -/
def openItem (o : Outline) (m : Marker.ListMark) (indent : Nat) : Outline :=
  match o.frames with
  | .list l :: below =>
    if l.item.isNone && l.mark == m.mark then
      let l := { l with tight := l.tight && !o.lastBlank, item := some ⟨indent, []⟩ }
      { o with frames := .list l :: below, lastBlank := false }
    else o.finishList.startList m indent
  | _ => o.finishList.startList m indent

/-- A blank line between blocks. An item that had nothing but its mark ends with it; directly in a
quote it does not count. -/
def blankLine (o : Outline) : Outline :=
  match o.frames with
  | .quote _ :: _ => o
  | .list l :: below =>
    if o.emptyItem then
      { o with frames := .list l.closeItem :: below, emptyItem := false, lastBlank := true }
    else { o with lastBlank := true }
  | [] => { o with lastBlank := true }

/-- Everything that is still open ends. -/
def finish (o : Outline) : List Block :=
  let o := o.closeLeaf
  (o.frames.foldl (fun (o : Outline) _ => o.closeTop) o).blocks.reverse

end Outline
end Markweave.Markdown
