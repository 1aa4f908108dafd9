import Markweave.Directive.Interpreter
import Markweave.Html.Escape
import Markweave.Html.InlineToken
import Markweave.Markdown.Event
import Markweave.Source.Fence

namespace Markweave.Html

open Markdown (CodeKind Event Tag StopTag)
open Directive (Interpreter)

/-- Text between the halves of a splitter. -/
def splitterMark : Text := ":|:"

structure CodeState where
  active : Bool
  /-- Of the last code that started, also after it has stopped. -/
  fenced : Bool
  info : Text
  content : Text
deriving Repr, DecidableEq

structure ImageState where
  active : Bool
  source : Text
  title : Text
  description : Text
deriving Repr, DecidableEq

structure TableState where
  inHead : Bool
  alignments : List Markdown.Alignment
  cell : UInt64
deriving Repr, DecidableEq

/-- Text inside code and images is collected and written when they stop, raw HTML is collected over a block.
Stops are not checked against starts. -/
structure Writer where
  interpreter : Interpreter
  codeMarker : Text
  suppressHtml : Bool
  code : CodeState
  image : ImageState
  table : TableState
  /-- The raw HTML of the block that is open. -/
  block : Option Text
deriving Repr, DecidableEq

def CodeState.idle : CodeState := ⟨false, false, [], []⟩

def ImageState.idle : ImageState := ⟨false, [], [], []⟩

def TableState.initial : TableState := ⟨false, [], 0⟩

def TableState.cellName (t : TableState) : Text := if t.inHead then "th" else "td"

/-- Cells beyond the list of alignments have none. -/
def TableState.alignAttribute (t : TableState) : List Attribute :=
  match t.alignments[t.cell.toNat]? with
  | some .left => [.of "align" "left"]
  | some .center => [.of "align" "center"]
  | some .right => [.of "align" "right"]
  | some .none => []
  | none => []

namespace Writer

def ofConfig (c : RenderConfig) : Writer where
  interpreter := .ofConfig c
  codeMarker := c.codeMarker
  suppressHtml := c.extensions.suppressHtml
  code := .idle
  image := .idle
  table := .initial
  block := none

def classAttribute (w : Writer) (name : Text) : List Attribute :=
  w.interpreter.styles.classAttribute name

/-- An opening tag with the classes that are in force for its name. -/
def openTag (w : Writer) (name : Text) : Markup := .opening name (w.classAttribute name)

def plain (name : Text) : Markup := .opening name []

def titleAttribute (title : Text) : List Attribute :=
  if title = [] then [] else [.of "title" (escape title)]

def directive (w : Writer) (raw : Text) : Writer × List Markup :=
  let (outcome, interpreter) := w.interpreter.interpret raw
  ({ w with interpreter }, outcome.html)

/-- Text without markup is escaped, on both sides of a splitter if there is one. -/
def plainText (w : Writer) (s : Text) : List Markup :=
  match Text.cut? splitterMark s with
  | some (left, right) => w.interpreter.splitter (escape left) (escape right)
  | none => [.verbatim (escape s)]

/-- Writes pieces one after the other, plain ones by `writePlain`. -/
def pieces (writePlain : Writer → Text → List Markup) :
    Writer → List (Piece InlineToken) → Writer × List Markup
  | w, [] => (w, [])
  | w, .plain s :: ps =>
    let (w', rest) := pieces writePlain w ps
    (w', writePlain w s ++ rest)
  | w, .found .lineBreak :: ps =>
    let (w', rest) := pieces writePlain w ps
    (w', w.openTag "br" :: rest)
  | w, .found (.directive raw) :: ps =>
    let (w', html) := w.directive raw
    let (w'', rest) := pieces writePlain w' ps
    (w'', html ++ rest)

def rawText (w : Writer) (s : Text) : List Markup :=
  [.verbatim (if w.suppressHtml then escapeLenient s else s)]

def text (w : Writer) (s : Text) : Writer × List Markup :=
  if w.code.active then ({ w with code.content := w.code.content ++ s }, [])
  else if w.image.active then ({ w with image.description := w.image.description ++ s }, [])
  else pieces plainText w (inlinePieces s)

def inlineCode (w : Writer) (s : Text) : Writer × List Markup :=
  if w.image.active then ({ w with image.description := w.image.description ++ s }, [])
  else (w, [w.openTag "code", .verbatim (escape s), .closing "code"])

def rawHtml (w : Writer) (s : Text) : Writer × List Markup := pieces rawText w (inlinePieces s)

def html (w : Writer) (s : Text) : Writer × List Markup :=
  match w.block with
  | some collected => ({ w with block := some (collected ++ s) }, [])
  | none => w.rawHtml s

def softBreak (w : Writer) : Writer × List Markup :=
  if w.code.active then ({ w with code.content := w.code.content ++ ['\n'] }, [])
  else (w, [.verbatim ['\n']])

def taskMarker (checked : Bool) : Markup :=
  .opening "input" <|
    [.of "type" "checkbox", ⟨"disabled", none⟩] ++ if checked then [⟨"checked", none⟩] else []

def startCode (w : Writer) : CodeKind → Writer
  | .fenced info => { w with code := ⟨true, true, info, []⟩ }
  | .indented => { w with code := ⟨true, false, [], []⟩ }

/-- A list that starts at one needs no number. -/
def startList (w : Writer) : Option Nat → Markup
  | none => w.openTag "ul"
  | some 1 => w.openTag "ol"
  | some n => .opening "ol" (w.classAttribute "ol" ++ [.of "start" (Text.ofNat n)])

def start (w : Writer) : Tag → Writer × List Markup
  | .paragraph => (w, [w.openTag "p"])
  | .heading level => (w, [w.openTag ("h" ++ Text.ofNat level.number)])
  | .blockQuote => (w, [w.openTag "blockquote"])
  | .code kind => (w.startCode kind, [])
  | .htmlBlock => ({ w with block := some [] }, [])
  | .list first => (w, [w.startList first])
  | .item => (w, [w.openTag "li"])
  | .footnote _ => (w, [])
  | .metadata => (w, [])
  | .definitionList => (w, [w.openTag "dl"])
  | .definitionTitle => (w, [w.openTag "dt"])
  | .definition => (w, [w.openTag "dd"])
  | .table alignments => ({ w with table := ⟨false, alignments, 0⟩ }, [w.openTag "table"])
  | .tableHead =>
    ({ w with table := { w.table with inHead := true, cell := 0 } },
      [w.openTag "thead", w.openTag "tr"])
  | .tableRow => ({ w with table.cell := 0 }, [w.openTag "tr"])
  | .tableCell =>
    let name := w.table.cellName
    (w, [.opening name (w.classAttribute name ++ w.table.alignAttribute)])
  | .emphasis => (w, [plain "em"])
  | .strong => (w, [plain "strong"])
  | .strikethrough => (w, [plain "del"])
  | .superscript => (w, [plain "sup"])
  | .subscript => (w, [plain "sub"])
  | .link url title =>
    (w, [.opening "a" (w.classAttribute "a" ++ .of "href" (escape url) :: titleAttribute title)])
  | .image url title => ({ w with image := ⟨true, url, title, []⟩ }, [])

/-- The element by which code is found again: its first line is the info string. -/
def codeElement (w : Writer) : List Markup :=
  let content := if w.code.fenced then Source.restoreBlankLines w.code.content else w.code.content
  [.opening "code" [.of "class" w.codeMarker], .verbatim (escapeLenient w.code.info), .verbatim ['\n'],
    .verbatim (escapeLenient content), .closing "code"]

def imageElement (w : Writer) : Markup :=
  .standalone "img" <| w.classAttribute "img" ++
    .of "src" (escape w.image.source) :: .of "alt" (escape w.image.description) ::
      titleAttribute w.image.title

def stopBlock (w : Writer) : Writer × List Markup :=
  match w.block with
  | some collected => { w with block := none }.rawHtml collected
  | none => (w, [])

def stop (w : Writer) : StopTag → Writer × List Markup
  | .paragraph => (w, [.closing "p"])
  | .heading level => (w, [.closing ("h" ++ Text.ofNat level.number)])
  | .blockQuote => (w, [.closing "blockquote"])
  | .code => ({ w with code := ⟨false, w.code.fenced, [], []⟩ }, w.codeElement)
  | .htmlBlock => w.stopBlock
  | .list ordered => (w, [.closing (if ordered then "ol" else "ul")])
  | .item => (w, [.closing "li"])
  | .footnote => (w, [])
  | .metadata => (w, [])
  | .definitionList => (w, [.closing "dl"])
  | .definitionTitle => (w, [.closing "dt"])
  | .definition => (w, [.closing "dd"])
  | .table => (w, [.closing "tbody", .closing "table"])
  | .tableHead =>
    ({ w with table.inHead := false }, [.closing "tr", .closing "thead", w.openTag "tbody"])
  | .tableRow => (w, [.closing "tr"])
  | .tableCell => ({ w with table.cell := w.table.cell + 1 }, [.closing w.table.cellName])
  | .emphasis => (w, [.closing "em"])
  | .strong => (w, [.closing "strong"])
  | .strikethrough => (w, [.closing "del"])
  | .superscript => (w, [.closing "sup"])
  | .subscript => (w, [.closing "sub"])
  | .link => (w, [.closing "a"])
  | .image => ({ w with image := .idle }, [w.imageElement])

def step (w : Writer) : Event → Writer × List Markup
  | .start tag => w.start tag
  | .stop tag => w.stop tag
  | .text s => w.text s
  | .code s => w.inlineCode s
  | .html s => w.html s
  | .inlineHtml s => w.html s
  | .softBreak => w.softBreak
  | .hardBreak => (w, [w.openTag "br"])
  | .rule => (w, [w.openTag "hr"])
  | .taskMarker checked => (w, [taskMarker checked])
  | .footnoteReference _ => (w, [])
  | .inlineMath _ => (w, [])
  | .displayMath _ => (w, [])

def run : Writer → List Event → Writer × List Markup
  | w, [] => (w, [])
  | w, e :: es =>
    let (w', html) := w.step e
    let (w'', rest) := run w' es
    (w'', html ++ rest)

end Writer

/-- What is written when the events end; code, an image or an HTML block still open writes nothing. -/
def write (c : RenderConfig) (events : List Event) : List Markup :=
  ((Writer.ofConfig c).run events).2

end Markweave.Html
