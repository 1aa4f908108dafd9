import Markweave.Diagram
import Markweave.HeadingIds
import Markweave.Html.Writer
import Markweave.Markdown.Document
import Markweave.Source.Prepare

namespace Markweave

/-- Why a document has no HTML. Times are nanoseconds. -/
inductive RenderError
  | parseTimeout {elapsed limit : Nat}
deriving Repr, DecidableEq

namespace Text

/-- A number of units, each a power of ten of smaller ones, with decimals; zeros at their end are left out. -/
def ofUnits (unit n : Nat) : Text :=
  let decimals := dropEndWhile (· = '0') ((ofNat (unit + n % unit)).drop 1)
  ofNat (n / unit) ++ if decimals = [] then [] else '.' :: decimals

/-- A time in nanoseconds, in the largest unit of which it has one. -/
def ofNanoseconds (n : Nat) : Text :=
  if 1000000000 ≤ n then ofUnits 1000000000 n ++ "s"
  else if 1000000 ≤ n then ofUnits 1000000 n ++ "ms"
  else if 1000 ≤ n then ofUnits 1000 n ++ "µs"
  else ofUnits 1 n ++ "ns"

example : [2000000000, 1500000, 12003, 7].map ofNanoseconds =
    ["2s", "1.5ms", "12.003µs", "7ns"].map String.toList := by decide

end Text

def RenderError.message : RenderError → Text
  | @parseTimeout elapsed limit =>
    "markdown parsing exceeded " ++ Text.ofNanoseconds limit ++ " (gave up after " ++ Text.ofNanoseconds elapsed ++ ")"

/-- The nanoseconds since the document was begun, read before the event of a given index. -/
abbrev Clock := Nat → Nat

namespace Rendering

/-- The clock is read before every 64th event and after the last one. -/
def checkpoints (events : Nat) : List Nat := (List.range events).filter (· % 64 = 0) ++ [events]

/-- The first reading of the clock beyond a limit. -/
def overrun? (limit : Nat) (clock : Clock) (events : Nat) : Option Nat :=
  ((checkpoints events).map clock).find? (limit < ·)

def serialize (c : RenderConfig) (clock : Clock) (events : List Markdown.Event) :
    Except RenderError Text :=
  match overrun? c.nanoseconds clock events.length with
  | some elapsed => .error (@RenderError.parseTimeout elapsed c.nanoseconds)
  | none => .ok (Html.writeAll (Html.write c events))

/-- Spellings that are put right in written HTML. -/
def entityFixups : List Substitution := [⟨"&mdash;", "---"⟩, ⟨"&amp;gt;", "&gt;"⟩]

/-- Code becomes numbered placeholders, then headings receive their ids. -/
def numberElements (stylePrefix : Text) (ids : IdCounter) (html : Text) : Text × IdCounter :=
  let (html, ids) := Diagram.extract stylePrefix ids html
  HeadingIds.inject ids (Substitution.applyAll entityFixups html)

/-- Everything that happens to written HTML. -/
def finish (stylePrefix : Text) (ids : IdCounter) (html : Text) : Text × IdCounter :=
  numberElements stylePrefix ids (Source.ellipsis.apply html)

/-- Nothing is drawn from the counter for a document that runs out of time. -/
def ofEvents (c : RenderConfig) (clock : Clock) (ids : IdCounter) (events : List Markdown.Event) :
    Except RenderError Text × IdCounter :=
  match serialize c clock events with
  | .error e => (.error e, ids)
  | .ok html =>
    let (html, ids) := finish c.stylePrefix ids html
    (.ok html, ids)

theorem ofEvents_late {c : RenderConfig} {clock : Clock} {events : List Markdown.Event}
    {elapsed : Nat} (h : overrun? c.nanoseconds clock events.length = some elapsed) (ids : IdCounter) :
    ofEvents c clock ids events = (.error (@RenderError.parseTimeout elapsed c.nanoseconds), ids) := by
  rw [ofEvents, serialize, h]

theorem ofEvents_inTime {c : RenderConfig} {clock : Clock} {events : List Markdown.Event}
    (h : overrun? c.nanoseconds clock events.length = none) (ids : IdCounter) :
    ofEvents c clock ids events =
      (.ok (finish c.stylePrefix ids (Html.writeAll (Html.write c events))).1,
        (finish c.stylePrefix ids (Html.writeAll (Html.write c events))).2) := by
  rw [ofEvents, serialize, h]

def markdownOptions (e : Extensions) : Markdown.Options := ⟨e.tables, e.strikethrough, e.taskLists⟩

/-- The events of a document as its author wrote it. -/
def events (c : RenderConfig) (document : Text) : List Markdown.Event :=
  Markdown.events (markdownOptions c.extensions) (Source.prepare document)

end Rendering

/-- Renders documents one after the other with one configuration. -/
structure Renderer where
  config : RenderConfig
deriving Repr, DecidableEq

namespace Renderer

def counter (r : Renderer) : IdCounter := r.config.idScope.counter

/-- The HTML of what a parser made of a document, and the renderer for the next one. -/
def renderEvents (r : Renderer) (clock : Clock) (events : List Markdown.Event) :
    Except RenderError Text × Renderer :=
  let c := r.config
  let (html, ids) := Rendering.ofEvents c clock c.idScope.counter events
  (html, ⟨{ c with idScope := c.idScope.advance ids }⟩)

def render (r : Renderer) (clock : Clock) (document : Text) : Except RenderError Text × Renderer :=
  r.renderEvents clock (Rendering.events r.config document)

end Renderer
end Markweave
