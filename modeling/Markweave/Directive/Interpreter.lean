import Markweave.Directive.Arguments
import Markweave.Directive.Grammar
import Markweave.RenderConfig
import Markweave.StyleRegistry

namespace Markweave.Directive

open Html (Markup Attribute)

inductive DropReason
  | unrecognized
  | missingParameter
deriving Repr, DecidableEq

inductive Outcome
  | rendered (html : List Markup)
  | dropped (reason : DropReason)
deriving Repr, DecidableEq

/-- A dropped directive writes nothing. -/
def Outcome.html : Outcome → List Markup
  | rendered html => html
  | dropped _ => []

/-- It lives as long as one document: it holds the classes that are in force and counts the tables of contents. -/
structure Interpreter where
  styles : StyleRegistry
  stylePrefix : Text
  app : Text
  togglerMode : TogglerMode
  /-- Counts from one. -/
  nextToc : UInt64
deriving Repr, DecidableEq

namespace Interpreter

def ofConfig (c : RenderConfig) : Interpreter where
  styles := if c.defaultStyles then .seeded c.stylePrefix else .empty
  stylePrefix := c.stylePrefix
  app := c.app
  togglerMode := c.togglerMode
  nextToc := 1

/-- The classes of a tag and one more behind them. -/
def classList (i : Interpreter) (tag extra : Text) : Text :=
  if extra = [] then i.styles.classes tag
  else if i.styles.classes tag = [] then extra
  else i.styles.classes tag ++ " " ++ extra

def openDiv (classes : Text) (more : List Attribute) : Markup :=
  .opening "div" (.of "class" classes :: more)

def closeDiv : Markup := .closing "div"

def script (source : Text) : List Markup := [.opening "script" [], .verbatim source, .closing "script"]

/-- A levelled box shows its label and leaves two elements open, a plain one leaves one open. -/
def openBox (i : Interpreter) (level : BoxLevel) (label : Text) : List Markup :=
  match level with
  | .plain => [openDiv (i.classList level.tag label) []]
  | _ =>
    [openDiv (i.styles.classes level.tag) [], openDiv (i.styles.classes (level.tag ++ "-ue")) [],
      .verbatim label, closeDiv, openDiv (i.styles.classes (level.tag ++ "-container")) []]

def closeBox : BoxLevel → List Markup
  | .plain => [closeDiv]
  | _ => [closeDiv, closeDiv]

def openContainer (i : Interpreter) (name : Text) : List Markup :=
  let id := "md-container-" ++ name
  [openDiv (i.classList "container" id) [.of "id" id]]

/-- Sets or resets styles by a filter, which may not be empty. -/
def changeStyles (i : Interpreter) (change : StyleRegistry → List Text → List Text → StyleRegistry)
    (param : Text) : Outcome × Interpreter :=
  if param = [] then (.dropped .missingParameter, i)
  else
    let filter := StyleFilter.parse param
    (.rendered [], { i with styles := change i.styles filter.tags filter.styles })

/-- An anchor for the toggler of one container, and the script that attaches it. -/
def toggler (i : Interpreter) (param : Text) : Outcome :=
  let arguments := TogglerArguments.parse param
  let id := arguments.compactTarget
  if id = [] then .dropped .missingParameter
  else
    let parent := "md-togglerparent-" ++ id
    .rendered <|
      openDiv (i.classList "togglerparent" parent) [.of "id" parent] :: closeDiv ::
        script (i.app ++ ".get(\"UIToggler\").appendToggler(\"." ++ parent ++ "\", \".md-container-" ++
          id ++ "\", \"" ++ arguments.widget ++ "\");")

/-- One script per tag and style. -/
def togglerSnippets (i : Interpreter) (param : Text) (side : TogglerSide) : List (List Markup) :=
  let arguments := TogglerArguments.parse param
  let before : Text := match side with
    | .before => "true"
    | .after => "false"
  (StyleFilter.parse arguments.target).pairs.map fun (tag, style) =>
    script (i.app ++ ".get(\"UIToggler\").appendTogglerForElements(\"" ++ tag ++ "." ++ style ++
      "\", \"" ++ arguments.widget ++ "\", " ++ before ++ ");")

/-- The snippets that a mode writes, if it writes any. -/
def selectSnippets? (snippets : List (List Markup)) : TogglerMode → Option (List Markup)
  | .keepLast => snippets.getLast?
  | .accumulateAll => if (Html.writeAll snippets.flatten).isEmpty then none else some snippets.flatten

def togglerAppend (i : Interpreter) (param : Text) (side : TogglerSide) : Outcome :=
  match selectSnippets? (i.togglerSnippets param side) i.togglerMode with
  | some html => .rendered html
  | none => .dropped .missingParameter

theorem writeAll_snippet_ne_nil {i : Interpreter} {param : Text} {side : TogglerSide} {snippet : List Markup}
    (h : snippet ∈ i.togglerSnippets param side) : Html.writeAll snippet ≠ [] := by
  obtain ⟨pair, _, rfl⟩ := List.mem_map.mp h
  exact List.cons_ne_nil _ _

/-- Each snippet writes something, so a mode that tests the text of all drops what one that asks for the last drops. -/
theorem togglerAppend_eq (i : Interpreter) (param : Text) (side : TogglerSide) :
    i.togglerAppend param side =
      match (i.togglerSnippets param side).getLast? with
      | none => .dropped .missingParameter
      | some last =>
        match i.togglerMode with
        | .keepLast => .rendered last
        | .accumulateAll => .rendered (i.togglerSnippets param side).flatten := by
  rw [togglerAppend]
  cases i.togglerMode with
  | keepLast =>
    rw [selectSnippets?]
    cases (i.togglerSnippets param side).getLast? <;> rfl
  | accumulateAll =>
    rw [selectSnippets?]
    cases hsnippets : i.togglerSnippets param side with
    | nil => rfl
    | cons first more =>
      have hfirst : Html.writeAll first ≠ [] := writeAll_snippet_ne_nil (hsnippets ▸ List.mem_cons_self)
      have hall : (Html.writeAll (first :: more).flatten).isEmpty = false := by
        rw [List.flatten_cons, Html.writeAll_append]
        simp [hfirst]
      rw [hall, List.getLast?_cons]
      rfl

/-- A numbered container for a table of contents, and the script that fills it. -/
def toc (i : Interpreter) : List Markup :=
  let base := i.stylePrefix ++ "md-toc-container"
  let id := base ++ "-" ++ UInt64.text i.nextToc
  let element := i.app ++ ".$(\"div." ++ id ++ "\")"
  openDiv (base ++ " " ++ id) [.of "id" id] :: closeDiv ::
    script (i.app ++ ".get(\"Renderer\").addTOCForBlock(" ++ element ++ ", " ++ element ++
      ".parents(\"div\"), undefined);")

/-- One half of a splitter around text that is written as it stands. -/
def half (i : Interpreter) (name tag text : Text) : List Markup :=
  [.opening name (i.styles.classAttribute tag), .verbatim text, .closing name]

def render (i : Interpreter) (d : Directive) : Outcome × Interpreter :=
  match d.kind with
  | .boxOpen level => (.rendered (i.openBox level d.param), i)
  | .boxClose level => (.rendered (closeBox level), i)
  | .containerOpen => (.rendered (i.openContainer d.param), i)
  | .containerClose => (.rendered [closeDiv], i)
  | .styleSet => i.changeStyles .set d.param
  | .styleReset => i.changeStyles .reset d.param
  | .toggler => (i.toggler d.param, i)
  | .togglerAppend side => (i.togglerAppend d.param side, i)
  | .toc => (.rendered i.toc, { i with nextToc := i.nextToc + 1 })
  | .splitterLeft => (.rendered (i.half "label" "splitter1" d.param), i)
  | .splitterRight => (.rendered (i.half "span" "splitter2" d.param), i)

/-- Interprets the text of a comment. -/
def interpret (i : Interpreter) (raw : Text) : Outcome × Interpreter :=
  match recognize? raw with
  | some d => i.render d
  | none => (.dropped .unrecognized, i)

/-- Both halves of a splitter. -/
def splitter (i : Interpreter) (left right : Text) : List Markup :=
  (i.render ⟨.splitterLeft, left⟩).1.html ++ (i.render ⟨.splitterRight, right⟩).1.html

end Interpreter
end Markweave.Directive
