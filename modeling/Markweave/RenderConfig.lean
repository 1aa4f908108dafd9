import Markweave.Ids

namespace Markweave

structure Extensions where
  suppressHtml : Bool
  tables : Bool
  strikethrough : Bool
  taskLists : Bool
deriving Repr, DecidableEq

namespace Extensions

def none : Extensions := ⟨false, false, false, false⟩

def default : Extensions := { none with suppressHtml := true, tables := true }

/-- The set as a bit mask, in the order of the fields. -/
def bits (e : Extensions) : Nat :=
  e.suppressHtml.toNat + 2 * e.tables.toNat + 4 * e.strikethrough.toNat + 8 * e.taskLists.toNat

end Extensions

inductive TogglerMode
  /-- Of several snippets the last one stays. -/
  | keepLast
  | accumulateAll
deriving Repr, DecidableEq

structure RenderConfig where
  stylePrefix : Text
  app : Text
  extensions : Extensions
  /-- The time budget of one document in milliseconds. -/
  timeLimit : Nat
  idScope : IdScope
  togglerMode : TogglerMode
  defaultStyles : Bool
deriving Repr, DecidableEq

namespace RenderConfig

def default : RenderConfig where
  stylePrefix := "jsh-"
  app := "jshAppBase"
  extensions := .default
  timeLimit := 2000
  idScope := .session
  togglerMode := .keepLast
  defaultStyles := true

/-- The time budget in nanoseconds. -/
def nanoseconds (c : RenderConfig) : Nat := c.timeLimit * 1000000

/-- The class by which code is found again in the written HTML. -/
def codeMarker (c : RenderConfig) : Text := c.stylePrefix ++ "md-code"

end RenderConfig
end Markweave
