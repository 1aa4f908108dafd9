import Markweave.RenderConfig

namespace Markweave

structure Settings where
  stylePrefix : Text
  app : Text
  /-- Milliseconds, a 64-bit number. -/
  timeLimit : Nat
  tables : Bool
  strikethrough : Bool
  taskLists : Bool
  suppressHtml : Bool
  sharedIds : Bool
  togglerMode : TogglerMode
  defaultStyles : Bool
deriving Repr, DecidableEq

namespace Settings

def default : Settings where
  stylePrefix := RenderConfig.default.stylePrefix
  app := RenderConfig.default.app
  timeLimit := RenderConfig.default.timeLimit
  tables := true
  strikethrough := false
  taskLists := false
  suppressHtml := true
  sharedIds := false
  togglerMode := .keepLast
  defaultStyles := true

/-- Settings of which any may be left open. -/
structure Choices where
  stylePrefix : Option Text := none
  app : Option Text := none
  timeLimit : Option Nat := none
  tables : Option Bool := none
  strikethrough : Option Bool := none
  taskLists : Option Bool := none
  suppressHtml : Option Bool := none
  sharedIds : Option Bool := none
  togglerMode : Option TogglerMode := none
  defaultStyles : Option Bool := none
deriving Repr, DecidableEq

/-- What is chosen, and the settings below where nothing is. -/
def Choices.over (c : Choices) (s : Settings) : Settings where
  stylePrefix := c.stylePrefix.getD s.stylePrefix
  app := c.app.getD s.app
  timeLimit := c.timeLimit.getD s.timeLimit
  tables := c.tables.getD s.tables
  strikethrough := c.strikethrough.getD s.strikethrough
  taskLists := c.taskLists.getD s.taskLists
  suppressHtml := c.suppressHtml.getD s.suppressHtml
  sharedIds := c.sharedIds.getD s.sharedIds
  togglerMode := c.togglerMode.getD s.togglerMode
  defaultStyles := c.defaultStyles.getD s.defaultStyles

def extensions (s : Settings) : Extensions where
  suppressHtml := s.suppressHtml
  tables := s.tables
  strikethrough := s.strikethrough
  taskLists := s.taskLists

/-- Shared numbers are drawn from the counter that a process begins with. -/
def renderConfig (s : Settings) : RenderConfig where
  stylePrefix := s.stylePrefix
  app := s.app
  extensions := s.extensions
  timeLimit := s.timeLimit
  idScope := if s.sharedIds then .shared .first else .session
  togglerMode := s.togglerMode
  defaultStyles := s.defaultStyles

end Settings
end Markweave
