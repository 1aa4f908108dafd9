import Markweave.Text

namespace Markweave

inductive BoxLevel
  | plain
  | info
  | warn
  | alert
deriving Repr, DecidableEq

inductive TogglerSide
  | after
  | before
deriving Repr, DecidableEq

inductive DirectiveKind
  | boxOpen (level : BoxLevel)
  | boxClose (level : BoxLevel)
  | containerOpen
  | containerClose
  | styleSet
  | styleReset
  | toggler
  | togglerAppend (side : TogglerSide)
  | toc
  | splitterLeft
  | splitterRight
deriving Repr, DecidableEq

/-- The commands that a document gives in comments, and the two halves of a splitter. -/
structure Directive where
  kind : DirectiveKind
  param : Text
deriving Repr, DecidableEq

namespace BoxLevel

def keyword : BoxLevel → Text
  | plain => "BOX"
  | info => "BOX.INFO"
  | warn => "BOX.WARN"
  | alert => "BOX.ALERT"

/-- The name under which the registry knows the box. -/
def tag : BoxLevel → Text
  | plain => "box"
  | info => "infobox"
  | warn => "warnbox"
  | alert => "alertbox"

end BoxLevel

/-- The comment that closes what the directive opens. -/
def DirectiveKind.closeToken? : DirectiveKind → Option Text
  | boxOpen level => some ("/" ++ level.keyword)
  | containerOpen => some "/CONTAINER"
  | _ => none

end Markweave
