import Markweave.Markdown.Line

namespace Markweave.Markdown.RawHtml

/-- The close of a comment, given what follows `<!--`; `>` and `->` close it at once. -/
def closeComment? : Text → Option Text
  | '>' :: s => some s
  | '-' :: '>' :: s => some s
  | s => (Text.cut? "-->" s).map (·.2)

def comment? (s : Text) : Option Text := (Text.dropStart? "<!--" s).bind closeComment?

def isTagChar (c : Char) : Bool := c.isAlphanum || c == '-'

/-- A closing tag, or an opening tag that may close itself. -/
def tag? (s : Text) : Option Text :=
  match s with
  | '<' :: '/' :: c :: rest =>
    if c.isAlpha then Text.dropStart? ">" ((rest.dropWhile isTagChar).dropWhile isAsciiBlank) else none
  | '<' :: c :: rest =>
    if !c.isAlpha then none
    else match (rest.dropWhile isTagChar).dropWhile isAsciiBlank with
      | '>' :: after => some after
      | '/' :: '>' :: after => some after
      | _ => none
  | _ => none

/-- Raw HTML within text, and what follows. -/
def inline? (s : Text) : Option (Text × Text) :=
  ((comment? s).or (tag? s)).map fun rest => (s.take (s.length - rest.length), rest)

/-- Where a block of raw HTML ends. -/
inductive BlockEnd
  | comment
  | blankLine
deriving Repr, DecidableEq

def opensComment (s : Text) : Bool := Text.startsWith "<!--" s

/-- The kind of block that a line opens. -/
def blockStart? (s : Text) : Option BlockEnd :=
  if opensComment s then some .comment
  else
    let (line, _, _) := cutLine s
    if ((tag? line).map (·.all isInlineBlank)).getD false then some .blankLine else none

end Markweave.Markdown.RawHtml
