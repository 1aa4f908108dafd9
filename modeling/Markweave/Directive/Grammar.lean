import Markweave.Directive.Basic
import Markweave.Unicode.LetterNumber

namespace Markweave.Directive

/-- Keywords, in any ASCII letter case, and the characters that the parameter behind them may have; spaces
around the parameter do not count. -/
structure Form where
  keywords : List (Text × DirectiveKind)
  allows : Char → Bool

/-- What follows a keyword in any letter case; the keyword is given in capitals. -/
def dropKeyword? : Text → Text → Option Text
  | [], s => some s
  | _ :: _, [] => none
  | k :: ks, c :: cs => if c.toUpper = k then dropKeyword? ks cs else none

/-- Letters and numbers of any script and the characters from `#` to `_`. U+0345 is the one character
outside this class that differs from a member in case only. -/
def allowsLabel (c : Char) : Bool :=
  ('#' ≤ c && c ≤ '_') || ('a' ≤ c && c ≤ 'z') || c == ' ' || Unicode.isLetterOrNumber c ||
    c == '\u0345'

/-- ASCII names and lists of them. U+017F and U+212A differ from `s` and `k` in case only. -/
def allowsName (c : Char) : Bool :=
  c.isAlphanum || c == '-' || c == '#' || c == '_' || c == ',' || c == ';' || c == '.' ||
    c == '\u017F' || c == '\u212A'

def allowsFilter (c : Char) : Bool := allowsName c || c == ':' || c == ' '

def openForm : Form where
  keywords :=
    [("BOX.INFO", .boxOpen .info), ("BOX.WARN", .boxOpen .warn), ("BOX.ALERT", .boxOpen .alert),
      ("BOX", .boxOpen .plain), ("CONTAINER", .containerOpen), ("STYLE", .styleSet)]
  allows := allowsLabel

def closeForm : Form where
  keywords :=
    [("/BOX.INFO", .boxClose .info), ("/BOX.WARN", .boxClose .warn),
      ("/BOX.ALERT", .boxClose .alert), ("/BOX", .boxClose .plain),
      ("/CONTAINER", .containerClose), ("/STYLE", .styleReset)]
  allows := allowsLabel

def togglerForm : Form := ⟨[("TOGGLER", .toggler)], allowsName⟩

def togglerAppendForm : Form where
  keywords := [("TOGGLER.AFTER", .togglerAppend .after), ("TOGGLER.BEFORE", .togglerAppend .before)]
  allows := allowsFilter

def tocForm : Form := ⟨[("TOC", .toc)], allowsName⟩

/-- In the order in which they are tried. So are the keywords of a form: the longer one comes first. -/
def forms : List Form := [openForm, closeForm, togglerForm, togglerAppendForm, tocForm]

def Form.read? (f : Form) (raw : Text) : Option Directive :=
  f.keywords.findSome? fun (keyword, kind) => do
    let param := (← dropKeyword? keyword raw).trimWhile (· == ' ')
    if param.all f.allows then some ⟨kind, param⟩ else none

/-- The directive that a comment text spells. -/
def recognize? (raw : Text) : Option Directive := forms.findSome? (·.read? raw)

end Markweave.Directive
