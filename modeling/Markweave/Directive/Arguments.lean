import Markweave.Directive.Basic
import Markweave.Unicode.Ranges

namespace Markweave.Directive

/-- The maximal runs of characters that are not white space. -/
def words (s : Text) : List Text :=
  match s with
  | [] => []
  | c :: cs =>
    match words cs with
    | [] => if Unicode.isBlank c then [] else [[c]]
    | w :: ws =>
      if Unicode.isBlank c then w :: ws
      else if cs.head?.all Unicode.isBlank then [c] :: w :: ws
      else (c :: w) :: ws

structure StyleFilter where
  tags : List Text
  styles : List Text
deriving Repr, DecidableEq

namespace StyleFilter

/-- Tags before the first colon, styles between it and the next; more segments do not count. -/
def parse (s : Text) : StyleFilter :=
  match s.splitOn ':' with
  | [] => ⟨[], []⟩
  | [tags] => ⟨words tags, []⟩
  | tags :: styles :: _ => ⟨words tags, words styles⟩

/-- Every tag with every style, tags outermost. -/
def pairs (f : StyleFilter) : List (Text × Text) :=
  f.tags.flatMap fun tag => f.styles.map fun style => (tag, style)

end StyleFilter

structure TogglerArguments where
  target : Text
  widget : Text
deriving Repr, DecidableEq

namespace TogglerArguments

def defaultWidget : Text := "icon"

/-- A comma stands between target and kind; a missing or blank kind is the default one. -/
def parse (param : Text) : TogglerArguments :=
  match param.splitOn ',' with
  | [] => ⟨[], defaultWidget⟩
  | [target] => ⟨target, defaultWidget⟩
  | target :: widget :: _ =>
    let widget := widget.trimWhile Unicode.isBlank
    ⟨target, if widget = [] then defaultWidget else widget⟩

/-- The target without its spaces, as an element id needs it. -/
def compactTarget (a : TogglerArguments) : Text := a.target.filter (· ≠ ' ')

end TogglerArguments
end Markweave.Directive
