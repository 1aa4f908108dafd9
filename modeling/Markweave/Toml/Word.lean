import Markweave.Toml.Moment
import Markweave.Toml.Number
import Markweave.Toml.Value
import Markweave.Toml.Trivia

namespace Markweave.Toml

def isWordChar (c : Char) : Bool := c.isAlphanum || ['+', '-', '.', ':', '_'].contains c

/-- A date is joined to a time after it by a space. -/
def word : Text → Text × Text := fun s =>
  match s.span isWordChar with
  | (date, ' ' :: c :: s) =>
    if Moment.isDate date && c.isDigit then
      let (time, rest) := (c :: s).span isWordChar
      (date ++ ' ' :: time, rest)
    else (date, ' ' :: c :: s)
  | w => w

def Value.ofWord? (w : Text) : Option Value :=
  if w = "true".toList then some (.boolean true)
  else if w = "false".toList then some (.boolean false)
  else match integer? w with
    | some n => if fitsInteger n then some (.integer n) else none
    | none =>
      if isFloat w then some (.float w)
      else if isMoment w then some (.moment w)
      else none

end Markweave.Toml
