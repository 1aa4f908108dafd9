import Markweave.Text

namespace Markweave.Toml.Moment

/-- A number of a fixed count of digits. -/
def field? (count : Nat) (s : Text) : Option (Nat × Text) :=
  let digits := s.take count
  if digits.length = count && digits.all Char.isDigit then some (Text.valueOf 10 digits, s.drop count)
  else none

def char? (p : Char → Bool) : Text → Option Text
  | c :: s => if p c then some s else none
  | [] => none

def isLeap (year : Nat) : Bool := year % 4 = 0 && (year % 100 ≠ 0 || year % 400 = 0)

def daysIn (year month : Nat) : Nat :=
  if month = 2 then if isLeap year then 29 else 28
  else if [4, 6, 9, 11].contains month then 30
  else 31

/-- What follows a valid date. -/
def date? (s : Text) : Option Text := do
  let (year, s) ← field? 4 s
  let (month, s) ← field? 2 (← char? (· = '-') s)
  let (day, s) ← field? 2 (← char? (· = '-') s)
  if 1 ≤ month && month ≤ 12 && 1 ≤ day && day ≤ daysIn year month then some s else none

/-- What follows hours and minutes. -/
def clock? (s : Text) : Option Text := do
  let (hour, s) ← field? 2 s
  let (minute, s) ← field? 2 (← char? (· = ':') s)
  if hour ≤ 23 && minute ≤ 59 then some s else none

/-- What follows seconds with or without a fraction; a leap second is the sixtieth. -/
def seconds? (s : Text) : Option Text := do
  let (second, s) ← field? 2 s
  if 60 < second then none
  match s with
  | '.' :: s => if (s.takeWhile Char.isDigit).isEmpty then none else some (s.dropWhile Char.isDigit)
  | s => some s

def time? (s : Text) : Option Text :=
  match clock? s with
  | some (':' :: s) => seconds? s
  | r => r

def isOffset : Text → Bool
  | [] => true
  | ['Z'] => true
  | ['z'] => true
  | c :: s => (c = '+' || c = '-') && clock? s = some []

def isDate (s : Text) : Bool := date? s = some []

end Moment

/-- A date, a time, or both, and then perhaps an offset. -/
def isMoment (s : Text) : Bool :=
  match Moment.date? s with
  | some [] => true
  | some (c :: s) => [' ', 'T', 't'].contains c && (Moment.time? s).any Moment.isOffset
  | none => Moment.time? s = some []

end Markweave.Toml
