import Markweave.Settings.Basic

namespace Markweave.CommandLine

/-- Options with a value. -/
inductive Parameter
  | output
  | config
  | stylePrefix
  | app
  | timeLimit
deriving Repr, DecidableEq

inductive Switch
  | sharedIds
  | accumulateTogglers
  | verbose
deriving Repr, DecidableEq

inductive Flag
  | parameter (p : Parameter)
  | switch (s : Switch)
  | help
deriving Repr, DecidableEq

namespace Flag

def ofLongName? (name : Text) : Option Flag :=
  if name = "output".toList then some (.parameter .output)
  else if name = "config".toList then some (.parameter .config)
  else if name = "style-prefix".toList then some (.parameter .stylePrefix)
  else if name = "app-base-var-name".toList then some (.parameter .app)
  else if name = "max-parsing-time-ms".toList then some (.parameter .timeLimit)
  else if name = "shared-ids".toList then some (.switch .sharedIds)
  else if name = "accumulate-togglers".toList then some (.switch .accumulateTogglers)
  else if name = "verbose".toList then some (.switch .verbose)
  else if name = "help".toList then some .help
  else none

def ofShortName? : Char → Option Flag
  | 'o' => some (.parameter .output)
  | 'c' => some (.parameter .config)
  | 'v' => some (.switch .verbose)
  | 'h' => some .help
  | _ => none

end Flag

/-- Each word is taken apart into items without looking at the others; the items are then read from the left, an
option that wants a value taking the next free word. -/
inductive Item
  | switch (s : Switch)
  | given (p : Parameter) (value : Text)
  /-- The value of the option is the next word. -/
  | awaiting (p : Parameter)
  | free (word : Text)
  | endOfOptions
  | help
  | unknown
deriving Repr, DecidableEq

namespace Item

/-- A long option; a value may be joined to it by an equals sign. -/
def ofLong (s : Text) : Item :=
  match s.span (· ≠ '=') with
  | (name, []) =>
    match Flag.ofLongName? name with
    | some (.parameter p) => .awaiting p
    | some (.switch s) => .switch s
    | some .help => .help
    | none => .unknown
  | (name, _ :: value) =>
    match Flag.ofLongName? name with
    | some (.parameter p) => .given p value
    | _ => .unknown

/-- Short options in one word; what follows one with a value is its value. -/
def ofShort : Text → List Item
  | [] => []
  | c :: s =>
    match Flag.ofShortName? c, s with
    | some (.parameter p), [] => [.awaiting p]
    | some (.parameter p), '=' :: value => [.given p value]
    | some (.parameter p), value => [.given p value]
    | some (.switch x), s => .switch x :: ofShort s
    | some .help, s => .help :: ofShort s
    | none, _ => [.unknown]

/-- A single dash is a word like any other. -/
def ofWord : Text → List Item
  | '-' :: '-' :: s => [.ofLong s]
  | '-' :: c :: s => ofShort (c :: s)
  | s => [.free s]

/-- After two dashes alone every word is free. -/
def ofWords : List Text → List Item
  | [] => []
  | w :: ws => if w = ['-', '-'] then .endOfOptions :: ws.map .free else ofWord w ++ ofWords ws

end Item

/-- What a rendering is asked for on the command line. -/
structure Arguments where
  input : Option Text := none
  output : Option Text := none
  config : Option Text := none
  stylePrefix : Option Text := none
  app : Option Text := none
  timeLimit : Option Nat := none
  sharedIds : Bool := false
  accumulateTogglers : Bool := false
  verbose : Bool := false
deriving Repr, DecidableEq

namespace Arguments

/-- A 64-bit number in decimal digits, perhaps after a plus sign. -/
def number? (s : Text) : Option Nat :=
  let digits := match s with
    | '+' :: ds => ds
    | ds => ds
  if digits.isEmpty || !digits.all Char.isDigit then none
  else
    let n := Text.valueOf 10 digits
    if n < UInt64.size then some n else none

/-- An option that has no value yet gets one. -/
def fill? (read? : Text → Option α) (old : Option α) (value : Text) : Option (Option α) :=
  match old with
  | none => (read? value).map some
  | some _ => none

def path? (s : Text) : Option Text := if s = [] then none else some s

def give? (a : Arguments) : Parameter → Text → Option Arguments
  | .output, v => (fill? path? a.output v).map ({ a with output := · })
  | .config, v => (fill? path? a.config v).map ({ a with config := · })
  | .stylePrefix, v => (fill? some a.stylePrefix v).map ({ a with stylePrefix := · })
  | .app, v => (fill? some a.app v).map ({ a with app := · })
  | .timeLimit, v => (fill? number? a.timeLimit v).map ({ a with timeLimit := · })

def turnOn? (a : Arguments) : Switch → Option Arguments
  | .sharedIds => if a.sharedIds then none else some { a with sharedIds := true }
  | .accumulateTogglers =>
    if a.accumulateTogglers then none else some { a with accumulateTogglers := true }
  | .verbose => if a.verbose then none else some { a with verbose := true }

def place? (a : Arguments) (word : Text) : Option Arguments :=
  (fill? path? a.input word).map ({ a with input := · })

/-- The settings chosen; a switch that is not on chooses nothing. -/
def choices (a : Arguments) : Settings.Choices where
  stylePrefix := a.stylePrefix
  app := a.app
  timeLimit := a.timeLimit
  sharedIds := if a.sharedIds then some true else none
  togglerMode := if a.accumulateTogglers then some .accumulateAll else none

end Arguments

/-- What has been read from the left. -/
inductive Reading
  | going (a : Arguments)
  | awaiting (p : Parameter) (a : Arguments)
  | help
  | wrong
deriving Repr, DecidableEq

namespace Reading

def ofOption (a : Option Arguments) : Reading := a.elim .wrong .going

/-- Help and mistakes end the reading. -/
def step : Reading → Item → Reading
  | .help, _ => .help
  | .wrong, _ => .wrong
  | .awaiting p a, .free v => .ofOption (a.give? p v)
  | .awaiting _ _, _ => .wrong
  | .going a, .switch s => .ofOption (a.turnOn? s)
  | .going a, .given p v => .ofOption (a.give? p v)
  | .going a, .awaiting p => .awaiting p a
  | .going a, .free w => .ofOption (a.place? w)
  | .going a, .endOfOptions => .going a
  | .going _, .help => .help
  | .going _, .unknown => .wrong

def ofWords (ws : List Text) : Reading := (Item.ofWords ws).foldl step (.going {})

end Reading

inductive Topic
  | overview
  | render
  | help
deriving Repr, DecidableEq

/-- What a command line asks for. -/
inductive Request
  | render (a : Arguments)
  | version
  | help (topic : Topic)
deriving Repr, DecidableEq

namespace Request

/-- The page on a command; without one, the overview. -/
def helpOn? : List Text → Option Request
  | [] => some (.help .overview)
  | [w] =>
    if w = "render".toList then some (.help .render)
    else if w = "help".toList then some (.help .help)
    else none
  | _ => none

/-- The request, or none for words that make no sense together. -/
def ofWords? : List Text → Option Request
  | [] => none
  | w :: ws =>
    if w = "render".toList then
      match Reading.ofWords ws with
      | .going a => some (.render a)
      | .help => some (.help .render)
      | _ => none
    else if w = "help".toList then helpOn? ws
    else if w = "--version".toList ∨ Text.startsWith "-V" w then some .version
    else if w = "--help".toList ∨ Text.startsWith "-h" w then some (.help .overview)
    else none

end Request
end Markweave.CommandLine
