import Markweave.Text

namespace Markweave.Toml

/-- How a table came to be decides what a later line may still add to it. -/
inductive Origin
  /-- Named only in the path of another table's header. -/
  | implied
  /-- Made by the dotted key of an assignment. -/
  | dotted
  /-- Opened by a header of its own, as the document itself is. -/
  | header
  /-- Written between braces, complete where it ends. -/
  | inline
deriving Repr, DecidableEq

inductive Value
  | string (text : Text)
  | integer (n : Int)
  /-- A float keeps its spelling. -/
  | float (lexeme : Text)
  | boolean (b : Bool)
  /-- A date, a time, or both keep their spelling. -/
  | moment (lexeme : Text)
  | array (elements : List Value)
  | table (origin : Origin) (entries : List (Text × Value))
  /-- The tables of one double-bracket header, in the order of their headers. -/
  | tables (elements : List (List (Text × Value)))
deriving Repr

abbrev Entries := List (Text × Value)

/-- A key with the tables it lies in. -/
structure KeyPath where
  parents : List Text
  key : Text
deriving Repr, DecidableEq

namespace Entries

def get? (es : Entries) (key : Text) : Option Value := es.lookup key

/-- Puts in place of a key's value what `f` makes of it; a new key comes last. -/
def alter? (key : Text) (f : Option Value → Option Value) : Entries → Option Entries
  | [] => (f none).map fun v => [(key, v)]
  | (k, v) :: es =>
    if k = key then (f (some v)).map fun v => (k, v) :: es
    else (alter? key f es).map ((k, v) :: ·)

def insertNew? (key : Text) (v : Value) : Entries → Option Entries :=
  alter? key fun
    | none => some v
    | some _ => none

end Entries

/-- Whether tables on the way to a key may be entered: a header passes through all but the inline
ones, a dotted key only through those without a header. -/
def Origin.admits : (way : Origin) → Origin → Bool
  | .dotted, o => o = .implied || o = .dotted
  | _, o => o ≠ .inline

/-- Changes the entries of a table, or of the last table of an array, on the way to a key. -/
def Value.reopen? (way : Origin) (act : Entries → Option Entries) : Value → Option Value
  | .table o es => if way.admits o then (act es).map (.table o) else none
  | .tables ts =>
    match way, ts.getLast? with
    | .dotted, _ => none
    | _, some es => (act es).map fun es => .tables (ts.dropLast ++ [es])
    | _, none => none
  | _ => none

namespace Entries

/-- Changes the entries at the end of a path; tables that are missing on the way are made. -/
def within? (way : Origin) (act : Entries → Option Entries) : List Text → Entries → Option Entries
  | [], es => act es
  | key :: path, es =>
    es.alter? key fun
      | none => (within? way act path []).map (.table way)
      | some v => v.reopen? way (within? way act path)

def assign? (path : KeyPath) (v : Value) : Entries → Option Entries :=
  within? .dotted (insertNew? path.key v) path.parents

/-- A table gets one header at most, and none when a dotted key has made it. -/
def openTable? (path : KeyPath) : Entries → Option Entries :=
  within? .implied (alter? path.key fun
    | none => some (.table .header [])
    | some (.table .implied es) => some (.table .header es)
    | some _ => none) path.parents

/-- Each double-bracket header adds a table to its array. -/
def openElement? (path : KeyPath) : Entries → Option Entries :=
  within? .implied (alter? path.key fun
    | none => some (.tables [[]])
    | some (.tables ts) => some (.tables (ts ++ [[]]))
    | some _ => none) path.parents

end Entries
end Markweave.Toml
