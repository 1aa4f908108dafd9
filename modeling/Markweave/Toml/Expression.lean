import Markweave.Toml.Quoted
import Markweave.Toml.Word

namespace Markweave.Toml

def isBareKeyChar (c : Char) : Bool := c.isAlphanum || c = '_' || c = '-'

def simpleKey? : Reader Text
  | '"' :: s => basic? s
  | '\'' :: s => literal? s
  | s =>
    match s.span isBareKeyChar with
    | ([], _) => none
    | k => some k

/-- Keys between dots, at most `count` of them. -/
def dottedKeys? : (count : Nat) → Reader (List Text)
  | 0, _ => none
  | count + 1, s => do
    let (key, s) ← simpleKey? s
    match skipBlanks s with
    | '.' :: more =>
      let (keys, s) ← dottedKeys? count (skipBlanks more)
      return (key :: keys, s)
    | s => return ([key], s)

def keyPath? : Reader KeyPath := fun s => do
  let (keys, s) ← dottedKeys? s.length s
  let key ← keys.getLast?
  return (⟨keys.dropLast, key⟩, s)

/-- Items up to a closing bracket, at most `count` of them. -/
def listed? (close : Char) (item? : Reader α) : (count : Nat) → Reader (List α)
  | 0, _ => none
  | count + 1, s =>
    match skipTrivia s with
    | [] => none
    | c :: rest =>
      if c = close then some ([], rest)
      else do
        let (x, s) ← item? (c :: rest)
        match skipTrivia s with
        | ',' :: s =>
          let (xs, s) ← listed? close item? count s
          return (x :: xs, s)
        | c :: s => if c = close then some ([x], s) else none
        | [] => none

/-- A key, an equals sign and a value. -/
def assignment? (value? : Reader Value) (skip : Text → Text) : Reader (KeyPath × Value) := fun s => do
  let (path, s) ← keyPath? s
  match skip s with
  | '=' :: s =>
    let (v, s) ← value? (skip s)
    return ((path, v), s)
  | _ => none

def Value.inlineTable? (assignments : List (KeyPath × Value)) : Option Value :=
  (assignments.foldlM (fun es (path, v) => Entries.assign? path v es) []).map (.table .inline)

def scalar? : Reader Value := fun s =>
  match quoted? s with
  | some (t, rest) => some (.string t, rest)
  | none =>
    let (w, rest) := word s
    (Value.ofWord? w).map (·, rest)

/-- A value whose brackets are at most `depth` deep. -/
def nested? : (depth : Nat) → Reader Value
  | depth + 1, '[' :: s => do
    let (vs, s) ← listed? ']' (nested? depth) (s.length + 1) s
    return (.array vs, s)
  | depth + 1, '\x7b' :: s => do
    let (as, s) ← listed? '\x7d' (assignment? (nested? depth) skipBlanks) (s.length + 1) s
    return (← Value.inlineTable? as, s)
  | _, s => scalar? s

/-- Brackets nest at most eighty deep. -/
def value? : Reader Value := nested? 80

end Markweave.Toml
