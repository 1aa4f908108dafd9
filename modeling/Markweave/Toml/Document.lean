import Markweave.Toml.Expression

namespace Markweave.Toml

/-- Headers say where the assignments after them lie. -/
inductive Statement
  | table (path : KeyPath)
  | element (path : KeyPath)
  | assign (path : KeyPath) (v : Value)
deriving Repr

def statement? : Reader Statement
  | '[' :: '[' :: s => do
    let (path, s) ← keyPath? (skipBlanks s)
    match skipBlanks s with
    | ']' :: ']' :: s => return (.element path, s)
    | _ => none
  | '[' :: s => do
    let (path, s) ← keyPath? (skipBlanks s)
    match skipBlanks s with
    | ']' :: s => return (.table path, s)
    | _ => none
  | s => do
    let ((path, v), s) ← assignment? value? skipBlanks s
    return (.assign path v, s)

/-- Statements up to the end of the text, at most `count` of them. -/
def statements? : (count : Nat) → Text → Option (List Statement)
  | 0, _ => none
  | count + 1, s =>
    match skipTrivia s with
    | [] => some []
    | s => do
      let (statement, s) ← statement? s
      match skipToLineEnd s with
      | [] => return [statement]
      | s => return statement :: (← statements? count (← newline? s))

/-- The entries read so far and the path of the header in force. -/
structure Section where
  path : List Text
  entries : Entries

namespace Section

def start : Section := ⟨[], []⟩

def step? (current : Section) : Statement → Option Section
  | .table path => (current.entries.openTable? path).map (⟨path.parents ++ [path.key], ·⟩)
  | .element path => (current.entries.openElement? path).map (⟨path.parents ++ [path.key], ·⟩)
  | .assign path v =>
    (current.entries.within? .implied (Entries.assign? path v) current.path).map (⟨current.path, ·⟩)

end Section

def skipByteOrderMark : Text → Text
  | '\ufeff' :: s => s
  | s => s

/-- The entries of a document, unless it is malformed. -/
def parse? (document : Text) : Option Entries := do
  let s := skipByteOrderMark document
  let statements ← statements? (s.length + 1) s
  let last ← statements.foldlM Section.step? .start
  return last.entries

end Markweave.Toml
