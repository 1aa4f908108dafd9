import Markweave.Text

namespace Markweave

/-- The names on the way from the root. -/
abbrev Location := List Text

inductive FileEntry
  | file (content : ByteArray)
  | directory

/-- By the names on the way to them from the root. -/
structure FileTree where
  entries : List (Location × FileEntry)

inductive FileError
  | missing
  | notADirectory
  | isADirectory
  | nameTooLong
  /-- The file was read but holds no text. -/
  | notText
  /-- Whatever else the system answers. -/
  | refused (answer : Text)
deriving Repr, DecidableEq

namespace FileError

def message : FileError → Text
  | missing => "No such file or directory (os error 2)"
  | notADirectory => "Not a directory (os error 20)"
  | isADirectory => "Is a directory (os error 21)"
  | nameTooLong => "File name too long (os error 36)"
  | notText => "stream did not contain valid UTF-8"
  | refused answer => answer

end FileError

def textOfBytes (content : ByteArray) : Except FileError Text :=
  match String.fromUTF8? content with
  | some s => .ok s.toList
  | none => .error .notText

def bytesOfText (t : Text) : ByteArray := (String.ofList t).toUTF8

namespace FileTree

def empty : FileTree := ⟨[]⟩

/-- The root is a directory in every tree. -/
def get? (t : FileTree) (l : Location) : Option FileEntry :=
  if l = [] then some .directory else t.entries.lookup l

def set (t : FileTree) (l : Location) (e : FileEntry) : FileTree :=
  ⟨(l, e) :: t.entries.filter (·.1 ≠ l)⟩

/-- Makes a directory and those above it, where there is nothing yet. -/
def makeDirectory (t : FileTree) (l : Location) : FileTree :=
  ((List.range (l.length + 1)).map l.take).foldl
    (fun t l => if (t.get? l).isSome then t else t.set l .directory) t

/-- Puts a file into the tree, with the directories above it. -/
def addFile (t : FileTree) (l : Location) (content : ByteArray) : FileTree :=
  (t.makeDirectory l.dropLast).set l (.file content)

def isFile (t : FileTree) (l : Location) : Bool :=
  match t.get? l with
  | some (.file _) => true
  | _ => false

def nameLimit : Nat := 255

def pathLimit : Nat := 4095

/-- The files of a tree that another does not have with the same content. -/
def changes (before after : FileTree) : List (Location × ByteArray) :=
  after.entries.filterMap fun (l, e) =>
    match e with
    | .directory => none
    | .file content =>
      match before.get? l with
      | some (.file old) => if old.data = content.data then none else some (l, content)
      | _ => some (l, content)

/-- One step of a walk: the two dots lead upwards, an empty name or one dot nowhere. -/
def step (t : FileTree) (l : Location) (name : Text) : Except FileError Location :=
  match t.get? l with
  | some .directory =>
    if name = [] ∨ name = ['.'] then .ok l
    else if name = ['.', '.'] then .ok l.dropLast
    else if nameLimit < (bytesOfText name).size then .error .nameTooLong
    else if (t.get? (l ++ [name])).isSome then .ok (l ++ [name])
    else .error .missing
  | _ => .error .notADirectory

/-- Where a path starts and the names it consists of; a slash in front makes it start at the root. -/
def route (cwd : Location) (path : Text) : Except FileError (Location × List Text) :=
  if path = [] then .error .missing
  else if pathLimit < (bytesOfText path).size then .error .nameTooLong
  else if path.head? = some '/' then .ok ([], Text.splitOn '/' path)
  else .ok (cwd, Text.splitOn '/' path)

/-- Everywhere a path may lead past. -/
def passed (cwd : Location) (path : Text) : List Location :=
  match route cwd path with
  | .ok (start, names) => (names.foldl next [start]).reverse
  | .error _ => []
where
  next (seen : List Location) (name : Text) : List Location :=
    let l := seen.head?.getD []
    if name = [] ∨ name = ['.'] then seen
    else if name = ['.', '.'] then l.dropLast :: seen
    else (l ++ [name]) :: seen

def resolve (t : FileTree) (cwd : Location) (path : Text) : Except FileError Location := do
  let (start, names) ← route cwd path
  names.foldlM t.step start

def pathExists (t : FileTree) (cwd : Location) (path : Text) : Bool := (t.resolve cwd path).isOk

/-- The text of the file at a location. -/
def textAt (t : FileTree) (l : Location) : Except FileError Text :=
  match t.get? l with
  | some (.file content) => textOfBytes content
  | some .directory => .error .isADirectory
  | none => .error .missing

def read (t : FileTree) (cwd : Location) (path : Text) : Except FileError Text := do
  t.textAt (← t.resolve cwd path)

/-- Where a file of this path would be written: its directory must be there, and it must not be one
itself, nor look like one by a slash at its end. -/
def target (t : FileTree) (cwd : Location) (path : Text) : Except FileError Location := do
  let (start, names) ← route cwd path
  let solid := (names.reverse.dropWhile (· = [])).reverse
  match solid.getLast? with
  | none => .error .isADirectory
  | some name =>
    let directory ← t.step (← solid.dropLast.foldlM t.step start) []
    if solid ≠ names then .error .isADirectory
    else match t.step directory name with
      | .ok l => if t.isFile l then .ok l else .error .isADirectory
      | .error .missing => .ok (directory ++ [name])
      | .error e => .error e

/-- A file is written whole, in place of what it held. -/
def write (t : FileTree) (cwd : Location) (path content : Text) : Except FileError FileTree := do
  return t.set (← t.target cwd path) (.file (bytesOfText content))

end FileTree
end Markweave
