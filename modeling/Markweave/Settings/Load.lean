import Markweave.Settings.Expansion
import Markweave.Settings.Validity
import Markweave.Settings.Written
import Markweave.Toml.Document

namespace Markweave

/-- What a run finds around it. -/
structure Host where
  files : FileTree
  cwd : Location
  environment : Environment

namespace Settings

def fileName : Text := "ymf.toml"

/-- Where settings come from. -/
inductive Source
  | given (path : Text)
  | found (l : Location)
deriving Repr, DecidableEq

/-- The directory itself and those above it, the nearest first. -/
def upwards (l : Location) : List Location := (List.range (l.length + 1)).reverse.map l.take

/-- Directories of the file's name are passed over. -/
def nearest? (host : Host) : Option Location :=
  ((upwards host.cwd).map (· ++ [fileName])).find? host.files.isFile

/-- A given file must exist; only without one is a file looked for. -/
def source (host : Host) : Option Text → Except SettingsError (Option Source)
  | some path =>
    if host.files.pathExists host.cwd path then .ok (some (.given path)) else .error (.missing path)
  | none => .ok ((nearest? host).map .found)

def Source.read (host : Host) : Source → Except FileError Text
  | given path => host.files.read host.cwd path
  | found l => host.files.textAt l

/-- Both text settings are expanded, the class prefix first. -/
def Choices.expand (env : Environment) (c : Choices) : Except SettingsError Choices := do
  let chosen (field : TextField) (t : Text) : Except SettingsError Text :=
    (Settings.expand env t).mapError (.unset field)
  let stylePrefix ← c.stylePrefix.mapM (chosen .stylePrefix)
  let app ← c.app.mapM (chosen .app)
  return { c with stylePrefix, app }

/-- What a file chooses; faults of expansion count before those of the values. -/
def Source.choices (host : Host) (s : Source) : Except SettingsError Choices := do
  let content ← (s.read host).mapError .unreadable
  let some c := (Toml.parse? content).bind Choices.ofDocument? | .error .malformed
  c.expand host.environment

structure Loaded where
  settings : Settings
  source : Option Source
deriving Repr, DecidableEq

/-- A file must be valid by itself, and what lies over it once more. -/
def load (host : Host) (path : Option Text) (overrides : Option Choices) :
    Except SettingsError Loaded := do
  let source ← source host path
  let settings ← match source with
    | none => .ok default
    | some s => do ((← s.choices host).over default).validate
  match overrides with
  | none => return ⟨settings, source⟩
  | some c => return ⟨← (c.over settings).validate, source⟩

end Settings
end Markweave
