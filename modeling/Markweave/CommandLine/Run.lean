import Markweave.CommandLine.Help
import Markweave.Rendering
import Markweave.Settings.Load

namespace Markweave.CommandLine

/-- What the system refuses to write, and why: files, and standard output when it is written to or flushed. Whatever is
refused stays as it was. -/
structure Refusals where
  file : Location → Option FileError := fun _ => none
  write : Option FileError := none
  flush : Option FileError := none

/-- Why a rendering has no result. -/
inductive Failure
  | settings (reason : SettingsError)
  | file (reason : FileError)
  | document (reason : RenderError)
deriving Repr, DecidableEq

def Failure.message : Failure → Text
  | settings reason => reason.message
  | file reason => reason.message
  | document reason => "no HTML available for this document: " ++ reason.message

/-- What a run leaves behind. -/
structure Outcome where
  exit : Nat
  stdout : Text
  stderr : Text
  files : FileTree

namespace Outcome

/-- Mistakes on the command line itself. -/
def misused (host : Host) : Outcome := ⟨2, [], Topic.overview.page none, host.files⟩

def failed (host : Host) (f : Failure) : Outcome :=
  ⟨1, [], "Error: " ++ f.message ++ ['\n'], host.files⟩

def printed (host : Host) (t : Text) : Outcome := ⟨0, t, [], host.files⟩

def wrote (path : Text) (files : FileTree) : Outcome := ⟨0, [], "Wrote " ++ path ++ ['\n'], files⟩

end Outcome

/-- The choices of the command line; the class prefix may come from a variable. -/
def choices (host : Host) (a : Arguments) : Settings.Choices :=
  { a.choices with stylePrefix := a.stylePrefix.or (host.environment.get? stylePrefixVariable) }

/-- The document to render: a file, or standard input. -/
def document (host : Host) (stdin : ByteArray) (a : Arguments) : Except FileError Text :=
  match a.input with
  | some path => host.files.read host.cwd path
  | none => textOfBytes stdin

/-- The HTML; settings fail before the document is read. -/
def html (clock : Clock) (host : Host) (stdin : ByteArray) (a : Arguments) : Except Failure Text := do
  let loaded ← (Settings.load host a.config (some (choices host a))).mapError .settings
  let text ← (document host stdin a).mapError .file
  (Renderer.render ⟨loaded.settings.renderConfig⟩ clock text).1.mapError .document

def unlessRefused (refusal? : Option FileError) : Except FileError Unit :=
  match refusal? with
  | some reason => .error reason
  | none => .ok ()

/-- Writes a text to standard output and flushes it. -/
def print (host : Host) (refusals : Refusals) (t : Text) : Except FileError Outcome := do
  unlessRefused refusals.write
  unlessRefused refusals.flush
  return .printed host t

def writeFile (host : Host) (refusals : Refusals) (path html : Text) : Except FileError Outcome := do
  unlessRefused (refusals.file (← host.files.target host.cwd path))
  return .wrote path (← host.files.write host.cwd path html)

/-- Puts the HTML into the output file, or prints it. -/
def deliver (host : Host) (refusals : Refusals) (a : Arguments) (html : Text) : Except Failure Outcome :=
  (match a.output with
    | none => print host refusals html
    | some path => writeFile host refusals path html).mapError .file

def render (clock : Clock) (host : Host) (stdin : ByteArray) (a : Arguments) (refusals : Refusals) : Outcome :=
  match (html clock host stdin a).bind (deliver host refusals a) with
  | .ok outcome => outcome
  | .error f => .failed host f

/-- A page that is refused is not missed. -/
def explain (host : Host) (refusals : Refusals) (page : Text) : Outcome :=
  (print host refusals page).toOption.getD (.printed host [])

/-- One run as a function of what it is given: a clock, the host, standard input, the words, and what is refused. -/
def run (clock : Clock) (host : Host) (stdin : ByteArray) (words : List Text) (refusals : Refusals := {}) : Outcome :=
  match Request.ofWords? words with
  | none => .misused host
  | some (.render a) => render clock host stdin a refusals
  | some .version => explain host refusals versionLine
  | some (.help topic) => explain host refusals (topic.page (host.environment.get? stylePrefixVariable))

end Markweave.CommandLine
