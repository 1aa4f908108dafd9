import Markweave.CommandLine.Run

namespace Markweave.CommandLine

/-- The paths of a request. -/
def paths (words : List Text) : List Text :=
  match Request.ofWords? words with
  | some (.render a) => [a.config, a.input, a.output].filterMap id
  | _ => []

def readsInput (words : List Text) : Bool :=
  match Request.ofWords? words with
  | some (.render a) => a.input.isNone
  | _ => false

def pathTo (l : Location) : String :=
  if l = [] then "/" else String.ofList (l.flatMap fun name => '/' :: name)

/-- Code 21 says that what was opened is a directory. -/
def look (t : FileTree) (l : Location) : IO FileTree := do
  try
    return t.set l (.file (← IO.FS.readBinFile (pathTo l)))
  catch
    | .inappropriateType _ 21 _ => return t.set l .directory
    | _ => return t

/-- The variables of the process, each line ended by a null. -/
def currentEnvironment : IO Environment := do
  try
    let lines ← IO.FS.readBinFile "/proc/self/environ"
    return ⟨Text.splitOn '\x00' ((textOfBytes lines).toOption.getD [])⟩
  catch _ => return ⟨[]⟩

def currentHost (words : List Text) : IO Host := do
  let directory ← IO.currentDir
  let cwd := (Text.splitOn '/' directory.toString.toList).filter (· ≠ [])
  let settings := (Settings.upwards cwd).flatMap fun l => [l, l ++ [Settings.fileName]]
  let files ← (settings ++ (paths words).flatMap (FileTree.passed cwd)).foldlM look .empty
  return ⟨files, cwd, ← currentEnvironment⟩

/-- The time that a run takes. -/
def timeOf (host : Host) (stdin : ByteArray) (words : List Text) : IO Nat := do
  let start ← IO.monoNanosNow
  let _ ← IO.lazyPure fun _ => run (fun _ => 0) host stdin words
  return (← IO.monoNanosNow) - start

/-- What the system has against an action. -/
def refusal? (action : IO Unit) : IO (Option FileError) := do
  try
    action
    return none
  catch e => return some (.refused e.toString.toList)

/-- Puts the files that a run has changed and what it prints in place, as far as the system does not refuse. -/
def settle (host : Host) (outcome : Outcome) : IO Refusals := do
  let mut refusals : Refusals := {}
  for (l, content) in host.files.changes outcome.files do
    let reason? ← refusal? (IO.FS.writeBinFile (pathTo l) content)
    let others := refusals.file
    refusals := { refusals with file := fun m => if m = l then reason? else others m }
  let stdout ← IO.getStdout
  let write ← refusal? (stdout.putStr (String.ofList outcome.stdout))
  let flush ← refusal? stdout.flush
  return { refusals with write, flush }

end Markweave.CommandLine

open Markweave in
/-- Looks at the files that a run may touch, makes the run, and puts its outcome in place. -/
def main (arguments : List String) : IO UInt32 := do
  let words := arguments.map String.toList
  let host ← CommandLine.currentHost words
  let stdin ← if CommandLine.readsInput words then (← IO.getStdin).readBinToEnd else pure .empty
  let time ← CommandLine.timeOf host stdin words
  let refusals ← CommandLine.settle host (CommandLine.run (fun _ => time) host stdin words)
  -- The run is made once more, since how it ends depends on what of its first outcome was refused.
  let outcome := CommandLine.run (fun _ => time) host stdin words refusals
  (← IO.getStderr).putStr (String.ofList outcome.stderr)
  return UInt32.ofNat outcome.exit
