import NativeDeps.CommandLine.Places
import Std.Time.Format

/-!
# The program

The program as it is started: the places of the run are looked up, the run itself
is computed, and what it changed and printed is carried over.  The program starts
no process of its own, so the executable of a provisioner counts as not found.
-/

namespace NativeDeps.Program

def pathOf (location : Files.Location) : String :=
  (Files.Path.ofLocation location).toString

/-- What stands at a place whose parent is a directory. -/
def lookUp (location : Files.Location) : IO (Option Files.Entry) := do
  try
    let bytes ← IO.FS.readBinFile (pathOf location)
    return some (.file (.ofBytes bytes.toList))
  catch
    | .inappropriateType .. => return some .directory
    | _ => return none

/-- Add the places along a path to the files that are known. -/
def learn (files : Files.Tree) (start : Files.Location) :
    List Spelling → IO Files.Tree
  | [] => return files
  | name :: rest => do
      let location := Files.Path.stepLexically start name
      match ← lookUp location with
      | none => return files
      | some (.file content) => return files.set location (.file content)
      | some .directory => learn (files.set location .directory) location rest

/-- Add the places along several paths to the files that are known. -/
def learnAll (files : Files.Tree) : List Files.Path → IO Files.Tree
  | [] => return files
  | path :: rest => do
      let start := if path.anchor = .here then files.directory else []
      learnAll (← learn files start path.parts) rest

def carryOver (change : Files.Location × Files.Entry) : IO Unit :=
  match change with
  | (location, .directory) => IO.FS.createDirAll (pathOf location)
  | (location, .file (.text content)) =>
      IO.FS.writeFile (pathOf location) content
  | (location, .file (.bytes content)) =>
      IO.FS.writeBinFile (pathOf location) ⟨content.toArray⟩

def clock : IO Calendar.Moment := do
  let moment ← Std.Time.PlainDateTime.now
  return {
    date :=
      { year := moment.year.toNat
        month := moment.month.toNat
        day := moment.day.toNat }
    hour := moment.hour.toNat
    minute := moment.minute.toNat
    second := moment.second.toNat
    microsecond := 0
    offset := none }

def systemName : IO String := do
  try
    let text ← IO.FS.readFile "/proc/sys/kernel/ostype"
    return Text.strip text
  catch _ => return ""

def machineName : IO String := do
  try
    let text ← IO.FS.readFile "/proc/sys/kernel/arch"
    return Text.strip text
  catch _ => return ""

/-- Run the program; the result is the exit status. -/
def run (arguments : List String) : IO UInt32 := do
  let directory := (Files.Path.ofString (← IO.currentDir).toString).parts
  let empty : Files.Tree := { entries := [], directory := directory }
  let known ← learn empty [] directory
  let known ← learnAll known (CommandLine.sources arguments)
  let known ← learnAll known (CommandLine.targets arguments known)
  let isTerminal ← (← IO.getStderr).isTty
  let console : Console :=
    ⟨CommandLine.isVerbose arguments, isTerminal, ← clock⟩
  let host : Host := ⟨← systemName, ← machineName, ""⟩
  let session : Session :=
    { files := known, outcomes := [.notFound] }
  let (result, after) :=
    (CommandLine.run arguments { host := host }).perform session
  (after.files.changesSince known).forM carryOver
  IO.print (outputOf after.history)
  IO.eprint (console.errors after.history)
  match result with
  | .error failure =>
      IO.eprintln failure.text
      return 1
  | .ok status => return (status % 256).toNat.toUInt32

end NativeDeps.Program

def main (arguments : List String) : IO UInt32 :=
  NativeDeps.Program.run arguments
