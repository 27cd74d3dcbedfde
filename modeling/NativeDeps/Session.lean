import NativeDeps.Logging.Registry
import NativeDeps.Session.Notice

/-!
# Sessions

What a piece of work finds and changes: the files, the outcomes of the processes
that will be started, and the history of what happened.  Every event is
kept with the files as they stood when it happened, so that a statement about the
moment of an event is one about the history.
-/

namespace NativeDeps

/-- How a started process ends. -/
inductive Outcome
  | exited (status : Option Int) (output errors : Option String)
  | notFound
  | denied
  | interrupted
deriving Repr, DecidableEq

/-- How a process ends that succeeds and prints nothing. -/
def Outcome.quiet : Outcome :=
  .exited (some 0) (some "") (some "")

/-- The start of a process. -/
structure Call where
  command : List Value
  directory : Files.Path
  capturesOutput : Bool
deriving Repr

/-- What can happen in a session that someone outside can see. -/
inductive Event
  | notice (notice : Notice)
  | call (call : Call)
  | output (text : String)
  | errors (text : String)
deriving Repr

/-- An event, and the files as they stood when it happened. -/
structure Occurrence where
  event : Event
  files : Files.Tree
deriving Repr

/-- The files, the outcomes of the next processes, and the history, oldest event first. -/
structure Session where
  files : Files.Tree
  outcomes : List Outcome := []
  history : List Occurrence := []
deriving Repr

/-- How the notices of a session appear on the console. -/
structure Console where
  isVerbose : Bool
  isTerminal : Bool
  now : Calendar.Moment
deriving Repr, DecidableEq

namespace Console

def record (notice : Notice) : Logging.Record where
  levelName := notice.level.name
  message := .text notice.message

/-- The line of a notice, or nothing if its level is below the threshold. -/
def line (console : Console) (notice : Notice) : String :=
  if Logging.Level.threshold console.isVerbose ≤ notice.level then
    Logging.Registry.lineOf
      ((Logging.consoleLayout console.isVerbose console.now).applyToConsole
        console.isTerminal (record notice))
  else
    ""

/-- What an event prints on standard error. -/
def errorText (console : Console) : Event → String
  | .notice notice => console.line notice
  | .call _ => ""
  | .output _ => ""
  | .errors text => text

def errors (console : Console) (history : List Occurrence) : String :=
  String.join (history.map fun occurrence => console.errorText occurrence.event)

end Console

namespace Event

/-- What an event prints on standard output. -/
def outputText : Event → String
  | .output text => text
  | _ => ""

def call? : Event → Option Call
  | .call started => some started
  | _ => none

end Event

/-- Lines as one text. -/
def textOfLines (lines : List String) : String :=
  String.join (lines.map (· ++ "\n"))

/-- The lines in front of the first one with halves of characters. -/
def wholeLines : List Spelling → List String
  | [] => []
  | line :: rest =>
      match line.text? with
      | some whole => whole :: wholeLines rest
      | none => []

def outputOf (history : List Occurrence) : String :=
  String.join (history.map fun occurrence => occurrence.event.outputText)

def callsOf (history : List Occurrence) : List Call :=
  history.filterMap fun occurrence => occurrence.event.call?

/-- A piece of work in a session, which gives a value or fails. -/
abbrev Work (α : Type) := ExceptT Failure (StateM Session) α

namespace Work

/-- Do a piece of work: how it ends, and the session after it. -/
def perform {α : Type} (task : Work α) (session : Session) :
    Except Failure α × Session :=
  StateT.run (ExceptT.run task) session

/-- Let something happen. -/
def record (event : Event) : Work Unit :=
  modify fun session =>
    { session with
      history := session.history ++ [⟨event, session.files⟩] }

def tell (notice : Notice) : Work Unit :=
  record (.notice notice)

def print (text : String) : Work Unit :=
  record (.output text)

def printError (text : String) : Work Unit :=
  record (.errors text)

def ofExcept {α : Type} (result : Except Failure α) : Work α :=
  ExceptT.mk (pure result)

/-- Print a text, if there are no halves of characters in it. -/
def printText (text : Spelling) : Work Unit :=
  match text.text? with
  | some whole => print whole
  | none => throw .unencodable

/-- Print lines, up to the first one with halves of characters. -/
def printLines (lines : List Spelling) : Work Unit := do
  let printed := wholeLines lines
  print (textOfLines printed)
  if printed.length < lines.length then
    throw .unencodable

/-- Do a piece of work that may fail, and go on either way. -/
def attempt {α : Type} (task : Work α) : Work (Except Failure α) :=
  ExceptT.mk do
    let result ← task.run
    return .ok result

def files : Work Files.Tree := do
  return (← get).files

def setFiles (files : Files.Tree) : Work Unit :=
  modify fun session => { session with files := files }

/-- Give up on a path that no file can have. -/
def checkPath (path : Files.Path) : Work Unit := do
  if path.hasHalf then
    throw .unencodable
  if path.hasNull then
    throw .nullInPath

/-- Make the directory that a file will be in, with all that are missing above it. -/
def makeParent (path : Files.Path) : Work Unit := do
  checkPath path.parent
  let (files, failure) := (← files).ensureDirectory path.parent
  setFiles files
  match failure with
  | none => return ()
  | some (fault, place) => throw (.files fault place.spelling)

/-- Open a file to be written anew: it is made, with the directories above it, or emptied. -/
def openFile (path : Files.Path) : Work Unit := do
  makeParent path
  checkPath path
  match (← files).write path (.text "") with
  | .error fault => throw (.files fault path.spelling)
  | .ok files => setFiles files

/-- Write a text to a file, as far as the file can take it. -/
def writeText (path : Files.Path) (content : String) : Work Unit := do
  openFile path
  let files ← files
  let location := path.location files.directory
  setFiles (files.set location (.file (files.kept location content)))
  match files.cut? location content with
  | none => return ()
  | some _ => throw .noSpace

/--
Write a value to a file.  Only texts can be written, and what is to become of a text
with halves of characters shows only when the file has been opened.
-/
def writeValue (path : Files.Path) : Value → Work Unit
  | .text content => writeText path content
  | .halves _ => do
      openFile path
      throw .unencodable
  | _ => do
      makeParent path
      throw .mistyped

/-- Take the outcome of the next process; when none is left, it succeeds quietly. -/
def takeOutcome : Work Outcome := do
  let session ← get
  match session.outcomes with
  | [] => return .quiet
  | outcome :: rest =>
      set { session with outcomes := rest }
      return outcome

def call (call : Call) : Work Outcome := do
  record (.call call)
  takeOutcome

end Work

end NativeDeps
