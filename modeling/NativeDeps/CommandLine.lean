import NativeDeps.CommandLine.Arguments
import NativeDeps.CommandLine.Usage
import NativeDeps.Environment
import NativeDeps.Json.AsciiText

/-!
# The command line

A whole run of the program: from its arguments to its exit status, with everything
it prints, starts and writes in the history of the session.
-/

namespace NativeDeps.CommandLine

/-- The settings that a request makes for the environment. -/
def settingsOf (choices : Choices) : Settings where
  configuration := choices.configuration.map Files.Path.ofString
  directory := choices.directory.map Files.Path.ofString
  platform := Value.ofTextOrNull choices.platform
  isDryRun := choices.isDryRun

/-- Do what a request asks for. -/
def answer (request : Request) (environment : Environment) : Work Unit := do
  let choices := request.choices
  match request.command with
  | .resolve =>
      let set ← environment.resolve
      if choices.isJson then
        Work.print (Json.array set.identifiers ++ "\n")
      else
        Work.printLines set.identifiers
  | .render =>
      let text ← environment.render
      Work.printText text
  | .shell =>
      let _ ←
        environment.shell (Value.ofTextOrNull choices.provisioner)
          (Value.ofTextOrNull choices.run)
  | .info => environment.showInfo

/-- The exit status for the status of a process that did not succeed. -/
def exitStatus : Option Int → Int
  | none => 1
  | some status => if status = 0 then 1 else status

/-- Tell the user about a failure; the result is the exit status. -/
def report (isVerbose : Bool) : Failure → Work Int
  | .provisioning failure => do
      Work.print failure.output
      Work.printError failure.errors
      Work.tell (.orchestratorFailed failure.message)
      return exitStatus failure.status
  | .interrupted => do
      Work.printError "\nInterrupted by user\n"
      return 130
  | failure => do
      Work.tell (.environmentFailed failure)
      if isVerbose then
        Work.printError ("<traceback " ++ failure.kind ++ ">\n")
      return 1

/-- Carry out a request; the result is the exit status. -/
def carryOut (request : Request) (detector : Detector) : Work Int := do
  match ← (Environment.start (settingsOf request.choices) detector).attempt with
  | .error failure =>
      Work.printError
        ("Error initializing environment: " ++ failure.text ++ "\n")
      return 1
  | .ok environment =>
      match ← (answer request environment).attempt with
      | .ok _ => return 0
      | .error failure => report request.choices.isVerbose failure

/-- The exit status of a run of the program. -/
def run (arguments : List String) (detector : Detector) : Work Int :=
  match read arguments with
  | .error fault => do
      Work.printError
        (usageText ++ programName ++ ": error: " ++ fault.message ++ "\n")
      return 2
  | .ok .help => do
      Work.print helpText
      return 0
  | .ok (.request request) => carryOut request detector

def isVerbose (arguments : List String) : Bool :=
  match read arguments with
  | .ok (.request request) => request.choices.isVerbose
  | _ => false

end NativeDeps.CommandLine
