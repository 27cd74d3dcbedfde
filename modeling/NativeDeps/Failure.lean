import NativeDeps.Files.Tree
import NativeDeps.Logging.TemplateFault
import NativeDeps.Text.Quoted
import NativeDeps.Validation
import NativeDeps.Yaml.Fault

/-!
# Failures

Everything that can stop a step, by its cause, and how each cause is reported.
-/

namespace NativeDeps

/-- How the build orchestrator failed; its output is kept as it is. -/
structure ProvisioningFailure where
  message : String
  status : Option Int
  output : String
  errors : String
deriving Repr, DecidableEq

/-- Why a step did not succeed. -/
inductive Failure
  /-- A value does not describe the object it should describe. -/
  | invalid (report : Report)
  /-- A file holds no YAML document. -/
  | yaml (fault : Yaml.Fault)
  /-- A configuration file is not there. -/
  | noConfiguration (description path : String)
  /-- The configuration describes no environment. -/
  | noEnvironment (path : String)
  /-- There is no provisioner of this name. -/
  | unknownProvisioner (name : Spelling) (available : List String)
  /-- A value is asked for something that its kind does not offer. -/
  | unsupported
  /-- A value is used where only values of another kind can be. -/
  | mistyped
  /-- Files stand in the way. -/
  | files (fault : Files.Fault) (path : Spelling)
  /-- The file that is written cannot take the whole text. -/
  | noSpace
  /-- A path holds a character that no path can hold. -/
  | nullInPath
  /-- A name is looked up where nothing stands under it. -/
  | absent
  /-- The first word of a command without words is asked for. -/
  | emptyCommand
  /-- A template cannot be filled. -/
  | template (fault : Logging.Template.Fault)
  /-- An integer has too many digits to be written. -/
  | longNumber
  /-- A text holds halves of characters, so no file and no output can hold it. -/
  | unencodable
  /-- An executable, shown as inside a value unless it is null, may not be started. -/
  | notStarted (executable : Option String)
  /-- The build orchestrator failed. -/
  | provisioning (failure : ProvisioningFailure)
  /-- The user interrupted the step. -/
  | interrupted
deriving Repr, DecidableEq

namespace Failure

/-- The message of a fault of the file system, about something that may be shown. -/
def faultMessage (fault : Files.Fault) (shown : Option String) : String :=
  "[Errno " ++ toString fault.number ++ "] " ++ fault.text ++
    (match shown with
      | none => ""
      | some shown => ": " ++ shown)

def fileMessage (fault : Files.Fault) (path : Spelling) : String :=
  faultMessage fault (some path.quoted)

def fileKind : Files.Fault → String
  | .missing => "FileNotFoundError"
  | .denied => "PermissionError"
  | .exists => "FileExistsError"
  | .notDirectory => "NotADirectoryError"
  | .isDirectory => "IsADirectoryError"
  | .nameTooLong => "OSError"

def yamlKind : Yaml.Fault → String
  | .malformed => "YAMLError"
  | .undecodable => "UnicodeError"
  | .noCharacter code =>
      if 0x80000000 ≤ code then "OverflowError" else "ValueError"
  | .longNumber _ => "ValueError"
  | .notInteger _ _ => "ValueError"
  | .notNumber _ => "ValueError"
  | .emptyNumber => "IndexError"
  | .tooLarge => "OverflowError"
  | .notTruthValue => "KeyError"
  | .notMoment => "AttributeError"
  | .momentOfMapping => "TypeError"
  | .calendar _ => "ValueError"
  | .endless => "RecursionError"

def kind : Failure → String
  | .invalid _ => "ValidationError"
  | .yaml fault => yamlKind fault
  | .noConfiguration _ _ => "FileNotFoundError"
  | .noEnvironment _ => "ValueError"
  | .unknownProvisioner _ _ => "ValueError"
  | .unsupported => "AttributeError"
  | .mistyped => "TypeError"
  | .files fault _ => fileKind fault
  | .noSpace => "OSError"
  | .nullInPath => "ValueError"
  | .absent => "KeyError"
  | .emptyCommand => "IndexError"
  | .template fault => fault.kind
  | .longNumber => "ValueError"
  | .unencodable => "UnicodeError"
  | .notStarted _ => fileKind .denied
  | .provisioning _ => "ProvisioningFailure"
  | .interrupted => "KeyboardInterrupt"

/-- The message of a failure; a failure without one is reported by its kind alone. -/
def message? : Failure → Option String
  | .invalid report => some report.text
  | .yaml fault =>
      if fault.message = "" then none else some fault.message
  | .noConfiguration description path =>
      some (description ++ " config not found: " ++ path)
  | .noEnvironment path => some ("No environment section in " ++ path)
  | .unknownProvisioner name available =>
      some ("Unknown provisioner: " ++ name.shown ++ ". Available: " ++
        ", ".intercalate available)
  | .unsupported => none
  | .mistyped => none
  | .files fault path => some (fileMessage fault path)
  | .noSpace => some "[Errno 28] No space left on device"
  | .nullInPath => some "embedded null byte"
  | .absent => none
  | .emptyCommand => none
  | .template fault =>
      if fault.message = "" then none else some fault.message
  | .longNumber =>
      some ("Exceeds the limit (4300 digits) for integer string conversion; " ++
        "use sys.set_int_max_str_digits() to increase the limit")
  | .unencodable => none
  | .notStarted executable => some (faultMessage .denied executable)
  | .provisioning failure => some failure.message
  | .interrupted => none

/-- A failure as one text: its message, or its kind. -/
def text (failure : Failure) : String :=
  match failure.message? with
  | some message => message
  | none => "<" ++ failure.kind ++ ">"

end Failure

end NativeDeps
