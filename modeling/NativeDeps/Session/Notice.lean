import NativeDeps.Logging.Level
import NativeDeps.Value.Text
import NativeDeps.Failure

/-!
# Notices

What the program tells its user while it works, by what there is to tell.  Every
notice has a level and a message.
-/

namespace NativeDeps

/-- Something to tell the user. -/
inductive Notice
  | running (command : Spelling)
  | runningIn (directory : Files.Path)
  | wouldRun (command : Spelling)
  | commandFailed (command : Spelling)
  | captured (output : String)
  | wouldWrite (path : Files.Path)
  | wrote (path : Files.Path)
  | provisioning (name : Spelling) (count : Nat) (executable : Spelling)
  | commandIgnored
  | manifestWritten (name : Spelling) (path : Files.Path)
  | condition (condition host : Spelling) (holds : Bool)
  | resolved (identifiers : List Spelling)
  | unrecognized (platform : Spelling) (known : List Spelling)
  | platformFacts (facts : Value)
  | provisioned (provisioner : String) (status : Int)
  | orchestratorFailed (message : String)
  | environmentFailed (failure : Failure)
deriving Repr

namespace Notice

def level : Notice → Logging.Level
  | .running _ => .debug
  | .runningIn _ => .debug
  | .wouldRun _ => .info
  | .commandFailed _ => .error
  | .captured _ => .debug
  | .wouldWrite _ => .info
  | .wrote _ => .debug
  | .provisioning _ _ _ => .info
  | .commandIgnored => .warning
  | .manifestWritten _ _ => .success
  | .condition _ _ _ => .debug
  | .resolved _ => .debug
  | .unrecognized _ _ => .warning
  | .platformFacts _ => .debug
  | .provisioned _ _ => .debug
  | .orchestratorFailed _ => .error
  | .environmentFailed _ => .error

def message : Notice → String
  | .running command => "Running: " ++ command.shown
  | .runningIn directory => "  in: " ++ directory.toString
  | .wouldRun command => "[DRY RUN] Would run: " ++ command.shown
  | .commandFailed command => "Command failed: " ++ command.shown
  | .captured output => "Output: " ++ output
  | .wouldWrite path => "[DRY RUN] Would write " ++ path.toString
  | .wrote path => "Wrote " ++ path.toString
  | .provisioning name count executable =>
      "Provisioning " ++ name.shown ++ " with " ++ toString count ++
        " dependencies via " ++ executable.shown
  | .commandIgnored =>
      "The manifest provisioner does not run commands, ignoring"
  | .manifestWritten name path =>
      "Manifest for " ++ name.shown ++ " written to " ++ path.toString
  | .condition text host holds =>
      "Condition '" ++ text.shown ++ "' on " ++ host.shown ++ ": " ++
        (if holds then "True" else "False")
  | .resolved identifiers =>
      "Resolved " ++ toString identifiers.length ++ " dependencies: " ++
        ", ".intercalate (identifiers.map Spelling.shown)
  | .unrecognized platform known =>
      "Unrecognized platform: " ++ platform.shown ++ ". Known: " ++
        ", ".intercalate (known.map Spelling.shown)
  | .platformFacts facts => "Platform info: " ++ facts.shown
  | .provisioned provisioner status =>
      "Provisioned with " ++ provisioner ++ " (status " ++
        toString status ++ ")"
  | .orchestratorFailed message => message
  | .environmentFailed failure => "Environment error: " ++ failure.text

end Notice

end NativeDeps
