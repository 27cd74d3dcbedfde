import NativeDeps.CommandLine

/-!
# The places of a run

The paths that a run of the program can read or write, so that only these have to
be known before the run.
-/

namespace NativeDeps.CommandLine

/-- The choices that the arguments make, if they make sense. -/
def choicesOf (arguments : List String) : Choices :=
  match read arguments with
  | .ok (.request request) => request.choices
  | _ => {}

def sources (arguments : List String) : List Files.Path :=
  match (settingsOf (choicesOf arguments)).configuration with
  | none => []
  | some directory =>
      [directory.join (.ofString Configuration.environmentFile),
        directory.join (.ofString Configuration.platformsFile)]

/-- The workspace of a run on a host without a name. -/
def workspaceOf (arguments : List String) (files : Files.Tree) :
    Except Failure Workspace := do
  let settings := settingsOf (choicesOf arguments)
  let configuration ← Configuration.load files settings.configuration
  let directory ←
    Environment.directoryOf configuration (.ofLocation files.directory)
      settings.directory
  return ⟨configuration, .null, directory, settings.isDryRun⟩

/-- The files that a run can write, when the configuration files are known. -/
def targets (arguments : List String) (files : Files.Tree) :
    List Files.Path :=
  match workspaceOf arguments files with
  | .error _ => []
  | .ok workspace =>
      ProvisionerKind.all.filterMap fun kind =>
        match workspace.provisioner (.text kind.name) with
        | .error _ => none
        | .ok provisioner => provisioner.target.toOption

end NativeDeps.CommandLine
