import NativeDeps.Rendering
import NativeDeps.Session
import NativeDeps.Value.Access

/-!
# Provisioners

A provisioner provides an environment with the dependencies of a set.  One hands a
Nix expression to the Nix shell, the other writes a manifest.  A dry run tells
what would be done, and neither writes a file nor starts a process.
-/

namespace NativeDeps

/-- The ways to provide an environment. -/
inductive ProvisionerKind
  | nix
  | manifest
deriving Repr, DecidableEq

namespace ProvisionerKind

/-- All ways, in the order in which they are listed. -/
def all : List ProvisionerKind := [.nix, .manifest]

def name : ProvisionerKind → String
  | .nix => "nix"
  | .manifest => "manifest"

def ofName? (name : String) : Option ProvisionerKind :=
  all.find? fun kind => kind.name = name

end ProvisionerKind

/-- A way to provide an environment, with its settings and the directory it works in. -/
structure Provisioner where
  kind : ProvisionerKind
  settings : Value
  directory : Files.Path
  isDryRun : Bool
deriving Repr

/-- What a provisioner provided, and where. -/
structure Handle where
  kind : ProvisionerKind
  set : DependencySet
  status : Int := 0
  expression : Option Files.Path := none
  manifest : Option Files.Path := none
deriving Repr, DecidableEq

/-- What a process left behind that ended well. -/
structure Completion where
  status : Int
  output : Option String
  errors : Option String
deriving Repr, DecidableEq

namespace Provisioner

/-- A provisioner; settings that are not given are empty. -/
def make (kind : ProvisionerKind) (settings : Value) (directory : Files.Path)
    (isDryRun : Bool) : Provisioner where
  kind := kind
  settings := settings.orElse (.mapping [])
  directory := directory
  isDryRun := isDryRun

/-- A setting, or the fallback where it is left out. -/
def setting (provisioner : Provisioner) (name : String) (fallback : Value) :
    Except Failure Value :=
  provisioner.settings.get (.text name) fallback

/-- The text that the provisioner writes for a set. -/
def render (provisioner : Provisioner) (set : DependencySet) :
    Except Failure Spelling :=
  match provisioner.kind with
  | .nix => do
      let packages ← provisioner.setting "package_set" (.text "<nixpkgs>")
      return Nix.expression (← packages.written) set
  | .manifest => .ok (Manifest.text set)

/-- The path of the expression that the Nix shell is given. -/
def expressionPath (provisioner : Provisioner) : Files.Path :=
  provisioner.directory.join (.ofString "shell.nix")

def manifestPath (provisioner : Provisioner) : Except Failure Files.Path := do
  let name ←
    provisioner.setting "filename" (.text "environment-manifest.yaml")
  return provisioner.directory.join (← name.path)

/-- The path of the file that the provisioner writes. -/
def target (provisioner : Provisioner) : Except Failure Files.Path :=
  match provisioner.kind with
  | .nix => .ok provisioner.expressionPath
  | .manifest => provisioner.manifestPath

def executableOf : List Value → Except Failure Value
  | [] => .error .emptyCommand
  | executable :: _ => .ok executable

def lineOf (command : List Value) : Except Failure Spelling :=
  (command.mapM Value.written).map (List.intercalate " ")

/-- An executable as it is shown where it cannot be started; null is not shown. -/
def shownExecutable : Value → Option String
  | .null => none
  | executable => some executable.shown

/-- How a process that ended in some way counts: only the status zero is success. -/
def settle (command : List Value) (capturesOutput : Bool) :
    Outcome → Work Completion
  | .notFound => do
      let executable ← Work.ofExcept (executableOf command)
      throw (.provisioning
        ⟨executable.told ++ " not found: " ++
          Failure.faultMessage .missing (shownExecutable executable),
          none, "", ""⟩)
  | .denied => do
      let executable ← Work.ofExcept (executableOf command)
      throw (.notStarted (shownExecutable executable))
  | .interrupted => throw .interrupted
  | .exited status output errors => do
      if status = some 0 then
        if capturesOutput && output.getD "" != "" then
          Work.tell (.captured (output.getD ""))
        return ⟨0, output, errors⟩
      else
        Work.tell (.commandFailed (← Work.ofExcept (lineOf command)))
        let executable ← Work.ofExcept (executableOf command)
        throw (.provisioning
          ⟨executable.told ++ " exited with status " ++
            (match status with
              | some number => toString number
              | none => "None"),
            status, output.getD "", errors.getD ""⟩)

/-- Run a command, in the provisioner's directory unless another one is given. -/
def run (provisioner : Provisioner) (command : List Value)
    (directory : Option Files.Path) (capturesOutput : Bool) :
    Work Completion := do
  let directory := directory.getD provisioner.directory
  let line ← Work.ofExcept (lineOf command)
  Work.tell (.running line)
  Work.tell (.runningIn directory)
  if provisioner.isDryRun then
    Work.tell (.wouldRun line)
    return ⟨0, some "", some ""⟩
  else
    let outcome ← Work.call ⟨command, directory, capturesOutput⟩
    settle command capturesOutput outcome

def write (provisioner : Provisioner) (path : Files.Path) (content : Value) :
    Work Unit := do
  if provisioner.isDryRun then
    Work.tell (.wouldWrite path)
  else
    Work.writeValue path content
    Work.tell (.wrote path)

/-- The text that the provisioner writes for a set, as a value. -/
def content (provisioner : Provisioner) (set : DependencySet) :
    Except Failure Value :=
  (provisioner.render set).map Value.ofSpelling

def shellCommand (provisioner : Provisioner) (expression : Files.Path)
    (command : Value) : Except Failure (List Value) := do
  let executable ← provisioner.setting "executable" (.text "nix-shell")
  let isPure ← provisioner.setting "pure" (.bool false)
  return executable ::
    (if isPure.isGiven then [.text "--pure"] else []) ++
    .ofSpelling expression.spelling ::
    (if command.isGiven then [.text "--run", command] else [])

/-- Write the expression of a set and enter it with the Nix shell. -/
def provideShell (provisioner : Provisioner) (set : DependencySet)
    (command : Value) (capturesOutput : Bool) : Work Handle := do
  let path := provisioner.expressionPath
  provisioner.write path (← Work.ofExcept (provisioner.content set))
  Work.checkPath path
  let resolved := path.resolve (← Work.files).directory
  let words ← Work.ofExcept (provisioner.shellCommand resolved command)
  let executable ← Work.ofExcept (executableOf words)
  Work.tell (.provisioning set.name set.dependencies.length
    (← Work.ofExcept executable.written))
  let completion ← provisioner.run words none capturesOutput
  return {
    kind := .nix
    set := set
    status := completion.status
    expression := some path }

/-- Write the manifest of a set; a command cannot be run in it. -/
def provideManifest (provisioner : Provisioner) (set : DependencySet)
    (command : Value) : Work Handle := do
  if command.isGiven then
    Work.tell .commandIgnored
  let path ← Work.ofExcept provisioner.manifestPath
  provisioner.write path (← Work.ofExcept (provisioner.content set))
  Work.tell (.manifestWritten set.name path)
  return {
    kind := .manifest
    set := set
    manifest := some path }

/-- Provide an environment with the dependencies of a set. -/
def provision (provisioner : Provisioner) (set : DependencySet)
    (command : Value) (capturesOutput : Bool) : Work Handle :=
  match provisioner.kind with
  | .nix => provisioner.provideShell set command capturesOutput
  | .manifest => provisioner.provideManifest set command

end Provisioner

end NativeDeps
