import NativeDeps.Configuration
import NativeDeps.Provisioner

/-!
# Workspaces

A workspace joins a configuration, the platform of a host and a directory: it
resolves the dependencies for the host and hands them to a provisioner.
-/

namespace NativeDeps

/-- A configuration, the host's platform, null if it has none, and where files are written. -/
structure Workspace where
  configuration : Configuration
  host : Value
  directory : Files.Path
  isDryRun : Bool
deriving Repr

/-- What would be provided on a host. -/
structure Summary where
  name : String
  platform : Value
  condition : Spelling
  holds : Bool
  dependencies : List Spelling
  directory : Files.Path
deriving Repr

namespace Workspace

def descriptor (workspace : Workspace) : Descriptor :=
  workspace.configuration.descriptor

/-- The dependencies of the project on the host. -/
def resolve (workspace : Workspace) : Work DependencySet := do
  let set ← Work.ofExcept (workspace.descriptor.resolveOn workspace.host)
  let condition := workspace.descriptor.condition
  let holds ← Work.ofExcept (condition.holdsOn workspace.host)
  Work.tell (.condition condition.text workspace.host.asText holds)
  Work.tell (.resolved set.identifiers)
  return set

/-- The way to provide an environment that a value names. -/
def kindOf (name : Value) : Except Failure ProvisionerKind :=
  if name.isScalar then
    let kind? :=
      match name with
      | .text text => ProvisionerKind.ofName? text
      | _ => none
    match kind? with
    | some kind => .ok kind
    | none =>
        match name.written with
        | .error failure => .error failure
        | .ok name =>
            .error (.unknownProvisioner name
              (ProvisionerKind.all.map ProvisionerKind.name))
  else
    .error .mistyped

/-- The provisioner of a name, or the configured one if no name is given. -/
def provisioner (workspace : Workspace) (name : Value) :
    Except Failure Provisioner := do
  let name ←
    if name.isGiven then
      Except.ok name
    else
      workspace.configuration.option (.text "default_provisioner") (.text "nix")
  let kind ← kindOf name
  let settings ← workspace.configuration.provisionerSettings name
  return .make kind settings workspace.directory workspace.isDryRun

/-- Resolve the dependencies and provide an environment with them. -/
def provision (workspace : Workspace) (name command : Value)
    (capturesOutput : Bool) : Work Handle := do
  let provisioner ← Work.ofExcept (workspace.provisioner name)
  let set ← workspace.resolve
  provisioner.provision set command capturesOutput

/-- What would be provided on the host. -/
def summary (workspace : Workspace) : Work Summary := do
  let set ← workspace.resolve
  let condition := workspace.descriptor.condition
  return {
    name := workspace.descriptor.name
    platform := workspace.host
    condition := condition.text
    holds := ← Work.ofExcept (condition.holdsOn workspace.host)
    dependencies := set.identifiers
    directory := workspace.directory }

end Workspace

end NativeDeps
