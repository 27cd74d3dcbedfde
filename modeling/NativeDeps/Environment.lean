import NativeDeps.Host
import NativeDeps.Workspace

/-!
# Development environments

A workspace for the host that the program runs on, or for a platform that the user
names.  A platform that is not known is no error: it only gets no dependencies of
its own.
-/

namespace NativeDeps

/-- What the user decides about an environment. -/
structure Settings where
  root : Option Files.Path := none
  configuration : Option Files.Path := none
  directory : Option Files.Path := none
  platform : Value := .text "auto"
  isDryRun : Bool := false
deriving Repr

/-- A workspace, what is known about its platform, and the directory of the project. -/
structure Environment where
  workspace : Workspace
  facts : Value
  root : Files.Path
deriving Repr

namespace Environment

def version : String := "1.0.0"

/-- The word that stands for the platform of the host. -/
def automatic : String := "auto"

/-- The platform that the user asks for, and what is known about it. -/
def platformOf (configuration : Configuration) (platform : Value)
    (detector : Detector) : Except Failure (Value × Value) := do
  if platform.sameKey (.text automatic) then
    return (.text detector.platform.1, detector.host.facts)
  else
    let platform ← configuration.normalize platform
    return (platform, .mapping [(.text "platform", platform)])

/-- The directory that generated files are written to. -/
def directoryOf (configuration : Configuration) (root : Files.Path) :
    Option Files.Path → Except Failure Files.Path
  | some directory => .ok directory
  | none => do
      let directory ←
        configuration.option (.text "work_dir") (.text "build/devenv")
      return root.join (← directory.path)

/-- Set up an environment. -/
def start (settings : Settings) (detector : Detector) : Work Environment := do
  let files ← Work.files
  let root := settings.root.getD (.ofLocation files.directory)
  let configuration ←
    Work.ofExcept (Configuration.load files settings.configuration)
  let (platform, facts) ←
    Work.ofExcept (platformOf configuration settings.platform detector)
  if !(← Work.ofExcept (configuration.isKnown platform)) then
    let names ← Work.ofExcept configuration.platformNames
    Work.tell
      (.unrecognized platform.asText
        (← Work.ofExcept (Value.toSpellings names)))
  Work.tell (.platformFacts facts)
  let directory ←
    Work.ofExcept (directoryOf configuration root settings.directory)
  return ⟨⟨configuration, platform, directory, settings.isDryRun⟩, facts, root⟩

/-- The dependencies of the project on the platform. -/
def resolve (environment : Environment) : Work DependencySet :=
  environment.workspace.resolve

/-- The Nix expression for the platform. -/
def render (environment : Environment) : Work Spelling := do
  let provisioner ←
    Work.ofExcept
      (environment.workspace.provisioner (.text ProvisionerKind.nix.name))
  let set ← environment.resolve
  Work.ofExcept (provisioner.render set)

/-- Provide the environment. -/
def shell (environment : Environment) (provisioner command : Value) :
    Work Handle := do
  let handle ← environment.workspace.provision provisioner command false
  Work.tell (.provisioned handle.kind.name handle.status)
  return handle

/-- A line with one dependency. -/
def dependencyLine (identifier : Spelling) : Spelling :=
  "  - " ++ identifier

/-- The first part of what is shown about an environment. -/
def summaryLines (summary : Summary) : List Spelling :=
  ("\nPijul Development Environment v" ++ version) ::
    String.ofList (List.replicate 50 '=') ::
    ("Project: " ++ summary.name) ::
    ("Platform: " ++ summary.platform.asText) ::
    ("Condition: " ++ summary.condition ++
      (if summary.holds then " (holds)" else " (does not hold)")) ::
    ("Work Directory: " ++ summary.directory.spelling) ::
    ("\nDependencies (" ++ toString summary.dependencies.length ++ "):") ::
    summary.dependencies.map dependencyLine

/-- The second part of what is shown about an environment. -/
def choiceLines (platforms : List Spelling) : List Spelling :=
  ["\nKnown platforms: " ++ List.intercalate ", " platforms,
    "Provisioners: " ++
      ", ".intercalate (ProvisionerKind.all.map ProvisionerKind.name)]

def showInfo (environment : Environment) : Work Unit := do
  let summary ← environment.workspace.summary
  Work.printLines (summaryLines summary)
  let names ← Work.ofExcept environment.workspace.configuration.platformNames
  let platforms ← Work.ofExcept (Value.toSpellings names)
  Work.printLines (choiceLines platforms)

end Environment

end NativeDeps
