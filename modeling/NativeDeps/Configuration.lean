import NativeDeps.Configuration.Shipped
import NativeDeps.Descriptor.Resolution
import NativeDeps.Value.Access
import NativeDeps.Yaml.Document

/-!
# Configuration

The descriptor of a project and the settings around it, read from two files of one
directory.  Only the descriptor is checked when the files are read; every other
section is taken as it is, and asking a section of the wrong shape is a failure of
the question.
-/

namespace NativeDeps

/-- What the two files hold, and the descriptor that was read from the first. -/
structure Configuration where
  environment : Value
  platforms : Value
  descriptor : Descriptor
deriving Repr

namespace Configuration

/-- The value that the content of a file describes. -/
def valueOf : Files.Content → Except Yaml.Fault Value
  | .text content => Yaml.read content
  | .bytes content => Yaml.readBytes content

/-- Read a configuration file; one without content counts as an empty mapping. -/
def readFile (files : Files.Tree) (description : String) (path : Files.Path) :
    Except Failure Value :=
  if path.hasHalf || path.hasNull then
    .error (.noConfiguration description path.toString)
  else
    match files.exists? path with
    | .error fault => .error (.files fault path.spelling)
    | .ok false => .error (.noConfiguration description path.toString)
    | .ok true =>
        match files.read path with
        | .error fault => .error (.files fault path.spelling)
        | .ok content =>
            match valueOf content with
            | .error fault => .error (.yaml fault)
            | .ok value => .ok (value.orElse (.mapping []))

/-- Take the descriptor out of the first file, which was read from the given path. -/
def ofValues (path : String) (environment platforms : Value) :
    Except Failure Configuration := do
  if ← environment.holds (.text "environment") then
    match Descriptor.ofValue (← environment.getText "environment") with
    | .error problems => .error (.invalid ⟨.environment, problems⟩)
    | .ok descriptor =>
        return ⟨environment, platforms, descriptor⟩
  else
    .error (.noEnvironment path)

/-- The name of the file that holds the descriptor. -/
def environmentFile : String := "environment.yaml"

def platformsFile : String := "platforms.yaml"

def ofDirectory (files : Files.Tree) (directory : Files.Path) :
    Except Failure Configuration := do
  let path := directory.join (.ofString environmentFile)
  let environment ← readFile files "Environment" path
  let platforms ←
    readFile files "Platforms" (directory.join (.ofString platformsFile))
  ofValues path.toString environment platforms

/-- The configuration that is used when no directory is named. -/
def shipped : Except Failure Configuration :=
  ofValues environmentFile Shipped.environment Shipped.platforms

/-- Read the configuration of a directory, if one is named. -/
def load (files : Files.Tree) : Option Files.Path → Except Failure Configuration
  | some directory => ofDirectory files directory
  | none => shipped

/-- A section of one of the files; a section that is left out is empty. -/
def sectionOf (file : Value) (name : String) : Except Failure Value :=
  file.get (.text name) (.mapping [])

def platformSection (configuration : Configuration) : Except Failure Value :=
  sectionOf configuration.platforms "platforms"

def platformNames (configuration : Configuration) :
    Except Failure (List Value) := do
  let entries ← (← configuration.platformSection).entries
  return entries.map Prod.fst

/-- Whether a name is one of some aliases, which are looked at one after the other. -/
def isAlias (name : Value) : List Value → Except Failure Bool
  | [] => .ok false
  | other :: rest =>
      match other.lowered with
      | .error failure => .error failure
      | .ok other =>
          if other.sameKey name then .ok true else isAlias name rest

/-- The aliases of a platform, by its settings. -/
def aliases (settings : Value) : Except Failure (List Value) := do
  let aliases ← (settings.orElse (.mapping [])).get (.text "aliases") (.list [])
  aliases.items

/-- The first platform with a name among its aliases, or else the name itself. -/
def platformOfAlias (name : Value) :
    List (Value × Value) → Except Failure Value
  | [] => .ok name
  | (platform, settings) :: rest => do
      if ← isAlias name (← aliases settings) then
        return platform
      else
        platformOfAlias name rest

/--
The identifier of a platform: the name itself, in small letters and without blanks
around it, where that is an identifier, or else the first platform with this alias.
-/
def normalize (configuration : Configuration) (name : Value) :
    Except Failure Value := do
  let name ← (← name.stripped).lowered
  let platforms ← configuration.platformSection
  if ← platforms.holds name then
    return name
  else
    platformOfAlias name (← platforms.entries)

def isKnown (configuration : Configuration) (name : Value) :
    Except Failure Bool := do
  let platform ← configuration.normalize name
  return (← configuration.platformNames).any (·.sameKey platform)

def provisionerSection (configuration : Configuration) : Except Failure Value :=
  sectionOf configuration.environment "provisioners"

def provisionerNames (configuration : Configuration) :
    Except Failure (List Value) := do
  let entries ← (← configuration.provisionerSection).entries
  return entries.map Prod.fst

/-- The settings of a provisioner, empty where there are none. -/
def provisionerSettings (configuration : Configuration) (name : Value) :
    Except Failure Value := do
  let settings ← (← configuration.provisionerSection).get name .null
  return settings.orElse (.mapping [])

/-- An option, or the fallback where it is left out. -/
def option (configuration : Configuration) (name fallback : Value) :
    Except Failure Value := do
  (← sectionOf configuration.environment "options").get name fallback

end Configuration

end NativeDeps
