import NativeDeps.Text.LowerCase
import NativeDeps.Value

/-!
# Hosts

The machine that the program runs on.  Its platform is found out once: a detector
keeps the first answer, even if that is the empty name.
-/

namespace NativeDeps

/-- What the operating system tells about itself, and the version of the runtime. -/
structure Host where
  system : String
  machine : String
  runtime : String
deriving Repr, DecidableEq

namespace Host

/-- The beginnings of the names of Unix layers on Windows. -/
def windowsLayers : List String := ["cygwin", "msys", "mingw"]

def platform (host : Host) : String :=
  let system := Text.lower host.system
  if system = "windows" ∨
      windowsLayers.any fun layer => layer.toList.isPrefixOf system.toList then
    "windows"
  else
    system

/-- The identifier of the processor architecture; one that is not known counts as `x64`. -/
def architecture (host : Host) : String :=
  let machine := Text.lower host.machine
  if machine = "aarch64" ∨ machine = "arm64" then
    "aarch64"
  else if machine = "i386" ∨ machine = "i686" ∨ machine = "x86" then
    "x86"
  else
    "x64"

def facts (host : Host) : Value :=
  .mapping
    [(.text "os", .text host.system),
      (.text "platform", .text host.platform),
      (.text "arch", .text host.architecture),
      (.text "machine", .text host.machine),
      (.text "python_version", .text host.runtime)]

end Host

/-- A host, and its platform as it was when it was first asked for. -/
structure Detector where
  host : Host
  remembered : Option String := none
deriving Repr, DecidableEq

namespace Detector

/-- The platform, and the detector that remembers it. -/
def platform (detector : Detector) : String × Detector :=
  match detector.remembered with
  | some platform => (platform, detector)
  | none =>
      (detector.host.platform,
        { detector with remembered := some detector.host.platform })

def onHost (detector : Detector) (host : Host) : Detector :=
  { detector with host := host }

end Detector

end NativeDeps
