import NativeDeps.Descriptor.Resolution
import NativeDeps.Nix.Literal
import NativeDeps.Yaml.Written

/-!
# Renderings

The dependencies of a set in the two forms in which they are handed on: a Nix expression,
which asks for an environment with one dependency on a line, and a manifest, which is a
YAML file for tools that are driven by files.
-/

namespace NativeDeps

namespace Nix

/-- A line with one dependency. -/
def inputLine (path : Spelling) : Spelling :=
  "    " ++ path

def inputLines (paths : List Spelling) : List Spelling :=
  if paths.isEmpty then
    ["  buildInputs = [ ];"]
  else
    "  buildInputs = with pkgs; [" :: (paths.map inputLine).concat "  ];"

/-- The lines of the expression, for packages from the given package set. -/
def expressionLines (packages : Spelling) (set : DependencySet) :
    List Spelling :=
  ("with import " ++ packages ++ " \x7b\x7d;") ::
    "" ::
    "stdenv.mkDerivation \x7b" ::
    ("  name = " ++ literal set.name ++ ";") ::
    (inputLines set.attributePaths).concat "\x7d"

/-- The expression for the dependencies of a set. -/
def expression (packages : Spelling) (set : DependencySet) : Spelling :=
  List.intercalate "\n" (expressionLines packages set) ++ "\n"

end Nix

namespace Manifest

def chars (set : DependencySet) : List Char :=
  Yaml.writeField "name" (some set.name) ++
    Yaml.writeField "platform" set.host ++
    Yaml.writeItems "dependencies" set.attributePaths

/-- The manifest of a set; in it every half of a character is an escape. -/
def text (set : DependencySet) : String :=
  String.ofList (chars set)

end Manifest

end NativeDeps
