import NativeDeps.Descriptor.Environment

/-!
# Resolution

The dependencies of a project on one host: the base dependencies, followed by the
conditional ones where the condition holds.  An identifier that stands in both
lists is taken once, at its first place and without a namespace.
-/

namespace NativeDeps

/-- A single dependency and the attribute path that it lives under. -/
structure Dependency where
  identifier : Spelling
  scope : Option Spelling := none
deriving Repr, DecidableEq

namespace Dependency

/-- The full path of the dependency in its package set. -/
def attributePath (dependency : Dependency) : Spelling :=
  match dependency.scope with
  | none => dependency.identifier
  | some path =>
      if path = "" then
        dependency.identifier
      else
        path ++ "." ++ dependency.identifier

def ofValue (value : Value) : Checked Dependency :=
  match value.toObject .dependency with
  | .error problems => .error problems
  | .ok entries =>
      ((Value.required "identifier" Value.toText entries).both
        (Value.optional "namespace" none Value.toTextOrNull entries)).map
          fun (identifier, scope) => ⟨identifier, scope⟩

end Dependency

/-- The dependencies of a project on one host, in order. -/
structure DependencySet where
  name : Spelling
  host : Option Spelling
  dependencies : List Dependency
deriving Repr, DecidableEq

namespace DependencySet

/-- The identifiers of the dependencies, in order. -/
def identifiers (set : DependencySet) : List Spelling :=
  set.dependencies.map Dependency.identifier

/-- The attribute paths of the dependencies, in order. -/
def attributePaths (set : DependencySet) : List Spelling :=
  set.dependencies.map Dependency.attributePath

def contains (set : DependencySet) (identifier : Spelling) : Bool :=
  set.identifiers.contains identifier

/-- Read a set from a value; nothing is dropped from it. -/
def ofValue (value : Value) : Checked DependencySet :=
  match value.toObject .dependencySet with
  | .error problems => .error problems
  | .ok entries =>
      ((Value.required "name" Value.toText entries).both
        ((Value.optional "host_platform" none Value.toTextOrNull entries).both
          (Value.optional "dependencies" []
            (Value.toListOf Dependency.ofValue) entries))).map
        fun (name, host, dependencies) => ⟨name, host, dependencies⟩

end DependencySet

namespace Resolution

/--
The dependencies whose identifier is not among those seen, each identifier at its
first place.
-/
def firsts (seen : List Spelling) : List Dependency → List Dependency
  | [] => []
  | dependency :: rest =>
      if dependency.identifier ∈ seen then
        firsts seen rest
      else
        dependency :: firsts (dependency.identifier :: seen) rest

end Resolution

namespace Descriptor

/-- The dependencies needed on every host. -/
def baseDependencies (descriptor : Descriptor) : List Dependency :=
  descriptor.base.map fun identifier => ⟨identifier, none⟩

/-- The dependencies needed where the condition holds. -/
def conditionalDependencies (descriptor : Descriptor) : List Dependency :=
  descriptor.conditional.map fun identifier =>
    ⟨identifier, descriptor.scope⟩

/-- The dependencies where the condition holds or does not hold. -/
def dependencies (descriptor : Descriptor) (holds : Bool) :
    List Dependency :=
  Resolution.firsts []
    (descriptor.baseDependencies ++
      if holds then descriptor.conditionalDependencies else [])

/-- The dependencies of the project on a host. -/
def resolve (descriptor : Descriptor) (host : Option Spelling) :
    DependencySet where
  name := descriptor.name
  host := host
  dependencies := descriptor.dependencies (descriptor.condition.holds host)

/--
The dependencies of the project on a host whose name may be any value.  The condition
is asked first; after that the name has to be a text or null.
-/
def resolveOn (descriptor : Descriptor) (host : Value) :
    Except Failure DependencySet := do
  let holds ← descriptor.condition.holdsOn host
  match Checked.under (.field "host_platform") host.toTextOrNull with
  | .error problems => throw (.invalid ⟨.dependencySet, problems⟩)
  | .ok name =>
      return {
        name := descriptor.name
        host := name
        dependencies := descriptor.dependencies holds }

end Descriptor

end NativeDeps
