import NativeDeps.Proofs.Resolution

/-!
# The violation that is reported

A place in one of the two lists of dependencies breaks the rules if its identifier is the
name of the project, or stands earlier in the same list.  Of all such places the first one
is reported, where the base list comes before the conditional one.  Each list is looked at
by itself, so what the other list holds does not matter.
-/

namespace NativeDeps

/-- A place in one of the two lists of dependencies. -/
structure DependencyPlace where
  field : DependencyField
  index : Nat
deriving Repr, DecidableEq

/-- A place comes before another one: in the earlier list, or earlier in the same one. -/
def DependencyPlace.Before (place other : DependencyPlace) : Prop :=
  place.field = .base ∧ other.field = .conditional ∨
    place.field = other.field ∧ place.index < other.index

namespace Violation

variable {name : String} {field : DependencyField}
  {base conditional identifiers seen : List Spelling} {violation : Violation}

end Violation

namespace Descriptor

variable {name : String} {base conditional : List Spelling}
  {condition : PlatformCondition} {scope : Option Spelling}

end Descriptor

namespace Violation

end Violation

end NativeDeps
