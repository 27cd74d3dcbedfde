import NativeDeps.Value.Access

/-!
# Platform conditions

A condition selects the hosts whose platform is one of those it lists.  Letter
case does not matter, and neither do blanks around the name of the host.
-/

namespace NativeDeps

/-- The platforms for which a condition holds. -/
structure PlatformCondition where
  platforms : List Spelling := []
deriving Repr, DecidableEq

namespace PlatformCondition

/-- The form in which the name of a host is compared. -/
def hostKey (host : Spelling) : Spelling :=
  host.strip.lower

/-- Whether the condition holds on a host; it holds on no host without a name. -/
def holds (condition : PlatformCondition) : Option Spelling → Bool
  | none => false
  | some host =>
      host != "" &&
        condition.platforms.any fun platform =>
          hostKey host == platform.lower

/--
Whether the condition holds on a host whose name may be any value.  It holds on no host
with a value that does not count as given, and only texts and bytes have letter case.
-/
def holdsOn (condition : PlatformCondition) (host : Value) :
    Except Failure Bool :=
  if host.isGiven then do
    let key ← (← host.stripped).lowered
    return condition.platforms.any fun platform =>
      key.sameKey (.ofSpelling platform.lower)
  else
    .ok false

def text (condition : PlatformCondition) : Spelling :=
  if condition.platforms.isEmpty then
    "never"
  else
    "host is " ++ List.intercalate " or " condition.platforms

def ofValue (value : Value) : Checked PlatformCondition := do
  let entries ← value.toObject .condition
  let platforms ← Value.optional "platforms" [] Value.toTexts entries
  return ⟨platforms⟩

end PlatformCondition

end NativeDeps
