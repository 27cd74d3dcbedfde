import Mathlib.Data.List.Infix
import NativeDeps.Configuration
import NativeDeps.Proofs.Value

/-!
# How loading a configuration ends

Loading is announced to fail for three reasons: a file is missing, there is no section for
the environment, or this section does not describe one.  When both files are there, the
section is first looked for and then taken, and only a mapping can answer both questions.

In a list or in a text the word `environment` may be found, but there is no section to take,
and in a number or a date it cannot even be looked for.  With such a file loading fails with
a mistake of type, and this is the only failure that is not announced.
-/

namespace NativeDeps

namespace Value

/-- The value under a name of a value that is a mapping. -/
def underName? (name : String) (value : Value) : Option Value :=
  match value.opened with
  | .mapping entries => field? name entries
  | _ => none

/--
Whether it is a mistake of type to ask a value for what stands under a name: the value is
no mapping, and the name is one of its members or a part of it, or no text can be looked for
in it.
-/
def IsMistyped (name : String) (value : Value) : Prop :=
  match value.opened with
  | .mapping _ => False
  | .list items => .text name ∈ items
  | .tuple items => .text name ∈ items
  | .set items => .text name ∈ items
  | .text whole => name.toList <:+: whole.toList
  | .halves whole => Spelling.ofText name <:+: whole
  | _ => True

/-- What stands under a name of a value, if the name is found there. -/
def find? (name : String) (value : Value) : Except Failure (Option Value) := do
  if ← value.holds (.text name) then
    return some (← value.getText name)
  else
    return none

variable {name : String} {value : Value}

/-- How looking for a name ends: with a mistake of type, or with what stands under the name. -/
inductive Finds (name : String) (value : Value) :
    Except Failure (Option Value) → Prop
  | mistyped (isMistyped : value.IsMistyped name) :
      Finds name value (.error .mistyped)
  | entry (isTyped : ¬ value.IsMistyped name) :
      Finds name value (.ok (value.underName? name))

end Value

namespace Configuration

variable {files : Files.Tree} {directory path : Files.Path}

/--
What a configuration file holds: nothing where it is missing, else the value that its
content describes, which is an empty mapping where there is none.
-/
inductive Describes (files : Files.Tree) (path : Files.Path) :
    Option Value → Prop
  | missing
      (isMissing :
        path.hasHalf = true ∨ path.hasNull = true ∨
          files.exists? path = .ok false) :
      Describes files path none
  | value {content : Files.Content} {value : Value}
      (noHalf : path.hasHalf = false) (noNull : path.hasNull = false)
      (readable : files.read path = .ok content)
      (isValid : valueOf content = .ok value) :
      Describes files path (some (value.orElse (.mapping [])))

end Configuration

end NativeDeps
