import NativeDeps.Descriptor.Condition

/-!
# Environment descriptors

What a project says about its native build dependencies: those it needs on every
host, and those it needs where a condition holds.  Neither list may name an
identifier twice, and the project may not depend on itself; the type of descriptors
carries the proof of both.
-/

namespace NativeDeps

/-- The two lists of dependencies. -/
inductive DependencyField
  | base
  | conditional
deriving Repr, DecidableEq

/-- The name of a list of dependencies in configuration files. -/
def DependencyField.name : DependencyField → String
  | .base => "base_dependencies"
  | .conditional => "conditional_dependencies"

/-- How a list of dependencies can break the rules. -/
inductive Violation
  | duplicate (identifier : Spelling) (field : DependencyField)
  | onItself
deriving Repr, DecidableEq

namespace Violation

def message (name : String) : Violation → String
  | .duplicate identifier field =>
      "Duplicate dependency '" ++ identifier.reported ++ "' in " ++ field.name
  | .onItself => name ++ " cannot depend on itself"

/--
The first violation in a list, of which the identifiers in `seen` have been passed.
A repeated identifier is a duplicate even where it is the project's own name.
-/
def firstIn (name : String) (field : DependencyField)
    (seen : List Spelling) : List Spelling → Option Violation
  | [] => none
  | identifier :: rest =>
      if identifier ∈ seen then
        some (.duplicate identifier field)
      else if identifier = name then
        some .onItself
      else
        firstIn name field (identifier :: seen) rest

/-- The first violation in both lists, the base list first. -/
def first (name : String) (base conditional : List Spelling) :
    Option Violation :=
  match firstIn name .base [] base with
  | some violation => some violation
  | none => firstIn name .conditional [] conditional

end Violation

/-- A project's description of its native build dependencies. -/
structure Descriptor where
  name : String
  base : List Spelling
  condition : PlatformCondition
  conditional : List Spelling
  scope : Option Spelling
  named : name ≠ ""
  lawful : Violation.first name base conditional = none
deriving Repr, DecidableEq

namespace Descriptor

/-- Put a descriptor together, unless it breaks a rule. -/
def assemble (name : String) (base : List Spelling)
    (condition : PlatformCondition) (conditional : List Spelling)
    (scope : Option Spelling) (named : name ≠ "") : Checked Descriptor :=
  match lawful : Violation.first name base conditional with
  | some violation => Value.complain (.rule (violation.message name))
  | none =>
      .ok ⟨name, base, condition, conditional, scope, named, lawful⟩

/-- Read the fields of a descriptor, in the order in which they are reported. -/
def ofEntries (entries : List (Value × Value)) : Checked Descriptor :=
  let fields :=
    (Value.required "name" Value.toFullText entries).both
      ((Value.optional "base_dependencies" [] Value.toTexts entries).both
        ((Value.optional "platform_condition" ⟨[]⟩
            PlatformCondition.ofValue entries).both
          ((Value.optional "conditional_dependencies" []
              Value.toTexts entries).both
            (Value.optional "conditional_namespace" none
              Value.toTextOrNull entries))))
  match fields with
  | .error problems => .error problems
  | .ok (⟨name, named⟩, base, condition, conditional, scope) =>
      assemble name base condition conditional scope named

def ofValue (value : Value) : Checked Descriptor :=
  match value.toObject .environment with
  | .error problems => .error problems
  | .ok entries => ofEntries entries

/-- The object that a descriptor is read from, with every field written out. -/
def toValue (descriptor : Descriptor) : Value :=
  .mapping
    [(.text "name", .text descriptor.name),
      (.text "base_dependencies", .list (descriptor.base.map .ofSpelling)),
      (.text "platform_condition",
        .mapping
          [(.text "platforms",
            .list (descriptor.condition.platforms.map .ofSpelling))]),
      (.text "conditional_dependencies",
        .list (descriptor.conditional.map .ofSpelling)),
      (.text "conditional_namespace", .ofSpellingOrNull descriptor.scope)]

end Descriptor

end NativeDeps
