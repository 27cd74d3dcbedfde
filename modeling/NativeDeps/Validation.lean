import NativeDeps.Value

/-!
# Validation

Reading typed data from configuration values.  A reader looks at every field
before it gives up, so a report lists all problems, in the order of the fields
and of the elements within a field.
-/

namespace NativeDeps

/-- The kinds of object that are read from values. -/
inductive Model
  | environment
  | condition
  | dependency
  | dependencySet
deriving Repr, DecidableEq

/-- The name of a kind of object in reports. -/
def Model.name : Model → String
  | .environment => "BuildEnvironmentSpec"
  | .condition => "PlatformCondition"
  | .dependency => "Dependency"
  | .dependencySet => "EffectiveDependencySet"

/-- What is wrong at one place of a value. -/
inductive Complaint
  | missing
  | notText
  | notUnicode
  | emptyText
  | notList
  | notObject (model : Model)
  | rule (message : String)
deriving Repr, DecidableEq

namespace Complaint

def code : Complaint → String
  | .missing => "missing"
  | .notText => "string_type"
  | .notUnicode => "string_unicode"
  | .emptyText => "string_too_short"
  | .notList => "tuple_type"
  | .notObject _ => "model_type"
  | .rule _ => "value_error"

def message : Complaint → String
  | .missing => "Field required"
  | .notText => "Input should be a valid string"
  | .notUnicode =>
      "Input should be a valid string, unable to parse raw data as a unicode string"
  | .emptyText => "String should have at least 1 character"
  | .notList => "Input should be a valid tuple"
  | .notObject model =>
      "Input should be a valid dictionary or instance of " ++ model.name
  | .rule message => "Value error, " ++ message

end Complaint

/-- One step from an object or a list into what it holds. -/
inductive Step
  | field (name : String)
  | element (index : Nat)
deriving Repr, DecidableEq

def Step.text : Step → String
  | .field name => name
  | .element index => toString index

/-- A complaint and the place it is about, outermost step first. -/
structure Problem where
  complaint : Complaint
  location : List Step
deriving Repr, DecidableEq

/-- The problems of one value that was to be read as an object of the given kind. -/
structure Report where
  model : Model
  problems : List Problem
deriving Repr, DecidableEq

namespace Report

def problemText (problem : Problem) : String :=
  (if problem.location.isEmpty then
    ""
  else
    ".".intercalate (problem.location.map Step.text) ++ "\n") ++
    "  " ++ problem.complaint.message

def text (report : Report) : String :=
  let count := report.problems.length
  "\n".intercalate
    ((toString count ++ " validation error" ++ (if count = 1 then "" else "s") ++
        " for " ++ report.model.name) ::
      report.problems.map problemText)

end Report

/-- What a reader finds: a result, or the problems it met. -/
abbrev Checked (α : Type) := Except (List Problem) α

namespace Checked

/-- Combine two results; the problems of the first come first. -/
def both {α β : Type} (first : Checked α) (second : Checked β) :
    Checked (α × β) :=
  match first, second with
  | .ok left, .ok right => .ok (left, right)
  | .ok _, .error problems => .error problems
  | .error problems, .ok _ => .error problems
  | .error left, .error right => .error (left ++ right)

/-- Add a step in front of the place of every problem. -/
def under {α : Type} (step : Step) (result : Checked α) : Checked α :=
  result.mapError fun problems =>
    problems.map fun problem =>
      { problem with location := step :: problem.location }

end Checked

namespace Value

/-- A single complaint about the value itself. -/
def complain {α : Type} (complaint : Complaint) : Checked α :=
  .error [⟨complaint, []⟩]

/-- Read a text; bytes are accepted if they are the encoding of one. -/
def toText : Value → Checked Spelling
  | .text value => .ok value
  | .halves spelling => .ok spelling
  | .bytes value =>
      match String.fromUTF8? ⟨value.toArray⟩ with
      | some decoded => .ok decoded
      | none => complain .notUnicode
  | _ => complain .notText

/--
Read a text that is not empty.  To find out how long it is takes a text without halves of
characters.
-/
def toFullText (value : Value) : Checked { name : String // name ≠ "" } :=
  match value.toText with
  | .error problems => .error problems
  | .ok spelling =>
      match spelling.text? with
      | none => complain .notUnicode
      | some name =>
          if full : name = "" then complain .emptyText else .ok ⟨name, full⟩

def toTextOrNull : Value → Checked (Option Spelling)
  | .null => .ok none
  | value => value.toText.map some

def elements? (value : Value) : Option (List Value) :=
  match value.opened with
  | .list items => some items
  | .set items => some items
  | .tuple items => some items
  | _ => none

/-- Read every element with a reader, the first of them being element `index`. -/
def readElements {α : Type} (read : Value → Checked α) (index : Nat) :
    List Value → Checked (List α)
  | [] => .ok []
  | item :: rest =>
      ((Checked.under (.element index) (read item)).both
        (readElements read (index + 1) rest)).map
          fun (first, others) => first :: others

def toListOf {α : Type} (read : Value → Checked α) (value : Value) :
    Checked (List α) :=
  match value.elements? with
  | some items => readElements read 0 items
  | none => complain .notList

def toTexts (value : Value) : Checked (List Spelling) :=
  value.toListOf toText

def toObject (model : Model) (value : Value) :
    Checked (List (Value × Value)) :=
  match value.opened with
  | .mapping entries => .ok entries
  | _ => complain (.notObject model)

/-- Read a field that has to be there. -/
def required {α : Type} (name : String) (read : Value → Checked α)
    (entries : List (Value × Value)) : Checked α :=
  Checked.under (.field name)
    (match field? name entries with
      | some value => read value
      | none => complain .missing)

/-- Read a field that may be left out. -/
def optional {α : Type} (name : String) (fallback : α)
    (read : Value → Checked α) (entries : List (Value × Value)) : Checked α :=
  match field? name entries with
  | some value => Checked.under (.field name) (read value)
  | none => .ok fallback

end Value

end NativeDeps
