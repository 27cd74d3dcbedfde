import NativeDeps.Value

/-!
# Values as text

How a configuration value appears in messages and in generated text.  A text
appears as itself, but between quotes inside another value; dates likewise appear
as expressions inside another value.  A container inside itself appears as dots.
-/

namespace NativeDeps.Value

def enclosed (opening closing : String) (items : List String) : String :=
  opening ++ ", ".intercalate items ++ closing

/-- What stands for a container inside itself. -/
def dots : Value → String
  | .list _ => "[...]"
  | .tuple _ => "(...)"
  | .mapping _ => "\x7b...\x7d"
  | _ => "..."

mutual

/-- A value as it appears inside another value, with the dots of the containers around it. -/
def shownInside (around : List (Nat × String)) : Value → String
  | .null => "None"
  | .bool value => if value then "True" else "False"
  | .int value => toString value
  | .float value => Decimal.floatText value
  | .nan _ => "nan"
  | .text value => Text.quoted value
  | .halves spelling => spelling.quoted
  | .bytes value => Text.quotedBytes value
  | .date value => value.expression
  | .moment value => value.expression
  | .list items => enclosed "[" "]" (shownItems around items)
  | .tuple items =>
      enclosed "(" (if items.length = 1 then ",)" else ")")
        (shownItems around items)
  | .set items =>
      if items.isEmpty then
        "set()"
      else
        enclosed "\x7b" "\x7d" (shownItems around items)
  | .mapping entries => enclosed "\x7b" "\x7d" (shownEntries around entries)
  | .knot label content =>
      match around.lookup label with
      | some dots => dots
      | none => shownInside ((label, content.dots) :: around) content
  | .back label => (around.lookup label).getD "..."

def shownItems (around : List (Nat × String)) : List Value → List String
  | [] => []
  | item :: rest => shownInside around item :: shownItems around rest

/-- The entries of a mapping as they appear in it. -/
def shownEntries (around : List (Nat × String)) :
    List (Value × Value) → List String
  | [] => []
  | (key, value) :: rest =>
      (shownInside around key ++ ": " ++ shownInside around value) ::
        shownEntries around rest

end

/-- A value as it appears inside another value. -/
def shown (value : Value) : String :=
  value.shownInside []

/-- A value as a text of its own. -/
def asText : Value → Spelling
  | .text value => value
  | .halves spelling => spelling
  | .date value => String.ofList value.chars
  | .moment value => String.ofList (value.chars ' ')
  | value => value.shown

/-- A value as a text that is shown to the user. -/
def told (value : Value) : String :=
  value.asText.shown

/-- The largest number of digits with which an integer is written. -/
def digitLimit : Nat := 4300

/-- Whether an integer has too many digits to be written. -/
def isLong (number : Int) : Bool :=
  Decimal.tenTo digitLimit ≤ number.natAbs

mutual

/-- Whether a value holds an integer that has too many digits to be written. -/
def holdsLong : Value → Bool
  | .int value => isLong value
  | .list items => anyHoldsLong items
  | .tuple items => anyHoldsLong items
  | .set items => anyHoldsLong items
  | .mapping entries => anyEntryHoldsLong entries
  | .knot _ content => content.holdsLong
  | _ => false

/-- Whether one of several values holds an integer with too many digits. -/
def anyHoldsLong : List Value → Bool
  | [] => false
  | item :: rest => item.holdsLong || anyHoldsLong rest

/-- Whether one of several entries holds an integer with too many digits. -/
def anyEntryHoldsLong : List (Value × Value) → Bool
  | [] => false
  | (key, value) :: rest =>
      key.holdsLong || value.holdsLong || anyEntryHoldsLong rest

end

end NativeDeps.Value
