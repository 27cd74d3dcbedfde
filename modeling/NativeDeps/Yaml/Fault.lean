import NativeDeps.Calendar
import NativeDeps.Text.Halves

/-!
# Faults of YAML texts

Why a text yields no value.  Nearly always it is malformed; the other faults are
about a single scalar that is to be a number, a truth value or a date and is none, or
about a text that cannot be read to its end.
-/

namespace NativeDeps.Yaml

/-- Why a text yields no value. -/
inductive Fault
  | malformed
  /-- Bytes that are no text. -/
  | undecodable
  /-- An escape that names no character. -/
  | noCharacter (code : Nat)
  /-- A decimal number with too many digits. -/
  | longNumber (digits : Nat)
  /-- Something else where an integer of a base is to be, as code points. -/
  | notInteger (base : Nat) (literal : List Nat)
  /-- Something else where a number is to be, as code points. -/
  | notNumber (literal : List Nat)
  | emptyNumber
  /-- A whole number that is too large for a floating-point number. -/
  | tooLarge
  | notTruthValue
  | notMoment
  /-- A mapping where a date is to be. -/
  | momentOfMapping
  | calendar (fault : Calendar.Fault)
  /-- A mapping that refers to itself for its text. -/
  | endless
deriving Repr, DecidableEq

namespace Fault

/-- The number of characters of a literal that a message about an integer shows. -/
def shownLength : Nat := 200

/-- The message of a fault, for the faults that have one. -/
def message : Fault → String
  | .malformed => ""
  | .undecodable => ""
  | .noCharacter code =>
      if 0x80000000 ≤ code then
        "Python int too large to convert to C int"
      else
        "chr() arg not in range(0x110000)"
  | .longNumber digits =>
      "Exceeds the limit (4300 digits) for integer string conversion: " ++
        "value has " ++ toString digits ++
        " digits; use sys.set_int_max_str_digits() to increase the limit"
  | .notInteger base literal =>
      "invalid literal for int() with base " ++ toString base ++ ": " ++
        String.ofList ((Text.quotedCodes literal).toList.take shownLength)
  | .notNumber literal =>
      "could not convert string to float: " ++ Text.quotedCodes literal
  | .emptyNumber => ""
  | .tooLarge => "int too large to convert to float"
  | .notTruthValue => ""
  | .notMoment => ""
  | .momentOfMapping => ""
  | .calendar fault => fault.message
  | .endless => "maximum recursion depth exceeded"

end Fault

end NativeDeps.Yaml
