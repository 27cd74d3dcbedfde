import NativeDeps.Text.Quoted

/-!
# Faults of templates

What can be wrong with a template, or with an argument that is to fill it.
-/

namespace NativeDeps.Logging.Template

/-- What is wrong with a template, or with an argument. -/
inductive Fault
  /-- A conversion that ends with a sign that names none. -/
  | unknownSign (sign : Char) (index : Nat)
  /-- A conversion that does not end. -/
  | incomplete
  /-- The name of an argument that does not end. -/
  | incompleteName
  /-- A width that is written down and too large. -/
  | tooWide
  /-- A precision that is written down and too large. -/
  | tooPrecise
  /-- A width among the arguments that is too large. -/
  | widthOverflow
  /-- A precision among the arguments that is too large. -/
  | precisionOverflow
  /-- A width for which there is no memory. -/
  | noMemory
  /-- More leading zeros than a number can have. -/
  | tooManyDigits
  /-- A number that is no code point. -/
  | noCharacter
  /-- A whole number that is too large for a floating-point number. -/
  | tooLarge
  /-- Infinity where a whole number is needed. -/
  | infinite
  /-- What is no number where a whole number is needed. -/
  | noNumber
  /-- A name that no argument has. -/
  | absent (name : String)
  /-- A template for records that takes nothing from them. -/
  | noField (template : String)
  /-- A template for records that takes a field that records do not have. -/
  | unknownField (name : String)
deriving Repr, DecidableEq

namespace Fault

/-- The sign of a conversion as it is shown; what is not ASCII is not shown. -/
def shownSign (sign : Char) : Char :=
  if sign.toNat < 31 ∨ 126 < sign.toNat then '?' else sign

def message : Fault → String
  | .unknownSign sign index =>
      "unsupported format character '" ++
        String.singleton (shownSign sign) ++
        "' (0x" ++ String.ofList (Text.smallHex 1 sign.toNat) ++
        ") at index " ++ toString index
  | .incomplete => "incomplete format"
  | .incompleteName => "incomplete format key"
  | .tooWide => "width too big"
  | .tooPrecise => "precision too big"
  | .widthOverflow => "Python int too large to convert to C ssize_t"
  | .precisionOverflow => "Python int too large to convert to C int"
  | .noMemory => ""
  | .tooManyDigits => "precision too large"
  | .noCharacter => "%c arg not in range(0x110000)"
  | .tooLarge => "int too large to convert to float"
  | .infinite => "cannot convert float infinity to integer"
  | .noNumber => "cannot convert float NaN to integer"
  | .absent _ => ""
  | .noField template =>
      "Invalid format '" ++ template ++ "' for '%' style"
  | .unknownField name =>
      "Formatting field not found in record: " ++ Text.quoted name

def kind : Fault → String
  | .widthOverflow => "OverflowError"
  | .precisionOverflow => "OverflowError"
  | .noMemory => "MemoryError"
  | .tooManyDigits => "OverflowError"
  | .noCharacter => "OverflowError"
  | .tooLarge => "OverflowError"
  | .infinite => "OverflowError"
  | .absent _ => "KeyError"
  | _ => "ValueError"

end Fault

end NativeDeps.Logging.Template
