/-!
# Digits

Numbers as digits of a base, filled with zeros to a least width, and the decimal digits of
all scripts.
-/

namespace NativeDeps.Text

def padLeft (width : Nat) (filler : Char) (characters : List Char) :
    List Char :=
  List.replicate (width - characters.length) filler ++ characters

def padRight (width : Nat) (filler : Char) (characters : List Char) :
    List Char :=
  characters ++ List.replicate (width - characters.length) filler

/-- The hexadecimal digits of a number in small letters, at least `width` of them. -/
def smallHex (width number : Nat) : List Char :=
  padLeft width '0' (Nat.toDigits 16 number)

/-- The hexadecimal digits of a number in capital letters, at least `width` of them. -/
def capitalHex (width number : Nat) : List Char :=
  padLeft width '0' ((Nat.toDigits 16 number).map Char.toUpper)

/-- The decimal digits of a number, at least `width` of them. -/
def decimal (width number : Nat) : List Char :=
  padLeft width '0' (Nat.toDigits 10 number)

/-- The value of a digit in any base up to sixteen. -/
def digitValue? (character : Char) : Option Nat :=
  if '0' ≤ character && character ≤ '9' then
    some (character.toNat - '0'.toNat)
  else if 'a' ≤ character && character ≤ 'f' then
    some (character.toNat - 'a'.toNat + 10)
  else if 'A' ≤ character && character ≤ 'F' then
    some (character.toNat - 'A'.toNat + 10)
  else
    none

/-- Read digits of a base after those read before; other characters count nothing. -/
def readDigits (base : Nat) (before : Nat) : List Char → Nat
  | [] => before
  | character :: rest =>
      readDigits base
        (match digitValue? character with
          | some digit => before * base + digit
          | none => before)
        rest

/--
The zeros of all scripts.  Every script has its decimal digits in a row from zero to nine,
so these tell all of them.
-/
def zeros : List Nat :=
  [
    0x0030, 0x0660, 0x06F0, 0x07C0, 0x0966, 0x09E6, 0x0A66, 0x0AE6,
    0x0B66, 0x0BE6, 0x0C66, 0x0CE6, 0x0D66, 0x0DE6, 0x0E50, 0x0ED0,
    0x0F20, 0x1040, 0x1090, 0x17E0, 0x1810, 0x1946, 0x19D0, 0x1A80,
    0x1A90, 0x1B50, 0x1BB0, 0x1C40, 0x1C50, 0xA620, 0xA8D0, 0xA900,
    0xA9D0, 0xA9F0, 0xAA50, 0xABF0, 0xFF10, 0x104A0, 0x10D30, 0x11066,
    0x110F0, 0x11136, 0x111D0, 0x112F0, 0x11450, 0x114D0, 0x11650, 0x116C0,
    0x11730, 0x118E0, 0x11950, 0x11C50, 0x11D50, 0x11DA0, 0x16A60, 0x16AC0,
    0x16B50, 0x1D7CE, 0x1D7D8, 0x1D7E2, 0x1D7EC, 0x1D7F6, 0x1E140, 0x1E2F0,
    0x1E950, 0x1FBF0 ]

def decimalValue? (character : Char) : Option Nat :=
  (zeros.find? fun first =>
    first ≤ character.toNat && character.toNat < first + 10).map
      (character.toNat - ·)

def isDecimalDigit (character : Char) : Bool :=
  (decimalValue? character).isSome

end NativeDeps.Text
