import NativeDeps.Decimal.Shortest

/-!
# Rounded decimals

A binary number to a given number of decimal places, or to a given number of digits.
The decimal is the nearest one, and a number half way between two becomes the even
one.  A point without digits behind it is written only where it is to be kept.
-/

namespace NativeDeps.Decimal

namespace Binary

/-- The number as a whole number of units of ten to the `step`, rounded. -/
def unitsOfTen (number : Binary) (step : Int) : Nat :=
  let (numerator, denominator) := fraction number.significand number.exponent
  let (numerator, unit) := scaled numerator denominator step
  nearest numerator unit

/--
The first `count` digits of the number, rounded, and the power of ten of the first of
them.
-/
def leadingDigits (number : Binary) (count : Nat) : List Char × Int :=
  if number.significand == 0 then
    (List.replicate count '0', 0)
  else
    let (numerator, denominator) := fraction number.significand number.exponent
    let top := magnitude numerator denominator
    let units := number.unitsOfTen (top - count)
    if units == tenTo count then
      ('1' :: List.replicate (count - 1) '0', top)
    else
      (Nat.toDigits 10 units, top - 1)

end Binary

/-- Digits behind a point, and the point itself if it is kept or has any behind it. -/
def pointed (keepsPoint : Bool) (digits : List Char) : List Char :=
  if digits.isEmpty && !keepsPoint then [] else '.' :: digits

def fixedChars (keepsPoint : Bool) (places : Nat) (number : Binary) :
    List Char :=
  let digits := Text.decimal (places + 1) (number.unitsOfTen (-(places : Int)))
  digits.take (digits.length - places) ++
    pointed keepsPoint (digits.drop (digits.length - places))

/-- A number with one digit in front of the point, and its power of ten. -/
def scientificChars (keepsPoint : Bool) (places : Nat) (number : Binary) :
    List Char :=
  let (digits, power) := number.leadingDigits (places + 1)
  digits.take 1 ++ pointed keepsPoint (digits.drop 1) ++
    layout.exponentChars power

/--
A number with a number of digits, one at least.  The zeros that close its decimal
places are left out unless the point is kept, and the power of ten is written where
the number is below a ten-thousandth or has more digits in front of its point.
-/
def generalChars (keepsPoint : Bool) (count : Nat) (number : Binary) :
    List Char :=
  let count := max count 1
  let (digits, power) := number.leadingDigits count
  let places := fun (digits : List Char) =>
    pointed keepsPoint (if keepsPoint then digits else dropFinalZeros digits)
  if power < layout.positionalFrom || (count : Int) ≤ power then
    digits.take 1 ++ places (digits.drop 1) ++ layout.exponentChars power
  else if power < 0 then
    '0' :: places (List.replicate (-power - 1).toNat '0' ++ digits)
  else
    digits.take (power.toNat + 1) ++ places (digits.drop (power.toNat + 1))

end NativeDeps.Decimal
