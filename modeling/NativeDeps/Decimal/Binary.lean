import NativeDeps.Text.Digits

/-!
# Binary numbers

Floating-point numbers of sixty-four bits as what they stand for, and the nearest
of them to a fraction, in exact arithmetic on natural numbers.
-/

namespace NativeDeps.Decimal

/-- A binary number without sign: `significand` times two to the `exponent`. -/
structure Binary where
  significand : Nat
  exponent : Int
deriving Repr, DecidableEq

def twoTo (exponent : Nat) : Nat :=
  Nat.pow 2 exponent

def tenTo (exponent : Nat) : Nat :=
  Nat.pow 10 exponent

/-- The exponent of the smallest numbers that can be stored. -/
def leastExponent : Int := -1074

/-- What a floating-point number stands for. -/
inductive Meaning
  | number (isNegative : Bool) (magnitude : Binary)
  | infinity (isNegative : Bool)
  | noNumber
deriving Repr, DecidableEq

/-- What the bits of a floating-point number stand for. -/
def meaningOfBits (bits : Nat) : Meaning :=
  let isNegative : Bool := twoTo 63 ≤ bits
  let field : Nat := bits / twoTo 52 % twoTo 11
  let fraction : Nat := bits % twoTo 52
  if field == 2047 then
    if fraction == 0 then .infinity isNegative else .noNumber
  else if field == 0 then
    .number isNegative ⟨fraction, leastExponent⟩
  else
    .number isNegative ⟨twoTo 52 + fraction, (field : Int) - 1075⟩

/-- What a floating-point number stands for. -/
def meaning (value : Float) : Meaning :=
  meaningOfBits value.toBits.toNat

/-- The whole number that a floating-point number equals, if it does. -/
def wholeNumber? (value : Float) : Option Int :=
  match meaning value with
  | .number isNegative ⟨significand, exponent⟩ =>
      let sign : Int := if isNegative then -1 else 1
      if 0 ≤ exponent then
        some (sign * (significand * twoTo exponent.toNat : Nat))
      else
        let unit := twoTo (-exponent).toNat
        if significand % unit == 0 then
          some (sign * (significand / unit : Nat))
        else
          none
  | _ => none

/-- The whole number next to a floating-point number in the direction of zero. -/
def truncated? (value : Float) : Option Int :=
  match meaning value with
  | .number isNegative ⟨significand, exponent⟩ =>
      let size : Int :=
        if 0 ≤ exponent then
          (significand * twoTo exponent.toNat : Nat)
        else
          (significand / twoTo (-exponent).toNat : Nat)
      some (if isNegative then -size else size)
  | _ => none

/-- Numerator and denominator of a number of units of two to the `exponent`. -/
def fraction (units : Nat) (exponent : Int) : Nat × Nat :=
  if 0 ≤ exponent then
    (units * twoTo exponent.toNat, 1)
  else
    (units, twoTo (-exponent).toNat)

/-- A fraction in units of two to the `exponent`. -/
def inUnits (numerator denominator : Nat) (exponent : Int) : Nat × Nat :=
  if 0 ≤ exponent then
    (numerator, denominator * twoTo exponent.toNat)
  else
    (numerator * twoTo (-exponent).toNat, denominator)

/-- The whole number nearest to a fraction; a half goes to the even neighbour. -/
def nearest (numerator denominator : Nat) : Nat :=
  let down := numerator / denominator
  let rest := 2 * (numerator % denominator)
  if rest < denominator || (rest == denominator && down % 2 == 0) then
    down
  else
    down + 1

/--
The exponent at which a fraction that is not zero has fifty-three digits to the base
two, or the least exponent where it would be below that.
-/
def storedExponent (numerator denominator : Nat) : Int :=
  let guess : Int := (numerator.log2 : Int) - denominator.log2 - 52
  let (scaledUp, unit) := inUnits numerator denominator guess
  max leastExponent (if scaledUp < twoTo 52 * unit then guess - 1 else guess)

def infinityBits : Nat := 2047 * twoTo 52

/-- The bits of the floating-point number nearest to a fraction. -/
def nearestBits (numerator denominator : Nat) : Nat :=
  if numerator == 0 then
    0
  else
    let exponent := storedExponent numerator denominator
    let (scaledUp, unit) := inUnits numerator denominator exponent
    let significand := nearest scaledUp unit
    let bits :=
      if significand < twoTo 52 then
        significand
      else
        (exponent + 1075).toNat * twoTo 52 + (significand - twoTo 52)
    min bits infinityBits

/-- The floating-point number nearest to a fraction; what is too large becomes infinity. -/
def nearestToFraction (numerator denominator : Nat) : Float :=
  Float.ofBits (UInt64.ofNat (nearestBits numerator denominator))

/-- The floating-point number nearest to a natural number, unless it is too large. -/
def ofNat? (number : Nat) : Option Float :=
  if nearestBits number 1 == infinityBits then
    none
  else
    some (nearestToFraction number 1)

/--
The floating-point number nearest to a decimal.  Beyond the powers of ten that
the format reaches it is infinity or zero.
-/
def nearestFloat (digits : Nat) (exponent : Int) : Float :=
  let power := exponent + (Nat.toDigits 10 digits).length
  if digits == 0 || power < -400 then
    nearestToFraction 0 1
  else if 400 < power then
    Float.ofBits (UInt64.ofNat infinityBits)
  else if 0 ≤ exponent then
    nearestToFraction (digits * tenTo exponent.toNat) 1
  else
    nearestToFraction digits (tenTo (-exponent).toNat)

end NativeDeps.Decimal
