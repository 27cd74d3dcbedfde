import NativeDeps.Decimal.Binary

/-!
# The shortest decimal of a binary number

A binary number stands for every real number that rounds to it.  Its shortest
decimal is the one of fewest digits among them, and the nearest of those; it is
found by trying the two neighbours of the number on ever finer decimal grids, in
exact arithmetic.
-/

namespace NativeDeps.Decimal

/-- A decimal number: its digits as a number, times ten to the `exponent`. -/
structure Scientific where
  digits : Nat
  exponent : Int
deriving Repr, DecidableEq

namespace Binary

/--
The interval of reals that round to the number, as numerators over a common
denominator: its lower end, the number, and its upper end.  The lower half of the
interval is half as long at a power of two.
-/
def interval (number : Binary) (least : Int) : Nat × Nat × Nat × Nat :=
  let narrow := number.significand == twoTo 52 && least < number.exponent
  let units := 4 * number.significand
  let below := if narrow then units - 1 else units - 2
  let (middle, denominator) := fraction units (number.exponent - 2)
  let (lower, _) := fraction below (number.exponent - 2)
  let (upper, _) := fraction (units + 2) (number.exponent - 2)
  (lower, middle, upper, denominator)

end Binary

/-- The least number of decimal places that brings a fraction below one to one or more. -/
def placesToOne (numerator denominator : Nat) : Nat :=
  ((List.range 400).find? fun places =>
    denominator ≤ numerator * tenTo places).getD 400

/-- The power of ten just above a fraction: the least `k` with the fraction below `10 ^ k`. -/
def magnitude (numerator denominator : Nat) : Int :=
  if denominator ≤ numerator then
    (Nat.toDigits 10 (numerator / denominator)).length
  else
    1 - (placesToOne numerator denominator : Int)

/-- A fraction in units of ten to the `step`. -/
def scaled (numerator denominator : Nat) (step : Int) : Nat × Nat :=
  if 0 ≤ step then
    (numerator, denominator * tenTo step.toNat)
  else
    (numerator * tenTo (-step).toNat, denominator)

/--
The point of the grid of ten to the `step` that lies in the interval and nearest
to the number, if there is one; at equal distance the even one.
-/
def gridPoint (number : Binary) (least step : Int) : Option Nat :=
  let (lower, middle, upper, denominator) := number.interval least
  let closed := number.significand % 2 == 0
  let (middle, unit) := scaled middle denominator step
  let (lower, _) := scaled lower denominator step
  let (upper, _) := scaled upper denominator step
  let inside := fun (point : Nat) =>
    if closed then
      lower ≤ point * unit && point * unit ≤ upper
    else
      lower < point * unit && point * unit < upper
  let down := middle / unit
  let up := down + 1
  let downGap := middle - down * unit
  let upGap := up * unit - middle
  if inside down && inside up then
    if downGap < upGap || (downGap == upGap && down % 2 == 0) then
      some down
    else
      some up
  else if inside down then
    some down
  else if inside up then
    some up
  else
    none

/-- The shortest decimal that rounds to the number, of at most seventeen digits. -/
def shortest (number : Binary) (least : Int) : Scientific :=
  let (_, middle, _, denominator) := number.interval least
  let top := magnitude middle denominator
  let attempt := fun (count : Nat) =>
    let step := top - (count : Int)
    (gridPoint number least step).map fun point => ⟨point, step⟩
  ((List.range' 1 17).findSome? attempt).getD ⟨0, 0⟩

/-- How a decimal is laid out as text. -/
structure Layout where
  /-- The least power of ten that is written without an exponent. -/
  positionalFrom : Int
  /-- The first power of ten that is written with an exponent again. -/
  positionalBelow : Int
  /-- The least number of digits of an exponent. -/
  exponentDigits : Nat

/-- An exponent with its sign and at least the layout's number of digits. -/
def Layout.exponentChars (layout : Layout) (exponent : Int) : List Char :=
  'e' :: (if exponent < 0 then '-' else '+') ::
    Text.decimal layout.exponentDigits exponent.natAbs

def dropFinalZeros (digits : List Char) : List Char :=
  (digits.reverse.dropWhile (· == '0')).reverse

/-- A positive decimal as text, always with a point or an exponent. -/
def Layout.chars (layout : Layout) (number : Scientific) : List Char :=
  let allDigits := Nat.toDigits 10 number.digits
  let power := number.exponent + allDigits.length - 1
  let digits := dropFinalZeros allDigits
  if layout.positionalFrom ≤ power && power < layout.positionalBelow then
    if power < 0 then
      '0' :: '.' :: List.replicate (-power - 1).toNat '0' ++ digits
    else
      let whole := digits.take (power.toNat + 1)
      let rest := digits.drop (power.toNat + 1)
      whole ++ List.replicate (power.toNat + 1 - whole.length) '0' ++
        '.' :: (if rest.isEmpty then ['0'] else rest)
  else
    match digits with
    | [] => ['0']
    | first :: [] => first :: layout.exponentChars power
    | first :: rest => first :: '.' :: rest ++ layout.exponentChars power

/-- Numbers from a ten-thousandth up to ten to the sixteenth need no exponent. -/
def layout : Layout := ⟨-4, 16, 2⟩

/-- A floating-point number of sixty-four bits as its shortest text. -/
def floatText (value : Float) : String :=
  match meaning value with
  | .noNumber => "nan"
  | .infinity isNegative => if isNegative then "-inf" else "inf"
  | .number isNegative magnitude =>
      let unsigned :=
        if magnitude.significand == 0 then
          ['0', '.', '0']
        else
          layout.chars (shortest magnitude leastExponent)
      String.ofList (if isNegative then '-' :: unsigned else unsigned)

end NativeDeps.Decimal
