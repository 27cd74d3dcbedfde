import NativeDeps.Decimal.Rounded
import NativeDeps.Failure
import NativeDeps.Logging.Template.Place
import NativeDeps.Value.Text

/-!
# Conversions

How one argument is written in its place.  A text may be cut to a precision and filled
up with spaces; a number has a sign, perhaps the mark of its base, and may be filled up
with zeros behind both.
-/

namespace NativeDeps.Logging.Template

/-- How a place wants its argument laid out. -/
structure Shape where
  flags : List Char
  isLeft : Bool
  width : Nat
  precision : Option Nat
deriving Repr, DecidableEq

namespace Shape

def has (shape : Shape) (flag : Char) : Bool :=
  shape.flags.contains flag

/-- Fill a text up to the width. -/
def justify (shape : Shape) (characters : List Char) : List Char :=
  if shape.isLeft then
    Text.padRight shape.width ' ' characters
  else
    Text.padLeft shape.width ' ' characters

/-- A text, cut to the precision if there is one. -/
def text (shape : Shape) (characters : List Char) : List Char :=
  shape.justify
    (match shape.precision with
      | some amount => characters.take amount
      | none => characters)

def sign (shape : Shape) (isNegative : Bool) : List Char :=
  if isNegative then ['-']
  else if shape.has '+' then ['+']
  else if shape.has ' ' then [' ']
  else []

/-- A number with its sign, the mark of its base, and its digits. -/
def number (shape : Shape) (isNegative : Bool) (mark digits : List Char) :
    List Char :=
  let front := shape.sign isNegative ++ mark
  if shape.has '0' && !shape.isLeft then
    front ++ Text.padLeft (shape.width - front.length) '0' digits
  else
    shape.justify (front ++ digits)

end Shape

def fail {α : Type} (fault : Fault) : Except Failure α :=
  .error (.template fault)

/-- A text in which every character outside ASCII is an escape. -/
def escaped (text : String) : List Char :=
  text.toList.flatMap fun character =>
    if character.toNat < 128 then
      [character]
    else
      Text.escapeCode character.toNat

/-- The whole number next to a value in the direction of zero. -/
def truncated : Value → Except Failure Int
  | .int value => .ok value
  | .bool value => .ok (if value then 1 else 0)
  | .float value =>
      match Decimal.truncated? value with
      | some number => .ok number
      | none => fail .infinite
  | .nan _ => fail .noNumber
  | _ => .error .mistyped

def whole : Value → Except Failure Int
  | .int value => .ok value
  | .bool value => .ok (if value then 1 else 0)
  | _ => .error .mistyped

def real : Value → Except Failure Decimal.Meaning
  | .float value => .ok (Decimal.meaning value)
  | .nan _ => .ok .noNumber
  | value =>
      match whole value with
      | .error failure => .error failure
      | .ok number =>
          match Decimal.ofNat? number.natAbs with
          | none => fail .tooLarge
          | some size =>
              .ok (Decimal.meaning (if number < 0 then -size else size))

def character : Value → Except Failure Char
  | .text value =>
      match value.toList with
      | [character] => .ok character
      | _ => .error .mistyped
  | value =>
      match whole value with
      | .error failure => .error failure
      | .ok code =>
          if code < 0 ∨ 0x110000 ≤ code then
            fail .noCharacter
          else
            .ok (Text.charOfCode code.toNat)

/-- The largest number of digits that a precision can ask for. -/
def digitLimit : Nat := 2147483644

/-- A whole number to a base, with the mark of the base where the flags ask for it. -/
def wholeText (shape : Shape) (base : Nat) (mark : List Char)
    (isCapital : Bool) (number : Int) : Except Failure (List Char) :=
  let least := shape.precision.getD 0
  if digitLimit < least then
    fail .tooManyDigits
  else
    let digits := Text.padLeft least '0' (Nat.toDigits base number.natAbs)
    .ok (shape.number (decide (number < 0))
      (if shape.has '#' then mark else [])
      (if isCapital then digits.map Char.toUpper else digits))

/-- A floating-point number in one of the three notations. -/
def realText (shape : Shape)
    (writing : Bool → Nat → Decimal.Binary → List Char)
    (isCapital : Bool) (value : Decimal.Meaning) : List Char :=
  let (isNegative, characters) :=
    match value with
    | .noNumber => (false, ['n', 'a', 'n'])
    | .infinity isNegative => (isNegative, ['i', 'n', 'f'])
    | .number isNegative magnitude =>
        (isNegative,
          writing (shape.has '#') (shape.precision.getD 6) magnitude)
  shape.number isNegative []
    (if isCapital then characters.map Char.toUpper else characters)

/-- One argument in a place whose sign stands at an index of the template. -/
def convert (shape : Shape) (sign : Char) (index : Nat) (value : Value) :
    Except Failure (List Char) :=
  match sign with
  | 's' => .ok (shape.text value.told.toList)
  | 'r' => .ok (shape.text value.shown.toList)
  | 'a' => .ok (shape.text (escaped value.shown))
  | 'd' => truncated value >>= wholeText shape 10 [] false
  | 'i' => truncated value >>= wholeText shape 10 [] false
  | 'u' => truncated value >>= wholeText shape 10 [] false
  | 'o' => whole value >>= wholeText shape 8 ['0', 'o'] false
  | 'x' => whole value >>= wholeText shape 16 ['0', 'x'] false
  | 'X' => whole value >>= wholeText shape 16 ['0', 'X'] true
  | 'f' => (real value).map (realText shape Decimal.fixedChars false)
  | 'F' => (real value).map (realText shape Decimal.fixedChars true)
  | 'e' => (real value).map (realText shape Decimal.scientificChars false)
  | 'E' => (real value).map (realText shape Decimal.scientificChars true)
  | 'g' => (real value).map (realText shape Decimal.generalChars false)
  | 'G' => (real value).map (realText shape Decimal.generalChars true)
  | 'c' =>
      (character value).map fun character => shape.justify [character]
  | sign => fail (.unknownSign sign index)

end NativeDeps.Logging.Template
