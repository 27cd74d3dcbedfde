import NativeDeps.Text.Digits
import NativeDeps.Value
import NativeDeps.Yaml.Fault
import NativeDeps.Yaml.Tag

/-!
# The values of scalars

What a scalar means once its tag is known.  A number may be grouped by underscores,
and the parts of a number with colons are its digits to the base sixty.  The digits of
a number may be those of any script.
-/

namespace NativeDeps.Yaml

/--
A text in the form in which numbers are read: the decimal digits of all scripts as
those of ASCII, blanks beyond ASCII as spaces, and a question mark in place of anything
else beyond ASCII and what follows it.
-/
def numeralChars : List Char → List Char
  | [] => []
  | character :: rest =>
      if character.toNat < 127 then
        character :: numeralChars rest
      else if Text.isBlank character then
        ' ' :: numeralChars rest
      else
        match Text.decimalValue? character with
        | some digit => Char.ofNat (48 + digit) :: numeralChars rest
        | none => ['?']

/-- Whether a character is passed over at either end of a number. -/
def isNumeralBlank (character : Char) : Bool :=
  (9 ≤ character.toNat && character.toNat ≤ 13) || character == ' '

/-- A text in the form in which numbers are read, without blanks at either end. -/
def numeral (characters : List Char) : List Char :=
  (((numeralChars characters).dropWhile isNumeralBlank).reverse.dropWhile
    isNumeralBlank).reverse

def isDigitOf (base : Nat) (character : Char) : Bool :=
  match Text.digitValue? character with
  | some digit => digit < base
  | none => false

/-- Whether a text has a minus sign in front of it. -/
def isNegative : List Char → Bool
  | '-' :: _ => true
  | _ => false

/-- The letter that marks a base behind a zero, if the base has one. -/
def baseMark : Nat → Option Char
  | 2 => some 'b'
  | 8 => some 'o'
  | 16 => some 'x'
  | _ => none

/-- The digits of a number of a base, without a mark of the base in front of them. -/
def dropBaseMark (base : Nat) : List Char → List Char
  | '0' :: letter :: rest =>
      if baseMark base = some letter.toLower then rest else '0' :: letter :: rest
  | characters => characters

def codesOf (characters : List Char) : List Nat :=
  characters.map Char.toNat

/-- The largest number of digits of a decimal number. -/
def digitLimit : Nat := 4300

/-- Whether digits to a base are too many; only decimal ones can be. -/
def isTooLong (base : Nat) (digits : List Char) : Bool :=
  base == 10 && digitLimit < (digits.takeWhile (isDigitOf base)).length

/--
Read an integer of a base, with blanks around it, and a sign and a mark of the base
in front of it.
-/
def readInteger (base : Nat) (characters : List Char) : Except Fault Int :=
  let stripped := numeral characters
  let digits := dropBaseMark base (dropSign stripped)
  if isTooLong base digits then
    .error (.longNumber (digits.takeWhile (isDigitOf base)).length)
  else if someAll (isDigitOf base) digits then
    let value : Int := Text.readDigits base 0 digits
    .ok (if isNegative stripped then -value else value)
  else
    .error (.notInteger base (codesOf characters))

/-- The number whose digits to the base sixty are given. -/
def sexagesimal (digits : List Int) : Int :=
  digits.foldl (fun value digit => value * 60 + digit) 0

/-- Read an integer without sign and underscores. -/
def readUnsigned : List Char → Except Fault Int
  | [] => .error .emptyNumber
  | ['0'] => .ok 0
  | '0' :: 'b' :: digits => readInteger 2 digits
  | '0' :: 'x' :: digits => readInteger 16 digits
  | '0' :: digits => readInteger 8 ('0' :: digits)
  | characters =>
      if characters.contains ':' then do
        let digits ← (splitAt ':' characters).mapM (readInteger 10)
        return sexagesimal digits
      else
        readInteger 10 characters

def intValue (content : List Char) : Except Fault Int :=
  let digits := content.filter (· != '_')
  (readUnsigned (dropSign digits)).map fun value =>
    if isNegative digits then -value else value

/-- Read digits, with a point among or in front of them, as digits and places. -/
def readPlaces (characters : List Char) :
    Option (List Char × Nat × List Char) :=
  let whole := characters.takeWhile isDigit
  let rest := characters.dropWhile isDigit
  let (fraction, rest) :=
    match rest with
    | '.' :: rest => (rest.takeWhile isDigit, rest.dropWhile isDigit)
    | _ => ([], rest)
  if whole.isEmpty && fraction.isEmpty then
    none
  else
    some (whole ++ fraction, fraction.length, rest)

/-- Read the exponent of a number, or none. -/
def readExponent : List Char → Option Int
  | [] => some 0
  | 'e' :: rest =>
      let digits := dropSign rest
      if someAll isDigit digits then
        let value : Int := Text.readDigits 10 0 digits
        some (if isNegative rest then -value else value)
      else
        none
  | _ => none

def infinity : Float :=
  Float.ofBits (UInt64.ofNat Decimal.infinityBits)

/-- Read a floating-point number in small letters without sign. -/
def readUnsignedFloat (characters : List Char) : Option Float :=
  if characters == "inf".toList || characters == "infinity".toList then
    some infinity
  else if characters == "nan".toList then
    some (0.0 / 0.0)
  else do
    let (digits, places, rest) ← readPlaces characters
    let exponent ← readExponent rest
    return Decimal.nearestFloat (Text.readDigits 10 0 digits)
      (exponent - places)

/-- Read a floating-point number with blanks around it and a sign in front of it. -/
def readFloat (characters : List Char) : Except Fault Float :=
  let stripped := numeral characters
  match readUnsignedFloat (dropSign stripped) with
  | some value => .ok (if isNegative stripped then -value else value)
  | none => .error (.notNumber (codesOf characters))

/-- The number whose digits to the base sixty are given, the last one first. -/
def sexagesimalFloat (base : Nat) (sum : Float) :
    List Float → Except Fault Float
  | [] => .ok sum
  | digit :: rest =>
      match Decimal.ofNat? base with
      | none => .error .tooLarge
      | some weight =>
          sexagesimalFloat (base * 60) (sum + digit * weight) rest

/-- The size of a number with a point, which has no sign any more. -/
def readMagnitude (unsigned : List Char) : Except Fault Float :=
  if unsigned.contains ':' then do
    let digits ← (splitAt ':' unsigned).mapM readFloat
    sexagesimalFloat 1 0.0 digits.reverse
  else
    readFloat unsigned

def numberValue (node : Nat) (value : Float) : Value :=
  if value.isNaN then .nan (some (node + 1)) else .float value

/--
The value of a number with a point.  What is written as no number is everywhere the
same, but what is computed to be none belongs to its node.
-/
def floatValue (node : Nat) (content : List Char) : Except Fault Value :=
  let characters := Text.lowerFrom false (content.filter (· != '_'))
  let unsigned := dropSign characters
  let signed := fun (value : Float) =>
    numberValue node (if isNegative characters then -value else value)
  if characters.isEmpty then
    .error .emptyNumber
  else if unsigned == ".inf".toList then
    .ok (signed infinity)
  else if unsigned == ".nan".toList then
    .ok (.nan (some 0))
  else
    (readMagnitude unsigned).map signed

/-- The value of a truth value, in any mixture of capital and small letters. -/
def boolValue (content : List Char) : Except Fault Bool :=
  let word := Text.lower (String.ofList content)
  if ["yes", "true", "on"].contains word then .ok true
  else if ["no", "false", "off"].contains word then .ok false
  else .error .notTruthValue

/-- The number of microseconds that the digits of a fraction of a second stand for. -/
def microseconds (fraction : List Char) : Nat :=
  digitsValue (Text.padRight 6 '0' (fraction.take 6))

/-- The value of a date or a moment; a line feed at its end is passed over. -/
def momentValue (content : List Char) : Except Fault Value :=
  match readMoment (dropFinalBreak content) with
  | none => .error .notMoment
  | some parts =>
      let date : Calendar.Date := ⟨parts.year, parts.month, parts.day⟩
      match parts.clock with
      | none =>
          match date.fault? with
          | some fault => .error (.calendar fault)
          | none => .ok (.date date)
      | some (hour, minute, second) =>
          let moment : Calendar.Moment :=
            ⟨date, hour, minute, second, microseconds parts.fraction,
              parts.zone⟩
          match moment.fault? with
          | some fault => .error (.calendar fault)
          | none => .ok (.moment moment)

/-- The six bits that a character of base sixty-four stands for. -/
def sixBits? (character : Char) : Option Nat :=
  if 'A' ≤ character && character ≤ 'Z' then
    some (character.toNat - 'A'.toNat)
  else if 'a' ≤ character && character ≤ 'z' then
    some (character.toNat - 'a'.toNat + 26)
  else if isDigit character then
    some (character.toNat - '0'.toNat + 52)
  else if character == '+' then
    some 62
  else if character == '/' then
    some 63
  else
    none

/--
Decode base sixty-four after `place` characters of a group of four, whose bits not
yet decoded are `left`; `pads` signs of padding have just been met.  Any other
character is passed over, and nothing is read after a padding that ends a group.
-/
def decodeBytes (place left pads : Nat) :
    List Char → Option (List UInt8)
  | [] => if place = 0 then some [] else none
  | character :: rest =>
      if character == '=' then
        if 2 ≤ place && 4 ≤ place + (pads + 1) then
          some []
        else
          decodeBytes place left (if 2 ≤ place then pads + 1 else pads) rest
      else
        match sixBits? character with
        | none => decodeBytes place left pads rest
        | some bits =>
            match place with
            | 0 => decodeBytes 1 bits 0 rest
            | 1 =>
                (decodeBytes 2 (bits % 16) 0 rest).map
                  (UInt8.ofNat (left * 4 + bits / 16) :: ·)
            | 2 =>
                (decodeBytes 3 (bits % 4) 0 rest).map
                  (UInt8.ofNat (left * 16 + bits / 4) :: ·)
            | _ =>
                (decodeBytes 0 0 0 rest).map
                  (UInt8.ofNat (left * 64 + bits) :: ·)

/-- The value of the scalar of a node, with a tag and characters. -/
def charsValue (node : Nat) (tag : Tag) (content : List Char) :
    Except Fault Value :=
  match tag with
  | .null => .ok .null
  | .bool => (boolValue content).map .bool
  | .int => (intValue content).map .int
  | .float => floatValue node content
  | .timestamp => momentValue content
  | .binary =>
      if content.all (·.toNat < 128) then
        match decodeBytes 0 0 0 content with
        | some bytes => .ok (.bytes bytes)
        | none => .error .malformed
      else
        .error .malformed
  | .text => .ok (.text (String.ofList content))
  | _ => .error .malformed

/-- The code point that stands in for a half of a character. -/
def standIn : Nat := 0xFFFD

/-- Put code points back in the places of their stand-ins, from left to right. -/
def restoreCodes : List Nat → List Nat → List Nat
  | _, [] => []
  | [], codes => codes
  | covered :: others, code :: rest =>
      if code = standIn then
        covered :: restoreCodes others rest
      else
        code :: restoreCodes (covered :: others) rest

/-- A fault of characters that stand in for the given code points. -/
def Fault.restore (covered : List Nat) : Fault → Fault
  | .notInteger base literal =>
      .notInteger base (restoreCodes covered literal)
  | .notNumber literal => .notNumber (restoreCodes covered literal)
  | fault => fault

/--
The value of the scalar of a node.  Halves of characters are text or nothing, so for
any other tag the replacement character, which has no more meaning, stands in for them.
-/
def scalarValue (node : Nat) (tag : Tag) (content : Content) :
    Except Fault Value :=
  match content with
  | .chars characters => charsValue node tag characters
  | .codes codes =>
      if tag = .text then
        .ok (.ofCodes codes)
      else
        (charsValue node tag (codes.map Text.charOfCode)).mapError
          (Fault.restore
            (codes.filter fun code => Text.isHalf code || code == standIn))

end NativeDeps.Yaml
