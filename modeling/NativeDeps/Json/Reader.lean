import NativeDeps.Value

/-!
# Reading JSON

JSON texts as values.  A number with a point or an exponent is a floating-point
number, any other an integer, and there are words for what is infinite or no number.
Two escapes that are halves of one character are that character.  The last of several
values under one name counts.
-/

namespace NativeDeps.Json

/-- The unit of sixteen bits that four hexadecimal digits stand for. -/
def unit? (first second third fourth : Char) : Option Nat := do
  let a ← Text.digitValue? first
  let b ← Text.digitValue? second
  let c ← Text.digitValue? third
  let d ← Text.digitValue? fourth
  return ((a * 16 + b) * 16 + c) * 16 + d

/-- The character that an escape of one sign stands for. -/
def shortEscape? : Char → Option Char
  | '"' => some '"'
  | '\\' => some '\\'
  | '/' => some '/'
  | 'b' => some '\x08'
  | 'f' => some '\x0c'
  | 'n' => some '\n'
  | 'r' => some '\r'
  | 't' => some '\t'
  | _ => none

/--
Read on in a string up to its closing quote, as units and code points, behind those
read before, newest first.
-/
def readCodes (before : List Nat) : List Char → Option (List Nat × List Char)
  | [] => none
  | '"' :: rest => some (before.reverse, rest)
  | '\\' :: 'u' :: a :: b :: c :: d :: rest =>
      match unit? a b c d with
      | none => none
      | some unit => readCodes (unit :: before) rest
  | '\\' :: sign :: rest =>
      match shortEscape? sign with
      | none => none
      | some character => readCodes (character.toNat :: before) rest
  | character :: rest =>
      if character.toNat < 32 then
        none
      else
        readCodes (character.toNat :: before) rest

/-- Read on in a string up to its closing quote. -/
def readString (characters : List Char) : Option (Value × List Char) :=
  (readCodes [] characters).map fun (codes, rest) =>
    (.ofCodes (Text.joinPairs codes), rest)

/-- A text without the blanks of JSON in front of it. -/
def dropBlanks (characters : List Char) : List Char :=
  characters.dropWhile fun character =>
    character == ' ' || character == '\t' || character == '\n' ||
      character == '\r'

/-- The rest of a text that opens with some characters. -/
def dropWord (word : List Char) (characters : List Char) :
    Option (List Char) :=
  if word.isPrefixOf characters then
    some (characters.drop word.length)
  else
    none

/-- Read a number that is written with digits. -/
def readDecimal (characters : List Char) : Option (Value × List Char) :=
  let isNegative := characters.head? == some '-'
  let unsigned := if isNegative then characters.drop 1 else characters
  let whole := unsigned.takeWhile Char.isDigit
  let rest := unsigned.dropWhile Char.isDigit
  let (fraction, rest) :=
    match rest with
    | '.' :: rest => (rest.takeWhile Char.isDigit, rest.dropWhile Char.isDigit)
    | _ => ([], rest)
  let hasPoint := (unsigned.dropWhile Char.isDigit).head? == some '.'
  let (exponent, hasExponent, rest) : Int × Bool × List Char :=
    match rest with
    | mark :: after =>
        if mark == 'e' || mark == 'E' then
          let isDown := after.head? == some '-'
          let digits :=
            if isDown || after.head? == some '+' then after.drop 1 else after
          let size : Int :=
            Text.readDigits 10 0 (digits.takeWhile Char.isDigit)
          (if isDown then -size else size, true, digits.dropWhile Char.isDigit)
        else
          (0, false, mark :: after)
    | [] => (0, false, [])
  if whole.isEmpty then
    none
  else if hasPoint || hasExponent then
    let value :=
      Decimal.nearestFloat (Text.readDigits 10 0 (whole ++ fraction))
        (exponent - fraction.length)
    some (.float (if isNegative then -value else value), rest)
  else
    let value : Int := Text.readDigits 10 0 whole
    some (.int (if isNegative then -value else value), rest)

def infinity : Float :=
  Float.ofBits (UInt64.ofNat Decimal.infinityBits)

/-- Read a number, which may also be infinite. -/
def readNumber (characters : List Char) : Option (Value × List Char) :=
  match dropWord "Infinity".toList characters with
  | some rest => some (.float infinity, rest)
  | none =>
      match dropWord "-Infinity".toList characters with
      | some rest => some (.float (-infinity), rest)
      | none => readDecimal characters

mutual

def readValue : (fuel : Nat) → List Char → Option (Value × List Char)
  | 0, _ => none
  | fuel + 1, characters =>
      match dropBlanks characters with
      | '"' :: rest =>
          readString rest
      | '[' :: rest =>
          match dropBlanks rest with
          | ']' :: rest => some (.list [], rest)
          | rest =>
              (readItems fuel rest).map fun (items, rest) =>
                (.list items, rest)
      | '\x7b' :: rest =>
          match dropBlanks rest with
          | '\x7d' :: rest => some (.mapping [], rest)
          | rest =>
              (readEntries fuel [] rest).map fun (entries, rest) =>
                (.mapping entries, rest)
      | 'n' :: rest =>
          (dropWord "ull".toList rest).map fun rest => (.null, rest)
      | 't' :: rest =>
          (dropWord "rue".toList rest).map fun rest => (.bool true, rest)
      | 'f' :: rest =>
          (dropWord "alse".toList rest).map fun rest => (.bool false, rest)
      | 'N' :: rest =>
          (dropWord "aN".toList rest).map fun rest => (.nan none, rest)
      | characters => readNumber characters

def readItems : (fuel : Nat) → List Char → Option (List Value × List Char)
  | 0, _ => none
  | fuel + 1, characters =>
      match readValue fuel characters with
      | none => none
      | some (item, rest) =>
          match dropBlanks rest with
          | ',' :: rest =>
              (readItems fuel rest).map fun (items, rest) =>
                (item :: items, rest)
          | ']' :: rest => some ([item], rest)
          | _ => none

/-- Read the entries of an object that is not empty, after those read before. -/
def readEntries : (fuel : Nat) → List (Value × Value) → List Char →
    Option (List (Value × Value) × List Char)
  | 0, _, _ => none
  | fuel + 1, before, characters =>
      match dropBlanks characters with
      | '"' :: rest =>
          match readString rest with
          | none => none
          | some (name, rest) =>
              match dropBlanks rest with
              | ':' :: rest =>
                  match readValue fuel rest with
                  | none => none
                  | some (value, rest) =>
                      let entries :=
                        Value.insert name value before
                      match dropBlanks rest with
                      | ',' :: rest => readEntries fuel entries rest
                      | '\x7d' :: rest => some (entries, rest)
                      | _ => none
              | _ => none
      | _ => none

end

/-- Read a text that holds one value. -/
def read (text : String) : Option Value :=
  let characters := text.toList
  match readValue (characters.length + 1) characters with
  | some (value, rest) =>
      if (dropBlanks rest).isEmpty then some value else none
  | none => none

end NativeDeps.Json
