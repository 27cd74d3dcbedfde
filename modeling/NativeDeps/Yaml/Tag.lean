import NativeDeps.Text.Halves

/-!
# Scalars and tags

What a YAML scalar says, and what a node says it is.  A scalar says some characters; escapes
can also spell halves of characters, and then its content is a list of code points.  A plain
scalar without a tag is what its text looks like: each kind of scalar has a pattern, and a
text that fits none of them is a text.  The reader and the writer share these patterns, so
that what one leaves unquoted the other takes for a text.
-/

namespace NativeDeps.Yaml

/-- What a scalar says. -/
inductive Content
  | chars (characters : List Char)
  | codes (codes : List Nat)
deriving Repr, DecidableEq

namespace Content

/-- The content that code points spell. -/
def ofCodes (codes : List Nat) : Content :=
  match Text.charsOfCodes? codes with
  | some characters => .chars characters
  | none => .codes codes

/-- The content of a scalar that says nothing. -/
def empty : Content := .chars []

end Content

/-- What a node is. -/
inductive Tag
  | null
  | bool
  | int
  | float
  | timestamp
  | binary
  | text
  | merge
  | value
  | list
  | mapping
  | set
  | orderedMap
  | pairs
  | other (name : String)
deriving Repr, DecidableEq

/-- The names under which the tags of YAML are known. -/
def Tag.names : List (String × Tag) :=
  [("tag:yaml.org,2002:null", .null), ("tag:yaml.org,2002:bool", .bool),
    ("tag:yaml.org,2002:int", .int), ("tag:yaml.org,2002:float", .float),
    ("tag:yaml.org,2002:timestamp", .timestamp),
    ("tag:yaml.org,2002:binary", .binary), ("tag:yaml.org,2002:str", .text),
    ("tag:yaml.org,2002:merge", .merge), ("tag:yaml.org,2002:value", .value),
    ("tag:yaml.org,2002:seq", .list), ("tag:yaml.org,2002:map", .mapping),
    ("tag:yaml.org,2002:set", .set), ("tag:yaml.org,2002:omap", .orderedMap),
    ("tag:yaml.org,2002:pairs", .pairs)]

def Tag.ofName (name : String) : Tag :=
  (Tag.names.lookup name).getD (.other name)

def Tag.isScalar : Tag → Bool
  | .null => true
  | .bool => true
  | .int => true
  | .float => true
  | .timestamp => true
  | .binary => true
  | .text => true
  | _ => false

def Tag.isCollection : Tag → Bool
  | .list => true
  | .mapping => true
  | .set => true
  | .orderedMap => true
  | .pairs => true
  | _ => false

def isDigit (character : Char) : Bool :=
  '0' ≤ character && character ≤ '9'

/-- Whether a character is a decimal digit or an underscore. -/
def isDigitOrLine (character : Char) : Bool :=
  isDigit character || character == '_'

/-- Whether a character is a digit of base eight or an underscore. -/
def isOctalOrLine (character : Char) : Bool :=
  ('0' ≤ character && character ≤ '7') || character == '_'

/-- Whether a character is a digit of base two or an underscore. -/
def isBinaryOrLine (character : Char) : Bool :=
  character == '0' || character == '1' || character == '_'

def isHexDigit (character : Char) : Bool :=
  isDigit character || ('a' ≤ character && character ≤ 'f') ||
    ('A' ≤ character && character ≤ 'F')

/-- Whether a character is a digit of base sixteen or an underscore. -/
def isHexOrLine (character : Char) : Bool :=
  isHexDigit character || character == '_'

/-- Whether a list holds something, and only what passes a test. -/
def someAll (test : Char → Bool) (characters : List Char) : Bool :=
  !characters.isEmpty && characters.all test

/-- A text without the sign in front of it. -/
def dropSign : List Char → List Char
  | '-' :: rest => rest
  | '+' :: rest => rest
  | characters => characters

/-- Cut a text at every occurrence of a character. -/
def splitAt (separator : Char) : List Char → List (List Char)
  | [] => [[]]
  | character :: rest =>
      if character == separator then
        [] :: splitAt separator rest
      else
        match splitAt separator rest with
        | [] => [[character]]
        | part :: parts => (character :: part) :: parts

/-- Whether a text counts minutes or seconds: one digit, or two below sixty. -/
def isSixtieth : List Char → Bool
  | [digit] => isDigit digit
  | [tens, digit] => '0' ≤ tens && tens ≤ '5' && isDigit digit
  | _ => false

/-- Whether a text is a number that does not start with zero, underscores allowed. -/
def isLeadingNumber : List Char → Bool
  | [] => false
  | first :: rest =>
      '1' ≤ first && first ≤ '9' && rest.all isDigitOrLine

/-- Whether a text starts with a digit and goes on with digits and underscores. -/
def isDigitRun : List Char → Bool
  | [] => false
  | first :: rest => isDigit first && rest.all isDigitOrLine

/-- Whether a text is an integer without sign. -/
def isUnsignedInt : List Char → Bool
  | ['0'] => true
  | '0' :: 'b' :: digits => someAll isBinaryOrLine digits
  | '0' :: 'x' :: digits => someAll isHexOrLine digits
  | '0' :: digits => someAll isOctalOrLine digits
  | characters =>
      match splitAt ':' characters with
      | [] => false
      | first :: rest => isLeadingNumber first && rest.all isSixtieth

/-- Whether a text is an integer, of base two, eight, ten, sixteen or sixty. -/
def isInt (characters : List Char) : Bool :=
  isUnsignedInt (dropSign characters)

def isExponentOrNothing : List Char → Bool
  | [] => true
  | mark :: sign :: digits =>
      (mark == 'e' || mark == 'E') && (sign == '-' || sign == '+') &&
        someAll isDigit digits
  | _ => false

/-- Whether a text is digits and underscores, then an exponent or nothing. -/
def isFraction (characters : List Char) : Bool :=
  isExponentOrNothing (characters.dropWhile isDigitOrLine)

def isFullFraction : List Char → Bool
  | [] => false
  | first :: rest => isDigit first && isFraction rest

/-- Whether a text, cut at its first point, is a number with a point in it. -/
def isPointed (whole fraction : List Char) : Bool :=
  (isDigitRun whole && isFraction fraction) ||
    (match splitAt ':' whole with
      | first :: second :: rest =>
          isDigitRun first && (second :: rest).all isSixtieth &&
            fraction.all isDigitOrLine
      | _ => false)

/-- Whether a text without sign is a number with a point in it, or infinity. -/
def isUnsignedFloat (characters : List Char) : Bool :=
  characters == ".inf".toList || characters == ".Inf".toList ||
    characters == ".INF".toList ||
    (match characters.dropWhile (· != '.') with
      | [] => false
      | _ :: fraction =>
          isPointed (characters.takeWhile (· != '.')) fraction)

/-- Whether a text is a number with a point in it, infinity or no number. -/
def isFloat (characters : List Char) : Bool :=
  isUnsignedFloat (dropSign characters) ||
    (match characters with
      | '.' :: fraction => isFullFraction fraction
      | _ => false) ||
    characters == ".nan".toList || characters == ".NaN".toList ||
    characters == ".NAN".toList

/-- Whether a text is a truth value. -/
def isBool (characters : List Char) : Bool :=
  ["yes", "Yes", "YES", "no", "No", "NO", "true", "True", "TRUE", "false",
    "False", "FALSE", "on", "On", "ON", "off", "Off", "OFF"].contains
      (String.ofList characters)

def isNull (characters : List Char) : Bool :=
  ["", "~", "null", "Null", "NULL"].contains (String.ofList characters)

/-- The parts of a written moment; the fraction of a second is its digits. -/
structure MomentParts where
  year : Nat
  month : Nat
  day : Nat
  clock : Option (Nat × Nat × Nat)
  fraction : List Char
  zone : Option Int
  /-- Whether month and day have two digits each. -/
  isFull : Bool
deriving Repr, DecidableEq

/-- The number that decimal digits stand for. -/
def digitsValue (digits : List Char) : Nat :=
  digits.foldl (fun value digit => value * 10 + (digit.toNat - '0'.toNat)) 0

def takeUpToTwo : List Char → Option (List Char × List Char)
  | first :: second :: rest =>
      if isDigit first then
        if isDigit second then
          some ([first, second], rest)
        else
          some ([first], second :: rest)
      else
        none
  | [first] => if isDigit first then some ([first], []) else none
  | [] => none

def takeTwo : List Char → Option (List Char × List Char)
  | first :: second :: rest =>
      if isDigit first && isDigit second then
        some ([first, second], rest)
      else
        none
  | _ => none

/-- Read the zone at the end of a moment: seconds east of universal time. -/
def readZone (characters : List Char) : Option (Option Int) :=
  match characters.dropWhile fun character =>
      character == ' ' || character == '\t' with
  | [] => if characters.isEmpty then some none else none
  | ['Z'] => some (some 0)
  | sign :: rest =>
      if sign == '-' || sign == '+' then do
        let (hours, rest) ← takeUpToTwo rest
        let minutes ←
          (match rest with
            | [] => some []
            | ':' :: digits =>
                match takeTwo digits with
                | some (minutes, []) => some minutes
                | _ => none
            | _ => none)
        let seconds : Int :=
          (digitsValue hours * 60 + digitsValue minutes) * 60
        return some (if sign == '-' then -seconds else seconds)
      else
        none

/-- Read the time of day that follows a date. -/
def readClock (characters : List Char) :
    Option ((Nat × Nat × Nat) × List Char × Option Int) := do
  let (hour, rest) ← takeUpToTwo characters
  let rest ← (match rest with | ':' :: rest => some rest | _ => none)
  let (minute, rest) ← takeTwo rest
  let rest ← (match rest with | ':' :: rest => some rest | _ => none)
  let (second, rest) ← takeTwo rest
  let clock := (digitsValue hour, digitsValue minute, digitsValue second)
  match rest with
  | '.' :: rest =>
      let zone ← readZone (rest.dropWhile isDigit)
      return (clock, rest.takeWhile isDigit, zone)
  | _ =>
      let zone ← readZone rest
      return (clock, [], zone)

/-- Read a date, alone or with a time of day. -/
def readMoment (characters : List Char) : Option MomentParts := do
  let year := characters.take 4
  if year.length ≠ 4 || !year.all isDigit then none else pure ()
  let rest ←
    (match characters.drop 4 with | '-' :: rest => some rest | _ => none)
  let (month, rest) ← takeUpToTwo rest
  let rest ← (match rest with | '-' :: rest => some rest | _ => none)
  let (day, rest) ← takeUpToTwo rest
  let isFull := month.length == 2 && day.length == 2
  let date : MomentParts :=
    ⟨digitsValue year, digitsValue month, digitsValue day, none, [], none,
      isFull⟩
  match rest with
  | [] => return date
  | first :: rest =>
      let rest ←
        (if first == 'T' || first == 't' then
          some rest
        else if first == ' ' || first == '\t' then
          some (rest.dropWhile fun character =>
            character == ' ' || character == '\t')
        else
          none)
      let (clock, fraction, zone) ← readClock rest
      return { date with clock := some clock, fraction := fraction, zone := zone }

/-- Whether a text is a date with full digits, or a moment. -/
def isMoment (characters : List Char) : Bool :=
  match readMoment characters with
  | some parts => parts.isFull || parts.clock.isSome
  | none => false

/-- A text without the line feed that may end it; a line feed alone is kept. -/
def dropFinalBreak (characters : List Char) : List Char :=
  if characters.getLast? = some '\n' ∧ characters.length ≠ 1 then
    characters.dropLast
  else
    characters

/-- What a text looks like. -/
def Tag.ofWord (characters : List Char) : Tag :=
  if isBool characters then .bool
  else if isFloat characters then .float
  else if isInt characters then .int
  else if characters == ['<', '<'] then .merge
  else if isNull characters then .null
  else if isMoment characters then .timestamp
  else if characters == ['='] then .value
  else .text

/-- What a plain scalar is, by its text; a line feed at its end is passed over. -/
def Tag.ofPlain (characters : List Char) : Tag :=
  Tag.ofWord (dropFinalBreak characters)

/-- What a scalar is, by its content. -/
def Tag.ofContent : Content → Tag
  | .chars characters => Tag.ofPlain characters
  | .codes _ => .text

end NativeDeps.Yaml
