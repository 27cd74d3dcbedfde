import NativeDeps.Text.Digits
import NativeDeps.Text.Spelling
import NativeDeps.Yaml.Character
import NativeDeps.Yaml.Tag

/-!
# Written scalars

A text is written plain if it then reads back as itself, else between single
quotes, and between double quotes where only escapes can express it.  Scalars that
reach beyond the eightieth column are folded at single spaces; the lines that follow
are indented by two columns.
-/

namespace NativeDeps.Yaml

/-- The last column up to which a line is not folded. -/
def lineWidth : Nat := 80

/-- A line end and the indentation of the line after it. -/
def newLine : List Char := ['\n', ' ', ' ']

/-- The column at the end of that indentation. -/
def newLineColumn : Nat := 2

/-- Whether a character needs an escape. -/
def isSpecial (character : Char) : Bool :=
  let code := character.toNat
  !(character == '\n' || (32 ≤ code && code ≤ 126))

/-- The signs with which no plain scalar begins. -/
def leadingIndicators : List Char :=
  ['#', ',', '[', ']', '\x7b', '\x7d', '&', '*', '!', '|', '>', '\'', '"',
    '%', '@', '\u0060']

/-- Whether a text begins like the mark of a document. -/
def startsLikeMark : List Char → Bool
  | '-' :: '-' :: '-' :: _ => true
  | '.' :: '.' :: '.' :: _ => true
  | _ => false

/-- Whether the first character of a text keeps it from being written plain. -/
def isLeadingIndicator (character : Char) (rest : List Char) : Bool :=
  leadingIndicators.contains character ||
    (['?', ':', '-'].contains character && atGap rest)

/-- Whether a later character of a text, seen with both neighbours, does so. -/
def isInnerIndicator (afterGap : Bool) (character : Char)
    (rest : List Char) : Bool :=
  (character == ':' && atGap rest) || (character == '#' && afterGap)

/-- Whether one of the later characters of a text does so. -/
def hasInnerIndicator (afterGap : Bool) : List Char → Bool
  | [] => false
  | character :: rest =>
      isInnerIndicator afterGap character rest ||
        hasInnerIndicator (isGap character) rest

/-- Whether signs of YAML keep a text from being written plain. -/
def hasIndicator : List Char → Bool
  | [] => false
  | character :: rest =>
      startsLikeMark (character :: rest) ||
        isLeadingIndicator character rest ||
        hasInnerIndicator (isGap character) rest

/-- Whether a space stands beside a line end. -/
def hasSpaceAtBreak : List Char → Bool
  | first :: second :: rest =>
      (first == ' ' && isBreak second) || (isBreak first && second == ' ') ||
        hasSpaceAtBreak (second :: rest)
  | _ => false

/-- Whether a text begins or ends with a space. -/
def hasOuterSpace (characters : List Char) : Bool :=
  characters.head? == some ' ' || characters.getLast? == some ' '

/-- Whether a text can be written plain. -/
def allowsPlain (characters : List Char) : Bool :=
  Tag.ofPlain characters == .text && !hasOuterSpace characters &&
    !characters.any isBreak && !characters.any isSpecial &&
    !hasIndicator characters

/-- Whether a text can be written between single quotes. -/
def allowsSingle (characters : List Char) : Bool :=
  !characters.any isSpecial && !hasSpaceAtBreak characters

/-- Whether a line is folded at a run of spaces. -/
def foldsAt (spaces column : Nat) : Bool :=
  spaces == 1 && lineWidth < column

/-- Only a space that stands alone is replaced by a fold. -/
theorem eq_one_of_foldsAt
    {spaces column : Nat} (folds : foldsAt spaces column = true) :
    spaces = 1 := by
  simp only [foldsAt, Bool.and_eq_true, beq_iff_eq] at folds
  exact folds.1

/--
Write a plain scalar from a column on, after a number of spaces that have been met
but not yet written.
-/
def writePlain (spaces column : Nat) : List Char → List Char
  | [] => List.replicate spaces ' '
  | character :: rest =>
      if character == ' ' then
        writePlain (spaces + 1) column rest
      else if foldsAt spaces column then
        newLine ++ character :: writePlain 0 (newLineColumn + 1) rest
      else
        List.replicate spaces ' ' ++
          character :: writePlain 0 (column + spaces + 1) rest

/-- What has been met of a scalar between single quotes but is not yet written. -/
inductive Held
  | spaces (count : Nat)
  | breaks (count : Nat)
deriving Repr, DecidableEq

/--
Write what was held, in front of another character: the text, and the column after
it.  Line ends are doubled, as one of them is lost when they are read.
-/
def Held.write (column : Nat) (isFirst : Bool) : Held → List Char × Nat
  | .spaces count =>
      if foldsAt count column && !isFirst then
        (newLine, newLineColumn)
      else
        (List.replicate count ' ', column + count)
  | .breaks count =>
      (List.replicate count '\n' ++ newLine, newLineColumn)

/-- Write what was held at the end of a scalar, where no line is folded. -/
def Held.writeLast : Held → List Char
  | .spaces count => List.replicate count ' '
  | .breaks count => List.replicate count '\n' ++ newLine

/--
Write a scalar between single quotes from a column on; `isFirst` says whether the
held characters are its first ones.
-/
def writeSingle (isFirst : Bool) (held : Held) (column : Nat) :
    List Char → List Char
  | [] => held.writeLast ++ ['\'']
  | character :: rest =>
      match character, held with
      | ' ', .spaces count =>
          writeSingle isFirst (.spaces (count + 1)) column rest
      | '\n', .spaces 0 => writeSingle isFirst (.breaks 1) column rest
      | '\n', .breaks count =>
          writeSingle isFirst (.breaks (count + 1)) column rest
      | _, _ =>
          let (before, column) := held.write column isFirst
          if character == ' ' then
            before ++ writeSingle false (.spaces 1) column rest
          else if character == '\n' then
            before ++ writeSingle false (.breaks 1) column rest
          else if character == '\'' then
            before ++
              '\'' :: '\'' :: writeSingle false (.spaces 0) (column + 2) rest
          else
            before ++
              character :: writeSingle false (.spaces 0) (column + 1) rest

/-- The escapes of one character after the backslash that are written. -/
def writtenEscapes : List (Char × Char) :=
  [('\x00', '0'), ('\x07', 'a'), ('\x08', 'b'), ('\t', 't'), ('\n', 'n'),
    ('\x0b', 'v'), ('\x0c', 'f'), ('\r', 'r'), ('\x1b', 'e'), ('"', '"'),
    ('\\', '\\'), ('\x85', 'N'), ('\xa0', '_'), ('\u2028', 'L'),
    ('\u2029', 'P')]

/-- Whether a letter is written as an escape between double quotes. -/
def needsEscape : Letter → Bool
  | .char character =>
      let code := character.toNat
      character == '"' || character == '\\' || !(32 ≤ code && code ≤ 126)
  | .half _ => true

/-- A code point as an escape with as many digits as it takes. -/
def escapedCode (code : Nat) : List Char :=
  if code ≤ 0xFF then
    '\\' :: 'x' :: Text.capitalHex 2 code
  else if code ≤ 0xFFFF then
    '\\' :: 'u' :: Text.capitalHex 4 code
  else
    '\\' :: 'U' :: Text.capitalHex 8 code

def escaped (letter : Letter) : List Char :=
  match letter with
  | .char character =>
      match writtenEscapes.lookup character with
      | some sign => ['\\', sign]
      | none => escapedCode character.toNat
  | .half _ => escapedCode letter.code

/-- A letter as it is written where it needs no escape. -/
def unescaped : Letter → List Char
  | .char character => [character]
  | .half _ => []

/--
Where a line inside double quotes is folded before a text: a space that would open
the next line is escaped.
-/
def foldBefore (following : Spelling) : List Char × Nat :=
  if following.head? = some (.char ' ') then
    ('\\' :: newLine ++ ['\\'], newLineColumn + 1)
  else
    ('\\' :: newLine, newLineColumn)

/--
Write a scalar between double quotes from a column on.  It is not folded at its
first or last letter, and only at a space or beside an escape.
-/
def writeDouble (isFirst afterEscape : Bool) (column : Nat) :
    Spelling → List Char
  | [] => ['"']
  | letter :: rest =>
      let isInner := !isFirst && !rest.isEmpty
      if needsEscape letter then
        let written := escaped letter
        let next := column + written.length
        if isInner && lineWidth + 1 < next then
          let (fold, folded) := foldBefore rest
          written ++ fold ++ writeDouble false true folded rest
        else
          written ++ writeDouble false true next rest
      else if isInner && (letter == .char ' ' || afterEscape) &&
          lineWidth < column then
        let (fold, folded) := foldBefore (letter :: rest)
        fold ++ unescaped letter ++ writeDouble false false (folded + 1) rest
      else
        unescaped letter ++ writeDouble false false (column + 1) rest

/--
A text as a scalar that begins after a column, with the space in front of it.  Halves of
characters can only be written as escapes.
-/
def writeText (column : Nat) (text : Spelling) : List Char :=
  match text.chars? with
  | some characters =>
      if allowsPlain characters then
        ' ' :: writePlain 0 (column + 1) characters
      else if allowsSingle characters then
        ' ' :: '\'' :: writeSingle true (.spaces 0) (column + 2) characters
      else
        ' ' :: '"' :: writeDouble true false (column + 2) text
  | none => ' ' :: '"' :: writeDouble true false (column + 2) text

/-- A text, or null, as the value of a key at the beginning of a line. -/
def writeField (key : String) (value : Option Spelling) : List Char :=
  key.toList ++ ':' ::
    (match value with
      | none => " null".toList
      | some text => writeText (key.length + 1) text) ++ ['\n']

def writeItem (text : Spelling) : List Char :=
  '-' :: writeText 1 text ++ ['\n']

/-- A list of texts as the value of a key at the beginning of a line. -/
def writeItems (key : String) (texts : List Spelling) : List Char :=
  key.toList ++ ':' ::
    (if texts.isEmpty then
      " []\n".toList
    else
      '\n' :: texts.flatMap writeItem)

end NativeDeps.Yaml
