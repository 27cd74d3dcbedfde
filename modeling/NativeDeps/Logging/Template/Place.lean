import NativeDeps.Text.Digits

/-!
# The places of a template

A template is a text with places for arguments.  A place opens with a percent sign; a
name in parentheses, flags, a width, a precision and the sign of the conversion follow.
Two percent signs in a row are no place but one percent sign.
-/

namespace NativeDeps.Logging.Template

/-- The name of the argument for a place: left out, written down, or never ending. -/
inductive Name
  | none
  | written (name : List Char)
  | unclosed
deriving Repr, DecidableEq

/-- A width or a precision: left out, written down, or taken from the arguments. -/
inductive Measure
  | none
  | fixed (amount : Nat)
  | taken
deriving Repr, DecidableEq

/-- A place of a template; it has no sign where the template ends before one. -/
structure Place where
  name : Name
  flags : List Char
  width : Measure
  precision : Measure
  sign : Option Char
  /-- Where the sign stands in the template. -/
  index : Nat
deriving Repr, DecidableEq

/-- What a template consists of. -/
inductive Piece
  | literal (character : Char)
  | place (place : Place)
deriving Repr, DecidableEq

/-- The name up to the parenthesis that closes it, and what stands behind. -/
def readName (depth : Nat) : List Char → Option (List Char × List Char)
  | [] => none
  | '(' :: rest =>
      (readName (depth + 1) rest).map fun (name, rest) => ('(' :: name, rest)
  | ')' :: rest =>
      match depth with
      | 0 => some ([], rest)
      | depth + 1 =>
          (readName depth rest).map fun (name, rest) => (')' :: name, rest)
  | character :: rest =>
      (readName depth rest).map fun (name, rest) => (character :: name, rest)

/-- The name of the argument, if some characters open with one, and what stands behind. -/
def takeName (characters : List Char) : Name × List Char :=
  match characters with
  | '(' :: rest =>
      match readName 0 rest with
      | some (name, rest) => (.written name, rest)
      | none => (.unclosed, [])
  | characters => (.none, characters)

def isFlag (character : Char) : Bool :=
  ['-', '+', ' ', '#', '0'].contains character

/-- The measure that some characters open with, and what stands behind. -/
def readMeasure (characters : List Char) : Measure × List Char :=
  match characters with
  | '*' :: rest => (.taken, rest)
  | characters =>
      let digits := characters.takeWhile Char.isDigit
      (if digits.isEmpty then .none else .fixed (Text.readDigits 10 0 digits),
        characters.drop digits.length)

/-- The precision that some characters open with, and what stands behind. -/
def readPrecision (characters : List Char) : Measure × List Char :=
  match characters with
  | '.' :: rest =>
      match readMeasure rest with
      | (.none, rest) => (.fixed 0, rest)
      | (measure, rest) => (measure, rest)
  | characters => (.none, characters)

/-- Drop a sign for the size of a number, which says nothing here. -/
def dropSize (characters : List Char) : List Char :=
  match characters with
  | 'h' :: rest => rest
  | 'l' :: rest => rest
  | 'L' :: rest => rest
  | characters => characters

/-- The place behind a percent sign at an index, and the number of its characters. -/
def readPlace (index : Nat) (characters : List Char) : Place × Nat :=
  let (name, rest) := takeName characters
  let flags := rest.takeWhile isFlag
  let (width, rest) := readMeasure (rest.drop flags.length)
  let (precision, rest) := readPrecision rest
  let rest := dropSize rest
  let length := characters.length - (rest.drop 1).length
  (⟨name, flags, width, precision, rest.head?, index + length⟩, length)

/--
The pieces of a template whose first character has an index; the first `skipped`
characters belong to the place before them.
-/
def pieces (skipped index : Nat) : List Char → List Piece
  | [] => []
  | character :: rest =>
      match skipped with
      | skipped + 1 => pieces skipped (index + 1) rest
      | 0 =>
          if character = '%' then
            if rest.head? = some '%' then
              .literal '%' :: pieces 1 (index + 1) rest
            else
              let (place, length) := readPlace index rest
              .place place :: pieces length (index + 1) rest
          else
            .literal character :: pieces 0 (index + 1) rest

end NativeDeps.Logging.Template
