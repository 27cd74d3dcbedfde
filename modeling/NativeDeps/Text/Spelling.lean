import NativeDeps.Text.Blank
import NativeDeps.Text.Halves
import NativeDeps.Text.LowerCase

/-!
# Spellings

A text as it is spelt: a list of letters, each of them a character or a half of one.  Two
halves in a row are not the character that they spell.  A spelling of characters alone is
a whole one, and only such a one is the spelling of a text without halves.
-/

namespace NativeDeps

/-- A character, or a half of one by its place among the halves. -/
inductive Letter
  | char (character : Char)
  | half (place : Fin 0x800)
deriving Repr, DecidableEq, Inhabited

namespace Letter

/-- The code point of a letter. -/
def code : Letter → Nat
  | .char character => character.toNat
  | .half place => 0xD800 + place

/-- The letter of a code point. -/
def ofCode (code : Nat) : Letter :=
  if half : 0xD800 ≤ code ∧ code - 0xD800 < 0x800 then
    .half ⟨code - 0xD800, half.2⟩
  else
    .char (Text.charOfCode code)

def isChar : Letter → Bool
  | .char _ => true
  | .half _ => false

/-- A half is no blank. -/
def isBlank : Letter → Bool
  | .char character => Text.isBlank character
  | .half _ => false

/--
Whether a letter can be part of the name of a file: a character, or a half that stands for
a byte which is no text.
-/
def isNameable : Letter → Bool
  | .char _ => true
  | .half place => 0x480 ≤ place.val && place.val < 0x500

/-- The number of bytes of a letter in the name of a file. -/
def byteSize : Letter → Nat
  | .char character => character.utf8Size
  | .half _ => 1

/-- A letter in a report, where a replacement character stands for each byte of a half. -/
def reported : Letter → List Char
  | .char character => [character]
  | .half _ => List.replicate 3 '\ufffd'

end Letter

/-- A text as it is spelt. -/
abbrev Spelling := List Letter

namespace Spelling

instance : LawfulBEq Spelling :=
  List.instLawfulBEq

/-- The spelling of a text without halves. -/
def ofText (text : String) : Spelling :=
  text.toList.map Letter.char

instance : Coe String Spelling := ⟨ofText⟩

def ofCodes (codes : List Nat) : Spelling :=
  codes.map Letter.ofCode

def codes (spelling : Spelling) : List Nat :=
  spelling.map Letter.code

/-- The characters of a spelling in which there is no half. -/
def chars? : Spelling → Option (List Char)
  | [] => some []
  | .char character :: rest => (chars? rest).map (character :: ·)
  | .half _ :: _ => none

/-- The text with a spelling in which there is no half. -/
def text? (spelling : Spelling) : Option String :=
  spelling.chars?.map String.ofList

/-- Whether there is no half in a spelling. -/
def IsWhole (spelling : Spelling) : Prop :=
  ∀ letter ∈ spelling, letter.isChar = true

instance (spelling : Spelling) : Decidable spelling.IsWhole :=
  inferInstanceAs (Decidable (∀ letter ∈ spelling, letter.isChar = true))

/-- A spelling with every two halves in a row that spell a character joined. -/
def joined (spelling : Spelling) : Spelling :=
  ofCodes (Text.joinPairs spelling.codes)

/-- A spelling as it is shown to the user, who sees no halves. -/
def shown (spelling : Spelling) : String :=
  Text.textOfCodes spelling.codes

/-- A spelling between quotes, every half as an escape. -/
def quoted (spelling : Spelling) : String :=
  Text.quotedCodes spelling.codes

/-- A spelling in a report of problems. -/
def reported (spelling : Spelling) : String :=
  String.ofList (spelling.flatMap Letter.reported)

def byteSize (spelling : Spelling) : Nat :=
  spelling.foldl (fun size letter => size + letter.byteSize) 0

/-- Remove the blanks at both ends. -/
def strip (spelling : Spelling) : Spelling :=
  ((spelling.dropWhile Letter.isBlank).reverse.dropWhile
    Letter.isBlank).reverse

/--
Lower-case letters behind a run of characters, which come newest first.  A half is no
letter of a word, so the characters between two halves are lower-cased by themselves.
-/
def lowerRuns (run : List Char) : Spelling → Spelling
  | [] => (Text.lowerFrom false run.reverse).map Letter.char
  | .char character :: rest => lowerRuns (character :: run) rest
  | .half place :: rest =>
      (Text.lowerFrom false run.reverse).map Letter.char ++
        .half place :: lowerRuns [] rest

def lower (spelling : Spelling) : Spelling :=
  lowerRuns [] spelling

end Spelling

end NativeDeps
