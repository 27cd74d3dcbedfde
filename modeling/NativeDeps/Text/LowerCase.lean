import NativeDeps.Text.LetterTable

/-!
# Lower case

The full lower-casing of Unicode, as far as it does not depend on a language:
every capital letter becomes its small form, the dotted capital I becomes two
characters, and a capital sigma becomes the final sigma at the end of a word.  In bytes
that stand for characters only the letters of ASCII have two cases.
-/

namespace NativeDeps.Text

def inRuns (runs : List (Nat × Nat)) (code : Nat) : Bool :=
  runs.any fun (first, last) => first ≤ code && code ≤ last

namespace CapitalRun

/-- Whether a code point is one of the run's capital letters. -/
def holds (run : CapitalRun) (code : Nat) : Bool :=
  run.first ≤ code && code ≤ run.last &&
    (code - run.first) % run.stride == 0

/-- The small form of one of the run's capital letters. -/
def lower (run : CapitalRun) (code : Nat) : Nat :=
  run.image + (code - run.first)

end CapitalRun

def isCased (character : Char) : Bool :=
  inRuns casedRuns character.toNat

/-- Whether a character is passed over in the search for a neighbouring letter. -/
def isPassedOver (character : Char) : Bool :=
  inRuns passedOverRuns character.toNat

/-- The small form of a capital letter; any other character stands for itself. -/
def lowerChar (character : Char) : Char :=
  match capitalRuns.find? (·.holds character.toNat) with
  | some run => Char.ofNat (run.lower character.toNat)
  | none => character

/-- Whether the next character that is not passed over is a letter with case. -/
def letterFollows (rest : List Char) : Bool :=
  match rest.dropWhile isPassedOver with
  | [] => false
  | next :: _ => isCased next

/--
The small form of one character.  A capital sigma is final when a letter comes
before it and none after it.
-/
def lowerAt (letterBefore : Bool) (character : Char) (rest : List Char) :
    List Char :=
  if character == 'Σ' then
    if letterBefore && !letterFollows rest then ['ς'] else ['σ']
  else if character == 'İ' then
    ['i', '\u0307']
  else
    [lowerChar character]

/--
Lower-case a list of characters; `letterBefore` says whether the last character
before it that is not passed over is a letter with case.
-/
def lowerFrom (letterBefore : Bool) : List Char → List Char
  | [] => []
  | character :: rest =>
      lowerAt letterBefore character rest ++
        lowerFrom
          (if isPassedOver character then letterBefore else isCased character)
          rest

def lower (text : String) : String :=
  String.ofList (lowerFrom false text.toList)

/-- The small form of a capital letter of ASCII; any other byte stands for itself. -/
def lowerByte (byte : UInt8) : UInt8 :=
  if 65 ≤ byte && byte ≤ 90 then byte + 32 else byte

def lowerBytes (bytes : List UInt8) : List UInt8 :=
  bytes.map lowerByte

end NativeDeps.Text
