import NativeDeps.Text.Quoted

/-!
# Halves of characters

A character beyond the basic plane can be spelt by two halves, and a half may also
stand alone.  Where code points are to be shown as characters, two halves in a row become
their character and one alone becomes the replacement character.
-/

namespace NativeDeps.Text

def isHalf (code : Nat) : Bool :=
  0xD800 ≤ code && code < 0xE000

def isFirstHalf (code : Nat) : Bool :=
  0xD800 ≤ code && code < 0xDC00

def isSecondHalf (code : Nat) : Bool :=
  0xDC00 ≤ code && code < 0xE000

/-- The code point of the character that two halves spell. -/
def joinHalves (first second : Nat) : Nat :=
  0x10000 + (first - 0xD800) * 0x400 + (second - 0xDC00)

/-- The character of a code point, or the replacement character for a half. -/
def charOfCode (code : Nat) : Char :=
  if code.isValidChar then Char.ofNat code else '\ufffd'

/-- Code points with every two halves in a row joined. -/
def joinPairs : List Nat → List Nat
  | [] => []
  | [code] => [code]
  | first :: second :: rest =>
      if isFirstHalf first && isSecondHalf second then
        joinHalves first second :: joinPairs rest
      else
        first :: joinPairs (second :: rest)

/-- The characters of code points among which there is no half. -/
def charsOfCodes? : List Nat → Option (List Char)
  | [] => some []
  | code :: rest =>
      if isHalf code then
        none
      else
        (charsOfCodes? rest).map (charOfCode code :: ·)

/-- Code points as a text without halves. -/
def textOfCodes (codes : List Nat) : String :=
  String.ofList ((joinPairs codes).map charOfCode)

/-- Code points as a text between quotes, every half as an escape. -/
def quotedCodes (codes : List Nat) : String :=
  let quote := quoteFor (codes.map charOfCode)
  let shown := fun (code : Nat) =>
    if isHalf code then
      escapeCode code
    else
      quotedChar quote (charOfCode code)
  String.ofList (quote :: codes.flatMap shown ++ [quote])

end NativeDeps.Text
