import NativeDeps.Text.Digits
import NativeDeps.Text.PrintableTable

/-!
# Quoted texts

How a text is shown inside another value: between quotes, with what cannot be
seen written as an escape.  A character can be seen unless it is a control, a
separator other than the space, a format sign, or not assigned at all.  Double quotes
are used only around a text that holds single quotes and no double ones, so at most one
kind of quote needs an escape.
-/

namespace NativeDeps.Text

def isPrintable (character : Char) : Bool :=
  let code := character.toNat
  if code < 127 then
    32 ≤ code
  else
    (printableTurns.takeWhile (· ≤ code)).length % 2 == 1

/-- The quote that a text is shown between. -/
def quoteFor (characters : List Char) : Char :=
  if characters.contains '\'' && !characters.contains '"' then '"' else '\''

/-- An escape with the fewest digits of two, four or eight that hold the code point. -/
def escapeCode (code : Nat) : List Char :=
  if code ≤ 0xFF then
    '\\' :: 'x' :: smallHex 2 code
  else if code ≤ 0xFFFF then
    '\\' :: 'u' :: smallHex 4 code
  else
    '\\' :: 'U' :: smallHex 8 code

/-- One character of a text that is shown between the given quotes. -/
def quotedChar (quote character : Char) : List Char :=
  if character == quote || character == '\\' then
    ['\\', character]
  else if character == '\n' then
    ['\\', 'n']
  else if character == '\r' then
    ['\\', 'r']
  else if character == '\t' then
    ['\\', 't']
  else if isPrintable character then
    [character]
  else
    escapeCode character.toNat

def quoted (text : String) : String :=
  let characters := text.toList
  let quote := quoteFor characters
  String.ofList
    (quote :: characters.flatMap (quotedChar quote) ++ [quote])

/-- Bytes between quotes, the ones outside the printable ASCII range as escapes. -/
def quotedBytes (bytes : List UInt8) : String :=
  let characters := bytes.map fun byte => Char.ofNat byte.toNat
  let quote := quoteFor characters
  let shown := fun (character : Char) =>
    if character.toNat < 128 then
      quotedChar quote character
    else
      escapeCode character.toNat
  String.ofList
    ('b' :: quote :: characters.flatMap shown ++ [quote])

end NativeDeps.Text
