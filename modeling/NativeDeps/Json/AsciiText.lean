import NativeDeps.Text.Digits
import NativeDeps.Text.Spelling

/-!
# JSON texts in ASCII

Texts and lists of texts as JSON that holds ASCII characters only.  A character
beyond the basic plane is written as the two halves of its surrogate pair, and a half of a
character as itself.
-/

namespace NativeDeps.Json

def unitEscape (unit : Nat) : List Char :=
  '\\' :: 'u' :: Text.smallHex 4 unit

def escapeChar (character : Char) : List Char :=
  let code := character.toNat
  if character == '"' || character == '\\' then
    ['\\', character]
  else if 32 ≤ code && code ≤ 126 then
    [character]
  else if character == '\n' then
    ['\\', 'n']
  else if character == '\r' then
    ['\\', 'r']
  else if character == '\t' then
    ['\\', 't']
  else if code == 8 then
    ['\\', 'b']
  else if code == 12 then
    ['\\', 'f']
  else if code < 0x10000 then
    unitEscape code
  else
    unitEscape (0xD800 + (code - 0x10000) / 0x400) ++
      unitEscape (0xDC00 + (code - 0x10000) % 0x400)

def escapeLetter : Letter → List Char
  | .char character => escapeChar character
  | .half place => unitEscape (Letter.half place).code

def textChars (text : Spelling) : List Char :=
  '"' :: text.flatMap escapeLetter ++ ['"']

/-- The texts after the first of a JSON array, up to the closing bracket. -/
def restOfArray : List Spelling → List Char
  | [] => [']']
  | text :: rest => ',' :: ' ' :: textChars text ++ restOfArray rest

def arrayChars : List Spelling → List Char
  | [] => ['[', ']']
  | text :: rest => '[' :: textChars text ++ restOfArray rest

def array (texts : List Spelling) : String :=
  String.ofList (arrayChars texts)

end NativeDeps.Json
