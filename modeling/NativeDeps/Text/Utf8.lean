import NativeDeps.Text.Halves

/-!
# Reading UTF-8

The characters at the front of some bytes, as far as the bytes are the encoding of
characters.  A character has up to four bytes; the second one is restricted where a
shorter encoding would do or where the code point would be a half of a character.
-/

namespace NativeDeps.Text

/-- A character of which some bytes have been read, and the range of the next one. -/
structure Unfinished where
  code : Nat
  missing : Nat
  least : Nat := 0x80
  most : Nat := 0xBF
deriving Repr, DecidableEq

/-- The beginning of a character by its first byte. -/
def Unfinished.opening? (byte : Nat) : Option Unfinished :=
  if byte < 0x80 then some { code := byte, missing := 0 }
  else if byte < 0xC2 then none
  else if byte < 0xE0 then some { code := byte - 0xC0, missing := 1 }
  else if byte < 0xF0 then
    some
      { code := byte - 0xE0
        missing := 2
        least := if byte == 0xE0 then 0xA0 else 0x80
        most := if byte == 0xED then 0x9F else 0xBF }
  else if byte < 0xF5 then
    some
      { code := byte - 0xF0
        missing := 3
        least := if byte == 0xF0 then 0x90 else 0x80
        most := if byte == 0xF4 then 0x8F else 0xBF }
  else none

def Unfinished.add? (unfinished : Unfinished) (byte : Nat) : Option Unfinished :=
  if unfinished.least ≤ byte && byte ≤ unfinished.most then
    some
      { code := unfinished.code * 64 + (byte - 0x80)
        missing := unfinished.missing - 1 }
  else
    none

/-- The characters at the front of some bytes. -/
structure Decoded where
  characters : List Char
  /-- The number of bytes in front of the first that cannot follow, or of all bytes. -/
  length : Nat
deriving Repr, DecidableEq

/--
Read on in bytes, of which `length` have been read as characters, newest first, and as
a character that is not finished.
-/
def decodeFrom (characters : List Char) (length : Nat)
    (unfinished : Option Unfinished) : List UInt8 → Decoded
  | [] => ⟨characters.reverse, length⟩
  | byte :: rest =>
      let next :=
        match unfinished with
        | none => Unfinished.opening? byte.toNat
        | some unfinished => unfinished.add? byte.toNat
      match next with
      | none => ⟨characters.reverse, length⟩
      | some next =>
          if next.missing = 0 then
            decodeFrom (charOfCode next.code :: characters) (length + 1)
              none rest
          else
            decodeFrom characters (length + 1) (some next) rest

/-- The characters at the front of some bytes. -/
def decode (bytes : List UInt8) : Decoded :=
  decodeFrom [] 0 none bytes

end NativeDeps.Text
