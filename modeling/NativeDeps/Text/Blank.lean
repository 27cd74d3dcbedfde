/-!
# Blank characters

The characters that count as space at either end of a platform name, and their
removal.  A blank inside a name is kept.  In bytes that stand for characters only the
blanks of ASCII are blank.
-/

namespace NativeDeps.Text

/--
The blanks of every script: the separators and line ends of Unicode, and the
four information separators below the space.
-/
def isBlank (character : Char) : Bool :=
  let code := character.toNat
  (9 ≤ code && code ≤ 13) || (28 ≤ code && code ≤ 32) ||
    code == 0x85 || code == 0xA0 || code == 0x1680 ||
    (0x2000 ≤ code && code ≤ 0x200A) ||
    code == 0x2028 || code == 0x2029 || code == 0x202F ||
    code == 0x205F || code == 0x3000

/-- Remove the blanks at both ends of a list of characters. -/
def stripChars (characters : List Char) : List Char :=
  ((characters.dropWhile isBlank).reverse.dropWhile isBlank).reverse

/-- Remove the blanks at both ends of a text. -/
def strip (text : String) : String :=
  String.ofList (stripChars text.toList)

/-- Whether a byte is a blank of ASCII. -/
def isBlankByte (byte : UInt8) : Bool :=
  (9 ≤ byte && byte ≤ 13) || byte == 32

/-- Remove the blanks at both ends of bytes. -/
def stripBytes (bytes : List UInt8) : List UInt8 :=
  ((bytes.dropWhile isBlankByte).reverse.dropWhile isBlankByte).reverse

end NativeDeps.Text
