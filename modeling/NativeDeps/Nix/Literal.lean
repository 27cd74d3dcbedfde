import NativeDeps.Text.Spelling

/-!
# Nix string literals

A text as a literal of the Nix language between double quotes.  A backslash takes
away the meaning of the backslash, of the quote, and of the dollar sign that would
open an interpolation: one sign after the other is replaced, from left to right, and what
has been replaced is not looked at again for the same sign.  The reader follows the rules of
the language, in which a backslash before some letters stands for a control character.
-/

namespace NativeDeps

namespace Text

variable {α : Type} [BEq α]

/--
Replace the occurrences of a pattern, where the first `skip` elements belong to an
occurrence that has been replaced already.
-/
def replaceFrom (pattern replacement : List α) :
    (skip : Nat) → List α → List α
  | _, [] => []
  | skip + 1, _ :: rest => replaceFrom pattern replacement skip rest
  | 0, element :: rest =>
      if pattern.isPrefixOf (element :: rest) then
        replacement ++ replaceFrom pattern replacement (pattern.length - 1) rest
      else
        element :: replaceFrom pattern replacement 0 rest

/-- Replace the occurrences of a pattern, which is not empty. -/
def replace (pattern replacement elements : List α) : List α :=
  replaceFrom pattern replacement 0 elements

end Text

namespace Nix

/-- The signs that mean something in a literal, in the order in which they are escaped. -/
def meaningfulSigns : List Spelling :=
  ["\\", "\"", "$\x7b"]

/-- A text with a backslash in front of every sign that means something. -/
def escape (text : Spelling) : Spelling :=
  meaningfulSigns.foldl
    (fun escaped sign => Text.replace sign (.char '\\' :: sign) escaped) text

/-- A text as a Nix string literal. -/
def literal (text : Spelling) : Spelling :=
  .char '"' :: escape text ++ [.char '"']

/-- How a literal can go on behind its opening quote. -/
inductive Reading
  /-- The closing quote was met; `rest` stands behind it. -/
  | closed (content rest : Spelling)
  /-- An interpolation opens. -/
  | interpolation
  /-- The text ends inside the literal. -/
  | unclosed
deriving Repr, DecidableEq

/-- The letter that a backslash and a letter stand for. -/
def unescape : Letter → Letter
  | .char 'n' => .char '\n'
  | .char 'r' => .char '\r'
  | .char 't' => .char '\t'
  | letter => letter

def Reading.cons (letter : Letter) : Reading → Reading
  | .closed content rest => .closed (letter :: content) rest
  | .interpolation => .interpolation
  | .unclosed => .unclosed

/-- Read a literal behind its opening quote. -/
def readLiteral : Spelling → Reading
  | [] => .unclosed
  | .char '"' :: rest => .closed [] rest
  | .char '\\' :: letter :: rest => (readLiteral rest).cons (unescape letter)
  | .char '$' :: .char '\x7b' :: _ => .interpolation
  | letter :: rest => (readLiteral rest).cons letter

end Nix

end NativeDeps
