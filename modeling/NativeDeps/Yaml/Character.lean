/-!
# Characters of YAML texts

The classes of characters that YAML tells apart.  Line ends are line feeds here:
reading a file as text has already turned the other two spellings into it.
-/

namespace NativeDeps.Yaml

def isBreak (character : Char) : Bool :=
  character == '\n' || character == '\x85' ||
    character == '\u2028' || character == '\u2029'

def isSpaceOrBreak (character : Char) : Bool :=
  character == ' ' || isBreak character

/-- Whether a character is a space, a tab or ends a line. -/
def isGap (character : Char) : Bool :=
  character == '\t' || isSpaceOrBreak character

/-- Whether a text is over or goes on with a line end. -/
def atLineEnd : List Char → Bool
  | [] => true
  | character :: _ => isBreak character

/-- Whether a text is over or goes on with a space or a line end. -/
def atSpace : List Char → Bool
  | [] => true
  | character :: _ => isSpaceOrBreak character

/-- Whether a text is over or goes on with a space, a tab or a line end. -/
def atGap : List Char → Bool
  | [] => true
  | character :: _ => isGap character

/-- Whether a character may stand in a YAML text at all. -/
def isAllowed (character : Char) : Bool :=
  let code := character.toNat
  code == 9 || code == 10 || (32 ≤ code && code ≤ 126) || code == 0x85 ||
    (0xA0 ≤ code && code ≤ 0xFFFD) || 0x10000 ≤ code

/-- Whether a character may stand in the name of an anchor or of a tag handle. -/
def isWordChar (character : Char) : Bool :=
  ('0' ≤ character && character ≤ '9') ||
    ('A' ≤ character && character ≤ 'Z') ||
    ('a' ≤ character && character ≤ 'z') ||
    character == '-' || character == '_'

/-- Whether a character may stand in the rest of a tag. -/
def isUriChar (character : Char) : Bool :=
  isWordChar character ||
    [';', '/', '?', ':', '@', '&', '=', '+', '$', ',', '.', '!', '~', '*',
      '\'', '(', ')', '[', ']', '%'].contains character

/-- Whether a character opens, closes or parts a flow collection. -/
def isFlowIndicator (character : Char) : Bool :=
  [',', '[', ']', '\x7b', '\x7d'].contains character

/--
Whether a line that opens with this text marks the beginning or the end of a
document.
-/
def atDocumentMark : List Char → Bool
  | '-' :: '-' :: '-' :: rest => atGap rest
  | '.' :: '.' :: '.' :: rest => atGap rest
  | _ => false

/-- A place in a text: characters and lines before it, and columns in its line. -/
structure Position where
  index : Nat
  line : Nat
  column : Nat
deriving Repr, DecidableEq

namespace Position

/-- The beginning of a text. -/
def start : Position := ⟨0, 0, 0⟩

/-- The place after one character; a byte order mark takes up no column. -/
def step (position : Position) (character : Char) : Position :=
  if isBreak character then
    ⟨position.index + 1, position.line + 1, 0⟩
  else if character == '\ufeff' then
    ⟨position.index + 1, position.line, position.column⟩
  else
    ⟨position.index + 1, position.line, position.column + 1⟩

def after (position : Position) (characters : List Char) : Position :=
  characters.foldl step position

end Position

end NativeDeps.Yaml
