import NativeDeps.Yaml.Character

/-!
# Plain scalars

A scalar without quotes goes on over spaces and line ends as long as the next
character can continue it.  A single line end inside it stands for a space, and of
several the first stands for nothing.
-/

namespace NativeDeps.Yaml

/-- What stands between two characters of a scalar that is not yet over. -/
inductive Pending
  /-- Blanks on one line, kept if the scalar goes on. -/
  | blanks (characters : List Char)
  /--
  Line ends: the first one if it is to be folded, and those after it.
  -/
  | lines (first : Option Char) (others : List Char)
deriving Repr, DecidableEq

namespace Pending

/-- What the pending characters stand for when the scalar goes on. -/
def meaning : Pending → List Char
  | .blanks characters => characters
  | .lines none others => others
  | .lines (some first) others =>
      if first != '\n' then first :: others
      else if others.isEmpty then [' ']
      else others

/-- Go on with one more line end. -/
def addBreak (pending : Pending) (character : Char) : Pending :=
  match pending with
  | .blanks _ => .lines (some character) []
  | .lines first others => .lines first (others ++ [character])

/-- Go on with one more blank; blanks at the beginning of a line mean nothing. -/
def addBlank (pending : Pending) (character : Char) : Pending :=
  match pending with
  | .blanks characters => .blanks (characters ++ [character])
  | .lines first others => .lines first others

/-- Whether a line end is among the pending characters. -/
def hasBreak : Pending → Bool
  | .blanks _ => false
  | .lines _ _ => true

def isEmpty : Pending → Bool
  | .blanks characters => characters.isEmpty
  | .lines _ _ => false

end Pending

/-- A scalar that has been read, unit by unit, and the text that follows it. -/
structure ScannedScalar (Unit : Type) where
  content : List Unit
  rest : List Char
  position : Position
  /-- Whether a line end was passed after the last character of the scalar. -/
  brokeLine : Bool
deriving Repr, DecidableEq

namespace ScannedScalar

/-- Put units in front of the content. -/
def prepend {Unit : Type} (units : List Unit)
    (scanned : ScannedScalar Unit) : ScannedScalar Unit :=
  { scanned with content := units ++ scanned.content }

end ScannedScalar

/-- Whether a character, seen with the text after it, cannot belong to a plain scalar. -/
def endsPlain (inFlow : Bool) (character : Char) (rest : List Char) : Bool :=
  isGap character ||
    (character == ':' &&
      (atGap rest ||
        (inFlow &&
          match rest with
          | [] => false
          | next :: _ => isFlowIndicator next))) ||
    (inFlow && (isFlowIndicator character || character == '?'))

/--
Read on in a plain scalar.  After a line end a scalar in a block goes on only if
it is indented by at least `indent` columns, and nowhere past a document mark.
-/
def scanPlain (inFlow : Bool) (indent : Int) (position : Position)
    (pending : Pending) : List Char → ScannedScalar Char
  | [] => ⟨[], [], position, pending.hasBreak⟩
  | character :: rest =>
      if character == ' ' then
        scanPlain inFlow indent (position.step character)
          (pending.addBlank character) rest
      else if isBreak character then
        if atDocumentMark rest then
          ⟨[], rest, position.step character, true⟩
        else
          scanPlain inFlow indent (position.step character)
            (pending.addBreak character) rest
      else if (!pending.isEmpty && character == '#') ||
          (pending.hasBreak && !inFlow && (position.column : Int) < indent) ||
          endsPlain inFlow character rest then
        ⟨[], character :: rest, position, pending.hasBreak⟩
      else
        (scanPlain inFlow indent (position.step character) (.blanks [])
          rest).prepend (pending.meaning ++ [character])

end NativeDeps.Yaml
