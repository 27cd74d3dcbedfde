import NativeDeps.Text.Digits
import NativeDeps.Yaml.Fault
import NativeDeps.Yaml.Token.Plain

/-!
# Quoted scalars

Between single quotes only the quote itself is special, and is written twice.
Between double quotes a backslash begins an escape, which may also name a half of a
character, so a quoted scalar is read as code points.  Line ends are folded as in plain
scalars, and blanks around them mean nothing.
-/

namespace NativeDeps.Yaml

/-- The escapes of one character after the backslash. -/
def shortEscapes : List (Char × Char) :=
  [('0', '\x00'), ('a', '\x07'), ('b', '\x08'), ('t', '\t'), ('\t', '\t'),
    ('n', '\n'), ('v', '\x0b'), ('f', '\x0c'), ('r', '\r'), ('e', '\x1b'),
    (' ', ' '), ('"', '"'), ('\\', '\\'), ('/', '/'), ('N', '\x85'),
    ('_', '\xa0'), ('L', '\u2028'), ('P', '\u2029')]

/-- A code point that an escape names. -/
def checkCode (code : Nat) : Except Fault Nat :=
  if 0x110000 ≤ code then .error (.noCharacter code) else .ok code

/-- The number that some characters stand for if all are digits of base sixteen. -/
def hexValue? (digits : List Char) : Option Nat :=
  digits.foldlM
    (fun value digit => (Text.digitValue? digit).map (value * 16 + ·)) 0

/-- The number of digits of an escape that names a code point. -/
def codeLength? : Char → Option Nat
  | 'x' => some 2
  | 'u' => some 4
  | 'U' => some 8
  | _ => none

/--
Read the code point of an escape, where `ending` is what stops the reading behind the
text.
-/
def takeCode (ending : Fault) (length : Nat) (characters : List Char) :
    Except Fault Nat :=
  let digits := characters.take length
  match hexValue? digits with
  | none => .error .malformed
  | some code =>
      if digits.length < length then .error ending else checkCode code

/--
Read on in a quoted scalar, up to its closing quote.  `skip` characters have been
read already, as part of an escape; `ending` is what stops the reading behind the text.
-/
def scanQuoted (isDouble : Bool) (ending : Fault) (position : Position)
    (pending : Pending) :
    (skip : Nat) → List Char → Except Fault (ScannedScalar Nat)
  | _, [] => .error ending
  | skip + 1, character :: rest =>
      scanQuoted isDouble ending (position.step character) pending skip rest
  | 0, character :: rest =>
      let next := position.step character
      let before := pending.meaning.map Char.toNat
      if character == ' ' || character == '\t' then
        scanQuoted isDouble ending next (pending.addBlank character) 0 rest
      else if isBreak character then
        if atDocumentMark rest then
          .error .malformed
        else
          scanQuoted isDouble ending next (pending.addBreak character) 0 rest
      else if !isDouble && character == '\'' then
        if rest.head? = some '\'' then
          (scanQuoted isDouble ending next (.blanks []) 1 rest).map
            (·.prepend (before ++ ['\''.toNat]))
        else
          .ok ⟨before, rest, next, false⟩
      else if isDouble && character == '"' then
        .ok ⟨before, rest, next, false⟩
      else if isDouble && character == '\\' then
        match rest with
        | [] => .error ending
        | escape :: after =>
            match shortEscapes.lookup escape with
            | some meant =>
                (scanQuoted isDouble ending next (.blanks []) 1 rest).map
                  (·.prepend (before ++ [meant.toNat]))
            | none =>
                if isBreak escape then
                  if atDocumentMark after then
                    .error .malformed
                  else
                    (scanQuoted isDouble ending next (.lines none []) 1
                      rest).map (·.prepend before)
                else
                  match codeLength? escape with
                  | none => .error .malformed
                  | some length =>
                      match takeCode ending length after with
                      | .error fault => .error fault
                      | .ok meant =>
                          (scanQuoted isDouble ending next (.blanks [])
                            (length + 1) rest).map
                            (·.prepend (before ++ [meant]))
      else
        (scanQuoted isDouble ending next (.blanks []) 0 rest).map
          (·.prepend (before ++ [character.toNat]))

end NativeDeps.Yaml
