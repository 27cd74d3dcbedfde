import NativeDeps.Text.Digits
import NativeDeps.Yaml.Fault
import NativeDeps.Yaml.Token
import NativeDeps.Yaml.Token.Block

/-!
# Anchors, tags and directives

The tokens that are read as words.  Each reader takes the text after the sign that
opens the token and gives back the token and the text that follows it.
-/

namespace NativeDeps.Yaml

/-- Read the name of an anchor or alias. -/
def takeName (characters : List Char) :
    Except Fault (String × List Char) :=
  let name := characters.takeWhile isWordChar
  let rest := characters.dropWhile isWordChar
  let mayFollow :=
    match rest with
    | [] => true
    | next :: _ =>
        isGap next ||
          ['?', ':', ',', ']', '\x7d', '%', '@', '\u0060'].contains next
  if name.isEmpty || !mayFollow then
    .error .malformed
  else
    .ok (String.ofList name, rest)

/-- Read the bytes of the escapes that follow one another in a tag. -/
def takeEscapedBytes : List Char → Except Fault (List UInt8 × List Char)
  | '%' :: high :: low :: rest =>
      match Text.digitValue? high, Text.digitValue? low with
      | some highValue, some lowValue => do
          let (bytes, rest) ← takeEscapedBytes rest
          return (UInt8.ofNat (highValue * 16 + lowValue) :: bytes, rest)
      | _, _ => .error .malformed
  | '%' :: _ => .error .malformed
  | characters => .ok ([], characters)

/-- Read the rest of a tag, which is `fuel` characters long at most. -/
def takeUriFrom : (fuel : Nat) → List Char →
    Except Fault (List Char × List Char)
  | 0, characters => .ok ([], characters)
  | _ + 1, [] => .ok ([], [])
  | fuel + 1, character :: rest =>
      if character == '%' then do
        let (bytes, after) ← takeEscapedBytes (character :: rest)
        match String.fromUTF8? ⟨bytes.toArray⟩ with
        | none => .error .malformed
        | some decoded =>
            let (following, remaining) ← takeUriFrom fuel after
            return (decoded.toList ++ following, remaining)
      else if isUriChar character then do
        let (following, remaining) ← takeUriFrom fuel rest
        return (character :: following, remaining)
      else
        .ok ([], character :: rest)

/-- Read the rest of a tag; it cannot be empty. -/
def takeUri (characters : List Char) :
    Except Fault (String × List Char) := do
  let (uri, rest) ← takeUriFrom (characters.length + 1) characters
  if rest.length = characters.length then
    .error .malformed
  else
    return (String.ofList uri, rest)

/-- Read a tag handle from the text after its first sign. -/
def takeHandle (characters : List Char) :
    Except Fault (String × List Char) :=
  match characters with
  | ' ' :: _ => .ok ("!", characters)
  | _ =>
      let name := characters.takeWhile isWordChar
      match characters.dropWhile isWordChar with
      | '!' :: rest =>
          .ok ("!" ++ String.ofList name ++ "!", rest)
      | _ => .error .malformed

/-- Read a tag from the text after its first sign. -/
def takeTag (characters : List Char) :
    Except Fault (Token × List Char) := do
  let (handle, suffix, rest) ←
    (match characters with
      | '<' :: rest =>
          match takeUri rest with
          | .ok (uri, '>' :: rest) => .ok (none, uri, rest)
          | .ok _ => .error .malformed
          | .error fault => .error fault
      | _ =>
          if atGap characters then
            .ok (none, "!", characters)
          else
            let word := characters.takeWhile (!isSpaceOrBreak ·)
            if word.contains '!' then do
              let (handle, rest) ← takeHandle characters
              let (uri, rest) ← takeUri rest
              return (some handle, uri, rest)
            else do
              let (uri, rest) ← takeUri characters
              return (some "!", uri, rest))
  if atSpace rest then
    return (.tag handle suffix, rest)
  else
    .error .malformed

/-- The largest number of digits of the number of a version. -/
def versionDigitLimit : Nat := 4300

/-- Read a decimal number, which has at least one digit. -/
def takeNumber (characters : List Char) : Except Fault (Nat × List Char) :=
  let digits := characters.takeWhile Char.isDigit
  if digits.isEmpty then
    .error .malformed
  else if versionDigitLimit < digits.length then
    .error (.longNumber digits.length)
  else
    .ok (Text.readDigits 10 0 digits, characters.dropWhile Char.isDigit)

def takeVersion (characters : List Char) :
    Except Fault (Directive × List Char) := do
  let (major, rest) ← takeNumber (characters.dropWhile (· == ' '))
  match rest with
  | '.' :: rest =>
      let (minor, rest) ← takeNumber rest
      if atSpace rest then
        return (.version major minor, rest)
      else
        .error .malformed
  | _ => .error .malformed

/-- Read the handle that a directive defines and what it stands for. -/
def takeTagDefinition (characters : List Char) :
    Except Fault (Directive × List Char) := do
  match characters.dropWhile (· == ' ') with
  | '!' :: rest =>
      let (handle, rest) ← takeHandle rest
      match rest with
      | ' ' :: _ =>
          let (leading, rest) ← takeUri (rest.dropWhile (· == ' '))
          if atSpace rest then
            return (.tag handle leading, rest)
          else
            .error .malformed
      | _ => .error .malformed
  | _ => .error .malformed

/-- Read a directive from the text after its percent sign, with its line end. -/
def takeDirective (characters : List Char) :
    Except Fault (Token × List Char) := do
  let name := characters.takeWhile isWordChar
  let rest := characters.dropWhile isWordChar
  if name.isEmpty || !atSpace rest then
    .error .malformed
  else
    let (directive, rest) ←
      (if name == "YAML".toList then
        takeVersion rest
      else if name == "TAG".toList then
        takeTagDefinition rest
      else
        .ok (.other, rest.dropWhile (!isBreak ·)))
    let rest ← dropComment rest
    return (.directive directive, rest.drop 1)

end NativeDeps.Yaml
