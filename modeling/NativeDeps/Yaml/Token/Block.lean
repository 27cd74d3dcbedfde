import NativeDeps.Yaml.Fault
import NativeDeps.Yaml.Token.Plain

/-!
# Block scalars

A scalar that is written as indented lines under its own heading.  The heading
says how its line ends are treated, whether the last of them are kept, and, if
need be, how far it is indented.
-/

namespace NativeDeps.Yaml

/-- What becomes of the line ends that close a block scalar. -/
inductive Chomping
  | clip
  | strip
  | keep
deriving Repr, DecidableEq

/-- The heading of a block scalar; `indent` counts from the block around it. -/
structure BlockHeading where
  chomping : Chomping
  indent : Option Nat
deriving Repr, DecidableEq

def takeChomping : List Char → Chomping × List Char
  | '+' :: rest => (.keep, rest)
  | '-' :: rest => (.strip, rest)
  | characters => (.clip, characters)

/-- Read an indentation sign; it cannot be zero. -/
def takeIndent : List Char → Except Fault (Option Nat × List Char)
  | [] => .ok (none, [])
  | character :: rest =>
      if character == '0' then
        .error .malformed
      else if '1' ≤ character && character ≤ '9' then
        .ok (some (character.toNat - '0'.toNat), rest)
      else
        .ok (none, character :: rest)

/-- Read both signs of a heading, in either order. -/
def takeHeading (characters : List Char) :
    Except Fault (BlockHeading × List Char) :=
  match takeChomping characters with
  | (.clip, characters) => do
      let (indent, rest) ← takeIndent characters
      if indent.isSome then
        let (chomping, rest) := takeChomping rest
        return (⟨chomping, indent⟩, rest)
      else
        return (⟨.clip, none⟩, rest)
  | (chomping, rest) => do
      let (indent, rest) ← takeIndent rest
      return (⟨chomping, indent⟩, rest)

/-- The rest of a line that may hold only a comment, without its line end. -/
def dropComment (characters : List Char) : Except Fault (List Char) :=
  let rest := characters.dropWhile (· == ' ')
  let rest :=
    if rest.head? = some '#' then rest.dropWhile (!isBreak ·) else rest
  if atLineEnd rest then .ok rest else .error .malformed

/-- Lines that hold nothing, and how far the text after them is indented. -/
structure BlankLines where
  breaks : List Char
  deepest : Nat
  column : Nat
  rest : List Char
deriving Repr, DecidableEq

/--
Read lines that hold only spaces, of which those up to `limit` columns are
indentation if there is a limit.
-/
def takeBlankLines (limit : Option Nat) (breaks : List Char)
    (deepest column : Nat) : List Char → BlankLines
  | [] => ⟨breaks, deepest, column, []⟩
  | character :: rest =>
      if character == ' ' && (match limit with
          | none => true
          | some limit => column < limit) then
        takeBlankLines limit breaks (max deepest (column + 1)) (column + 1) rest
      else if isBreak character then
        takeBlankLines limit (breaks ++ [character]) deepest 0 rest
      else
        ⟨breaks, deepest, column, character :: rest⟩

/-- How a line end inside a block scalar reads when another line follows. -/
def joinLines (isFolded : Bool) (lineEnd : List Char)
    (startsWithGap nextStartsWithGap : Bool) (breaks : List Char) :
    List Char :=
  if isFolded && lineEnd == ['\n'] && !startsWithGap && !nextStartsWithGap then
    if breaks.isEmpty then [' '] else []
  else
    lineEnd

/-- Whether a line begins with a space or a tab. -/
def startsWithGap : List Char → Bool
  | ' ' :: _ => true
  | '\t' :: _ => true
  | _ => false

/--
Read the lines of a block scalar that is indented by `indent` columns: the
content, and the line ends after its last line.
-/
def scanBlockLines (isFolded : Bool) (chomping : Chomping) (indent : Nat)
    (blank : BlankLines) : (fuel : Nat) → List Char × List Char
  | 0 => ([], blank.rest)
  | fuel + 1 =>
      let line := blank.rest.takeWhile (!isBreak ·)
      let rest := blank.rest.dropWhile (!isBreak ·)
      let lineEnd := rest.take 1
      let following := takeBlankLines (some indent) [] 0 0 (rest.drop 1)
      if !lineEnd.isEmpty && following.column == indent &&
          !following.rest.isEmpty then
        let joined :=
          joinLines isFolded lineEnd (startsWithGap line)
            (startsWithGap following.rest) following.breaks
        let (content, remaining) :=
          scanBlockLines isFolded chomping indent following fuel
        (blank.breaks ++ line ++ joined ++ content, remaining)
      else
        let closing :=
          match chomping with
          | .strip => []
          | .clip => lineEnd
          | .keep => lineEnd ++ following.breaks
        (blank.breaks ++ line ++ closing, following.rest)

/--
Read a block scalar from the text after its first sign, in a block whose contents
are indented by at least `least` columns.
-/
def scanBlock (isFolded : Bool) (least : Nat) (position : Position)
    (characters : List Char) : Except Fault (ScannedScalar Char) := do
  let (heading, rest) ← takeHeading characters
  if atSpace rest then pure () else .error .malformed
  let rest ← dropComment rest
  let body := rest.drop 1
  let (indent, blank) :=
    match heading.indent with
    | none =>
        let blank := takeBlankLines none [] 0 0 body
        (max least blank.deepest, blank)
    | some added =>
        let indent := least + added - 1
        (indent, takeBlankLines (some indent) [] 0 0 body)
  let (content, remaining) :=
    if blank.column == indent && !blank.rest.isEmpty then
      scanBlockLines isFolded heading.chomping indent blank
        (blank.rest.length + 1)
    else
      (match heading.chomping with
        | .keep => blank.breaks
        | _ => [],
        blank.rest)
  let consumed := characters.take (characters.length - remaining.length)
  return ⟨content, remaining, position.after consumed, false⟩

end NativeDeps.Yaml
