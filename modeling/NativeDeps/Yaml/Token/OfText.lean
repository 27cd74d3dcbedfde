import NativeDeps.Yaml.Token.Quoted
import NativeDeps.Yaml.Token.Word

/-!
# The tokens of a text

Tokens are read one after another.  Whether a scalar is the key of a mapping is
known only when the colon after it is met, so the place in front of every token
that could be a key is remembered; the colon then puts the marks in that belong
there.  A fault of the text does not undo the tokens in front of it, but those that
still could be keys, and all behind them, are not certain and do not count.
-/

namespace NativeDeps.Yaml

/-- The place in front of a token that may turn out to be a key. -/
structure Candidate where
  /-- How many tokens come before it. -/
  count : Nat
  /-- Whether the text is malformed unless it is a key. -/
  isRequired : Bool
  position : Position
deriving Repr, DecidableEq

/-- What has been read, and what is known about the text that follows. -/
structure Lexer where
  rest : List Char
  /-- What stops the reading behind the text, if it is not all there. -/
  ending : Option Fault
  position : Position
  /-- The tokens read, newest first. -/
  tokens : List Token
  /-- How many tokens have been read. -/
  count : Nat
  /-- The columns of the blocks that are open, innermost first. -/
  indents : List Nat
  /-- Whether the next token may be a key. -/
  allowsKey : Bool
  /-- The candidate of the current level, if any. -/
  candidate : Option Candidate
  /-- The candidates of the levels around it, one for each open flow collection. -/
  outer : List (Option Candidate)
deriving Repr, DecidableEq

namespace Lexer

/-- The state before the first character. -/
def start (characters : List Char) (ending : Option Fault) : Lexer where
  rest := characters
  ending := ending
  position := .start
  tokens := []
  count := 0
  indents := []
  allowsKey := true
  candidate := none
  outer := []

/-- Whether the current place is inside a flow collection. -/
def inFlow (lexer : Lexer) : Bool :=
  !lexer.outer.isEmpty

/-- The column of the innermost open block, one less than zero outside all blocks. -/
def indent (lexer : Lexer) : Int :=
  match lexer.indents with
  | [] => -1
  | column :: _ => column

/-- What stops the reading where a token is not over at the end of the text. -/
def endFault (lexer : Lexer) : Fault :=
  lexer.ending.getD .malformed

def push (lexer : Lexer) (token : Token) : Lexer :=
  { lexer with tokens := token :: lexer.tokens, count := lexer.count + 1 }

/-- Go on to the text that is left after some characters. -/
def advance (lexer : Lexer) (rest : List Char) : Lexer :=
  { lexer with
    rest := rest
    position :=
      lexer.position.after
        (lexer.rest.take (lexer.rest.length - rest.length)) }

/-- Go on by a number of characters. -/
def skip (lexer : Lexer) (count : Nat) : Lexer :=
  { lexer with
    rest := lexer.rest.drop count
    position := lexer.position.after (lexer.rest.take count) }

/-- Read blanks, comments and line ends; a new line in a block may begin with a key. -/
def skipGapFrom (inFlow : Bool) (position : Position)
    (allowsKey inComment : Bool) : List Char → Position × Bool × List Char
  | [] => (position, allowsKey, [])
  | character :: rest =>
      let next := position.step character
      if isBreak character then
        skipGapFrom inFlow next (allowsKey || !inFlow) false rest
      else if inComment || character == ' ' then
        skipGapFrom inFlow next allowsKey inComment rest
      else if character == '#' then
        skipGapFrom inFlow next allowsKey true rest
      else
        (position, allowsKey, character :: rest)

def skipGap (lexer : Lexer) : Lexer :=
  let (position, allowsKey, rest) :=
    skipGapFrom lexer.inFlow lexer.position lexer.allowsKey false lexer.rest
  { lexer with rest := rest, position := position, allowsKey := allowsKey }

/-- Whether a candidate can no longer be a key: it is on an earlier line, or far back. -/
def isStale (position : Position) (candidate : Candidate) : Bool :=
  candidate.position.line != position.line ||
    1024 < position.index - candidate.position.index

/-- Drop a candidate that can no longer be a key; it must not have to be one. -/
def refresh (position : Position) :
    Option Candidate → Except Fault (Option Candidate)
  | none => .ok none
  | some candidate =>
      if isStale position candidate then
        if candidate.isRequired then .error .malformed else .ok none
      else
        .ok (some candidate)

/-- Drop the candidates that can no longer be keys. -/
def refreshAll (lexer : Lexer) : Except Fault Lexer := do
  let candidate ← refresh lexer.position lexer.candidate
  let outer ← lexer.outer.mapM (refresh lexer.position)
  return { lexer with candidate := candidate, outer := outer }

/-- Give up the candidate of the current level; it must not have to be a key. -/
def dropCandidate (lexer : Lexer) : Except Fault Lexer :=
  match lexer.candidate with
  | some ⟨_, true, _⟩ => .error .malformed
  | _ => .ok { lexer with candidate := none }

/-- Remember the next token as a candidate, if it may be a key. -/
def saveCandidate (lexer : Lexer) : Except Fault Lexer :=
  if lexer.allowsKey then do
    let cleared ← lexer.dropCandidate
    let isRequired :=
      !lexer.inFlow && lexer.indent == (lexer.position.column : Int)
    pure
      { cleared with
        candidate :=
          some ⟨lexer.count, isRequired, lexer.position⟩ }
  else
    .ok lexer

/-- Close the blocks that are indented deeper than a column. -/
def unwindFrom (column : Int) (lexer : Lexer) : List Nat → Lexer
  | [] => { lexer with indents := [] }
  | indent :: outer =>
      if column < (indent : Int) then
        unwindFrom column (lexer.push .blockEnd) outer
      else
        { lexer with indents := indent :: outer }

/-- Close the blocks that end before a column; inside flow collections none ends. -/
def unwind (lexer : Lexer) (column : Int) : Lexer :=
  if lexer.inFlow then
    lexer
  else
    unwindFrom column lexer lexer.indents

/-- Whether a block that begins at a column is a new one. -/
def opensBlock (lexer : Lexer) (column : Nat) : Bool :=
  lexer.indent < (column : Int)

/-- Open a block at the current column unless it is open. -/
def openBlock (lexer : Lexer) (token : Token) : Lexer :=
  if lexer.opensBlock lexer.position.column then
    { lexer.push token with
      indents := lexer.position.column :: lexer.indents }
  else
    lexer

/-- Put tokens, newest first, in front of those that were read after the first `count`. -/
def insertAt (lexer : Lexer) (count : Nat) (inserted : List Token) : Lexer :=
  let newer := lexer.count - count
  { lexer with
    tokens :=
      lexer.tokens.take newer ++ inserted ++ lexer.tokens.drop newer
    count := lexer.count + inserted.length }

/-- End the text: close all blocks. -/
def finish (lexer : Lexer) : Except Fault (List Token) := do
  let cleared ← (lexer.unwind (-1)).dropCandidate
  return (Token.textEnd :: cleared.tokens).reverse

def readDirective (lexer : Lexer) : Except Fault Lexer := do
  let cleared ← (lexer.unwind (-1)).dropCandidate
  let (token, rest) ← takeDirective (cleared.rest.drop 1)
  return { (cleared.advance rest).push token with allowsKey := false }

def readDocumentMark (lexer : Lexer) (token : Token) :
    Except Fault Lexer := do
  let cleared ← (lexer.unwind (-1)).dropCandidate
  return { (cleared.skip 3).push token with allowsKey := false }

/-- Read the sign that opens a flow collection. -/
def openFlow (lexer : Lexer) (token : Token) : Except Fault Lexer := do
  let saved ← lexer.saveCandidate
  pure
    { (saved.skip 1).push token with
      outer := saved.candidate :: saved.outer
      candidate := none
      allowsKey := true }

/-- Read the sign that closes a flow collection. -/
def closeFlow (lexer : Lexer) (token : Token) : Except Fault Lexer := do
  let cleared ← lexer.dropCandidate
  match cleared.outer with
  | [] => .error .malformed
  | candidate :: outer =>
      pure
        { (cleared.skip 1).push token with
          outer := outer
          candidate := candidate
          allowsKey := false }

/-- Read the comma between the entries of a flow collection. -/
def readFlowEntry (lexer : Lexer) : Except Fault Lexer := do
  let cleared ← lexer.dropCandidate
  return { (cleared.skip 1).push .flowEntry with allowsKey := true }

/-- Read the hyphen in front of an entry of a list. -/
def readEntry (lexer : Lexer) : Except Fault Lexer :=
  if !lexer.inFlow && !lexer.allowsKey then
    .error .malformed
  else do
    let opened :=
      if lexer.inFlow then lexer else lexer.openBlock .blockListStart
    let cleared ← opened.dropCandidate
    return { (cleared.skip 1).push .entry with allowsKey := true }

/-- Read the question mark in front of a key. -/
def readKey (lexer : Lexer) : Except Fault Lexer :=
  if !lexer.inFlow && !lexer.allowsKey then
    .error .malformed
  else do
    let opened :=
      if lexer.inFlow then lexer else lexer.openBlock .blockMappingStart
    let cleared ← opened.dropCandidate
    return { (cleared.skip 1).push .key with allowsKey := !lexer.inFlow }

/-- Mark a candidate as a key, and as the first of a mapping if it opens a block. -/
def confirmKey (lexer : Lexer) (candidate : Candidate) : Lexer :=
  let column := candidate.position.column
  if !lexer.inFlow && lexer.opensBlock column then
    { lexer.insertAt candidate.count [.key, .blockMappingStart] with
      indents := column :: lexer.indents
      candidate := none
      allowsKey := false }
  else
    { lexer.insertAt candidate.count [.key] with
      candidate := none
      allowsKey := false }

def readValue (lexer : Lexer) : Except Fault Lexer :=
  match lexer.candidate with
  | some candidate =>
      .ok (((lexer.confirmKey candidate).skip 1).push .value)
  | none =>
      if lexer.inFlow then
        .ok { (lexer.skip 1).push .value with allowsKey := false }
      else if lexer.allowsKey then
        let opened := lexer.openBlock .blockMappingStart
        .ok { (opened.skip 1).push .value with allowsKey := true }
      else
        .error .malformed

/-- Read an alias or an anchor, which the given function makes of its name. -/
def readName (lexer : Lexer) (token : String → Token) :
    Except Fault Lexer := do
  let saved ← lexer.saveCandidate
  let (name, rest) ← takeName (saved.rest.drop 1)
  return { (saved.advance rest).push (token name) with allowsKey := false }

def readTag (lexer : Lexer) : Except Fault Lexer := do
  let saved ← lexer.saveCandidate
  let (token, rest) ← takeTag (saved.rest.drop 1)
  return { (saved.advance rest).push token with allowsKey := false }

def afterScalar {Unit : Type} (lexer : Lexer)
    (scanned : ScannedScalar Unit) (content : Content) (isPlain : Bool)
    (allowsKey : Bool) : Lexer :=
  { lexer.push (.scalar content isPlain) with
    rest := scanned.rest
    position := scanned.position
    allowsKey := allowsKey }

def readBlock (lexer : Lexer) (isFolded : Bool) : Except Fault Lexer := do
  let cleared ← lexer.dropCandidate
  let opened := cleared.skip 1
  let least := (max (cleared.indent + 1) 1).toNat
  let scanned ← scanBlock isFolded least opened.position opened.rest
  return opened.afterScalar scanned (.chars scanned.content) false true

def readQuoted (lexer : Lexer) (isDouble : Bool) : Except Fault Lexer := do
  let saved ← lexer.saveCandidate
  let opened := saved.skip 1
  let scanned ←
    scanQuoted isDouble lexer.endFault opened.position (.blanks []) 0
      opened.rest
  return opened.afterScalar scanned (.ofCodes scanned.content) false false

def readPlain (lexer : Lexer) : Except Fault Lexer := do
  let saved ← lexer.saveCandidate
  let scanned :=
    scanPlain saved.inFlow (saved.indent + 1) saved.position (.blanks [])
      saved.rest
  return saved.afterScalar scanned (.chars scanned.content) true
    scanned.brokeLine

/-- Whether a plain scalar may begin with a character, seen with the text after it. -/
def startsPlain (inFlow : Bool) (character : Char) (rest : List Char) : Bool :=
  !(isGap character || isFlowIndicator character ||
      ['-', '?', ':', '#', '&', '*', '!', '|', '>', '\'', '"', '%', '@',
        '\u0060'].contains character) ||
    (!atGap rest &&
      (character == '-' ||
        (!inFlow && (character == '?' || character == ':'))))

def readToken (lexer : Lexer) (character : Char) (rest : List Char) :
    Except Fault Lexer :=
  let atLineStart := lexer.position.column == 0
  if atLineStart && character == '%' then
    lexer.readDirective
  else if atLineStart && character == '-' &&
      atDocumentMark (character :: rest) then
    lexer.readDocumentMark .documentStart
  else if atLineStart && character == '.' &&
      atDocumentMark (character :: rest) then
    lexer.readDocumentMark .documentEnd
  else if character == '[' then
    lexer.openFlow .flowListStart
  else if character == '\x7b' then
    lexer.openFlow .flowMappingStart
  else if character == ']' then
    lexer.closeFlow .flowListEnd
  else if character == '\x7d' then
    lexer.closeFlow .flowMappingEnd
  else if character == ',' then
    lexer.readFlowEntry
  else if character == '-' && atGap rest then
    lexer.readEntry
  else if character == '?' && (lexer.inFlow || atGap rest) then
    lexer.readKey
  else if character == ':' && (lexer.inFlow || atGap rest) then
    lexer.readValue
  else if character == '*' then
    lexer.readName .reference
  else if character == '&' then
    lexer.readName .anchor
  else if character == '!' then
    lexer.readTag
  else if character == '|' && !lexer.inFlow then
    lexer.readBlock false
  else if character == '>' && !lexer.inFlow then
    lexer.readBlock true
  else if character == '\'' then
    lexer.readQuoted false
  else if character == '"' then
    lexer.readQuoted true
  else if startsPlain lexer.inFlow character rest then
    lexer.readPlain
  else
    .error .malformed

/-- What stops the reading at the end of a text that goes on. -/
def cutOff (lexer : Lexer) : Option Fault :=
  if lexer.rest.isEmpty then lexer.ending else none

/-- Go on to the next token and close the blocks that end before it. -/
def settle (lexer : Lexer) : Except Fault Lexer :=
  let skipped := lexer.skipGap
  match skipped.cutOff with
  | some fault => .error fault
  | none => do
      let refreshed ← skipped.refreshAll
      return refreshed.unwind refreshed.position.column

/-- The candidates of all levels that can still be keys. -/
def pendingCandidates (lexer : Lexer) : List Candidate :=
  (lexer.candidate :: lexer.outer).filterMap fun candidate? =>
    candidate?.filter fun candidate => !isStale lexer.position candidate

/-- The tokens in front of the first that can still be a key. -/
def certain (lexer : Lexer) : List Token :=
  match lexer.pendingCandidates.map Candidate.count with
  | [] => lexer.tokens.reverse
  | count :: counts => lexer.tokens.reverse.take (counts.foldl min count)

end Lexer

/-- The tokens of a text, and what stops the reading behind them. -/
structure Lexed where
  tokens : List Token
  fault : Option Fault
deriving Repr, DecidableEq

namespace Lexer

def stop (lexer : Lexer) (fault : Fault) : Lexed :=
  ⟨lexer.certain, some fault⟩

/-- Read all tokens; every token takes at least one of the `fuel` characters. -/
def run : (fuel : Nat) → Lexer → Lexed
  | 0, lexer => lexer.stop .malformed
  | fuel + 1, lexer =>
      match lexer.settle with
      | .error fault => lexer.stop fault
      | .ok settled =>
          match settled.rest with
          | [] =>
              match settled.finish with
              | .error fault => lexer.stop fault
              | .ok tokens => ⟨tokens, none⟩
          | character :: rest =>
              match settled.readToken character rest with
              | .error fault => lexer.stop fault
              | .ok next =>
                  match next.cutOff with
                  | some fault => lexer.stop fault
                  | none => run fuel next

end Lexer

/-- A text without the byte order mark that may open it. -/
def dropByteOrderMark (lexer : Lexer) : Lexer :=
  match lexer.rest with
  | '\ufeff' :: _ => lexer.skip 1
  | _ => lexer

/-- The tokens of a text, behind which there may be something that stops the reading. -/
def Token.ofText (characters : List Char) (ending : Option Fault) : Lexed :=
  Lexer.run (characters.length + 1)
    (dropByteOrderMark (Lexer.start characters ending))

end NativeDeps.Yaml
