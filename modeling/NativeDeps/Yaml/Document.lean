import NativeDeps.Text.Utf8
import NativeDeps.Yaml.Character
import NativeDeps.Yaml.Graph.OfTokens
import NativeDeps.Yaml.Graph.Value
import NativeDeps.Yaml.Token.OfText

/-!
# YAML documents

Reading a file as one value: its characters as tokens, the tokens as a graph of nodes,
the graph as a value.  A file without a document is null.

The characters are read in pages: the first two before anything else is done, and every
other one when it is needed.  A page with a character that no YAML text may hold, or with
bytes that are no text, is not read at all, so what stands in front of it may be at fault
earlier.  A file may end its lines with a carriage return, a line feed or both.
-/

namespace NativeDeps.Yaml

/-- End every line with a line feed alone. -/
def unifyNewlines : List Char → List Char
  | [] => []
  | '\r' :: '\n' :: rest => '\n' :: unifyNewlines rest
  | '\r' :: rest => '\n' :: unifyNewlines rest
  | character :: rest => character :: unifyNewlines rest

/-- The characters in front of the place where the reading stops, and why it stops. -/
structure Source where
  characters : List Char
  /-- What stops the reading, unless it is the end of the file. -/
  ending : Option Fault
deriving Repr, DecidableEq

namespace Source

/-- The number of characters of a page. -/
def pageSize : Nat := 4096

/-- The number of bytes that are decoded at a time. -/
def blockSize : Nat := 8192

/-- The number of characters in whole pages, if the first two are among them. -/
def wholePages (count : Nat) : Nat :=
  if count < 2 * pageSize then 0 else count - count % pageSize

/-- The pages in front of the character with an index. -/
def stopAt (characters : List Char) (index : Nat) (fault : Fault) : Source :=
  ⟨characters.take (wholePages index), some fault⟩

/-- A source without the page of the first character that may not be there. -/
def checked (source : Source) : Source :=
  match source.characters.findIdx? fun character => !isAllowed character with
  | none => source
  | some index => stopAt source.characters index .malformed

/-- A character, with the control character for the next line taken for a line feed. -/
def unifyBreak (character : Char) : Char :=
  if character = '\x85' then '\n' else character

/-- A source in which the next line is a line feed. -/
def unified (source : Source) : Source :=
  { source with characters := source.characters.map unifyBreak }

def ofText (text : String) : Source :=
  (checked ⟨unifyNewlines text.toList, none⟩).unified

/--
Bytes as a source.  The block with the first byte that cannot follow is lost as a
whole; where only something is missing at the end, nothing else is lost.
-/
def ofBytes (bytes : List UInt8) : Source :=
  let decoded := Text.decode bytes
  let sound :=
    if decoded.length = bytes.length then
      decoded.characters
    else
      (Text.decode
        (bytes.take (decoded.length - decoded.length % blockSize))).characters
  let characters := unifyNewlines sound
  (checked (stopAt characters characters.length .undecodable)).unified

end Source

/-- The value of the document that a source holds. -/
def Source.read (source : Source) : Except Fault Value := do
  let lexed := Token.ofText source.characters source.ending
  match ← Graph.ofTokens lexed.tokens lexed.fault with
  | none => return .null
  | some graph => graph.value

/-- The value of the document that a text holds. -/
def read (text : String) : Except Fault Value :=
  (Source.ofText text).read

/-- The value of the document that bytes which are no text hold. -/
def readBytes (bytes : List UInt8) : Except Fault Value :=
  (Source.ofBytes bytes).read

end NativeDeps.Yaml
