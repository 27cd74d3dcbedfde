import NativeDeps.Failure
import NativeDeps.Value.Text

/-!
# Asking values of any shape

A configuration file may hold anything, so what is asked of a value may make no
sense.  Asking for something that the kind of value does not offer is unsupported;
using a value where only other kinds can stand is a mistake of type.
-/

namespace NativeDeps.Value

def entries (value : Value) : Except Failure (List (Value × Value)) :=
  match value.opened with
  | .mapping entries => .ok entries
  | _ => .error .unsupported

/-- The value under a key of a value that is taken for a mapping, or the fallback. -/
def get (value key fallback : Value) : Except Failure Value :=
  match value.entries with
  | .error failure => .error failure
  | .ok entries =>
      if key.isScalar then
        .ok ((lookup? key entries).getD fallback)
      else
        .error .mistyped

/-- The value under a key that has to be there. -/
def getText (name : String) (value : Value) : Except Failure Value :=
  match value.opened with
  | .mapping entries =>
      match field? name entries with
      | some value => .ok value
      | none => .error .absent
  | _ => .error .mistyped

/-- Whether some elements stand in a row in a list. -/
def isWithin {α : Type} [BEq α] (part : List α) : List α → Bool
  | [] => part.isEmpty
  | element :: rest =>
      part.isPrefixOf (element :: rest) || isWithin part rest

/-- Whether a text is a part of another one. -/
def isPartOf (part : Value) (whole : Spelling) : Except Failure Bool :=
  match part.spelling? with
  | some part => .ok (isWithin part whole)
  | none => .error .mistyped

/--
Whether a value holds a scalar: as a key, as a member, or as a part of a text or of
bytes.
-/
def holds (value needle : Value) : Except Failure Bool :=
  match value.opened with
  | .mapping entries => .ok (lookup? needle entries).isSome
  | .list items => .ok (items.any (·.sameKey needle))
  | .set items => .ok (items.any (·.sameKey needle))
  | .tuple items => .ok (items.any (·.sameKey needle))
  | .text whole => needle.isPartOf whole
  | .halves whole => needle.isPartOf whole
  | .bytes whole =>
      match needle with
      | .bytes part => .ok (isWithin part whole)
      | _ => .error .mistyped
  | _ => .error .mistyped

/-- The items that a value consists of: a mapping of its keys, a text of its characters. -/
def items (value : Value) : Except Failure (List Value) :=
  match value.opened with
  | .list items => .ok items
  | .set items => .ok items
  | .tuple items => .ok items
  | .mapping entries => .ok (entries.map Prod.fst)
  | .text value =>
      .ok (value.toList.map fun character => .text (String.singleton character))
  | .halves spelling => .ok (spelling.map fun letter => ofSpelling [letter])
  | .bytes value => .ok (value.map fun byte => .int byte.toNat)
  | _ => .error .mistyped

def lowered : Value → Except Failure Value
  | .text value => .ok (.text (Text.lower value))
  | .halves spelling => .ok (.ofSpelling spelling.lower)
  | .bytes value => .ok (.bytes (Text.lowerBytes value))
  | _ => .error .unsupported

/-- Remove the blanks at both ends of a text or of bytes. -/
def stripped : Value → Except Failure Value
  | .text value => .ok (.text (Text.strip value))
  | .halves spelling => .ok (.ofSpelling spelling.strip)
  | .bytes value => .ok (.bytes (Text.stripBytes value))
  | _ => .error .unsupported

def path : Value → Except Failure Files.Path
  | .text value => .ok (.ofString value)
  | .halves spelling => .ok (.ofSpelling spelling)
  | _ => .error .mistyped

/-- The spellings of values that have to be texts. -/
def toSpellings : List Value → Except Failure (List Spelling)
  | [] => .ok []
  | value :: rest =>
      match value.spelling? with
      | some spelling => (toSpellings rest).map (spelling :: ·)
      | none => .error .mistyped

def written (value : Value) : Except Failure Spelling :=
  if value.holdsLong then .error .longNumber else .ok value.asText

end NativeDeps.Value
