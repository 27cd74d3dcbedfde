import NativeDeps.Calendar
import NativeDeps.Decimal.Shortest
import NativeDeps.Text.Spelling

/-!
# Configuration values

The values that a configuration file can hold.  A mapping keeps its entries in
the order of their first appearance, and its keys may be any scalar.  A file can name
a container inside itself, so a container may be a knot: it stands again, by its label,
somewhere in what it holds.
-/

namespace NativeDeps

/-- A value of a configuration file. -/
inductive Value where
  | null
  | bool (value : Bool)
  | int (value : Int)
  /-- A floating-point number that is a number, or infinite. -/
  | float (value : Float)
  /--
  What is no number.  It equals nothing, but it is the same key as itself: two with one
  label are one.
  -/
  | nan (label : Option Nat)
  | text (value : String)
  /-- A text that holds halves of characters. -/
  | halves (spelling : Spelling) {isBroken : spelling.text? = none}
  | bytes (value : List UInt8)
  | date (value : Calendar.Date)
  | moment (value : Calendar.Moment)
  | list (items : List Value)
  | tuple (items : List Value)
  | set (items : List Value)
  | mapping (entries : List (Value × Value))
  /-- A container that lies on a loop; inside it, its label can stand for it. -/
  | knot (label : Nat) (content : Value)
  /-- The container around this place that has the label. -/
  | back (label : Nat)
deriving Inhabited, Repr

namespace Value

/-- The text with a spelling. -/
def ofSpelling (spelling : Spelling) : Value :=
  match found : spelling.text? with
  | some whole => .text whole
  | none => @halves spelling found

/-- The text that code points spell. -/
def ofCodes (codes : List Nat) : Value :=
  ofSpelling (.ofCodes codes)

def ofTextOrNull : Option String → Value
  | none => .null
  | some content => .text content

def ofSpellingOrNull : Option Spelling → Value
  | none => .null
  | some spelling => .ofSpelling spelling

/-- The spelling of a text. -/
def spelling? : Value → Option Spelling
  | .text value => some value
  | .halves spelling => some spelling
  | _ => none

/-- Whether a value counts as given: not null, false, zero or empty. -/
def isGiven : Value → Bool
  | .null => false
  | .bool value => value
  | .int value => value != 0
  | .float value => value != 0.0
  | .nan _ => true
  | .text value => value != ""
  | .halves _ => true
  | .bytes value => !value.isEmpty
  | .date _ => true
  | .moment _ => true
  | .list items => !items.isEmpty
  | .tuple items => !items.isEmpty
  | .set items => !items.isEmpty
  | .mapping entries => !entries.isEmpty
  | .knot _ content => content.isGiven
  | .back _ => true

/-- The value itself if it counts as given, else the other one. -/
def orElse (value other : Value) : Value :=
  if value.isGiven then value else other

/-- A value as a number, where true is one and false is zero. -/
def wholeNumber? : Value → Option Int
  | .bool value => some (if value then 1 else 0)
  | .int value => some value
  | .float value => Decimal.wholeNumber? value
  | _ => none

/--
Whether two scalars are the same key.  Numbers are the same key when they are
equal, whatever their kind; a collection is no key.
-/
def sameKey : Value → Value → Bool
  | .null, .null => true
  | .text left, .text right => left == right
  | .halves left, .halves right => left == right
  | .bytes left, .bytes right => left == right
  | .date left, .date right => left == right
  | .moment left, .moment right => left.same right
  | .float left, .float right => left == right
  | .nan (some left), .nan (some right) => left == right
  | left, right =>
      match left.wholeNumber?, right.wholeNumber? with
      | some leftNumber, some rightNumber => leftNumber == rightNumber
      | _, _ => false

/-- Whether a value may be the key of a mapping or a member of a set. -/
def isScalar : Value → Bool
  | .list _ => false
  | .tuple _ => false
  | .set _ => false
  | .mapping _ => false
  | .knot _ _ => false
  | .back _ => false
  | _ => true

def lookup? (key : Value) : List (Value × Value) → Option Value
  | [] => none
  | (other, value) :: rest =>
      if other.sameKey key then some value else lookup? key rest

/-- The value under a key that is a text. -/
def field? (name : String) (entries : List (Value × Value)) : Option Value :=
  lookup? (.text name) entries

/--
Put something under a key: a key that is there keeps its place and its spelling, a
new one comes last.
-/
def insert {α : Type} (key : Value) (value : α) :
    List (Value × α) → List (Value × α)
  | [] => [(key, value)]
  | (other, old) :: rest =>
      if other.sameKey key then
        (other, value) :: rest
      else
        (other, old) :: insert key value rest

mutual

/-- Put a knot where its label stands. -/
def tie (label : Nat) (whole : Value) : Value → Value
  | .back other => if other = label then whole else .back other
  | .knot other content =>
      if other = label then
        .knot other content
      else
        .knot other (tie label whole content)
  | .list items => .list (tieItems label whole items)
  | .tuple items => .tuple (tieItems label whole items)
  | .mapping entries => .mapping (tieEntries label whole entries)
  | value => value

/-- Put a knot where its label stands in several items. -/
def tieItems (label : Nat) (whole : Value) : List Value → List Value
  | [] => []
  | item :: rest => tie label whole item :: tieItems label whole rest

/-- Put a knot where its label stands in the values of several entries. -/
def tieEntries (label : Nat) (whole : Value) :
    List (Value × Value) → List (Value × Value)
  | [] => []
  | (key, value) :: rest =>
      (key, tie label whole value) :: tieEntries label whole rest

end

/-- A container as it is seen from outside: in a knot, the knot stands in its own place. -/
def opened : Value → Value
  | .knot label content => tie label (.knot label content) content
  | value => value

end Value

end NativeDeps
