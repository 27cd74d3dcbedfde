import NativeDeps.Logging.Template.Conversion

/-!
# Templates

Texts with places for arguments.  Arguments are taken in order, all of them, or by name
from one mapping.  The places are filled one after another, so the first thing that is
wrong is the one that counts.
-/

namespace NativeDeps.Logging.Template

/-- The arguments that are still to be taken. -/
structure Supply where
  named : Option (List (Value × Value))
  queue : List Value

namespace Supply

def ofList (arguments : List Value) : Supply :=
  ⟨none, arguments⟩

/-- The entries of a mapping by name, or once the whole mapping. -/
def ofMapping (entries : List (Value × Value)) : Supply :=
  ⟨some entries, [.mapping entries]⟩

def next (supply : Supply) : Except Failure (Value × Supply) :=
  match supply.queue with
  | value :: rest => .ok (value, { supply with queue := rest })
  | [] => .error .mistyped

/-- Make the argument of a name the next one. -/
def select (supply : Supply) : Name → Except Failure Supply
  | .none => .ok supply
  | .written name =>
      match supply.named with
      | none => .error .mistyped
      | some entries =>
          match Value.field? (String.ofList name) entries with
          | some value => .ok { supply with queue := [value] }
          | none => fail (.absent (String.ofList name))
  | .unclosed =>
      if supply.named.isNone then .error .mistyped else fail .incompleteName

/--
The amount of a measure.  One that is written down is at most `limit`, and so is one
that is taken from the arguments, without its sign.
-/
def measure (supply : Supply) (limit : Nat) (excess overflow : Fault) :
    Measure → Except Failure (Option Int × Supply)
  | .none => .ok (none, supply)
  | .fixed amount =>
      if limit < amount then fail excess else .ok (some amount, supply)
  | .taken => do
      let (value, supply) ← supply.next
      let amount ← whole value
      if amount < -(limit : Int) - 1 ∨ (limit : Int) < amount then
        fail overflow
      else
        return (some amount, supply)

/-- Arguments in order have to be used up. -/
def finish (supply : Supply) : Except Failure Unit :=
  if supply.named.isNone && !supply.queue.isEmpty then
    .error .mistyped
  else
    .ok ()

end Supply

/-- The largest width. -/
def widthLimit : Nat := 0x7FFFFFFFFFFFFFFF

/-- The least width for which there is no memory. -/
def memoryLimit : Nat := 10000000000

/-- The largest precision. -/
def precisionLimit : Nat := 0x7FFFFFFF

/-- Fill one place; a negative width means that the text stands on the left. -/
def fillPlace (place : Place) (supply : Supply) :
    Except Failure (List Char × Supply) := do
  let supply ← supply.select place.name
  let (width, supply) ←
    supply.measure widthLimit .tooWide .widthOverflow place.width
  let (precision, supply) ←
    supply.measure precisionLimit .tooPrecise .precisionOverflow
      place.precision
  match place.sign with
  | none => fail .incomplete
  | some sign => do
      let (value, supply) ← supply.next
      let width := width.getD 0
      let isTooWide : Bool := memoryLimit ≤ width.natAbs
      let shape : Shape :=
        { flags := place.flags
          isLeft := place.flags.contains '-' || decide (width < 0)
          width := if isTooWide then 0 else width.natAbs
          precision := precision.map Int.toNat }
      let characters ← convert shape sign place.index value
      if isTooWide then fail .noMemory else return (characters, supply)

def fillPieces (supply : Supply) : List Piece → Except Failure (List Char)
  | [] => supply.finish.map fun _ => []
  | .literal character :: rest =>
      (fillPieces supply rest).map (character :: ·)
  | .place place :: rest =>
      match fillPlace place supply with
      | .error failure => .error failure
      | .ok (characters, supply) =>
          (fillPieces supply rest).map (characters ++ ·)

/-- Fill a template. -/
def fill (template : String) (supply : Supply) : Except Failure String :=
  (fillPieces supply (pieces 0 0 template.toList)).map String.ofList

end NativeDeps.Logging.Template
