import NativeDeps.Yaml.Graph.Assembly

/-!
# The value of a graph

The pieces of a document as one value.  A collection that is met inside itself stands
there as its own label, and all collections on such a loop are knots.  What neither
reaches back to the outside nor lies on a loop with it is the same value at every place.
-/

namespace NativeDeps.Yaml

/-- A value inside collections that it may reach back to. -/
structure Loose where
  value : Value
  /-- The labels that stand for collections around the value. -/
  labels : List Nat
  /-- The collections of the value that lie on loops. -/
  looped : List Nat
deriving Inhabited, Repr

/-- The values of the collections that do not reach back to the outside. -/
abbrev Finished := Array (Option Loose)

namespace Loose

/-- A value without loops that reaches back to nothing. -/
def closed (value : Value) : Loose := ⟨value, [], []⟩

/-- The label of a collection around the place. -/
def back (number : Nat) : Loose := ⟨.back number, [number], []⟩

def collect (number : Nat) (content : Value) (parts : List Loose) : Loose :=
  let labels := (parts.flatMap Loose.labels).eraseDups
  let looped := (parts.flatMap Loose.looped).eraseDups
  if labels.isEmpty then
    ⟨content, [], looped⟩
  else
    ⟨.knot number content, labels.filter (· ≠ number), number :: looped⟩

/-- Whether the value is the same inside some collections as outside of them. -/
def isFree (loose : Loose) (around : List Nat) : Bool :=
  loose.labels.isEmpty && !(loose.looped.any around.contains)

end Loose

/-- Keep the value of a collection if nothing in it reaches back to the outside. -/
def keep (number : Nat) (loose : Loose) : StateM Finished Loose := do
  if loose.labels.isEmpty then
    modify fun finished => finished.set! number (some loose)
  return loose

/--
The value of a node inside the collections of `around`.  No node is inside itself, so
the number of nodes is `fuel` enough.
-/
def valueInside (pieces : Array (Option Piece)) :
    (fuel : Nat) → (around : List Nat) → Nat → StateM Finished Loose
  | 0, _, _ => return .closed .null
  | fuel + 1, around, number => do
      let inner := valueInside pieces fuel (number :: around)
      if around.contains number then
        return .back number
      match (((← get)[number]?).join).filter (·.isFree around) with
      | some loose => return loose
      | none =>
          match (pieces[number]?).join with
          | some (.scalar value) => return .closed value
          | some (.set members) => return .closed (.set members)
          | some (.list items) =>
              let parts ← items.mapM inner
              keep number
                (.collect number (.list (parts.map Loose.value)) parts)
          | some (.pairs items) =>
              let keys ← items.mapM fun pair => inner pair.1
              let values ← items.mapM fun pair => inner pair.2
              let pairs := (keys.zip values).map fun (key, value) =>
                Value.tuple [key.value, value.value]
              keep number (.collect number (.list pairs) (keys ++ values))
          | some (.mapping entries) =>
              let parts ← entries.mapM fun entry => inner entry.2
              let contents :=
                (entries.map Prod.fst).zip (parts.map Loose.value)
              keep number (.collect number (.mapping contents) parts)
          | _ => return .closed .null

/-- The value of a node among pieces. -/
def valueOf (pieces : Array (Option Piece)) (root : Nat) : Value :=
  (valueInside pieces (pieces.size + 1) [] root
    |>.run (Array.replicate pieces.size none)).1.value

/-- The value of a graph. -/
def Graph.value (graph : Graph) : Except Fault Value := do
  let pieces ← graph.assemble
  return valueOf pieces graph.root

end NativeDeps.Yaml
