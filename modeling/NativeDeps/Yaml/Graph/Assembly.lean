import NativeDeps.Yaml.Graph.Merge
import NativeDeps.Yaml.Scalar

/-!
# Assembling values

What the nodes of a document become.  A scalar becomes a value as soon as it is met.
A collection is only put in line: its turn comes when all collections met before it are
done, so of several faults the one nearest to the outside of the document counts.  Each
node becomes one thing, wherever it is met.
-/

namespace NativeDeps.Yaml

/-- What a node has become; the nodes in a collection are given by number. -/
inductive Piece
  | scalar (value : Value)
  /-- A collection that is still in line. -/
  | awaited
  | list (items : List Nat)
  | pairs (items : List (Nat × Nat))
  | set (members : List Value)
  | mapping (entries : List (Value × Nat))
deriving Repr, Inhabited

/-- The state of the work. -/
structure Assembly where
  nodes : Nodes
  pieces : Array (Option Piece)
  /-- The collections that have been put in line in this round, newest first. -/
  line : List Nat
  /-- The fuel of merges. -/
  fuel : Nat

namespace Assembly

/-- The state before the first node is met. -/
def start (nodes : Nodes) : Assembly where
  nodes := nodes
  pieces := Array.replicate nodes.size none
  line := []
  fuel := nodes.mergeFuel

/-- What a node has become, if it has been met. -/
def piece? (assembly : Assembly) (number : Nat) : Option Piece :=
  (assembly.pieces[number]?).join

/-- Say what a node has become. -/
def setPiece (assembly : Assembly) (number : Nat) (piece : Piece) :
    Assembly :=
  { assembly with pieces := assembly.pieces.set! number (some piece) }

/--
The content of a node that is to be a scalar: of a mapping, that of the value of its
first key that is an equals sign.  Only a mapping inside itself uses up the `fuel`.
-/
def contentOf (nodes : Nodes) : (fuel : Nat) → Nat → Except Fault Content
  | 0, _ => .error .endless
  | fuel + 1, number =>
      match (nodes[number]?).map Node.shape with
      | some (.scalar content) => .ok content
      | some (.mapping entries) =>
          match entries.find? fun entry =>
              nodes.tag? entry.1 == some .value with
          | some (_, value) => contentOf nodes fuel value
          | none => .error .malformed
      | _ => .error .malformed

def scalarOf (nodes : Nodes) (number : Nat) (tag : Tag) :
    Except Fault Value := do
  let content ← contentOf nodes (nodes.size + 1) number
  if tag = .timestamp ∧ (nodes.entries? number).isSome then
    throw .momentOfMapping
  else
    scalarValue number tag content

def meet (assembly : Assembly) (number : Nat) : Except Fault Assembly :=
  match assembly.piece? number, assembly.nodes.tag? number with
  | some _, _ => .ok assembly
  | none, none => .error .malformed
  | none, some tag =>
      if tag.isCollection then
        .ok
          { assembly.setPiece number .awaited with
            line := number :: assembly.line }
      else if tag.isScalar then
        (scalarOf assembly.nodes number tag).map fun value =>
          assembly.setPiece number (.scalar value)
      else
        .error .malformed

/-- Meet several nodes one after another. -/
def meetAll (assembly : Assembly) (numbers : List Nat) :
    Except Fault Assembly :=
  numbers.foldlM meet assembly

/-- Meet the key of an entry, which has to be a scalar. -/
def meetKey (assembly : Assembly) (number : Nat) :
    Except Fault (Value × Assembly) := do
  let assembly ← assembly.meet number
  match assembly.piece? number with
  | some (.scalar key) => return (key, assembly)
  | _ => throw .malformed

/-- Meet the entries of a mapping, after those that were met before. -/
def meetEntries (assembly : Assembly) (before : List (Value × Nat)) :
    List (Nat × Nat) → Except Fault (List (Value × Nat) × Assembly)
  | [] => .ok (before, assembly)
  | (key, value) :: rest => do
      let (key, assembly) ← assembly.meetKey key
      let assembly ← assembly.meet value
      meetEntries assembly (Value.insert key value before) rest

/-- The entries of a mapping, with all that it takes over from others. -/
def mappingOf (assembly : Assembly) (number : Nat) :
    Except Fault (List (Value × Nat) × Assembly) := do
  if (assembly.nodes.entries? number).isNone then
    throw .malformed
  let nodes ← assembly.nodes.merge assembly.fuel number
  let assembly := { assembly with nodes := nodes }
  assembly.meetEntries [] ((nodes.entries? number).getD [])

/-- The keys and values of a list of mappings with one entry each. -/
def meetPairs (assembly : Assembly) :
    List Nat → Except Fault (List (Nat × Nat) × Assembly)
  | [] => .ok ([], assembly)
  | item :: rest =>
      match assembly.nodes.entries? item with
      | some [(key, value)] => do
          let assembly ← assembly.meetAll [key, value]
          let (others, assembly) ← meetPairs assembly rest
          return ((key, value) :: others, assembly)
      | _ => .error .malformed

def itemsOf (assembly : Assembly) (number : Nat) : Except Fault (List Nat) :=
  match assembly.nodes.items? number with
  | some items => .ok items
  | none => .error .malformed

/-- Do the work on a collection whose turn has come. -/
def complete (assembly : Assembly) (number : Nat) :
    Except Fault Assembly := do
  match assembly.nodes.tag? number with
  | some .list =>
      let items ← assembly.itemsOf number
      let assembly ← assembly.meetAll items
      return assembly.setPiece number (.list items)
  | some .mapping =>
      let (entries, assembly) ← assembly.mappingOf number
      return assembly.setPiece number (.mapping entries)
  | some .set =>
      let (entries, assembly) ← assembly.mappingOf number
      return assembly.setPiece number (.set (entries.map Prod.fst))
  | _ =>
      let items ← assembly.itemsOf number
      let (pairs, assembly) ← assembly.meetPairs items
      return assembly.setPiece number (.pairs pairs)

/-- Complete the collections in line, round by round. -/
def completeAll : (fuel : Nat) → Assembly → Except Fault Assembly
  | 0, assembly => .ok assembly
  | fuel + 1, assembly =>
      if assembly.line.isEmpty then
        .ok assembly
      else
        match
          assembly.line.reverse.foldlM complete
            { assembly with line := [] } with
        | .error fault => .error fault
        | .ok assembly => completeAll fuel assembly

end Assembly

/-- What the nodes of a graph become. -/
def Graph.assemble (graph : Graph) : Except Fault (Array (Option Piece)) := do
  let assembly ← (Assembly.start graph.nodes).meet graph.root
  let assembly ← assembly.completeAll (graph.nodes.size + 1)
  return assembly.pieces

end NativeDeps.Yaml
