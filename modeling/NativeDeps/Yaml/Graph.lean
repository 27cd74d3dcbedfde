import NativeDeps.Yaml.Tag

/-!
# Graphs of nodes

A YAML document as numbered nodes.  A node names the nodes it holds by their numbers,
so an alias is the number of the node that it stands for, and a collection may hold
itself.
-/

namespace NativeDeps.Yaml

/-- What a node consists of; the nodes in a collection are given by number. -/
inductive Shape
  | scalar (content : Content)
  | list (items : List Nat)
  | mapping (entries : List (Nat × Nat))
deriving Repr, DecidableEq

/-- A node of a document. -/
structure Node where
  tag : Tag
  shape : Shape
deriving Repr, DecidableEq

namespace Node

/-- The node that stands where a node is left out. -/
def empty : Node := ⟨.null, .scalar .empty⟩

/-- The entries of a node, if it is a mapping. -/
def entries? (node : Node) : Option (List (Nat × Nat)) :=
  match node.shape with
  | .mapping entries => some entries
  | _ => none

end Node

/-- The nodes of a document, and the number of the outermost one. -/
structure Graph where
  nodes : Array Node
  root : Nat
deriving Repr, DecidableEq

end NativeDeps.Yaml
