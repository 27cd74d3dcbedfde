import NativeDeps.Yaml.Fault
import NativeDeps.Yaml.Graph

/-!
# Merging mappings

A mapping can take over the entries of others.  Its merge keys are replaced by these
entries, in front of its own, and a key that is an equals sign becomes a text.  Both
change the nodes themselves, so a mapping that is named elsewhere is changed there too,
and one that is merged while it is merging gives what it holds at that moment.
-/

namespace NativeDeps.Yaml

/-- The nodes of a document, as they are while it is evaluated. -/
abbrev Nodes := Array Node

namespace Nodes

def tag? (nodes : Nodes) (number : Nat) : Option Tag :=
  (nodes[number]?).map Node.tag

def entries? (nodes : Nodes) (number : Nat) : Option (List (Nat × Nat)) :=
  (nodes[number]?).bind Node.entries?

def items? (nodes : Nodes) (number : Nat) : Option (List Nat) :=
  (nodes[number]?).bind fun node =>
    match node.shape with
    | .list items => some items
    | _ => none

def setEntries (nodes : Nodes) (number : Nat) (entries : List (Nat × Nat)) :
    Nodes :=
  nodes.modify number fun node => { node with shape := .mapping entries }

/-- Whether a key of a mapping asks for a merge. -/
def isMergeKey (nodes : Nodes) (entry : Nat × Nat) : Bool :=
  nodes.tag? entry.1 == some .merge

/-- Take a key that is an equals sign for a text. -/
def settleKey (nodes : Nodes) (key : Nat) : Nodes :=
  if nodes.tag? key == some .value then
    nodes.modify key fun node => { node with tag := .text }
  else
    nodes

/-- Take the keys of entries that are equals signs for texts. -/
def settleKeys (nodes : Nodes) (entries : List (Nat × Nat)) : Nodes :=
  entries.foldl (fun nodes entry => nodes.settleKey entry.1) nodes

/-- One more than the entries that ask for a merge, in all mappings together. -/
def mergeFuel (nodes : Nodes) : Nat :=
  nodes.foldl
    (fun count node =>
      count + ((node.entries?.getD []).filter nodes.isMergeKey).length)
    1

/--
Replace the merge keys of a mapping from the entry at `index` on, where the entries
taken over so far are `taken`.  Every merge key that is met is removed first, so the
`fuel` is the number of merge keys and one more.
-/
def mergeFrom (number index : Nat) (taken : List (Nat × Nat)) :
    (fuel : Nat) → Nodes → Except Fault Nodes
  | 0, _ => .error .malformed
  | fuel + 1, nodes => do
      let entries := (nodes.entries? number).getD []
      let own :=
        (entries.drop index).takeWhile fun entry => !nodes.isMergeKey entry
      let passed := index + own.length
      let settled := nodes.settleKeys own
      match entries.drop passed with
      | [] =>
          if taken.isEmpty then
            return settled
          else
            return settled.setEntries number (taken ++ entries)
      | (_, source) :: rest =>
          let removed :=
            settled.setEntries number (entries.take passed ++ rest)
          let sources ←
            match removed.entries? source, removed.items? source with
            | some _, _ => pure [source]
            | none, some items => pure items
            | none, none => throw .malformed
          let (merged, lists) ←
            sources.foldlM
              (fun (merged, lists) source =>
                match removed.entries? source with
                | none => .error .malformed
                | some _ => do
                    let merged ← mergeFrom source 0 [] fuel merged
                    pure (merged, (merged.entries? source).getD [] :: lists))
              (removed, ([] : List (List (Nat × Nat))))
          mergeFrom number passed (taken ++ lists.flatten) fuel merged

/-- Replace the merge keys of a mapping; the fuel is that of the whole document. -/
def merge (nodes : Nodes) (fuel number : Nat) : Except Fault Nodes :=
  mergeFrom number 0 [] fuel nodes

end Nodes

end NativeDeps.Yaml
