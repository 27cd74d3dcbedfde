import NativeDeps.Proofs.Manifest.Graph
import NativeDeps.Proofs.Yaml.TextPieces

/-!
# The value of a manifest

The mapping is put in line first, then the list, and everything else in a manifest
becomes its piece as soon as it is met.  Its value is put together from these pieces
in the same order.
-/

namespace NativeDeps.Manifest

open Yaml

/-- What the nodes of a manifest become. -/
def pieces (set : DependencySet) : List (Option Piece) :=
  some
      (.mapping
        [(.text "name", 2), (.text "platform", 4),
          (.text "dependencies", 6)]) ::
    Assembly.textPiece "name" :: Assembly.textPiece set.name ::
      Assembly.textPiece "platform" ::
        some (.scalar (.ofSpellingOrNull set.host)) ::
          Assembly.textPiece "dependencies" ::
            some (.list (List.range' 7 set.attributePaths.length)) ::
              set.attributePaths.map Assembly.textPiece

variable (set : DependencySet)

/-- The mapping is met first, and put in line. -/
theorem meet_root :
    (Assembly.start (nodes set).toArray).meet 0 =
      .ok
        (Assembly.among (nodes set)
          (some .awaited :: List.replicate (set.attributePaths.length + 6) none)
          [0] (Nodes.mergeFuel (nodes set).toArray)) := by
  have length : (nodes set).length = set.attributePaths.length + 6 + 1 := by
    simp [nodes, fieldNodes, listNodes]
  have start :
      Assembly.start (nodes set).toArray =
        Assembly.among (nodes set)
          (none :: List.replicate (set.attributePaths.length + 6) none) []
          (Nodes.mergeFuel (nodes set).toArray) := by
    rw [Assembly.start, Assembly.among, List.size_toArray, length,
      ← List.replicate_succ, List.toArray_replicate]
  rw [start]
  exact @Assembly.meet_collection (nodes set) [] _ _ _ _ rfl rfl

/-- The entries of the mapping are met, and the list is put in line. -/
theorem meetEntries_fields (fuel : Nat) :
    (Assembly.among (nodes set)
          (some .awaited :: List.replicate (set.attributePaths.length + 6) none)
          [] fuel).meetEntries [] [(1, 2), (3, 4), (5, 6)] =
      .ok
        ([(.text "name", 2), (.text "platform", 4),
            (.text "dependencies", 6)],
          Assembly.among (nodes set)
            (some .awaited :: Assembly.textPiece "name" ::
              Assembly.textPiece set.name :: Assembly.textPiece "platform" ::
                some (.scalar (.ofSpellingOrNull set.host)) ::
                  Assembly.textPiece "dependencies" :: some .awaited ::
                    List.replicate set.attributePaths.length none)
            [6] fuel) := by
  let count := set.attributePaths.length
  let host : Option Piece := some (.scalar (.ofSpellingOrNull set.host))
  have name :=
    @Assembly.meet_valueNode (nodes set)
      [some .awaited, Assembly.textPiece "name"]
      (List.replicate (count + 4) none) [] fuel (some set.name) rfl
  have platform :=
    @Assembly.meet_valueNode (nodes set)
      [some .awaited, Assembly.textPiece "name", Assembly.textPiece set.name,
        Assembly.textPiece "platform"]
      (List.replicate (count + 2) none) [] fuel set.host rfl
  have dependencies :=
    @Assembly.meet_collection (nodes set)
      [some .awaited, Assembly.textPiece "name", Assembly.textPiece set.name,
        Assembly.textPiece "platform", host,
        Assembly.textPiece "dependencies"]
      (List.replicate count none) [] fuel _ rfl rfl
  have first :=
    @Assembly.meetEntries_cons (nodes set) [some .awaited] _ [] fuel "name"
      rfl _ name [] [(3, 4), (5, 6)]
  have second :=
    @Assembly.meetEntries_cons (nodes set)
      [some .awaited, Assembly.textPiece "name", Assembly.textPiece set.name]
      _ [] fuel "platform" rfl _ platform [(.text "name", 2)] [(5, 6)]
  have third :=
    @Assembly.meetEntries_cons (nodes set)
      [some .awaited, Assembly.textPiece "name", Assembly.textPiece set.name,
        Assembly.textPiece "platform", host]
      _ [] fuel "dependencies" rfl _ dependencies
      [(.text "name", 2), (.text "platform", 4)] []
  exact first.trans (second.trans third)

/-- What the nodes have become when only the list is left. -/
def piecesBeforeList (set : DependencySet) : List (Option Piece) :=
  (pieces set).take 6

theorem complete_root :
    (Assembly.among (nodes set)
          (some .awaited :: List.replicate (set.attributePaths.length + 6) none)
          [] (Nodes.mergeFuel (nodes set).toArray)).complete 0 =
      .ok
        (Assembly.among (nodes set)
          (piecesBeforeList set ++
            some .awaited :: List.replicate set.attributePaths.length none)
          [6] (Nodes.mergeFuel (nodes set).toArray)) := by
  have keys :
      ∀ entry ∈ [(1, 2), (3, 4), (5, 6)],
        Nodes.tag? (nodes set).toArray entry.1 = some .text := by
    intro entry member
    simp only [List.mem_cons, List.not_mem_nil, or_false] at member
    rcases member with rfl | rfl | rfl <;> rfl
  have isRoot :
      (nodes set)[0]? =
        some ⟨.mapping, .mapping [(1, 2), (3, 4), (5, 6)]⟩ := rfl
  exact Assembly.complete_mapping isRoot keys (meetEntries_fields set _)

theorem complete_list (fuel : Nat) :
    (Assembly.among (nodes set)
          (piecesBeforeList set ++
            some .awaited :: List.replicate set.attributePaths.length none)
          [] fuel).complete 6 =
      .ok (Assembly.among (nodes set) (pieces set) [] fuel) := by
  have items :=
    @Assembly.meetAll_texts (nodes set) (piecesBeforeList set ++ [some .awaited])
      [] fuel set.attributePaths ((nodes set).take 7) rfl rfl
  have isList :
      (nodes set)[6]? =
        some ⟨.list, .list (List.range' 7 set.attributePaths.length)⟩ := rfl
  exact Assembly.complete_list isList items

/-- The nodes of a manifest become its pieces. -/
theorem assemble_nodes :
    Graph.assemble ⟨(nodes set).toArray, 0⟩ = .ok (pieces set).toArray := by
  have rounds :
      (nodes set).toArray.size + 1 =
        set.attributePaths.length + 5 + 1 + 1 + 1 := by
    simp [nodes, fieldNodes, listNodes]
  have completed :=
    (Assembly.completeAll_among (complete_root set)
      (set.attributePaths.length + 5 + 1 + 1)).trans
      (Assembly.completeAll_among
        (complete_list set (Nodes.mergeFuel (nodes set).toArray))
        (set.attributePaths.length + 5 + 1))
  rw [Graph.assemble]
  simp only [meet_root]
  rw [rounds]
  show (do
    let assembly ← Assembly.completeAll _ _
    _) = _
  rw [completed]
  rfl

/-- The value that a manifest describes. -/
def value (set : DependencySet) : Value :=
  .mapping
    [(.text "name", .ofSpelling set.name),
      (.text "platform", .ofSpellingOrNull set.host),
      (.text "dependencies", .list (set.attributePaths.map .ofSpelling))]

theorem valueOf_pieces :
    Yaml.valueOf (pieces set).toArray 0 = value set := by
  let count := set.attributePaths.length
  let start : Finished := Array.replicate (pieces set).toArray.size none
  have notFinished (number : Nat) : (start[number]?).join = none :=
    join_getElem?_replicate_none _ number
  have size : (pieces set).toArray.size + 1 = count + 5 + 1 + 1 + 1 := by
    simp [pieces, count]
  have name :=
    @run_valueInside_scalar (pieces set).toArray [0] 2 (.ofSpelling set.name) start
      rfl rfl (notFinished 2) (count + 5 + 1)
  have platform :=
    @run_valueInside_scalar (pieces set).toArray [0] 4
      (.ofSpellingOrNull set.host) start rfl rfl (notFinished 4) (count + 5 + 1)
  have outside : ∀ label ∈ [6, 0], label < ((pieces set).take 7).length := by
    have length : ((pieces set).take 7).length = 7 := rfl
    rw [length]
    decide
  have items :=
    run_mapM_texts set.attributePaths outside notFinished (count + 5)
  have dependencies :=
    @run_valueInside_list (pieces set).toArray [0] 6
      (set.attributePaths.map .ofSpelling) start start (count + 5 + 1) _ rfl rfl
      (notFinished 6) (by rw [List.map_map]; exact items)
  let entries : List (Value × Nat) :=
    [(.text "name", 2), (.text "platform", 4), (.text "dependencies", 6)]
  let values : List Value :=
    [.ofSpelling set.name, .ofSpellingOrNull set.host,
      .list (set.attributePaths.map .ofSpelling)]
  have parts :
      (entries.mapM fun entry =>
          valueInside (pieces set).toArray (count + 5 + 1 + 1) [0]
            entry.2).run start =
        (values.map .closed, _) :=
    run_mapM_cons name (run_mapM_cons platform (run_mapM_cons dependencies rfl))
  have root :=
    run_valueInside_mapping rfl rfl (notFinished 0) parts
  rw [Yaml.valueOf, size]
  show ((valueInside _ _ _ _).run start).1.value = _
  rw [root]
  rfl

end NativeDeps.Manifest
