import Mathlib.Data.List.TakeWhile
import NativeDeps.Proofs.Value
import NativeDeps.Proofs.Yaml.FieldGraph
import NativeDeps.Yaml.Graph.Value

/-!
# The pieces of texts

A text that is met becomes its piece at once and leaves all else as it is, so a list of
texts becomes one piece after another.  As no text holds another node, none of them
reaches back to the outside.
-/

namespace NativeDeps.Yaml

namespace Nodes

theorem mergeFuel_pos (nodes : Nodes) : 0 < nodes.mergeFuel := by
  have least (others : List Node) (start : Nat) :
      start ≤
        others.foldl
          (fun count node =>
            count +
              ((node.entries?.getD []).filter nodes.isMergeKey).length)
          start := by
    induction others generalizing start with
    | nil => exact Nat.le_refl start
    | cons node others induction =>
        exact Nat.le_trans (Nat.le_add_right _ _) (induction _)
  rw [mergeFuel, ← Array.foldl_toList]
  exact least nodes.toList 1

theorem settleKeys_of_textKeys
    {nodes : Nodes} {entries : List (Nat × Nat)}
    (keys : ∀ entry ∈ entries, nodes.tag? entry.1 = some .text) :
    nodes.settleKeys entries = nodes := by
  induction entries with
  | nil => rfl
  | cons entry others induction =>
      have settled : nodes.settleKey entry.1 = nodes := by
        rw [settleKey, keys entry (by simp)]
        rfl
      rw [settleKeys, List.foldl_cons, settled]
      exact induction fun other member =>
        keys other (List.mem_cons_of_mem entry member)

/-- A mapping whose keys are texts takes over nothing. -/
theorem merge_of_textKeys
    {nodes : Nodes} {number : Nat} {entries : List (Nat × Nat)}
    (isMapping : nodes.entries? number = some entries)
    (keys : ∀ entry ∈ entries, nodes.tag? entry.1 = some .text) :
    nodes.merge nodes.mergeFuel number = .ok nodes := by
  obtain ⟨fuel, isFuel⟩ :=
    Nat.exists_eq_succ_of_ne_zero (Nat.ne_of_gt nodes.mergeFuel_pos)
  have own :
      entries.takeWhile (fun entry => !nodes.isMergeKey entry) = entries := by
    rw [List.takeWhile_eq_self_iff]
    intro entry member
    rw [isMergeKey, keys entry member]
    rfl
  have passed : entries.drop (0 + entries.length) = [] := by simp
  rw [merge, isFuel, mergeFrom, isMapping]
  simp only [Option.getD_some, List.drop_zero, own, passed,
    settleKeys_of_textKeys keys]
  rfl

end Nodes

namespace Assembly

/-- The work on some nodes, with what they have become so far. -/
def among (nodes : List Node) (pieces : List (Option Piece))
    (line : List Nat) (fuel : Nat) : Assembly :=
  ⟨nodes.toArray, pieces.toArray, line, fuel⟩

variable {nodes : List Node} {pieces before after : List (Option Piece)}
  {line : List Nat} {fuel : Nat}

theorem piece?_among (number : Nat) :
    (among nodes pieces line fuel).piece? number = (pieces[number]?).join := by
  simp [piece?, among]

theorem piece?_among_length (piece : Option Piece) :
    (among nodes (before ++ piece :: after) line fuel).piece? before.length =
      piece := by
  simp [piece?_among]

theorem setPiece_among (old : Option Piece) (piece : Piece) :
    (among nodes (before ++ old :: after) line fuel).setPiece before.length
        piece =
      among nodes (before ++ some piece :: after) line fuel := by
  simp [setPiece, among]

theorem tag?_among {number : Nat} {node : Node}
    (isNode : nodes[number]? = some node) :
    (among nodes pieces line fuel).nodes.tag? number = some node.tag := by
  simp [among, Nodes.tag?, isNode]

/-- What is a text is the one with the spelling of its scalar. -/
theorem scalarValue_ofSpelling (number : Nat) (text : Spelling) :
    scalarValue number .text (.ofSpelling text) = .ok (.ofSpelling text) := by
  rw [Content.ofSpelling, Content.ofCodes, Spelling.charsOfCodes?_codes]
  cases whole : text.chars? with
  | none =>
      show Except.ok (Value.ofCodes text.codes) = _
      rw [Value.ofCodes, Spelling.ofCodes_codes]
  | some characters =>
      show Except.ok (Value.text (String.ofList characters)) = _
      rw [Spelling.chars?_eq_some_iff.1 whole, ← Spelling.ofText_ofList,
        Value.ofSpelling_ofText]

theorem scalarOf_valueNode
    {number : Nat} {value : Option Spelling}
    (isNode : nodes[number]? = some (valueNode value)) :
    scalarOf nodes.toArray number (valueNode value).tag =
      .ok (.ofSpellingOrNull value) := by
  have found : nodes.toArray[number]? = some (valueNode value) := by
    simpa using isNode
  cases value with
  | none =>
      have content :
          contentOf nodes.toArray (nodes.toArray.size + 1) number =
            .ok (.chars "null".toList) := by
        rw [contentOf, found]
        rfl
      rw [scalarOf, content]
      rfl
  | some text =>
      have content :
          contentOf nodes.toArray (nodes.toArray.size + 1) number =
            .ok (.ofSpelling text) := by
        rw [contentOf, found]
        rfl
      rw [scalarOf, content]
      exact scalarValue_ofSpelling number text

/-- A text or null that is met for the first time becomes its value. -/
theorem meet_valueNode
    {value : Option Spelling}
    (isNode : nodes[before.length]? = some (valueNode value)) :
    (among nodes (before ++ none :: after) line fuel).meet before.length =
      .ok
        (among nodes
          (before ++ some (.scalar (.ofSpellingOrNull value)) :: after) line
          fuel) := by
  have isScalar :
      (valueNode value).tag.isCollection = false ∧
        (valueNode value).tag.isScalar = true := by
    cases value <;> exact ⟨rfl, rfl⟩
  have value :
      scalarOf (among nodes (before ++ none :: after) line fuel).nodes
          before.length (valueNode value).tag =
        .ok (.ofSpellingOrNull value) :=
    scalarOf_valueNode isNode
  simp only [meet, piece?_among_length, tag?_among isNode, isScalar, value,
    Bool.false_eq_true, if_false, if_true, Except.map, setPiece_among]

/-- A collection that is met for the first time is put in line. -/
theorem meet_collection
    {node : Node} (isNode : nodes[before.length]? = some node)
    (isCollection : node.tag.isCollection = true) :
    (among nodes (before ++ none :: after) line fuel).meet before.length =
      .ok
        (among nodes (before ++ some .awaited :: after)
          (before.length :: line) fuel) := by
  simp only [meet, piece?_among_length, tag?_among isNode, isCollection, if_true,
    setPiece_among]
  rfl

def textPiece (text : Spelling) : Option Piece :=
  some (.scalar (.ofSpelling text))

/-- An entry with a text as its key is met key first. -/
theorem meetEntries_cons
    {key : String} (isKey : nodes[before.length]? = some (textNode key))
    {next : Assembly}
    (meetsValue :
      (among nodes (before ++ textPiece key :: after) line fuel).meet
          (before.length + 1) =
        .ok next)
    (entries : List (Value × Nat)) (others : List (Nat × Nat)) :
    (among nodes (before ++ none :: after) line fuel).meetEntries entries
        ((before.length, before.length + 1) :: others) =
      next.meetEntries
        (Value.insert (.text key) (before.length + 1) entries) others := by
  have meetsKey :
      (among nodes (before ++ none :: after) line fuel).meetKey before.length =
        .ok
          (.text key,
            among nodes (before ++ textPiece key :: after) line fuel) := by
    have met :
        (among nodes (before ++ none :: after) line fuel).meet before.length =
          .ok
            (among nodes (before ++ textPiece key :: after) line fuel) :=
      @meet_valueNode nodes before after line fuel (some key) isKey
    rw [meetKey, met, Graph.ok_bind]
    simp only [piece?_among_length, textPiece, Value.ofSpelling_ofText]
    rfl
  rw [meetEntries, meetsKey]
  show (do
    let assembly ←
      (among nodes (before ++ textPiece key :: after) line fuel).meet
        (before.length + 1)
    _) = _
  rw [meetsValue]
  rfl

/-- Texts in a row that are met become their pieces in a row. -/
theorem meetAll_texts
    (texts : List Spelling) {nodesBefore : List Node}
    (isNodes : nodes = nodesBefore ++ texts.map textNode)
    (matching : nodesBefore.length = before.length) :
    (among nodes (before ++ List.replicate texts.length none) line
        fuel).meetAll (List.range' before.length texts.length) =
      .ok (among nodes (before ++ texts.map textPiece) line fuel) := by
  induction texts generalizing before nodesBefore with
  | nil => rfl
  | cons text others induction =>
      have isNode :
          nodes[before.length]? = some (valueNode (some text)) := by
        rw [isNodes, ← matching]
        simp [valueNode]
      have met :
          (among nodes
              (before ++ none :: List.replicate others.length none) line
              fuel).meet before.length =
            .ok
              (among nodes
                (before ++ textPiece text :: List.replicate others.length none)
                line fuel) :=
        meet_valueNode isNode
      have metOthers :=
        @induction (before ++ [textPiece text])
          (nodesBefore ++ [textNode text]) (by simp [isNodes])
          (by simp [matching])
      simp only [List.length_append, List.length_singleton,
        List.append_assoc, List.singleton_append] at metOthers
      simp only [meetAll, List.length_cons, List.replicate_succ,
        List.range'_succ, List.foldlM_cons, met, List.map_cons]
      exact metOthers

/-- A mapping whose keys are texts is completed with the entries that were met. -/
theorem complete_mapping
    {number : Nat} {entries : List (Nat × Nat)}
    (isNode : nodes[number]? = some ⟨.mapping, .mapping entries⟩)
    (keys :
      ∀ entry ∈ entries, Nodes.tag? nodes.toArray entry.1 = some .text)
    {met : List (Value × Nat)} {next : Assembly}
    (meets :
      (among nodes pieces line (Nodes.mergeFuel nodes.toArray)).meetEntries []
          entries =
        .ok (met, next)) :
    (among nodes pieces line (Nodes.mergeFuel nodes.toArray)).complete number =
      .ok (next.setPiece number (.mapping met)) := by
  have isMapping : Nodes.entries? nodes.toArray number = some entries := by
    simp [Nodes.entries?, isNode, Node.entries?]
  have mapping :
      (among nodes pieces line (Nodes.mergeFuel nodes.toArray)).mappingOf
          number =
        .ok (met, next) := by
    show (if (Nodes.entries? nodes.toArray number).isNone then _ else do
      let nodes ←
        Nodes.merge nodes.toArray (Nodes.mergeFuel nodes.toArray) number
      _) = _
    rw [isMapping, Nodes.merge_of_textKeys isMapping keys]
    show (among nodes pieces line (Nodes.mergeFuel nodes.toArray)).meetEntries
      [] ((Nodes.entries? nodes.toArray number).getD []) = _
    rw [isMapping]
    exact meets
  rw [complete, tag?_among isNode]
  simp only [mapping]
  rfl

theorem complete_list
    {number : Nat} {items : List Nat}
    (isNode : nodes[number]? = some ⟨.list, .list items⟩)
    {next : Assembly}
    (meets : (among nodes pieces line fuel).meetAll items = .ok next) :
    (among nodes pieces line fuel).complete number =
      .ok (next.setPiece number (.list items)) := by
  have isList :
      (among nodes pieces line fuel).itemsOf number = .ok items := by
    simp [itemsOf, among, Nodes.items?, isNode]
  rw [complete, tag?_among isNode]
  simp only [isList]
  show (do
    let assembly ← (among nodes pieces line fuel).meetAll items
    _) = _
  rw [meets]
  rfl

theorem completeAll_among
    {number : Nat} {next : Assembly}
    (completes : (among nodes pieces [] fuel).complete number = .ok next)
    (rounds : Nat) :
    (among nodes pieces [number] fuel).completeAll (rounds + 1) =
      next.completeAll rounds := by
  have round :
      (among nodes pieces [number] fuel).line.reverse.foldlM complete
          { among nodes pieces [number] fuel with line := [] } =
        .ok next := by
    show [number].foldlM complete (among nodes pieces [] fuel) = _
    rw [List.foldlM_cons, completes]
    rfl
  have waiting :
      (among nodes pieces [number] fuel).line.isEmpty = false := rfl
  rw [completeAll, waiting]
  simp only [Bool.false_eq_true, if_false, round]

end Assembly

/-! ## Values -/

theorem join_getElem?_replicate_none (count number : Nat) :
    (((Array.replicate count none : Finished)[number]?).join) = none := by
  rw [Array.getElem?_replicate]
  split <;> rfl

/-- A scalar outside of all that is finished has the value of its piece. -/
theorem run_valueInside_scalar
    {pieces : Array (Option Piece)} {around : List Nat} {number : Nat}
    {value : Value} {finished : Finished}
    (isPiece : (pieces[number]?).join = some (.scalar value))
    (outside : around.contains number = false)
    (notFinished : (finished[number]?).join = none) (fuel : Nat) :
    (valueInside pieces (fuel + 1) around number).run finished =
      (.closed value, finished) := by
  rw [valueInside]
  simp only [outside, isPiece, Bool.false_eq_true, if_false,
    StateT.run_bind, StateT.run_get, pure_bind, notFinished,
    Option.filter_none]
  rfl

theorem run_mapM_cons
    {State Item Result : Type} {compute : Item → StateM State Result}
    {item : Item} {others : List Item} {result : Result}
    {results : List Result} {state next last : State}
    (first : (compute item).run state = (result, next))
    (rest : (others.mapM compute).run next = (results, last)) :
    ((item :: others).mapM compute).run state = (result :: results, last) := by
  rw [List.mapM_cons, StateT.run_bind, first]
  show StateT.run (do
    let results ← others.mapM compute
    pure (result :: results)) next = _
  rw [StateT.run_bind, rest]
  rfl

/-- Outside of all that is finished texts in a row have their values in a row. -/
theorem run_mapM_texts
    (texts : List Spelling) {before : List (Option Piece)}
    {around : List Nat} {finished : Finished}
    (outside : ∀ label ∈ around, label < before.length)
    (notFinished : ∀ number : Nat, (finished[number]?).join = none)
    (fuel : Nat) :
    ((List.range' before.length texts.length).mapM
        (valueInside (before ++ texts.map Assembly.textPiece).toArray (fuel + 1)
          around)).run finished =
      (texts.map fun text => .closed (.ofSpelling text), finished) := by
  induction texts generalizing before with
  | nil => rfl
  | cons text others induction =>
      have isPiece :
          (((before ++ (text :: others).map Assembly.textPiece).toArray)[
              before.length]?).join =
            some (.scalar (.ofSpelling text)) := by
        simp [Assembly.textPiece]
      have outsideText : around.contains before.length = false := by
        rw [List.contains_eq_mem, decide_eq_false_iff_not]
        exact fun member => Nat.lt_irrefl _ (outside _ member)
      have rest :=
        @induction (before ++ [Assembly.textPiece text]) fun label member => by
          rw [List.length_append]
          exact Nat.lt_add_right _ (outside label member)
      rw [List.length_append, List.append_assoc] at rest
      rw [List.length_cons, List.range'_succ]
      exact
        run_mapM_cons
          (run_valueInside_scalar isPiece outsideText (notFinished _) fuel)
          rest

theorem collect_closed (number : Nat) (content : Value) (values : List Value) :
    Loose.collect number content (values.map .closed) = .closed content := by
  have noLabels : (values.map Loose.closed).flatMap Loose.labels = [] := by
    simp [Loose.closed]
  have noLoops : (values.map Loose.closed).flatMap Loose.looped = [] := by
    simp [Loose.closed]
  simp only [Loose.collect, noLabels, noLoops]
  rfl

theorem run_keep_collect
    {compute : StateM Finished (List Loose)} {values : List Value}
    {finished next : Finished}
    (computes : compute.run finished = (values.map .closed, next))
    (number : Nat) (content : List Value → Value) :
    StateT.run (do
        let parts ← compute
        keep number
          (.collect number (content (parts.map Loose.value)) parts))
        finished =
      (.closed (content values),
        next.set! number (some (.closed (content values)))) := by
  have contents : (values.map Loose.closed).map Loose.value = values := by
    simp [Loose.closed, Function.comp_def]
  rw [StateT.run_bind, computes]
  show StateT.run (keep number (.collect number
    (content ((values.map Loose.closed).map Loose.value))
      (values.map .closed))) next = _
  rw [contents, collect_closed]
  rfl

variable {pieces : Array (Option Piece)} {around : List Nat} {number : Nat}
  {values : List Value} {finished next : Finished} {fuel : Nat}

/-- A list whose items have closed values is the list of these. -/
theorem run_valueInside_list
    {items : List Nat} (isPiece : (pieces[number]?).join = some (.list items))
    (outside : around.contains number = false)
    (notFinished : (finished[number]?).join = none)
    (parts :
      (items.mapM (valueInside pieces fuel (number :: around))).run finished =
        (values.map .closed, next)) :
    (valueInside pieces (fuel + 1) around number).run finished =
      (.closed (.list values),
        next.set! number (some (.closed (.list values)))) := by
  rw [valueInside]
  simp only [outside, isPiece, Bool.false_eq_true, if_false]
  rw [StateT.run_bind, StateT.run_get, pure_bind]
  simp only [notFinished, Option.filter_none]
  exact run_keep_collect parts number .list

/-- A mapping whose entries have closed values is the mapping to these. -/
theorem run_valueInside_mapping
    {entries : List (Value × Nat)}
    (isPiece : (pieces[number]?).join = some (.mapping entries))
    (outside : around.contains number = false)
    (notFinished : (finished[number]?).join = none)
    (parts :
      (entries.mapM fun entry =>
          valueInside pieces fuel (number :: around) entry.2).run finished =
        (values.map .closed, next)) :
    (valueInside pieces (fuel + 1) around number).run finished =
      (.closed (.mapping ((entries.map Prod.fst).zip values)),
        next.set! number
          (some
            (.closed (.mapping ((entries.map Prod.fst).zip values))))) := by
  rw [valueInside]
  simp only [outside, isPiece, Bool.false_eq_true, if_false]
  rw [StateT.run_bind, StateT.run_get, pure_bind]
  simp only [notFinished, Option.filter_none]
  exact
    run_keep_collect parts number fun values =>
      .mapping ((entries.map Prod.fst).zip values)

end NativeDeps.Yaml
