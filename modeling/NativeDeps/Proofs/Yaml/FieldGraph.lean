import NativeDeps.Proofs.Yaml.Field
import NativeDeps.Yaml.Graph.OfTokens

/-!
# The graph of fields

A field adds the node of its key and then that of its value, and a list of texts its
own node before those of the texts.  Nothing is said of a node in front of it, so a
text is a text by its quotes or because it looks like nothing else.
-/

namespace NativeDeps.Yaml

def textNode (text : Spelling) : Node :=
  ⟨.text, .scalar (.ofSpelling text)⟩

/-- The node of a text or null. -/
def valueNode : Option Spelling → Node
  | none => ⟨.null, .scalar (.chars "null".toList)⟩
  | some text => textNode text

/-- The nodes of a list of texts, of which the first has a number. -/
def listNodes (number : Nat) (texts : List Spelling) : List Node :=
  ⟨.list, .list (List.range' (number + 1) texts.length)⟩ ::
    texts.map textNode

namespace Graph

/-- Tokens without names and directives, behind some nodes. -/
def behind (nodes : List Node) (tokens : List Token) : Stream :=
  ⟨tokens, none, nodes.toArray, [], standardHandles⟩

variable {isBlock allowsBare : Bool} {nodes : List Node} {rest : List Token}

/-- Whether a token is itself the beginning of the content of a node. -/
def beginsContent : Token → Bool
  | .reference _ => false
  | .anchor _ => false
  | .tag _ _ => false
  | _ => true

/-- Where the content of a node begins at once, nothing was said of the node. -/
theorem read_behind
    {token : Token} (begins : beginsContent token = true) (fuel : Nat) :
    read isBlock allowsBare (fuel + 1) (behind nodes (token :: rest)) =
      readContent isBlock allowsBare fuel ⟨none, none⟩
        (behind nodes (token :: rest)) := by
  cases token <;>
    first
    | rfl
    | exact absurd begins Bool.false_ne_true

theorem add_behind (node : Node) :
    (behind nodes rest).add node =
      (nodes.length, behind (nodes ++ [node]) rest) := by
  simp [behind, Stream.add]

theorem read_scalar (content : Content) (isPlain : Bool) (fuel : Nat) :
    read isBlock allowsBare (fuel + 2)
        (behind nodes (.scalar content isPlain :: rest)) =
      .ok
        (nodes.length,
          behind
            (nodes ++
              [⟨Properties.scalarTag ⟨none, none⟩ content isPlain,
                .scalar content⟩])
            rest) := by
  rw [read_behind rfl]
  show Except.ok ((behind nodes rest).add _) = _
  rw [add_behind]

/-- A text is read as its node, whichever way it is written. -/
theorem read_textToken (text : Spelling) (fuel : Nat) :
    read isBlock allowsBare (fuel + 2)
        (behind nodes (textToken text :: rest)) =
      .ok (nodes.length, behind (nodes ++ [textNode text]) rest) := by
  have isText :
      Properties.scalarTag ⟨none, none⟩ (.ofSpelling text) (writesPlain text) =
        .text := by
    cases plain : writesPlain text with
    | false => rfl
    | true =>
        obtain ⟨characters, whole, allowed⟩ := (Option.any_eq_true _ _).1 plain
        rw [Spelling.chars?_eq_some_iff.1 whole, Content.ofSpelling_map_char]
        exact ((allowsPlain_iff characters).1 allowed).1
  rw [textToken, read_scalar, isText]
  rfl

theorem read_valueToken (value : Option Spelling) (fuel : Nat) :
    read isBlock allowsBare (fuel + 2)
        (behind nodes (valueToken value :: rest)) =
      .ok (nodes.length, behind (nodes ++ [valueNode value]) rest) := by
  cases value with
  | none =>
      have isNull :
          Properties.scalarTag ⟨none, none⟩ (.chars "null".toList) true =
            .null := by
        decide
      rw [valueToken, read_scalar, isNull]
      rfl
  | some text => exact read_textToken text fuel

theorem ok_bind {α β : Type} (read : α) (next : α → Except Fault β) :
    (Except.ok read >>= next) = next read := rfl

theorem isAt_behind (token : Token) (tokens : List Token) :
    (behind nodes (token :: rest)).isAt tokens =
      .ok (tokens.contains token) := rfl

theorem next_behind (token : Token) :
    (behind nodes (token :: rest)).next = behind nodes rest := rfl

theorem unlessAt_behind
    {tokens : List Token} {token : Token}
    (notAt : tokens.contains token = false) (reader : Reader) :
    unlessAt tokens reader (behind nodes (token :: rest)) =
      reader (behind nodes (token :: rest)) := by
  rw [unlessAt, isAt_behind, notAt]
  rfl

/-- Every item of a list at the margin adds the node of its text. -/
theorem readBareItems_itemTokens
    (texts : List Spelling) {fuel : Nat} (enough : texts.length + 2 ≤ fuel)
    (nodes : List Node) :
    readBareItems fuel
        (behind nodes (itemTokens texts ++ .blockEnd :: rest)) =
      .ok
        (List.range' nodes.length texts.length,
          behind (nodes ++ texts.map textNode) (.blockEnd :: rest)) := by
  induction texts generalizing fuel nodes with
  | nil =>
      rcases Nat.exists_eq_add_of_le' enough with ⟨more, rfl⟩
      rw [List.map_nil, List.append_nil]
      rfl
  | cons text others induction =>
      obtain ⟨more, rfl⟩ : ∃ more, fuel = more + 2 + 1 :=
        ⟨fuel - 3, by rw [List.length_cons] at enough; omega⟩
      have readOthers :=
        @induction (more + 2) (by rw [List.length_cons] at enough; omega)
          (nodes ++ [textNode text])
      have notAt :
          [Token.entry, .key, .value, .blockEnd].contains (textToken text) =
            false := by
        simp [textToken]
      have tokens :
          itemTokens (text :: others) ++ .blockEnd :: rest =
            .entry :: textToken text ::
              (itemTokens others ++ .blockEnd :: rest) := by
        simp [itemTokens]
      have atEntry : [Token.entry].contains .entry = true := rfl
      rw [tokens, readBareItems, isAt_behind, ok_bind, if_pos atEntry,
        next_behind, unlessAt_behind notAt, read_textToken, ok_bind]
      simp only []
      rw [readOthers]
      simp only [ok_bind, List.length_append, List.length_singleton,
        List.append_assoc]
      rfl

/-- A node that was added before others is filled. -/
theorem fill_behind
    (before after : List Node) (node : Node) (shape : Shape) :
    (behind (before ++ node :: after) rest).fill before.length shape =
      behind (before ++ { node with shape := shape } :: after) rest := by
  have filled :
      (before ++ node :: after).modify before.length
          (fun node => { node with shape := shape }) =
        before ++ { node with shape := shape } :: after := by
    rw [List.modify_eq_take_cons_drop (by simp)]
    simp
  simp [behind, Stream.fill, filled]

/-- A collection adds its own node, and is filled when its contents have been read. -/
theorem read_collection
    {Item : Type} (tag : Tag) (shape : List Item → Shape)
    {readAll : Stream → Except Fault (List Item × Stream)}
    {tokens : List Token} {items : List Item} {after : List Node}
    (reads :
      readAll (behind (nodes ++ [⟨tag, shape []⟩]) tokens) =
        .ok (items, behind (nodes ++ ⟨tag, shape []⟩ :: after) rest)) :
    (do
      let (number, stream) := (behind nodes tokens).add ⟨tag, shape []⟩
      let (items, stream) ← readAll stream
      pure (number, stream.fill number (shape items))) =
      Except.ok
        (nodes.length, behind (nodes ++ ⟨tag, shape items⟩ :: after) rest) := by
  rw [add_behind]
  simp only []
  rw [reads, ok_bind]
  simp only [fill_behind]
  rfl

/-- A list of texts is read, whether it has items or not. -/
theorem read_listTokens
    (texts : List Spelling) {fuel : Nat} (enough : texts.length + 4 ≤ fuel) :
    read true true fuel
        (behind nodes (listTokens texts ++ .blockEnd :: rest)) =
      .ok
        (nodes.length,
          behind (nodes ++ listNodes nodes.length texts)
            (.blockEnd :: rest)) := by
  cases texts with
  | nil =>
      rcases Nat.exists_eq_add_of_le' enough with ⟨more, rfl⟩
      have reads :
          readFlowItems true (more + 2)
              (behind (nodes ++ [⟨.list, .list []⟩])
                (.flowListEnd :: .blockEnd :: rest)) =
            .ok
              ([], behind (nodes ++ [⟨.list, .list []⟩]) (.blockEnd :: rest)) :=
        rfl
      show read true true (more + 3 + 1)
        (behind nodes (.flowListStart :: .flowListEnd :: .blockEnd :: rest)) = _
      rw [read_behind rfl]
      exact read_collection .list .list reads
  | cons text others =>
      obtain ⟨more, rfl⟩ :
          ∃ more, fuel = more + 1 + 1 :=
        ⟨fuel - 2, by rw [List.length_cons] at enough; omega⟩
      have reads :=
        @readBareItems_itemTokens rest (text :: others) more (by omega)
          (nodes ++ [⟨.list, .list []⟩])
      rw [List.append_assoc, List.length_append, List.length_singleton]
        at reads
      show read true true (more + 1 + 1)
        (behind nodes (.entry :: _)) = _
      rw [read_behind rfl]
      exact read_collection .list .list reads

theorem length_le_length_listTokens (texts : List Spelling) :
    texts.length ≤ (listTokens texts).length := by
  have items : (itemTokens texts).length = 2 * texts.length := by
    induction texts with
    | nil => rfl
    | cons text others induction =>
        simp only [itemTokens, List.flatMap_cons, List.length_append,
          List.length_cons, List.length_nil] at induction ⊢
        omega
  rw [listTokens]
  split
  · rename_i isEmpty
    simp [List.isEmpty_iff.1 isEmpty]
  · omega

/-- The tokens in front of which the key or the value of a field is left out. -/
def fieldStops : List Token := [.key, .value, .blockEnd]

theorem exists_listTokens_eq_cons (texts : List Spelling) :
    ∃ first others,
      listTokens texts = first :: others ∧
        fieldStops.contains first = false := by
  cases texts with
  | nil => exact ⟨.flowListStart, [.flowListEnd], rfl, rfl⟩
  | cons text others =>
      exact ⟨.entry, textToken text :: itemTokens others, rfl, rfl⟩

theorem contains_fieldStops_valueToken (value : Option Spelling) :
    fieldStops.contains (valueToken value) = false := by
  cases value <;> simp [fieldStops, valueToken, textToken]

/-- A field adds the node of its key in front of that of its value. -/
theorem readEntries_field
    {key : String} (isText : Tag.ofPlain key.toList = .text) {fuel : Nat}
    {first : Token} (notStop : fieldStops.contains first = false)
    {others : List Token} {valueNodes : List Node}
    (readsValue :
      read true true (fuel + 2)
          (behind (nodes ++ [textNode key]) (first :: others)) =
        .ok
          (nodes.length + 1,
            behind (nodes ++ textNode key :: valueNodes) rest))
    {entries : List (Nat × Nat)} {stream : Stream}
    (readsOthers :
      readEntries (fuel + 2)
          (behind (nodes ++ textNode key :: valueNodes) rest) =
        .ok (entries, stream)) :
    readEntries (fuel + 3)
        (behind nodes (keyTokens key ++ first :: others)) =
      .ok ((nodes.length, nodes.length + 1) :: entries, stream) := by
  have atKey : [Token.key].contains .key = true := rfl
  have atValue : [Token.value].contains .value = true := rfl
  have keyNode :
      (⟨Properties.scalarTag ⟨none, none⟩ (.chars key.toList) true,
        .scalar (.chars key.toList)⟩ : Node) = textNode key := by
    rw [textNode, Spelling.ofText, Content.ofSpelling_map_char, ← isText]
    rfl
  have notStopKey :
      fieldStops.contains (.scalar (.chars key.toList) true) = false := by
    simp [fieldStops]
  have tokens :
      keyTokens key ++ first :: others =
        .key :: .scalar (.chars key.toList) true :: .value :: first ::
          others := rfl
  rw [tokens, readEntries, isAt_behind, ok_bind, if_pos atKey, next_behind]
  have stops : [Token.key, .value, .blockEnd] = fieldStops := rfl
  simp only [stops]
  rw [unlessAt_behind notStopKey, read_scalar, keyNode, ok_bind]
  simp only []
  rw [readValue, isAt_behind, ok_bind, if_pos atValue, next_behind,
    unlessAt_behind notStop, readsValue, ok_bind]
  simp only []
  rw [readsOthers]
  rfl

end Graph

end NativeDeps.Yaml
