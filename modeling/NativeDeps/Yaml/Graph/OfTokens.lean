import NativeDeps.Yaml.Fault
import NativeDeps.Yaml.Graph
import NativeDeps.Yaml.Token

/-!
# The graph of a list of tokens

The grammar of YAML over tokens.  A text holds one document at most.  A collection is
numbered before what it holds, so an alias inside it can stand for it.  The tokens may
end with a fault of the text, which counts only when the token in its place is asked
for.
-/

namespace NativeDeps.Yaml

/-- The tokens that are left, the nodes read so far, and what has been named. -/
structure Stream where
  tokens : List Token
  /-- What stops the reading behind the tokens. -/
  fault : Option Fault
  nodes : Array Node
  anchors : List (String × Nat)
  handles : List (String × String)

/-- What may be said of a node in front of it; the tag is a full name. -/
structure Properties where
  anchor : Option String
  tag : Option String
deriving Repr, DecidableEq

namespace Stream

def peek (stream : Stream) : Except Fault Token :=
  match stream.tokens with
  | token :: _ => .ok token
  | [] => .error (stream.fault.getD .malformed)

def next (stream : Stream) : Stream :=
  { stream with tokens := stream.tokens.drop 1 }

def isAt (stream : Stream) (tokens : List Token) : Except Fault Bool :=
  stream.peek.map tokens.contains

/-- Take a token that has to come next. -/
def expect (stream : Stream) (token : Token) : Except Fault Stream := do
  if ← stream.isAt [token] then return stream.next else throw .malformed

def name (stream : Stream) (anchor : Option String) (number : Nat) : Stream :=
  match anchor with
  | none => stream
  | some anchor =>
      { stream with anchors := (anchor, number) :: stream.anchors }

/-- Add a node: its number, and the stream with it. -/
def add (stream : Stream) (node : Node) : Nat × Stream :=
  (stream.nodes.size, { stream with nodes := stream.nodes.push node })

/-- Say what a node consists of. -/
def fill (stream : Stream) (number : Nat) (shape : Shape) : Stream :=
  { stream with
    nodes := stream.nodes.modify number fun node =>
      { node with shape := shape } }

def tagName (stream : Stream) : Option (Option String × String) →
    Except Fault (Option String)
  | none => .ok none
  | some (none, suffix) => .ok (some suffix)
  | some (some handle, suffix) =>
      match stream.handles.lookup handle with
      | none => .error .malformed
      | some leading => .ok (some (leading ++ suffix))

def takeAnchor (stream : Stream) : Except Fault (Option String × Stream) := do
  match ← stream.peek with
  | .anchor anchor => return (some anchor, stream.next)
  | _ => return (none, stream)

def takeTag (stream : Stream) :
    Except Fault (Option (Option String × String) × Stream) := do
  match ← stream.peek with
  | .tag handle suffix => return (some (handle, suffix), stream.next)
  | _ => return (none, stream)

/-- Take the anchor and the tag in front of a node, in either order. -/
def takeProperties (stream : Stream) :
    Except Fault (Properties × Stream) := do
  let (anchor, stream) ← stream.takeAnchor
  let (tag, stream) ← stream.takeTag
  let (anchor, stream) ←
    if anchor.isNone && tag.isSome then
      stream.takeAnchor
    else
      pure (anchor, stream)
  let name ← stream.tagName tag
  return (⟨anchor, name⟩, stream)

end Stream

namespace Properties

def isEmpty (properties : Properties) : Bool :=
  properties.anchor.isNone && properties.tag.isNone

/-- The tag of a scalar; one without a tag, or with the tag `!`, is what it looks like. -/
def scalarTag (properties : Properties) (content : Content)
    (isPlain : Bool) : Tag :=
  match properties.tag with
  | none => if isPlain then Tag.ofContent content else .text
  | some name => if name = "!" then Tag.ofContent content else Tag.ofName name

/-- The tag of a collection whose own tag is the fallback. -/
def collectionTag (properties : Properties) (fallback : Tag) : Tag :=
  match properties.tag with
  | none => fallback
  | some name => if name = "!" then fallback else Tag.ofName name

end Properties

namespace Graph

/-- A reader of one node, which gives its number. -/
abbrev Reader := Stream → Except Fault (Nat × Stream)

def readEmpty (stream : Stream) : Nat × Stream :=
  stream.add .empty

/-- A node, or an empty one in front of the tokens that cannot begin a node. -/
def unlessAt (tokens : List Token) (read : Reader) : Reader :=
  fun stream => do
    if ← stream.isAt tokens then return readEmpty stream else read stream

/-- Read a value after its mark; a value without a mark is empty. -/
def readValue (tokens : List Token) (read : Reader) : Reader :=
  fun stream => do
    if ← stream.isAt [.value] then
      unlessAt tokens read stream.next
    else
      return readEmpty stream

/-- A node of one entry, as a list in a flow may hold it. -/
def single (key value : Nat) (stream : Stream) : Nat × Stream :=
  stream.add ⟨.mapping, .mapping [(key, value)]⟩

mutual

/--
Read a node.  In a block it may be a block collection, and where `allowsBare` says
so a list whose entries are not indented.
-/
def read (isBlock allowsBare : Bool) :
    (fuel : Nat) → Stream → Except Fault (Nat × Stream)
  | 0, _ => .error .malformed
  | fuel + 1, stream => do
      match ← stream.peek with
      | .reference name =>
          match stream.anchors.lookup name with
          | none => throw .malformed
          | some number => return (number, stream.next)
      | _ =>
          let (properties, stream) ← stream.takeProperties
          readContent isBlock allowsBare fuel properties stream

/-- Read the content of a node of which something may have been said. -/
def readContent (isBlock allowsBare : Bool) :
    (fuel : Nat) → Properties → Stream → Except Fault (Nat × Stream)
  | 0, _, _ => .error .malformed
  | fuel + 1, properties, stream => do
      let token ← stream.peek
      let isTaken :=
        properties.anchor.any fun anchor =>
          (stream.anchors.lookup anchor).isSome
      let readScalar := fun (content : Content) (isPlain : Bool)
          (stream : Stream) =>
        let (number, stream) :=
          stream.add
            ⟨properties.scalarTag content isPlain, .scalar content⟩
        (number, stream.name properties.anchor number)
      let opened := fun (fallback : Tag) (shape : Shape) (stream : Stream) =>
        let (number, stream) :=
          stream.add ⟨properties.collectionTag fallback, shape⟩
        (number, stream.name properties.anchor number)
      let readList :=
        fun (readAll : Stream → Except Fault (List Nat × Stream))
            (stream : Stream) => do
          let (number, stream) := opened .list (.list []) stream
          let (items, stream) ← readAll stream
          pure (number, stream.fill number (.list items))
      let readMapping :=
        fun (readAll : Stream → Except Fault (List (Nat × Nat) × Stream))
            (stream : Stream) => do
          let (number, stream) := opened .mapping (.mapping []) stream
          let (entries, stream) ← readAll stream
          pure (number, stream.fill number (.mapping entries))
      if isTaken then
        throw .malformed
      else
        match token with
        | .scalar content isPlain =>
            return readScalar content isPlain stream.next
        | .flowListStart => readList (readFlowItems true fuel) stream.next
        | .flowMappingStart =>
            readMapping (readFlowEntries true fuel) stream.next
        | token =>
            if allowsBare && token == .entry then
              readList (readBareItems fuel) stream
            else if isBlock && token == .blockListStart then
              readList (readItems fuel) stream.next
            else if isBlock && token == .blockMappingStart then
              readMapping (readEntries fuel) stream.next
            else if !properties.isEmpty then
              return readScalar .empty true stream
            else
              throw .malformed

def readItems : (fuel : Nat) → Stream → Except Fault (List Nat × Stream)
  | 0, _ => .error .malformed
  | fuel + 1, stream => do
      if ← stream.isAt [.entry] then
        let (item, stream) ←
          unlessAt [.entry, .blockEnd] (read true false fuel) stream.next
        let (items, stream) ← readItems fuel stream
        return (item :: items, stream)
      else
        let stream ← stream.expect .blockEnd
        return ([], stream)

/-- Read the items of a list that is not indented, up to the first other token. -/
def readBareItems : (fuel : Nat) → Stream →
    Except Fault (List Nat × Stream)
  | 0, _ => .error .malformed
  | fuel + 1, stream => do
      if ← stream.isAt [.entry] then
        let (item, stream) ←
          unlessAt [.entry, .key, .value, .blockEnd] (read true false fuel)
            stream.next
        let (items, stream) ← readBareItems fuel stream
        return (item :: items, stream)
      else
        return ([], stream)

/-- Read the entries of a block mapping up to its end. -/
def readEntries : (fuel : Nat) → Stream →
    Except Fault (List (Nat × Nat) × Stream)
  | 0, _ => .error .malformed
  | fuel + 1, stream => do
      if ← stream.isAt [.key] then
        let stops := [.key, .value, .blockEnd]
        let (key, stream) ← unlessAt stops (read true true fuel) stream.next
        let (value, stream) ← readValue stops (read true true fuel) stream
        let (entries, stream) ← readEntries fuel stream
        return ((key, value) :: entries, stream)
      else
        let stream ← stream.expect .blockEnd
        return ([], stream)

/-- Read the items of a flow list up to its end; the first one has no comma before it. -/
def readFlowItems (isFirst : Bool) : (fuel : Nat) → Stream →
    Except Fault (List Nat × Stream)
  | 0, _ => .error .malformed
  | fuel + 1, stream => do
      if ← stream.isAt [.flowListEnd] then
        return ([], stream.next)
      else
        let stream ←
          if isFirst then pure stream else stream.expect .flowEntry
        let stops := [.flowEntry, .flowListEnd]
        if ← stream.isAt [.key] then
          let (key, stream) ←
            unlessAt (.value :: stops) (read false false fuel) stream.next
          let (value, stream) ←
            readValue stops (read false false fuel) stream
          let (item, stream) := single key value stream
          let (items, stream) ← readFlowItems false fuel stream
          return (item :: items, stream)
        else if ← stream.isAt [.flowListEnd] then
          return ([], stream.next)
        else
          let (item, stream) ← read false false fuel stream
          let (items, stream) ← readFlowItems false fuel stream
          return (item :: items, stream)

def readFlowEntries (isFirst : Bool) : (fuel : Nat) → Stream →
    Except Fault (List (Nat × Nat) × Stream)
  | 0, _ => .error .malformed
  | fuel + 1, stream => do
      if ← stream.isAt [.flowMappingEnd] then
        return ([], stream.next)
      else
        let stream ←
          if isFirst then pure stream else stream.expect .flowEntry
        let stops := [.flowEntry, .flowMappingEnd]
        if ← stream.isAt [.key] then
          let (key, stream) ←
            unlessAt (.value :: stops) (read false false fuel) stream.next
          let (value, stream) ←
            readValue stops (read false false fuel) stream
          let (entries, stream) ← readFlowEntries false fuel stream
          return ((key, value) :: entries, stream)
        else if ← stream.isAt [.flowMappingEnd] then
          return ([], stream.next)
        else
          let (key, stream) ← read false false fuel stream
          let (value, stream) := readEmpty stream
          let (entries, stream) ← readFlowEntries false fuel stream
          return ((key, value) :: entries, stream)

end

/-- The tag handles that need no directive. -/
def standardHandles : List (String × String) :=
  [("!", "!"), ("!!", "tag:yaml.org,2002:")]

/--
Read the directives in front of a document: one version at most, which is some
version one, and every handle once.
-/
def readDirectives (hasVersion : Bool) : (fuel : Nat) → Stream →
    Except Fault Stream
  | 0, _ => .error .malformed
  | fuel + 1, stream => do
      match ← stream.peek with
      | .directive (.version major _) =>
          if hasVersion || major ≠ 1 then
            throw .malformed
          else
            readDirectives true fuel stream.next
      | .directive (.tag handle leading) =>
          if (stream.handles.lookup handle).isSome then
            throw .malformed
          else
            readDirectives hasVersion fuel
              { stream.next with
                handles := (handle, leading) :: stream.handles }
      | .directive .other => readDirectives hasVersion fuel stream.next
      | _ => return stream

/-- The beginning of a document behind its directives. -/
def readStart (fuel : Nat) (stream : Stream) : Except Fault Stream := do
  let stream ← readDirectives false fuel { stream with handles := [] }
  let stream ← stream.expect .documentStart
  return { stream with handles := stream.handles ++ standardHandles }

/-- Check that nothing but ends of documents follows a document. -/
def readEnd : (fuel : Nat) → Stream → Except Fault Unit
  | 0, _ => .error .malformed
  | fuel + 1, stream => do
      match ← stream.peek with
      | .documentEnd => readEnd fuel stream.next
      | .textEnd => return ()
      | _ =>
          let _ ← readStart fuel stream
          throw .malformed

/-- Read the only document from a token on which it begins. -/
def readOnly (fuel : Nat) (stream : Stream) : Except Fault (Option Graph) :=
  do
    let (root, stream) ← read true false fuel stream
    readEnd fuel stream
    return some ⟨stream.nodes, root⟩

/-- Whether a token ends a document that has not begun. -/
def endsDocument : Token → Bool
  | .directive _ => true
  | .documentStart => true
  | .documentEnd => true
  | .textEnd => true
  | _ => false

/-- The graph of the only document of a text, if it has one. -/
def ofTokens (tokens : List Token) (fault : Option Fault) :
    Except Fault (Option Graph) := do
  let fuel := 3 * tokens.length + 3
  let stream : Stream := ⟨tokens, fault, #[], [], standardHandles⟩
  let isExplicit :=
    match ← stream.peek with
    | .directive _ => true
    | .documentStart => true
    | _ => false
  if ← stream.isAt [.textEnd] then
    return none
  else if isExplicit then
    let stream ← readStart fuel stream
    if endsDocument (← stream.peek) then
      let (root, stream) := readEmpty stream
      readEnd fuel stream
      return some ⟨stream.nodes, root⟩
    else
      readOnly fuel stream
  else
    readOnly fuel stream

end Graph

end NativeDeps.Yaml
