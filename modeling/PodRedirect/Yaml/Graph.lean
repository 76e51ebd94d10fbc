import PodRedirect.Yaml.Tag
import PodRedirect.Yaml.Token

/-!
# The graph of a document

The nodes that the tokens of a document describe: scalars, sequences and mappings, each with its
kind. They stand in a table and refer to their members by their places in it, since an alias stands
for the very node that it names, and that may be a collection that the alias is a member of.

## Main definitions

* `Yaml.Node`: a node
* `Yaml.Graph`: the nodes of a document
* `Yaml.Composer`: the tokens still to come, and the nodes that have come
* `Yaml.Graph.ofTokens`: the graph that a whole text describes, if any
-/

namespace PodRedirect.Yaml

/-- The place of a node in the table of its document. -/
abbrev NodeId := Nat

/-- What a node consists of. The entries of a mapping are kept apart from the nodes whose entries
are merged into it. -/
inductive Content where
  | scalar (text : String)
  | sequence (items : List NodeId)
  | mapping (merged : List NodeId) (entries : List (NodeId × NodeId))
  deriving DecidableEq, Repr

/-- A node of a document. -/
structure Node where
  tag : Tag
  content : Content
  deriving DecidableEq, Repr

/-- The nodes of a document, and the one that the others belong to. -/
structure Graph where
  nodes : Array Node
  root : NodeId
  deriving Repr

/-- The content is a single text. -/
def Content.isScalar : Content → Bool
  | .scalar _ => true
  | .sequence _ | .mapping _ _ => false

/-- What the content of a node is, in a problem. -/
def Content.name : Content → String
  | .scalar _ => "scalar"
  | .sequence _ => "sequence"
  | .mapping _ _ => "mapping"

/-- The tokens still to come and the failure behind them, the nodes so far, those with names, the
meanings of the handles of tags, and how many more collections may be nested here. -/
structure Composer where
  tokens : List Token
  failure : Failure
  nodes : Array Node
  anchors : List (String × NodeId)
  handles : List (String × String)
  levels : Nat

/-- A step of the composition. -/
abbrev Compose := StateT Composer (Except Failure)

namespace Compose

/-- The next token. -/
def peek : Compose Token := do
  let c ← get
  match c.tokens with
  | t :: _ => return t
  | [] => throw c.failure

/-- Passes over the next token. -/
def drop : Compose Unit :=
  modify fun c => { c with tokens := c.tokens.tail }

/-- Passes over the next token, which has to be `t`: in words, what was expected instead of another
one. -/
def expect (t : Token) (inWords : String) : Compose Unit := do
  let next ← peek
  if next = t then drop
  else throw (.refused ("expected " ++ inWords ++ " " ++ Text.quoted next.name))

/-- Puts a node into the table, and gives it its name if it has one. -/
def place (name : Option String) (node : Node) : Compose NodeId :=
  modifyGet fun c =>
    (c.nodes.size,
      { c with
        nodes := c.nodes.push node
        anchors := name.elim c.anchors fun a => (a, c.nodes.size) :: c.anchors })

/-- An empty node. -/
def empty : Compose NodeId := place none ⟨.null, .scalar ""⟩

/-- The node of a scalar. -/
def scalar (name tag : Option String) (text : String) (plain : Bool) : Compose NodeId :=
  let kind := match tag with
    | none => if plain then Tag.ofPlain text else .text
    | some t => if t = "!" then Tag.ofPlain text else Tag.ofName t
  place name ⟨kind, .scalar text⟩

/-- The kind of a collection. -/
def collectionTag (tag : Option String) (usual : Tag) : Tag :=
  match tag with
  | none => usual
  | some name => if name = "!" then usual else Tag.ofName name

/-- An anchor, if one comes next. -/
def anchor? : Compose (Option String) := do
  match ← peek with
  | .anchor name => drop; return some name
  | _ => return none

/-- The handle and the suffix of a tag, if one comes next. -/
def tag? : Compose (Option (Option String × String)) := do
  match ← peek with
  | .tag handle suffix => drop; return some (handle, suffix)
  | _ => return none

/-- The name that a handle and a suffix stand for. -/
def tagName (handle : Option String) (suffix : String) : Compose String := do
  match handle with
  | none => return suffix
  | some h =>
    match (← get).handles.lookup h with
    | some meaning => return meaning ++ suffix
    | none => throw (.refused ("found undefined tag handle " ++ Text.quoted h))

/-- The anchor of a node and the name of its tag, in either order. -/
def properties : Compose (Option String × Option String) := do
  let first ← anchor?
  let tag ← tag?
  let anchor ← if first.isNone && tag.isSome then anchor? else pure first
  match tag with
  | none => return (anchor, none)
  | some (handle, suffix) => return (anchor, some (← tagName handle suffix))

/-- The node with the given name. -/
def named (name : String) : Compose NodeId := do
  match (← get).anchors.lookup name with
  | some id => return id
  | none => throw (.refused ("found undefined alias " ++ Text.quoted name))

/-- The content of a mapping with the given entries: those with a key that stands for merging tell
what is merged. -/
def mappingContent (nodes : Array Node) (entries : List (NodeId × NodeId)) : Content :=
  let merges := fun e : NodeId × NodeId => nodes[e.1]?.any (·.tag = .merge)
  .mapping ((entries.filter merges).map Prod.snd) (entries.filter (!merges ·))

/-- Reads the members of a collection, which are nested one level deeper. -/
def deeper {α : Type} (members : Compose α) : Compose α := do
  let levels := (← get).levels
  if levels = 0 then throw (.fault .exhausted)
  modify fun c => { c with levels := levels - 1 }
  let found ← members
  modify fun c => { c with levels := levels }
  return found

/-- A sequence. Its place is taken and its name is given before its members are read, so that these
may refer to it. -/
def sequence (name tag : Option String) (members : Compose (List NodeId)) : Compose NodeId := do
  let kind := collectionTag tag .sequence
  let id ← place name ⟨kind, .sequence []⟩
  let items ← deeper members
  modify fun c => { c with nodes := c.nodes.setIfInBounds id ⟨kind, .sequence items⟩ }
  return id

/-- A mapping, whose place and name come before its entries too. -/
def mapping (name tag : Option String) (members : Compose (List (NodeId × NodeId))) :
    Compose NodeId := do
  let kind := collectionTag tag .mapping
  let id ← place name ⟨kind, .mapping [] []⟩
  let entries ← deeper members
  modify fun c =>
    { c with nodes := c.nodes.setIfInBounds id ⟨kind, mappingContent c.nodes entries⟩ }
  return id

mutual

/-- A node. Outside brackets it may be a block, and as the value of a mapping also a list without
indentation. Every round goes one token further or one node deeper. -/
def node (fuel : Nat) (inBlock indentless : Bool) : Compose NodeId := do
  match fuel with
  | 0 => throw (.fault .exhausted)
  | fuel + 1 =>
    if let .alias name := ← peek then
      drop
      return ← named name
    let (name, tag) ← properties
    let next ← peek
    let anchors := (← get).anchors
    if let some a := name then
      if (anchors.lookup a).isSome then
        throw (.refused ("found duplicate anchor " ++ Text.quoted a))
    let missing :=
      if name.isSome || tag.isSome then scalar name tag "" true
      else throw (.refused ("expected the node content, but found " ++ Text.quoted next.name))
    match next with
    | .scalar text plain => drop; scalar name tag text plain
    | .flowSequenceStart => drop; sequence name tag (flowItems fuel true)
    | .flowMappingStart => drop; mapping name tag (flowEntries fuel true)
    | .blockEntry =>
      if indentless then sequence name tag (blockItems fuel true) else missing
    | .blockSequenceStart =>
      if inBlock then drop; sequence name tag (blockItems fuel false) else missing
    | .blockMappingStart =>
      if inBlock then drop; mapping name tag (blockEntries fuel) else missing
    | _ => missing

/-- The members of a list in a block. One without indentation ends where no member starts. -/
def blockItems (fuel : Nat) (indentless : Bool) : Compose (List NodeId) := do
  match fuel with
  | 0 => throw (.fault .exhausted)
  | fuel + 1 =>
    if (← peek) = .blockEntry then
      drop
      let next ← peek
      let isEmpty := next = .blockEntry || next = .blockEnd ||
        (indentless && (next = .key || next = .value))
      let item ← if isEmpty then empty else node fuel true false
      return item :: (← blockItems fuel indentless)
    else
      if !indentless then expect .blockEnd "<block end>, but found"
      return []

/-- The entries of a mapping in a block. -/
def blockEntries (fuel : Nat) : Compose (List (NodeId × NodeId)) := do
  match fuel with
  | 0 => throw (.fault .exhausted)
  | fuel + 1 =>
    let isEmpty := fun next => next = Token.key || next = .value || next = .blockEnd
    match ← peek with
    | .key =>
      drop
      let key ← if isEmpty (← peek) then empty else node fuel true true
      let value ← blockValue fuel
      return (key, value) :: (← blockEntries fuel)
    | _ =>
      expect .blockEnd "<block end>, but found"
      return []

/-- The value of an entry of a mapping in a block, which may be missing. -/
def blockValue (fuel : Nat) : Compose NodeId := do
  match fuel with
  | 0 => throw (.fault .exhausted)
  | fuel + 1 =>
    if (← peek) = .value then
      drop
      let next ← peek
      if next = .key || next = .value || next = .blockEnd then empty else node fuel true true
    else empty

/-- The members of a list between brackets, where `first` tells that none has been read. A member
with a colon is a mapping of one entry. -/
def flowItems (fuel : Nat) (first : Bool) : Compose (List NodeId) := do
  match fuel with
  | 0 => throw (.fault .exhausted)
  | fuel + 1 =>
    if (← peek) = .flowSequenceEnd then
      drop
      return []
    if !first then expect .flowEntry "',' or ']', but got"
    match ← peek with
    | .key =>
      drop
      let next ← peek
      let key ←
        if next = .value || next = .flowEntry || next = .flowSequenceEnd then empty
        else node fuel false false
      let entry ← mapping none none do return [(key, ← flowValue fuel .flowSequenceEnd)]
      return entry :: (← flowItems fuel false)
    | .flowSequenceEnd =>
      drop
      return []
    | _ =>
      let item ← node fuel false false
      return item :: (← flowItems fuel false)

/-- The entries of a mapping between brackets, where `first` tells that none has been read. A node
without a colon is a key without a value. -/
def flowEntries (fuel : Nat) (first : Bool) : Compose (List (NodeId × NodeId)) := do
  match fuel with
  | 0 => throw (.fault .exhausted)
  | fuel + 1 =>
    if (← peek) = .flowMappingEnd then
      drop
      return []
    if !first then expect .flowEntry "',' or '\x7d', but got"
    match ← peek with
    | .key =>
      drop
      let next ← peek
      let key ←
        if next = .value || next = .flowEntry || next = .flowMappingEnd then empty
        else node fuel false false
      let value ← flowValue fuel .flowMappingEnd
      return (key, value) :: (← flowEntries fuel false)
    | .flowMappingEnd =>
      drop
      return []
    | _ =>
      let key ← node fuel false false
      return (key, ← empty) :: (← flowEntries fuel false)

/-- The value of an entry between brackets that `close` ends, which may be missing. -/
def flowValue (fuel : Nat) (close : Token) : Compose NodeId := do
  match fuel with
  | 0 => throw (.fault .exhausted)
  | fuel + 1 =>
    if (← peek) = .value then
      drop
      let next ← peek
      if next = .flowEntry || next = close then empty else node fuel false false
    else empty

end

/-! ## Documents -/

/-- The meanings that handles have unless a directive says otherwise. -/
def usualHandles : List (String × String) := [("!", "!"), ("!!", commonTag)]

/-- The directives in front of a document: one version at most, which has to be a first one, and
each handle once. -/
def directives : (fuel : Nat) → (versioned : Bool) → (handles : List (String × String)) →
    Compose (List (String × String))
  | 0, _, _ => throw (.fault .exhausted)
  | fuel + 1, versioned, handles => do
    match ← peek with
    | .directive (.version major) =>
      drop
      if versioned then throw (.refused "found duplicate YAML directive")
      if major ≠ 1 then
        throw (.refused "found incompatible YAML document (version 1.* is required)")
      directives fuel true handles
    | .directive (.handle name meaning) =>
      drop
      if (handles.lookup name).isSome then
        throw (.refused ("duplicate tag handle " ++ Text.quoted name))
      directives fuel versioned ((name, meaning) :: handles)
    | .directive .other => drop; directives fuel versioned handles
    | _ => return handles

/-- Passes over marks of the end of a document. -/
def documentEnds : (fuel : Nat) → Compose Unit
  | 0 => throw (.fault .exhausted)
  | fuel + 1 => do
    if (← peek) = .documentEnd then
      drop
      documentEnds fuel

/-- The node of a document whose start is marked, which may be missing. -/
def content (fuel : Nat) : Compose NodeId := do
  match ← peek with
  | .directive _ | .documentStart | .documentEnd | .streamEnd => empty
  | _ => node fuel true false

/-- The start of a document that is marked: the directives in front of it and the mark. -/
def start (fuel : Nat) : Compose (List (String × String)) := do
  let handles ← directives fuel false []
  expect .documentStart "'<document start>', but found"
  return handles

/-- The only document of a text, if there is one. -/
def document (fuel : Nat) : Compose (Option NodeId) := do
  let next ← peek
  if next = .streamEnd then return none
  let isMarked := match next with
    | .directive _ | .documentStart => true
    | _ => false
  let root ←
    if isMarked then do
      let handles ← start fuel
      modify fun c => { c with handles := handles ++ usualHandles }
      content fuel
    else node fuel true false
  documentEnds fuel
  if (← peek) ≠ .streamEnd then
    -- the start of another document has to be sound, or it is reported first
    let _ ← start fuel
    throw (.refused "expected a single document in the stream, but found another document")
  return some root

end Compose

/-- The graph that a whole text describes, if any. No token is passed over twice, and between two of
them no more than four rounds go deeper. A collection takes two calls, one for its node and one for
its members. -/
def Graph.ofTokens (ts : Tokens) : Except Failure (Option Graph) := do
  let fuel := 4 * ts.tokens.length + 8
  let (root, c) ← (Compose.document fuel).run
    ⟨ts.tokens, ts.failure, #[], [], Compose.usualHandles, Numeral.callLimit / 2⟩
  return root.map (⟨c.nodes, ·⟩)

end PodRedirect.Yaml
