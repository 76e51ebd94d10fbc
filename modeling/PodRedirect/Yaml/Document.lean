import PodRedirect.Yaml.Graph
import PodRedirect.Yaml.Scalar
import PodRedirect.Yaml.Token.Lexer

/-!
# The values of a document

Every node denotes a value of its kind, and a node that stands in several places denotes the same
value there. Lists, sets and mappings are made first and get their members later, in the order in
which they were made; so one of them may be a member of itself, and of several nodes that denote
nothing the one nearest to the root is reported, and of these the first.

The entries that are merged into a mapping come before its own. Of entries with the same key the
first gives the place and the last the value.

## Main definitions

* `Yaml.Meaning`: what a node denotes
* `Yaml.Document`: what the nodes of a document denote
* `Yaml.Builder`, `Yaml.Graph.build`: the document of a graph
* `Yaml.Document.view`: a value with its members
* `Yaml.read`: the document that a text holds
-/

namespace PodRedirect.Yaml

/-- What a node denotes: a single value, or the list, set or mapping that was made for a node. -/
inductive Meaning where
  | single (v : Value)
  | collection (n : NodeId)
  deriving Repr

/-- What a list, a set or a mapping consists of. The members of a list may be pairs. Those of a set
are single values, as keys are. -/
inductive Members where
  | list (items : List Meaning)
  | pairs (items : List (Meaning × Meaning))
  | set (items : List Value)
  | mapping (entries : List (Value × Meaning))
  deriving Repr

/-- A list, set or mapping without its members. -/
def Members.outline : Members → Value
  | .list _ | .pairs _ => .list []
  | .set _ => .set []
  | .mapping _ => .mapping []

/-- What a document denotes, with the members of the lists, sets and mappings that were made for its
nodes. -/
structure Document where
  root : Meaning
  members : Array (Option Members)
  deriving Repr

/-! ## Making values -/

/-- The nodes of a document, what has been made for them, and the collections without members yet,
the last one first. -/
structure Builder where
  nodes : Array Node
  made : Array (Option Meaning)
  members : Array (Option Members)
  waiting : List NodeId

/-- A step of making the values of a document. -/
abbrev Build := StateT Builder (Except Failure)

/-- A node whose content is not what its kind asks for. -/
def mismatch (expected : String) (found : Content) : Failure :=
  .refused ("expected " ++ expected ++ ", but found " ++ found.name)

/-- The scalar that a node of a scalar kind stands for: itself, or what a mapping holds for the key
of single values. Every mapping on the way takes a call. -/
def scalarText (nodes : Array Node) : (calls : Nat) → NodeId → Except Failure String
  | 0, _ => .error (.fault .exhausted)
  | calls + 1, n =>
    match nodes[n]?.map Node.content with
    | some (.scalar s) => .ok s
    | some (.mapping merged entries) =>
      match entries.find? fun e => nodes[e.1]?.any (·.tag = .default) with
      | some (_, v) => scalarText nodes calls v
      | none => .error (mismatch "a scalar node" (.mapping merged entries))
    | some other => .error (mismatch "a scalar node" other)
    | none => .error (.fault .exhausted)

namespace Build

/-- The node at a place of the table. -/
def look (n : NodeId) : Build Node := do
  match (← get).nodes[n]? with
  | some node => return node
  | none => throw (.fault .exhausted)

/-- Changes the node at a place of the table. -/
def change (n : NodeId) (f : Node → Node) : Build Unit :=
  modify fun b => { b with nodes := b.nodes.modify n f }

/-- What a node denotes. It is made once. -/
def make (n : NodeId) : Build Meaning := do
  let b ← get
  match b.made[n]?.join with
  | some m => return m
  | none =>
    let node ← look n
    let m ←
      if node.tag.isCollection then do
        modify fun b => { b with waiting := n :: b.waiting }
        pure (Meaning.collection n)
      else if node.tag.isSingle then
        let text ← scalarText b.nodes Numeral.callLimit n
        if node.tag = .time && !node.content.isScalar then throw (.fault .noText)
        pure (.single (← scalarValue node.tag text))
      else throw (noKind node.tag)
    modify fun b => { b with made := b.made.setIfInBounds n (some m) }
    return m

/-- The mappings whose entries a node contributes when it is merged: itself, or the members of a
list. -/
def mergeSources (n : NodeId) : Build (List NodeId) := do
  match (← look n).content with
  | .mapping _ _ => return [n]
  | .sequence items => return items
  | .scalar s => throw (mismatch "a mapping or list of mappings for merging" (.scalar s))

/-- The own entries of a mapping. -/
def entries (n : NodeId) : Build (List (NodeId × NodeId)) := do
  match (← look n).content with
  | .mapping _ es => return es
  | other => throw (mismatch "a mapping node" other)

/-- Makes the entries that are merged into a mapping its own, those of a list of mappings from the
last one to the first. From then on the key of single values is a text. Each round takes away one of
the nodes to be merged, and what is merged takes a call. -/
def flatten : (fuel calls : Nat) → NodeId → Build Unit
  | fuel + 1, calls + 1, n => do
    match (← look n).content with
    | .mapping (m :: ms) own =>
      change n fun node => { node with content := .mapping ms own }
      let found ← (← mergeSources m).mapM fun s => do
        flatten fuel calls s
        entries s
      flatten fuel (calls + 1) n
      let own ← entries n
      change n fun node => { node with content := .mapping [] (found.reverse.flatten ++ own) }
    | .mapping [] own =>
      for (key, _) in own do
        change key fun node => if node.tag = .default then { node with tag := .text } else node
    | other => throw (mismatch "a mapping for merging" other)
  | _, _, _ => throw (.fault .exhausted)

end Build

/-- A key of a mapping with the node that it was made for. Values that are no number are the same
key if they were made once, which is also so for all that were given by their name. -/
structure Key where
  value : Value
  node : NodeId
  isNamed : Bool

/-- The two keys are the same. -/
def Key.same (a b : Key) : Bool :=
  match a.value, b.value with
  | .float .nan, .float .nan => a.node = b.node || (a.isNamed && b.isNamed)
  | x, y => Value.sameKey x y

/-- The entries with the value of key `k` set to `v`: in the place and with the spelling of the same
key if there is one, at the end otherwise. -/
def Key.upsert (k : Key) (v : Meaning) : List (Key × Meaning) → List (Key × Meaning)
  | [] => [(k, v)]
  | (k', v') :: rest => if k'.same k then (k', v) :: rest else (k', v') :: k.upsert v rest

namespace Build

/-- The key that a node denotes. A list, set or mapping is none. -/
def key (n : NodeId) : Build Key := do
  match ← make n with
  | .single v =>
    let text := scalarText (← get).nodes Numeral.callLimit n
    return ⟨v, n, text.toOption.any isNanName⟩
  | .collection _ => throw (.refused "found unhashable key")

/-- The members of a mapping, after those that are merged into it have become its own. -/
def mappingMembers (n : NodeId) : Build (List (Value × Meaning)) := do
  let merges := (← get).nodes.foldl (fun total node =>
    match node.content with
    | .mapping merged _ => total + merged.length
    | _ => total) 0
  flatten (merges + 1) Numeral.callLimit n
  let es ← (← entries n).foldlM (fun es e => do
    let k ← key e.1
    return k.upsert (← make e.2) es) []
  return es.map fun e => (e.1.value, e.2)

/-- The pair that a mapping of a single entry denotes. Nothing is merged into this, and its key may
be of any kind. -/
def pairMembers (n : NodeId) : Build (Meaning × Meaning) := do
  match (← look n).content with
  | .mapping [] [(k, v)] => return (← make k, ← make v)
  | .mapping [_] [] => throw (noKind .merge)
  | .mapping merged es =>
    throw (.refused ("expected a single mapping item, but found " ++
      toString (merged.length + es.length) ++ " items"))
  | other => throw (mismatch "a mapping of length 1" other)

/-- Gives a list, set or mapping its members. -/
def fill (n : NodeId) : Build Unit := do
  let node ← look n
  let ms ←
    match node.tag, node.content with
    | .sequence, .sequence items => do pure (Members.list (← items.mapM make))
    | .pairs, .sequence items => do pure (.pairs (← items.mapM pairMembers))
    | .set, .mapping _ _ => do pure (.set ((← mappingMembers n).map Prod.fst))
    | .mapping, .mapping _ _ => do pure (.mapping (← mappingMembers n))
    | .sequence, other => throw (mismatch "a sequence node" other)
    | .pairs, other => throw (mismatch "a sequence" other)
    | _, other => throw (mismatch "a mapping node" other)
  modify fun b => { b with members := b.members.setIfInBounds n (some ms) }

/-- Gives members to all collections that wait for them, and to those that are made meanwhile. A
collection waits once, so that there are no more rounds than nodes. -/
def fillAll : (fuel : Nat) → Build Unit
  | 0 => throw (.fault .exhausted)
  | fuel + 1 => do
    let batch := (← get).waiting.reverse
    if !batch.isEmpty then
      modify fun b => { b with waiting := [] }
      batch.forM fill
      fillAll fuel

end Build

/-- The document of a graph. -/
def Graph.build (g : Graph) : Except Failure Document := do
  let size := g.nodes.size
  let steps : Build Meaning := do
    let root ← Build.make g.root
    Build.fillAll (size + 1)
    return root
  let (root, b) ← steps.run ⟨g.nodes, Array.replicate size none, Array.replicate size none, []⟩
  return ⟨root, b.members⟩

/-! ## Looking at values -/

namespace Document

/-- The members of the list, set or mapping of a node. -/
def membersOf (d : Document) (n : NodeId) : Members := d.members[n]?.join.getD (.list [])

/-- A list, set or mapping with what its members are seen as. -/
def collect (view : Meaning → Value) : Members → Value
  | .list items => .list (items.map view)
  | .pairs items => .list (items.map fun e => .pair (view e.1) (view e.2))
  | .set items => .set items
  | .mapping entries => .mapping (entries.map fun e => (e.1, view e.2))

/-- A value with its members, and so on down to the lists and mappings that it stands in. Each round
goes into a collection that is not among these. -/
def unfold (d : Document) : (fuel : Nat) → (outer : List NodeId) → Meaning → Value
  | _, _, .single v => v
  | 0, _, .collection n => .shared n (d.membersOf n).outline
  | fuel + 1, outer, .collection n =>
    .shared n (if outer.contains n then (d.membersOf n).outline
      else collect (d.unfold fuel (n :: outer)) (d.membersOf n))

/-- A value with its members. Each member is seen from itself, so that it is complete even where the
value is a part of it. -/
def view (d : Document) : Meaning → Value
  | .single v => v
  | .collection n => .shared n (collect (d.unfold (d.members.size + 1) []) (d.membersOf n))

/-- The document denotes nothing. -/
def isNull (d : Document) : Bool :=
  match d.root with
  | .single .null => true
  | _ => false

/-- The name of the kind of the value. -/
def kind (d : Document) : String :=
  match d.root with
  | .single v => v.kind
  | .collection n => (d.membersOf n).outline.kind

/-- The entries of a document that denotes a mapping. -/
def entries? (d : Document) : Option (List (Value × Meaning)) :=
  match d.root with
  | .single _ => none
  | .collection n =>
    match d.membersOf n with
    | .mapping entries => some entries
    | .list _ | .pairs _ | .set _ => none

end Document

/-- The document that a text holds; a text without a document denotes nothing. -/
def read (s : String) : Except Failure Document := do
  match ← Graph.ofTokens (Tokens.ofText s) with
  | none => return ⟨.single .null, #[]⟩
  | some g => g.build

end PodRedirect.Yaml
