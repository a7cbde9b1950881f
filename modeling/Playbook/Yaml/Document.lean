import Playbook.Value
import Playbook.Yaml.Node
import Playbook.Yaml.ScalarValue

/-!
# Documents

The value of the graph of a document. Scalars have their values at once; a collection is entered
first and its parts are found later, in the order in which the collections were met, so of two
problems the one nearer to the root is reported. Mappings take in the pairs of the mappings they
merge before they are read.

Main definitions:

- `Yaml.Assembly`: the parts found so far, by node;
- `Yaml.sharedNodes`: the nodes that can be come to in more than one way;
- `Yaml.Graph.value`: the value of a graph;
- `Yaml.ofText`, `Yaml.ofBytes`: the value of the only document of a source.
-/

namespace Playbook.Yaml

/-- Why a source has no value. -/
inductive LoadFault where
  /-- It is no document. -/
  | document (e : Error)
  /-- The conversion of a scalar failed. -/
  | failure (f : Failure)

/-- What the fault is. -/
def LoadFault.message : LoadFault → String
  | .document e => e.message
  | .failure f => f.message

/-- What a node has become. -/
inductive Part where
  /-- A scalar. -/
  | scalar (s : Scalar)
  /-- A list. -/
  | list (items : List NodeId)
  /-- A list of pairs, each with the node it comes from. -/
  | pairs (items : List (NodeId × NodeId × NodeId))
  /-- A mapping: every key once. -/
  | map (entries : List (Scalar × NodeId))
  /-- A set. -/
  | set (members : List Scalar)
deriving Inhabited

/-- The types of collections. -/
inductive CollectionType where
  /-- A list. -/
  | seq
  /-- A mapping. -/
  | map
  /-- A set. -/
  | set
  /-- A list of pairs with the context that messages name. -/
  | pairs (context : String)
deriving DecidableEq, Repr

/-- The type of collection that a tag asks for. -/
def CollectionType.ofTag? (tag : String) : Option CollectionType :=
  if tag = coreTag "seq" then some .seq
  else if tag = coreTag "map" then some .map
  else if tag = coreTag "set" then some .set
  else if tag = coreTag "omap" then some (.pairs "while constructing an ordered map")
  else if tag = coreTag "pairs" then some (.pairs "while constructing pairs")
  else none

/-- The state of finding values. -/
structure Assembly where
  /-- The nodes; merging changes them. -/
  nodes : Array Node
  /-- What nodes have become. -/
  parts : Array (Option Part)
  /-- The collections entered whose parts are still to be found, last one first. -/
  waiting : List (NodeId × CollectionType)

/-- What can go wrong. -/
inductive AssemblyFault where
  /-- A problem of the document. -/
  | trouble (t : Trouble)
  /-- A failed conversion. -/
  | failure (f : Failure)

/-- Finding values. -/
abbrev Assemble := StateT Assembly (Except AssemblyFault)

namespace Assemble

/-- A problem of the document. -/
def wrong {α : Type} (t : Trouble) : Assemble α := throw (.trouble t)

/-- A node by its number. -/
def node (id : NodeId) : Assemble Node := do return (← get).nodes.getD id default

/-- Change a node. -/
def modifyNode (id : NodeId) (f : Node → Node) : Assemble Unit :=
  modify fun a => { a with nodes := a.nodes.modify id f }

/-- Say what a node has become. -/
def put (id : NodeId) (part : Part) : Assemble Unit :=
  modify fun a => { a with parts := a.parts.setIfInBounds id (some part) }

/-- The tag of the key whose value stands for the whole mapping. -/
def valueTag : String := coreTag "value"

/-- The failure of a mapping that has itself as the value of its key `=`. -/
def endlessText : Failure := ⟨.depth, "maximum recursion depth exceeded"⟩

/-- The text of a scalar. A mapping has the text of the value of its key `=`, if there is one. -/
def scalarText : Nat → NodeId → Assemble String
  | 0, _ => throw (.failure endlessText)
  | fuel + 1, id => do
    let n ← node id
    let notScalar : Assemble String :=
      wrong (.plain ("expected a scalar node, but found " ++ n.content.name) n.start)
    match n.content with
    | .scalar text => return text
    | .sequence _ => notScalar
    | .mapping pairs =>
      let a ← get
      -- The mapping may come to itself in this way, so the search has an end of its own.
      match pairs.find? fun (k, _) => (a.nodes.getD k default).tag == valueTag with
      | some (_, v) => scalarText fuel v
      | none => notScalar

/-- The value of a scalar of a type. -/
def scalarValue (id : NodeId) (type : ScalarType) : Assemble Scalar := do
  let text ← scalarText ((← get).nodes.size + 1) id
  let n ← node id
  match type, n.content with
  | .timestamp, .mapping _ =>
    -- A time is matched against the content of the node itself, and that is a list of pairs.
    throw (.failure (.type "expected string or bytes-like object, got 'list'"))
  | _, _ =>
    match type.read text with
    | .ok s => return s
    | .error (.failure f) => throw (.failure f)
    | .error (.binary problem) => wrong (.plain problem n.start)

/-- The mark of a node. -/
def markOf (id : NodeId) : Nat := 2 * id + 2

/-- The mark of the pair that comes from a node. -/
def pairMark (id : NodeId) : Nat := 2 * id + 3

/-- A scalar as a node has it: what denotes no number bears the mark of the node, unless it has one
already. -/
def identified (id : NodeId) (s : Scalar) : Scalar :=
  match s with
  | .float x => if x.isNaN && x.mark == 0 then s.withMark (markOf id) else s
  | s => s

/-- Enter a node: a scalar is found at once, a collection has to wait. -/
def enter (id : NodeId) : Assemble Unit := do
  if ((← get).parts.getD id none).isSome then return ()
  let n ← node id
  match ScalarType.ofTag? n.tag, CollectionType.ofTag? n.tag with
  | some type, _ => put id (.scalar (identified id (← scalarValue id type)))
  | none, some type =>
    put id (match type with
      | .seq => .list []
      | .pairs _ => .pairs []
      | .map => .map []
      | .set => .set [])
    modify fun a => { a with waiting := (id, type) :: a.waiting }
  | none, none =>
    wrong (.plain ("could not determine a constructor for the tag " ++ Literal.text n.tag) n.start)

/-! ### Merging -/

/-- The tag of the key that merges other mappings. -/
def mergeTag : String := coreTag "merge"

mutual

/-- Take in the pairs of the mappings that a mapping merges: they come before its own. -/
def flatten : Nat → NodeId → Assemble Unit
  | 0, _ => return ()
  | fuel + 1, id => do
    let merged ← flattenFrom fuel id 0 []
    if !merged.isEmpty then
      modifyNode id fun n => match n.content with
        | .mapping pairs => { n with content := .mapping (merged ++ pairs) }
        | _ => n

/-- Go through the pairs of a mapping from a position on: remove the merging ones and collect what
they merge. -/
def flattenFrom : Nat → NodeId → Nat → List (NodeId × NodeId) → Assemble (List (NodeId × NodeId))
  | 0, _, _, merged => return merged
  | fuel + 1, id, i, merged => do
    let n ← node id
    let pairs := match n.content with
      | .mapping pairs => pairs
      | _ => []
    match pairs[i]? with
    | none => return merged
    | some (k, v) =>
      let key ← node k
      if key.tag = mergeTag then
        -- The pair is taken out before the mapping that it names is gone through, since this may
        -- be the same one; what follows then stands at the same position.
        modifyNode id fun n => { n with content := .mapping (pairs.eraseIdx i) }
        let value ← node v
        match value.content with
        | .mapping _ =>
          flatten fuel v
          let more := match (← node v).content with
            | .mapping pairs => pairs
            | _ => []
          flattenFrom fuel id i (merged ++ more)
        | .sequence items =>
          -- Of several mappings the first one counts, so it has to come last.
          let groups ← mergeItems fuel n.start items
          flattenFrom fuel id i (merged ++ groups.reverse.flatten)
        | content =>
          wrong (.within "while constructing a mapping" n.start
            ("expected a mapping or list of mappings for merging, but found " ++ content.name)
            value.start)
      else
        if key.tag = valueTag then modifyNode k fun n => { n with tag := coreTag "str" }
        flattenFrom fuel id (i + 1) merged

/-- The pairs of each mapping of a list of mappings to be merged. -/
def mergeItems : Nat → Mark → List NodeId → Assemble (List (List (NodeId × NodeId)))
  | 0, _, _ => return []
  | _, _, [] => return []
  | fuel + 1, began, item :: rest => do
    let n ← node item
    match n.content with
    | .mapping _ =>
      flatten fuel item
      let pairs := match (← node item).content with
        | .mapping pairs => pairs
        | _ => []
      return pairs :: (← mergeItems fuel began rest)
    | content =>
      wrong (.within "while constructing a mapping" began
        ("expected a mapping for merging, but found " ++ content.name) n.start)

end

/-! ### Collections -/

/-- Set the value of a key: in its place if the key is there, at the end otherwise. -/
def insertKey (key : Scalar) (value : NodeId) : List (Scalar × NodeId) → List (Scalar × NodeId)
  | [] => [(key, value)]
  | (k, v) :: rest =>
    if k.sameKey key then (k, value) :: rest else (k, v) :: insertKey key value rest

/-- How many steps merging may take: more than all pairs and items together, once for each node. -/
def mergeFuel : Assemble Nat := do
  let a ← get
  let sizes := a.nodes.foldl (fun acc n => acc + match n.content with
    | .scalar _ => 1
    | .sequence items => items.length + 1
    | .mapping pairs => pairs.length + 1) 2
  return sizes * (a.nodes.size + 2)

/-- Take in what a node merges, if it is a mapping. -/
def merge (id : NodeId) : Assemble Unit := do
  match (← node id).content with
  | .mapping _ => flatten (← mergeFuel) id
  | _ => return ()

/-- The entries that the pairs of a mapping give. -/
def readEntries (id : NodeId) : Assemble (List (Scalar × NodeId)) := do
  let n ← node id
  match n.content with
  | .mapping pairs =>
    pairs.foldlM (fun entries (k, v) => do
      enter k
      match ((← get).parts.getD k none) with
      | some (.scalar key) =>
        enter v
        return insertKey key v entries
      | _ =>
        wrong (.within "while constructing a mapping" n.start "found unhashable key"
          (← node k).start)) []
  | content => wrong (.plain ("expected a mapping node, but found " ++ content.name) n.start)

/-- The entries of a mapping. -/
def entriesOf (id : NodeId) : Assemble (List (Scalar × NodeId)) := do
  merge id
  readEntries id

/-- The pairs of a list of mappings with one pair each. -/
def pairsOf (context : String) (id : NodeId) : Assemble (List (NodeId × NodeId × NodeId)) := do
  let n ← node id
  match n.content with
  | .sequence items =>
    items.mapM fun item => do
      let m ← node item
      match m.content with
      | .mapping [(k, v)] =>
        enter k
        enter v
        return (item, k, v)
      | .mapping pairs =>
        wrong (.within context n.start
          ("expected a single mapping item, but found " ++ toString pairs.length ++ " items")
          m.start)
      | content =>
        wrong (.within context n.start
          ("expected a mapping of length 1, but found " ++ content.name) m.start)
  | content =>
    wrong (.within context n.start ("expected a sequence, but found " ++ content.name) n.start)

/-- Find the parts of a collection. -/
def complete (id : NodeId) (type : CollectionType) : Assemble Unit := do
  match type with
  | .seq =>
    let n ← node id
    match n.content with
    | .sequence items =>
      items.forM enter
      put id (.list items)
    | content => wrong (.plain ("expected a sequence node, but found " ++ content.name) n.start)
  | .map => put id (.map (← entriesOf id))
  | .set => put id (.set ((← entriesOf id).map (·.1)))
  | .pairs context => put id (.pairs (← pairsOf context id))

/-- Find the parts of all collections that wait, of those that wait then, and so on. -/
def completeAll : Nat → Assemble Unit
  | 0 => return ()
  | fuel + 1 => do
    let waiting := (← get).waiting.reverse
    if waiting.isEmpty then return ()
    -- Finding the parts of these may make others wait.
    modify fun a => { a with waiting := [] }
    waiting.forM fun (id, type) => complete id type
    completeAll fuel

end Assemble

/-! ### Values -/

namespace Part

/-- The nodes that a part refers to. -/
def references : Part → List NodeId
  | .scalar _ => []
  | .list items => items
  | .pairs items => items.flatMap fun (_, k, v) => [k, v]
  | .map entries => entries.map (·.2)
  | .set _ => []

/-- The shape of a collection. -/
def shape? : Part → Option Shape
  | .scalar _ => none
  | .list _ => some .list
  | .pairs _ => some .list
  | .map _ => some .map
  | .set _ => some .set

end Part

/-- How often each node is referred to. -/
def referenceCounts (parts : Array (Option Part)) : Array Nat :=
  parts.foldl (fun counts part =>
    match part with
    | some p => p.references.foldl (fun counts id => counts.modify id (· + 1)) counts
    | none => counts) (Array.replicate parts.size 0)

/-- Note a node and all nodes that it refers to, and so on; the number bounds the depth. -/
def spread (parts : Array (Option Part)) : Nat → Array Bool → NodeId → Array Bool
  | 0, found, _ => found
  | fuel + 1, found, id =>
    if found.getD id true then found
    else
      let references := ((parts.getD id none).map Part.references).getD []
      references.foldl (spread parts fuel) (found.setIfInBounds id true)

/-- Which nodes can be come to in more than one way: those that are referred to more than once, and
what they refer to. -/
def sharedNodes (parts : Array (Option Part)) (counts : Array Nat) : Array Bool :=
  let several := (List.range counts.size).filter fun id => 1 < counts.getD id 0
  several.foldl (spread parts (parts.size + 1)) (Array.replicate parts.size false)

/-- The value of a node. What can be come to in more than one way is marked by its number, and a
collection inside itself is only named. -/
def valueOf (parts : Array (Option Part)) (shared : Array Bool) :
    Nat → List NodeId → NodeId → Value
  | 0, _, _ => .null
  | fuel + 1, above, id =>
    let part := (parts.getD id none).getD default
    match part.shape? with
    | some shape =>
      if above.contains id then .again shape (Assemble.markOf id) -- it is inside itself
      else
        let isShared := shared.getD id false
        let mark := if isShared then some (Assemble.markOf id) else none
        let one := valueOf parts shared fuel (id :: above)
        match part with
        | .scalar s => .scalar s
        | .list items => .list mark (items.map one)
        | .pairs items => .list mark (items.map fun (item, k, v) =>
            .tuple (if isShared then some (Assemble.pairMark item) else none) [one k, one v])
        | .map entries => .map mark (entries.map fun (k, v) => (.scalar k, one v))
        | .set members => .set mark (members.map .scalar)
    | none =>
      match part with
      | .scalar s =>
        let bare := s.mark? == some 0 && shared.getD id false
        .scalar (if bare then s.withMark (Assemble.markOf id) else s)
      | _ => .null

/-- The value of a graph. -/
def Graph.value (g : Graph) : Except AssemblyFault Value :=
  match g.root with
  | none => .ok .null
  | some root =>
    let work : Assemble Unit := do
      Assemble.enter root
      Assemble.completeAll (g.nodes.size + 2)
    match work.run ⟨g.nodes, Array.replicate g.nodes.size none, []⟩ with
    | .ok ((), a) =>
      -- The document itself refers to its root.
      let counts := (referenceCounts a.parts).modify root (· + 1)
      .ok (valueOf a.parts (sharedNodes a.parts counts) (g.nodes.size + 1) [] root)
    | .error f => .error f

/-- The value of the only document of a source. -/
def ofSource (s : Source) : Except LoadFault Value :=
  match Graph.ofTokens (tokens s) with
  | .error (.trouble stage t) => .error (.document (.marked stage s t))
  | .error (.failure f) => .error (.failure f)
  | .ok g =>
    match g.value with
    | .ok v => .ok v
    | .error (.trouble t) => .error (.document (.marked .values s t))
    | .error (.failure f) => .error (.failure f)

/-- The value of the only document of a text. -/
def ofText (text : String) : Except LoadFault Value :=
  match Source.ofText text with
  | .ok s => ofSource s
  | .error e => .error (.document e)

/-- The value of the only document of a byte string. -/
def ofBytes (bytes : List UInt8) : Except LoadFault Value :=
  match Source.ofBytes bytes with
  | .ok s => ofSource s
  | .error e => .error (.document e)

end Playbook.Yaml
