import Playbook.Yaml.Schema
import Playbook.Yaml.Token.Stream

/-!
# Nodes

The tokens of a document form a graph of nodes: scalars, sequences and mappings with their tags.
A node can be named, and an alias is the node of that name, so a node may be reached on several
ways and may contain itself.

The grammar is read by recursion on nodes. Each step takes tokens from the front, and running into
the fault that ended the tokens is a fault of reading.

Main definitions:

- `Yaml.Node`, `Yaml.Graph`: nodes, and all nodes of a document with its root;
- `Yaml.Graph.ofTokens`: the graph of a source with a single document.
-/

namespace Playbook.Yaml

/-- The number of a node in its graph. -/
abbrev NodeId := Nat

/-- What a node holds. -/
inductive Content where
  /-- A text. -/
  | scalar (text : String)
  /-- Items. -/
  | sequence (items : List NodeId)
  /-- Keys and values. -/
  | mapping (pairs : List (NodeId × NodeId))
deriving DecidableEq, Repr, Inhabited

/-- The name of a kind of node. -/
def Content.name : Content → String
  | .scalar _ => "scalar"
  | .sequence _ => "sequence"
  | .mapping _ => "mapping"

/-- A node. -/
structure Node where
  /-- Its tag. -/
  tag : String
  /-- What it holds. -/
  content : Content
  /-- Where it starts. -/
  start : Mark
deriving DecidableEq, Repr, Inhabited

/-- The nodes of a document. -/
structure Graph where
  /-- The nodes by number. -/
  nodes : Array Node
  /-- The root; none if the source is empty. -/
  root : Option NodeId
deriving Repr

/-- Why a source has no graph. -/
inductive Fault where
  /-- A problem found at a stage. -/
  | trouble (stage : Stage) (t : Trouble)
  /-- A failed conversion. -/
  | failure (f : Failure)
deriving Repr

namespace Fault

/-- The fault of a token stream. -/
def ofScalarFault : ScalarFault → Fault
  | .trouble t => .trouble .tokens t
  | .failure f => .failure f

end Fault

/-! ### The state of building -/

/-- The state of building a graph. -/
structure Builder where
  /-- The tokens still to be read. -/
  tokens : List Token
  /-- What ended the tokens before their time. -/
  fault : Option ScalarFault
  /-- What the tag handles of the document stand for. -/
  handles : List (String × String)
  /-- The named nodes. -/
  anchors : List (String × NodeId)
  /-- The nodes so far. -/
  nodes : Array Node

/-- Building with a state and faults. -/
abbrev Build := StateT Builder (Except Fault)

namespace Build

/-- A problem with the structure of the tokens. -/
def wrong {α : Type} (t : Trouble) : Build α := throw (.trouble .events t)

/-- The next token, which stays. -/
def peek : Build Token := do
  let b ← get
  match b.tokens, b.fault with
  | t :: _, _ => return t
  | [], some f => throw (.ofScalarFault f)
  -- A stream that ends without a fault ends with the token for its end, which is never taken.
  | [], none => return ⟨.streamEnd, Mark.start, Mark.start⟩

/-- Take the next token. -/
def take : Build Token := do
  let t ← peek
  modify fun b => { b with tokens := b.tokens.tail }
  return t

/-- Add a node. -/
def add (n : Node) : Build NodeId := do
  let b ← get
  set { b with nodes := b.nodes.push n }
  return b.nodes.size

/-- Say what a node holds. -/
def fill (id : NodeId) (content : Content) : Build Unit :=
  modify fun b => { b with nodes := b.nodes.modify id fun n => { n with content } }

/-- Name a node. -/
def name (anchor : Option String) (id : NodeId) : Build Unit :=
  match anchor with
  | some a => modify fun b => { b with anchors := b.anchors ++ [(a, id)] }
  | none => pure ()

/-- An empty scalar without a tag, at a place. -/
def addEmpty (at_ : Mark) : Build NodeId := add ⟨implicitTag "", .scalar "", at_⟩

end Build

/-! ### Properties of nodes -/

/-- The properties in front of a node. -/
structure Properties where
  /-- The name. -/
  anchor : Option String
  /-- The tag, in full. -/
  tag : Option String
  /-- Where the properties start, if there are any. -/
  start : Option Mark

namespace Build

/-- Take a name, if one comes next. -/
def takeAnchor : Build (Option (String × Mark)) := do
  let t ← peek
  match t.kind with
  | .anchor name => let _ ← take; return some (name, t.start)
  | _ => return none

/-- Take a tag, if one comes next. -/
def takeTag : Build (Option ((Option String × String) × Mark)) := do
  let t ← peek
  match t.kind with
  | .tag handle suffix => let _ ← take; return some ((handle, suffix), t.start)
  | _ => return none

/-- Take the properties in front of a node: a name and a tag in either order. -/
def takeProperties : Build Properties := do
  let anchor ← takeAnchor
  let tag ← takeTag
  let anchor ← match anchor, tag with
    | none, some _ => do
      -- Behind a tag the name is not where the properties start.
      let a ← takeAnchor
      pure (a.map fun (name, _) => (name, none))
    | a, _ => pure (a.map fun (name, m) => (name, some m))
  let start := (anchor.bind fun (_, m) => m).or (tag.map fun (_, m) => m)
  let full ← match tag with
    | none => pure none
    | some ((none, suffix), _) => pure (some suffix)
    | some ((some handle, suffix), at_) =>
      match (← get).handles.find? fun (h, _) => h == handle with
      | some (_, stem) => pure (some (stem ++ suffix))
      | none =>
        wrong ⟨some "while parsing a node", start,
          "found undefined tag handle " ++ Literal.text handle, at_⟩
  return ⟨anchor.map (·.1), full, start⟩

/-- Refuse a name that is taken. -/
def checkAnchor (anchor : Option String) (start : Mark) : Build Unit := do
  match anchor with
  | none => pure ()
  | some a =>
    let b ← get
    match b.anchors.find? fun (n, _) => n == a with
    | none => pure ()
    | some (_, id) =>
      let first := (b.nodes.getD id default).start
      throw (.trouble .nodes ⟨some ("found duplicate anchor " ++ Literal.text a ++
        "; first occurrence"), some first, "second occurrence", start⟩)

/-- The tag of a collection: the one written, unless it is the lone mark. -/
def collectionTag (tag : Option String) (type : String) : String :=
  match tag with
  | none => coreTag type
  | some t => if t = "!" then coreTag type else t

/-- The tag of a scalar: the one written; without one, or with the lone mark, the one its text
implies, but a quoted text without a tag is a string. -/
def scalarTag (tag : Option String) (plain : Bool) (text : String) : String :=
  match tag with
  | none => if plain then implicitTag text else coreTag "str"
  | some t => if t = "!" then implicitTag text else t

/-- Add a collection, to be filled, under its name. -/
def addCollection (p : Properties) (type : String) (content : Content) (start : Mark) :
    Build NodeId := do
  checkAnchor p.anchor start
  let id ← add ⟨collectionTag p.tag type, content, start⟩
  name p.anchor id
  return id

/-! ### The grammar -/

/-- Where a node stands, which decides what it may be. -/
inductive Place where
  /-- Inside brackets. -/
  | flow
  /-- In a block. -/
  | block
  /-- In a mapping of a block, where items may be indented like their key. -/
  | entry
deriving DecidableEq

/-- Whether a token ends an entry of a block mapping before its key or value. -/
def endsBlockEntry : TokenKind → Bool
  | .key | .value | .blockEnd => true
  | _ => false

/-- Whether a token ends a key between brackets. -/
def endsFlowKey : TokenKind → Bool
  | .value | .flowEntry | .flowSequenceEnd => true
  | _ => false

/-- Whether a token ends a key between braces. -/
def endsBraceKey : TokenKind → Bool
  | .value | .flowEntry | .flowMappingEnd => true
  | _ => false

mutual

/-- Read a node. -/
def node : Nat → Place → Build NodeId
  | 0, _ => return 0
  | fuel + 1, place => do
    let t ← peek
    match t.kind with
    | .alias a =>
      let _ ← take
      match (← get).anchors.find? fun (n, _) => n == a with
      | some (_, id) => return id
      | none =>
        throw (.trouble .nodes (.plain ("found undefined alias " ++ Literal.text a) t.start))
    | _ =>
      let p ← takeProperties
      let t ← peek
      let start := p.start.getD t.start
      match t.kind, place with
      | .blockEntry, .entry =>
        -- Items that are not indented have no token for their start, so none is taken here.
        let id ← addCollection p "seq" (.sequence []) start
        let items ← indentlessItems fuel
        fill id (.sequence items)
        return id
      | .scalar text style, _ =>
        let _ ← take
        checkAnchor p.anchor start
        let id ← add ⟨scalarTag p.tag (style == .plain) text, .scalar text, start⟩
        name p.anchor id
        return id
      | .flowSequenceStart, _ =>
        let id ← addCollection p "seq" (.sequence []) start
        let _ ← take
        let items ← flowItems fuel t.start true
        fill id (.sequence items)
        return id
      | .flowMappingStart, _ =>
        let id ← addCollection p "map" (.mapping []) start
        let _ ← take
        let pairs ← flowPairs fuel t.start true
        fill id (.mapping pairs)
        return id
      | .blockSequenceStart, .block | .blockSequenceStart, .entry =>
        let id ← addCollection p "seq" (.sequence []) start
        let _ ← take
        let items ← blockItems fuel t.start
        fill id (.sequence items)
        return id
      | .blockMappingStart, .block | .blockMappingStart, .entry =>
        let id ← addCollection p "map" (.mapping []) start
        let _ ← take
        let pairs ← blockPairs fuel t.start
        fill id (.mapping pairs)
        return id
      | kind, _ =>
        -- A node that is nothing but its properties is an empty scalar.
        if p.anchor.isSome || p.tag.isSome then
          checkAnchor p.anchor start
          let id ← add ⟨scalarTag p.tag true "", .scalar "", start⟩
          name p.anchor id
          return id
        else
          let kindOfNode := if place = .flow then "flow" else "block"
          wrong ⟨some ("while parsing a " ++ kindOfNode ++ " node"), some start,
            "expected the node content, but found " ++ Literal.text kind.name, t.start⟩

/-- Read the items of a block sequence up to its end. -/
def blockItems : Nat → Mark → Build (List NodeId)
  | 0, _ => return []
  | fuel + 1, began => do
    let t ← peek
    match t.kind with
    | .blockEntry =>
      let _ ← take
      let item ← match (← peek).kind with
        | .blockEntry | .blockEnd => addEmpty t.stop
        | _ => node fuel .block
      return item :: (← blockItems fuel began)
    | .blockEnd => let _ ← take; return []
    | kind =>
      wrong (.within "while parsing a block collection" began
        ("expected <block end>, but found " ++ Literal.text kind.name) t.start)

/-- Read the items of a sequence that is indented like the key before it. -/
def indentlessItems : Nat → Build (List NodeId)
  | 0 => return []
  | fuel + 1 => do
    let t ← peek
    match t.kind with
    | .blockEntry =>
      let _ ← take
      let next := (← peek).kind
      let item ←
        if next = .blockEntry ∨ endsBlockEntry next then addEmpty t.stop else node fuel .block
      return item :: (← indentlessItems fuel)
    | _ => return []

/-- Read the pairs of a block mapping up to its end. -/
def blockPairs : Nat → Mark → Build (List (NodeId × NodeId))
  | 0, _ => return []
  | fuel + 1, began => do
    let t ← peek
    match t.kind with
    | .key =>
      let _ ← take
      let key ←
        if endsBlockEntry (← peek).kind then addEmpty t.stop else node fuel .entry
      let v ← peek
      let value ← match v.kind with
        | .value =>
          let _ ← take
          if endsBlockEntry (← peek).kind then addEmpty v.stop else node fuel .entry
        | _ => addEmpty v.start
      return (key, value) :: (← blockPairs fuel began)
    | .blockEnd => let _ ← take; return []
    | kind =>
      wrong (.within "while parsing a block mapping" began
        ("expected <block end>, but found " ++ Literal.text kind.name) t.start)

/-- Read the items between brackets up to the closing one. -/
def flowItems : Nat → Mark → Bool → Build (List NodeId)
  | 0, _, _ => return []
  | fuel + 1, began, first => do
    let t ← peek
    if t.kind = .flowSequenceEnd then
      let _ ← take
      return []
    else
      if !first then
        if t.kind = .flowEntry then let _ ← take
        else
          wrong (.within "while parsing a flow sequence" began
            ("expected ',' or ']', but got " ++ Literal.text t.kind.name) t.start)
      let t ← peek
      match t.kind with
      | .key =>
        -- A pair between brackets is a mapping on its own.
        let id ← add ⟨coreTag "map", .mapping [], t.start⟩
        let _ ← take
        let key ← if endsFlowKey (← peek).kind then addEmpty t.stop else node fuel .flow
        let v ← peek
        let value ← match v.kind with
          | .value =>
            let _ ← take
            match (← peek).kind with
            | .flowEntry | .flowSequenceEnd => addEmpty v.stop
            | _ => node fuel .flow
          | _ => addEmpty v.start
        fill id (.mapping [(key, value)])
        return id :: (← flowItems fuel began false)
      | .flowSequenceEnd => let _ ← take; return []
      | _ =>
        let item ← node fuel .flow
        return item :: (← flowItems fuel began false)

/-- Read the pairs between braces up to the closing one. -/
def flowPairs : Nat → Mark → Bool → Build (List (NodeId × NodeId))
  | 0, _, _ => return []
  | fuel + 1, began, first => do
    let t ← peek
    if t.kind = .flowMappingEnd then
      let _ ← take
      return []
    else
      if !first then
        if t.kind = .flowEntry then let _ ← take
        else
          wrong (.within "while parsing a flow mapping" began
            ("expected ',' or '\x7d', but got " ++ Literal.text t.kind.name) t.start)
      let t ← peek
      match t.kind with
      | .key =>
        let _ ← take
        let key ← if endsBraceKey (← peek).kind then addEmpty t.stop else node fuel .flow
        let v ← peek
        let value ← match v.kind with
          | .value =>
            let _ ← take
            match (← peek).kind with
            | .flowEntry | .flowMappingEnd => addEmpty v.stop
            | _ => node fuel .flow
          | _ => addEmpty v.start
        return (key, value) :: (← flowPairs fuel began false)
      | .flowMappingEnd => let _ ← take; return []
      | _ =>
        -- A key without a mark has no value, whatever comes behind it.
        let key ← node fuel .flow
        let value ← addEmpty (← peek).start
        return (key, value) :: (← flowPairs fuel began false)

end

/-! ### Documents -/

/-- The handles that every document knows. -/
def coreHandles : List (String × String) := [("!", "!"), ("!!", tagStem)]

/-- Take directives: the handles they define. -/
def directives : Nat → Bool → List (String × String) → Build (List (String × String))
  | 0, _, handles => return handles
  | fuel + 1, versioned, handles => do
    let t ← peek
    match t.kind with
    | .directive d =>
      let _ ← take
      match d with
      | .version major _ =>
        if versioned then wrong (.plain "found duplicate YAML directive" t.start)
        else if major ≠ 1 then
          wrong (.plain "found incompatible YAML document (version 1.* is required)" t.start)
        else directives fuel true handles
      | .tagHandle handle stem =>
        if handles.any fun (h, _) => h == handle then
          wrong (.plain ("duplicate tag handle " ++ Literal.text handle) t.start)
        else directives fuel versioned (handles ++ [(handle, stem)])
      | .reserved => directives fuel versioned handles
    | _ => return handles

/-- Take any ends of documents. -/
def skipDocumentEnds : Nat → Build Unit
  | 0 => return ()
  | fuel + 1 => do
    if (← peek).kind = .documentEnd then
      let _ ← take
      skipDocumentEnds fuel

/-- Take the start of a document that is marked as such: where it starts, or nothing at the end of
the source. -/
def documentStart (fuel : Nat) : Build (Option Mark) := do
  skipDocumentEnds fuel
  let t ← peek
  if t.kind = .streamEnd then return none
  else
    let handles ← directives fuel false []
    let defaults := coreHandles.filter fun (h, _) => !handles.any fun (h', _) => h' == h
    modify fun b => { b with handles := handles ++ defaults }
    let s ← peek
    if s.kind = .documentStart then
      let _ ← take
      return some t.start
    else
      wrong (.plain ("expected '<document start>', but found " ++ Literal.text s.kind.name) s.start)

/-- Read the root of the only document of a source. -/
def singleDocument (fuel : Nat) : Build (Option NodeId) := do
  let _ ← take
  let bare ← match (← peek).kind with
    | .directive _ | .documentStart | .streamEnd => pure false
    | _ => pure true
  let root ←
    if bare then
      modify fun b => { b with handles := coreHandles }
      some <$> node fuel .block
    else
      match ← documentStart fuel with
      | none => pure none
      | some _ =>
        let t ← peek
        match t.kind with
        | .directive _ | .documentStart | .documentEnd | .streamEnd => some <$> addEmpty t.start
        | _ => some <$> node fuel .block
  match root with
  | none => return none
  | some id =>
    -- A second document is an error that points at both.
    match ← documentStart fuel with
    | none => return root
    | some second =>
      let first := ((← get).nodes.getD id default).start
      throw (.trouble .nodes (.within "expected a single document in the stream" first
        "but found another document" second))

end Build

/-- The graph of the tokens of a source with one document at most. -/
def Graph.ofTokens (ts : Tokens) : Except Fault Graph :=
  let fuel := 2 * ts.list.length + 8
  match (Build.singleDocument fuel).run ⟨ts.list, ts.fault, Build.coreHandles, [], #[]⟩ with
  | .ok (root, b) => .ok ⟨b.nodes, root⟩
  | .error f => .error f

end Playbook.Yaml
