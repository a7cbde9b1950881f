import Mathlib.Data.List.Forall2
import Playbook.Yaml.Document

/-!
# Graphs of values without names

Tokens between brackets, among which no node has a name, make a graph that is a tree: the nodes of a
value come one after another, a collection in front of its parts.

Main definitions:

- `Yaml.Draws`: a value is drawn by the nodes between two numbers;
- `Yaml.Parses`: tokens are read as a value, wherever they stand.

Main statements: `Yaml.Parses.list`, `Yaml.Parses.map`, and `Yaml.Graph.ofTokens_eq` for a whole
document.
-/

namespace Playbook.Yaml

/-! ### Drawings -/

mutual

/-- **A value is drawn by the nodes from one number up to another:** its own node comes first. -/
inductive Draws (nodes : Array Node) : Value → Nat → Nat → Prop
  /-- A scalar without a mark is a node that is read as it. -/
  | scalar {s : Scalar} {tag text : String} {start : Mark} {type : ScalarType} {lo : Nat}
    (hnode : nodes[lo]? = some ⟨tag, .scalar text, start⟩)
    (htype : ScalarType.ofTag? tag = some type) (hread : type.read text = .ok s)
    (hmark : s.mark? = none) : Draws nodes (.scalar s) lo (lo + 1)
  /-- A list is a sequence. -/
  | list {m : Option Nat} {vs : List Value} {ids : List NodeId} {start : Mark} {lo hi : Nat}
    (hnode : nodes[lo]? = some ⟨coreTag "seq", .sequence ids, start⟩)
    (h : DrawsItems nodes vs ids (lo + 1) hi) : Draws nodes (.list m vs) lo hi
  /-- A mapping with different keys is a mapping. -/
  | map {m : Option Nat} {es : Entries} {pairs : List (NodeId × NodeId)} {start : Mark}
    {lo hi : Nat} (hnode : nodes[lo]? = some ⟨coreTag "map", .mapping pairs, start⟩)
    (hnodup : (es.map (·.1)).Nodup) (h : DrawsEntries nodes es pairs (lo + 1) hi) :
    Draws nodes (.map m es) lo hi

/-- Values are drawn one after another, by nodes of which these are the first ones. -/
inductive DrawsItems (nodes : Array Node) : List Value → List NodeId → Nat → Nat → Prop
  /-- There are no values. -/
  | nil {lo : Nat} : DrawsItems nodes [] [] lo lo
  /-- One value after another. -/
  | cons {v : Value} {vs : List Value} {ids : List NodeId} {lo mid hi : Nat}
    (h : Draws nodes v lo mid) (hrest : DrawsItems nodes vs ids mid hi) :
    DrawsItems nodes (v :: vs) (lo :: ids) lo hi

/-- Entries are drawn one after another, each key in front of its value. -/
inductive DrawsEntries (nodes : Array Node) :
    Entries → List (NodeId × NodeId) → Nat → Nat → Prop
  /-- There are no entries. -/
  | nil {lo : Nat} : DrawsEntries nodes [] [] lo lo
  /-- One entry after another. -/
  | cons {k : String} {v : Value} {es : Entries} {pairs : List (NodeId × NodeId)} {start : Mark}
    {lo mid hi : Nat} (hkey : nodes[lo]? = some ⟨coreTag "str", .scalar k, start⟩)
    (h : Draws nodes v (lo + 1) mid) (hrest : DrawsEntries nodes es pairs mid hi) :
    DrawsEntries nodes ((.str k, v) :: es) ((lo, lo + 1) :: pairs) lo hi

end

section Drawings

variable {nodes nodes' : Array Node}

mutual

theorem Draws.lt {v : Value} {lo hi : Nat} : Draws nodes v lo hi → lo < hi
  | .scalar .. => Nat.lt_succ_self _
  | .list _ h => h.le
  | .map _ _ h => h.le

theorem DrawsItems.le {vs : List Value} {ids : List NodeId} {lo hi : Nat} :
    DrawsItems nodes vs ids lo hi → lo ≤ hi
  | .nil => Nat.le_refl _
  | .cons h hrest => Nat.le_trans (Nat.le_of_lt h.lt) hrest.le

theorem DrawsEntries.le {es : Entries} {pairs : List (NodeId × NodeId)} {lo hi : Nat} :
    DrawsEntries nodes es pairs lo hi → lo ≤ hi
  | .nil => Nat.le_refl _
  | .cons _ h hrest =>
    Nat.le_trans (Nat.le_of_lt (Nat.lt_trans (Nat.lt_succ_self _) h.lt)) hrest.le

end

mutual

/-- A drawing depends on its own nodes only. -/
theorem Draws.congr {v : Value} {lo hi : Nat} : Draws nodes v lo hi →
    (∀ id, lo ≤ id → id < hi → nodes'[id]? = nodes[id]?) → Draws nodes' v lo hi
  | .scalar hnode htype hread hmark, hsame =>
    .scalar ((hsame _ (Nat.le_refl _) (Nat.lt_succ_self _)).trans hnode) htype hread hmark
  | .list hnode h, hsame =>
    .list ((hsame _ (Nat.le_refl _) h.le).trans hnode)
      (h.congr fun id hlo hhi => hsame id (Nat.le_of_lt hlo) hhi)
  | .map hnode hnodup h, hsame =>
    .map ((hsame _ (Nat.le_refl _) h.le).trans hnode) hnodup
      (h.congr fun id hlo hhi => hsame id (Nat.le_of_lt hlo) hhi)

/-- Drawings of values depend on their own nodes only. -/
theorem DrawsItems.congr {vs : List Value} {ids : List NodeId} {lo hi : Nat} :
    DrawsItems nodes vs ids lo hi →
    (∀ id, lo ≤ id → id < hi → nodes'[id]? = nodes[id]?) → DrawsItems nodes' vs ids lo hi
  | .nil, _ => .nil
  | .cons h hrest, hsame =>
    .cons (h.congr fun id hlo hhi => hsame id hlo (Nat.lt_of_lt_of_le hhi hrest.le))
      (hrest.congr fun id hlo hhi => hsame id (Nat.le_trans (Nat.le_of_lt h.lt) hlo) hhi)

/-- Drawings of entries depend on their own nodes only. -/
theorem DrawsEntries.congr {es : Entries} {pairs : List (NodeId × NodeId)} {lo hi : Nat} :
    DrawsEntries nodes es pairs lo hi →
    (∀ id, lo ≤ id → id < hi → nodes'[id]? = nodes[id]?) → DrawsEntries nodes' es pairs lo hi
  | .nil, _ => .nil
  | .cons hkey h hrest, hsame => by
    -- The key stands at the first number, the value's nodes right after it, and the others after
    -- these.
    have hlt := h.lt
    have hle := hrest.le
    have hvalue := h.congr fun id hlo hhi => hsame id (by omega) (by omega)
    have hmore := hrest.congr fun id hlo hhi => hsame id (by omega) hhi
    exact .cons ((hsame _ (Nat.le_refl _) (by omega)).trans hkey) hvalue hmore

end

end Drawings

/-! ### Steps of the grammar -/

/-- What follows on a step. -/
theorem bind_ok {σ ε α β : Type} {x : StateT σ (Except ε) α} {a : α} {s s' : σ}
    (h : x s = .ok (a, s')) (f : α → StateT σ (Except ε) β) : (x >>= f) s = f a s' := by
  show (x s >>= fun p => f p.1 p.2) = _
  rw [h]
  rfl

namespace Build

variable {b : Builder} {t : Token} {ts : List Token} (fuel : Nat) (place : Place)

/-- A scalar without properties. -/
theorem node_scalar {text : String} {style : ScalarStyle} (htokens : b.tokens = t :: ts)
    (hkind : t.kind = .scalar text style) :
    node (fuel + 1) place b = .ok (b.nodes.size, { b with
      tokens := ts
      -- With the fields of the builder in the open, one round of the reader computes.
      nodes := b.nodes.push
        ⟨scalarTag none (style == .plain) text, .scalar text, t.start⟩ }) := by
  obtain ⟨tokens, fault, handles, anchors, nodes⟩ := b
  obtain ⟨kind, start, stop⟩ := t
  obtain rfl : tokens = _ := htokens
  obtain rfl : kind = _ := hkind
  rw [node]
  rfl

/-- A sequence between brackets. -/
theorem node_sequence (htokens : b.tokens = t :: ts) (hkind : t.kind = .flowSequenceStart) :
    node (fuel + 1) place b = (do
      let items ← flowItems fuel t.start true
      fill b.nodes.size (.sequence items)
      return b.nodes.size) { b with
        tokens := ts, nodes := b.nodes.push ⟨coreTag "seq", .sequence [], t.start⟩ } := by
  obtain ⟨tokens, fault, handles, anchors, nodes⟩ := b
  obtain ⟨kind, start, stop⟩ := t
  obtain rfl : tokens = _ := htokens
  obtain rfl : kind = _ := hkind
  rw [node]
  rfl

/-- A mapping between braces. -/
theorem node_mapping (htokens : b.tokens = t :: ts) (hkind : t.kind = .flowMappingStart) :
    node (fuel + 1) place b = (do
      let pairs ← flowPairs fuel t.start true
      fill b.nodes.size (.mapping pairs)
      return b.nodes.size) { b with
        tokens := ts, nodes := b.nodes.push ⟨coreTag "map", .mapping [], t.start⟩ } := by
  obtain ⟨tokens, fault, handles, anchors, nodes⟩ := b
  obtain ⟨kind, start, stop⟩ := t
  obtain rfl : tokens = _ := htokens
  obtain rfl : kind = _ := hkind
  rw [node]
  rfl

/-- The tokens that values between brackets start with. -/
inductive StartsNode : TokenKind → Prop
  /-- A scalar. -/
  | scalar (text : String) (style : ScalarStyle) : StartsNode (.scalar text style)
  /-- A list. -/
  | sequence : StartsNode .flowSequenceStart
  /-- A mapping. -/
  | mapping : StartsNode .flowMappingStart

/-- What stands in front of an item: a comma, unless it is the first one. -/
def IsGap (first : Bool) (gap : List Token) : Prop :=
  gap.map (·.kind) = if first then [] else [.flowEntry]

variable (began : Mark) {first : Bool} {gap : List Token}

/-- The end of a sequence. -/
theorem flowItems_end (htokens : b.tokens = t :: ts) (hkind : t.kind = .flowSequenceEnd) :
    flowItems (fuel + 1) began first b = .ok ([], { b with tokens := ts }) := by
  obtain ⟨tokens, fault, handles, anchors, nodes⟩ := b
  obtain ⟨kind, start, stop⟩ := t
  obtain rfl : tokens = _ := htokens
  obtain rfl : kind = _ := hkind
  rw [flowItems]
  rfl

/-- An item of a sequence. -/
theorem flowItems_item (hgap : IsGap first gap) (htokens : b.tokens = gap ++ t :: ts)
    (hstart : StartsNode t.kind) :
    flowItems (fuel + 1) began first b = (do
      let item ← node fuel .flow
      return item :: (← flowItems fuel began false)) { b with tokens := t :: ts } := by
  obtain ⟨tokens, fault, handles, anchors, nodes⟩ := b
  obtain ⟨kind, start, stop⟩ := t
  obtain rfl : tokens = _ := htokens
  -- Whether a comma is asked for is decided by the first token. Both that and what starts the item
  -- have to be given by a constructor before the reader computes.
  cases first with
  | true =>
    obtain rfl := List.map_eq_nil_iff.1 hgap
    cases hstart <;> rw [flowItems] <;> rfl
  | false =>
    obtain ⟨⟨comma, _, _⟩, rfl, hcomma⟩ := List.map_eq_singleton_iff.1 hgap
    obtain rfl : comma = _ := hcomma
    cases hstart <;> rw [flowItems] <;> rfl

/-- The end of a mapping. -/
theorem flowPairs_end (htokens : b.tokens = t :: ts) (hkind : t.kind = .flowMappingEnd) :
    flowPairs (fuel + 1) began first b = .ok ([], { b with tokens := ts }) := by
  obtain ⟨tokens, fault, handles, anchors, nodes⟩ := b
  obtain ⟨kind, start, stop⟩ := t
  obtain rfl : tokens = _ := htokens
  obtain rfl : kind = _ := hkind
  rw [flowPairs]
  rfl

/-- A member of a mapping whose key is a quoted text. -/
theorem flowPairs_member {key name value : Token} {k : String} (hgap : IsGap first gap)
    (htokens : b.tokens = gap ++ key :: name :: value :: t :: ts) (hkey : key.kind = .key)
    (hname : name.kind = .scalar k .double) (hvalue : value.kind = .value)
    (hstart : StartsNode t.kind) :
    flowPairs (fuel + 2) began first b = (do
      let value ← node (fuel + 1) .flow
      return (b.nodes.size, value) :: (← flowPairs (fuel + 1) began false)) { b with
        tokens := t :: ts
        nodes := b.nodes.push ⟨coreTag "str", .scalar k, name.start⟩ } := by
  obtain ⟨tokens, fault, handles, anchors, nodes⟩ := b
  obtain ⟨kind, start, stop⟩ := t
  obtain ⟨keyKind, _, _⟩ := key
  obtain ⟨nameKind, _, _⟩ := name
  obtain ⟨valueKind, _, _⟩ := value
  obtain rfl : tokens = _ := htokens
  obtain rfl : keyKind = _ := hkey
  obtain rfl : nameKind = _ := hname
  obtain rfl : valueKind = _ := hvalue
  cases first with
  | true =>
    obtain rfl := List.map_eq_nil_iff.1 hgap
    -- The key is a scalar: reading it takes one round of its own, which is why there are two here.
    cases hstart <;> rw [flowPairs] <;> rfl
  | false =>
    obtain ⟨⟨comma, _, _⟩, rfl, hcomma⟩ := List.map_eq_singleton_iff.1 hgap
    obtain rfl : comma = _ := hcomma
    cases hstart <;> rw [flowPairs] <;> rfl

end Build

/-! ### Reading values -/

/-- Nodes to which others are added. -/
structure Extends (old new : Array Node) : Prop where
  /-- None is lost. -/
  size_le : old.size ≤ new.size
  /-- None is changed. -/
  same : ∀ id < old.size, new[id]? = old[id]?

namespace Extends

variable {old mid new : Array Node}

theorem refl (nodes : Array Node) : Extends nodes nodes := ⟨Nat.le_refl _, fun _ _ => rfl⟩

theorem trans (h : Extends old mid) (h' : Extends mid new) : Extends old new where
  size_le := Nat.le_trans h.size_le h'.size_le
  same id hid := (h'.same id (Nat.lt_of_lt_of_le hid h.size_le)).trans (h.same id hid)

theorem push (nodes : Array Node) (n : Node) : Extends nodes (nodes.push n) where
  size_le := by
    rw [Array.size_push]
    exact Nat.le_succ _
  same id hid := by
    rw [Array.getElem?_push, if_neg (Nat.ne_of_lt hid)]

theorem getElem?_push {n : Node} (h : Extends (old.push n) new) : new[old.size]? = some n := by
  -- The number of the node that was pushed is below the new size, so nothing after it changes it.
  rw [h.same old.size (by rw [Array.size_push]; exact Nat.lt_succ_self _)]
  exact Array.getElem?_push_size

/-- A node that is added is filled. -/
theorem modify (h : Extends old new) (f : Node → Node) : Extends old (new.modify old.size f) where
  size_le := by
    rw [Array.size_modify]
    exact h.size_le
  same id hid := by
    rw [Array.getElem?_modify, if_neg (Nat.ne_of_gt hid)]
    exact h.same id hid

/-- Later drawings do not touch earlier ones. -/
theorem draws (h : Extends old new) {v : Value} {lo hi : Nat} (hv : Draws old v lo hi)
    (hhi : hi ≤ old.size) : Draws new v lo hi :=
  hv.congr fun id _ hid => h.same id (Nat.lt_of_lt_of_le hid hhi)

end Extends

/-- **Tokens are read as a value,** wherever they stand: nodes are added that draw it. -/
structure Parses (ks : List TokenKind) (v : Value) : Prop where
  /-- They start like a value. -/
  starts : ∃ k more, ks = k :: more ∧ Build.StartsNode k
  /-- They are read as it. -/
  node : ∀ (fuel : Nat) (place : Build.Place) (ts rest : List Token) (b : Builder),
    ks.length ≤ fuel → ts.map (·.kind) = ks → b.tokens = ts ++ rest →
    ∃ nodes, Build.node fuel place b = .ok (b.nodes.size, { b with tokens := rest, nodes }) ∧
      Extends b.nodes nodes ∧ Draws nodes v b.nodes.size nodes.size

/-- Tokens are read as an entry of a mapping: a key, a quoted text, and a value. -/
def ParsesMember (ks : List TokenKind) (e : Value × Value) : Prop :=
  ∃ k v more, ks = .key :: .scalar k .double :: .value :: more ∧ e = (.str k, v) ∧ Parses more v

/-- Tokens of parts with commas between them, and in front of the first one unless it is said to
be the first. -/
def joinKinds (first : Bool) : List (List TokenKind) → List TokenKind
  | [] => []
  | ks :: rest => (if first then [] else [.flowEntry]) ++ (ks ++ joinKinds false rest)

theorem joinKinds_true (kss : List (List TokenKind)) :
    joinKinds true kss = List.intercalate [.flowEntry] kss := by
  induction kss with
  | nil => rfl
  | cons ks rest ih =>
    cases rest with
    | nil =>
      rw [List.intercalate_singleton]
      exact List.append_nil ks
    | cons ks' rest =>
      rw [List.intercalate_cons_cons, ← ih, List.append_assoc]
      rfl

section Parses

variable {kss : List (List TokenKind)} {ks : List TokenKind}

/-- A scalar is read. -/
theorem Parses.scalar {text : String} {style : ScalarStyle} {s : Scalar} (type : ScalarType)
    (htype : ScalarType.ofTag? (Build.scalarTag none (style == .plain) text) = some type)
    (hread : type.read text = .ok s) (hmark : s.mark? = none) :
    Parses [.scalar text style] (.scalar s) where
  starts := ⟨_, [], rfl, .scalar text style⟩
  node fuel place ts rest b hfuel hts htokens := by
    obtain ⟨t, rfl, hkind⟩ := List.map_eq_singleton_iff.1 hts
    -- A scalar is one token: one round is enough.
    obtain ⟨fuel, rfl⟩ : ∃ k, fuel = k + 1 := ⟨fuel - 1, by simp at hfuel; omega⟩
    refine ⟨_, Build.node_scalar fuel place htokens hkind, .push _ _, ?_⟩
    rw [Array.size_push]
    exact .scalar Array.getElem?_push_size htype hread hmark

/-- **Items are read one after another.** -/
theorem flowItems_eq {vs : List Value} (h : List.Forall₂ Parses kss vs) (fuel : Nat) (began : Mark)
    (first : Bool) (ts rest : List Token) (b : Builder)
    (hfuel : (joinKinds first kss).length < fuel)
    (hts : ts.map (·.kind) = joinKinds first kss ++ [.flowSequenceEnd])
    (htokens : b.tokens = ts ++ rest) :
    ∃ ids nodes, Build.flowItems fuel began first b =
        .ok (ids, { b with tokens := rest, nodes }) ∧
      Extends b.nodes nodes ∧ DrawsItems nodes vs ids b.nodes.size nodes.size := by
  -- The items are read one after another, each from the builder that the one before it leaves:
  -- tokens, nodes, fuel and whether a comma is due change on the way.
  induction h generalizing fuel first ts b with
  | nil =>
    obtain ⟨t, rfl, hkind⟩ := List.map_eq_singleton_iff.1 hts
    obtain ⟨fuel, rfl⟩ := Nat.exists_eq_add_of_lt (Nat.zero_lt_of_lt hfuel)
    rw [Nat.zero_add]
    exact ⟨[], b.nodes, Build.flowItems_end fuel began htokens hkind, .refl _, .nil⟩
  | @cons ks v kss vs hv hrest ih =>
    rw [joinKinds] at hfuel
    rw [joinKinds, List.append_assoc, List.append_assoc] at hts
    -- The tokens fall apart into the comma, the item and what follows.
    obtain ⟨gap, ts, rfl, hgap, hts⟩ := List.map_eq_append_iff.1 hts
    obtain ⟨ts₁, ts₂, rfl, hts₁, hts₂⟩ := List.map_eq_append_iff.1 hts
    obtain ⟨k, more, rfl, hk⟩ := hv.starts
    obtain ⟨t, ts₁, rfl, rfl, hmore⟩ := List.map_eq_cons_iff.1 hts₁
    simp only [List.length_append, List.length_cons] at hfuel
    obtain ⟨fuel, rfl⟩ : ∃ k, fuel = k + 1 := ⟨fuel - 1, by omega⟩
    rw [List.append_assoc, List.append_assoc] at htokens
    simp only [List.cons_append] at htokens
    -- the item, and the ones after it
    obtain ⟨nodes₁, hnode, hextends₁, hdraws₁⟩ := hv.node fuel .flow (t :: ts₁) (ts₂ ++ rest)
      { b with tokens := t :: (ts₁ ++ (ts₂ ++ rest)) } (by rw [List.length_cons]; omega) hts₁ rfl
    obtain ⟨ids, nodes₂, hitems, hextends₂, hdraws₂⟩ := ih fuel false ts₂
      { b with tokens := ts₂ ++ rest, nodes := nodes₁ } (by omega) hts₂ rfl
    refine ⟨b.nodes.size :: ids, nodes₂, ?_, hextends₁.trans hextends₂,
      .cons (hextends₂.draws hdraws₁ (Nat.le_refl _)) hdraws₂⟩
    rw [Build.flowItems_item fuel began hgap htokens hk, bind_ok hnode,
      bind_ok hitems]
    rfl

/-- **Members are read one after another.** -/
theorem flowPairs_eq {es : Entries} (h : List.Forall₂ ParsesMember kss es) (fuel : Nat)
    (began : Mark) (first : Bool) (ts rest : List Token) (b : Builder)
    (hfuel : (joinKinds first kss).length < fuel)
    (hts : ts.map (·.kind) = joinKinds first kss ++ [.flowMappingEnd])
    (htokens : b.tokens = ts ++ rest) :
    ∃ pairs nodes, Build.flowPairs fuel began first b =
        .ok (pairs, { b with tokens := rest, nodes }) ∧
      Extends b.nodes nodes ∧ DrawsEntries nodes es pairs b.nodes.size nodes.size := by
  induction h generalizing fuel first ts b with
  | nil =>
    obtain ⟨t, rfl, hkind⟩ := List.map_eq_singleton_iff.1 hts
    obtain ⟨fuel, rfl⟩ := Nat.exists_eq_add_of_lt (Nat.zero_lt_of_lt hfuel)
    rw [Nat.zero_add]
    exact ⟨[], b.nodes, Build.flowPairs_end fuel began htokens hkind, .refl _, .nil⟩
  | @cons ks e kss es he hrest ih =>
    obtain ⟨k, v, ks, rfl, rfl, hv⟩ := he
    rw [joinKinds] at hfuel
    rw [joinKinds, List.append_assoc, List.append_assoc] at hts
    obtain ⟨gap, ts, rfl, hgap, hts⟩ := List.map_eq_append_iff.1 hts
    obtain ⟨ts₁, ts₂, rfl, hts₁, hts₂⟩ := List.map_eq_append_iff.1 hts
    obtain ⟨key, ts₁, rfl, hkey, hts₁⟩ := List.map_eq_cons_iff.1 hts₁
    obtain ⟨name, ts₁, rfl, hname, hts₁⟩ := List.map_eq_cons_iff.1 hts₁
    obtain ⟨value, ts₁, rfl, hvalue, hts₁⟩ := List.map_eq_cons_iff.1 hts₁
    obtain ⟨kind, more, rfl, hk⟩ := hv.starts
    obtain ⟨t, ts₁, rfl, rfl, hmore⟩ := List.map_eq_cons_iff.1 hts₁
    simp only [List.length_append, List.length_cons] at hfuel
    -- One round is the member's, and one is its key's.
    obtain ⟨fuel, rfl⟩ : ∃ k, fuel = k + 2 := ⟨fuel - 2, by omega⟩
    rw [List.append_assoc, List.append_assoc] at htokens
    simp only [List.cons_append] at htokens
    -- the key, the value, and the members after it
    let keyNode : Node := ⟨coreTag "str", .scalar k, name.start⟩
    obtain ⟨nodes₁, hnode, hextends₁, hdraws₁⟩ :=
      hv.node (fuel + 1) .flow (t :: ts₁) (ts₂ ++ rest)
        { b with tokens := t :: (ts₁ ++ (ts₂ ++ rest)), nodes := b.nodes.push keyNode }
        (by rw [List.length_cons]; omega) hts₁ rfl
    obtain ⟨pairs, nodes₂, hpairs, hextends₂, hdraws₂⟩ := ih (fuel + 1) false ts₂
      { b with tokens := ts₂ ++ rest, nodes := nodes₁ } (by omega) hts₂ rfl
    -- The key's node is not touched by what is read after it.
    have hkeyNode : nodes₂[b.nodes.size]? = some keyNode :=
      (hextends₁.trans hextends₂).getElem?_push
    have hvalueDraws := hextends₂.draws hdraws₁ (Nat.le_refl _)
    rw [Array.size_push] at hvalueDraws
    refine ⟨(b.nodes.size, b.nodes.size + 1) :: pairs, nodes₂, ?_,
      (Extends.push _ keyNode).trans (hextends₁.trans hextends₂),
      .cons hkeyNode hvalueDraws hdraws₂⟩
    rw [Build.flowPairs_member fuel began hgap htokens hkey hname hvalue hk, bind_ok hnode,
      bind_ok hpairs, Array.size_push]
    rfl

/-- What the parts of a collection leave of the node that stands for it. -/
theorem fill_extends {nodes nodes' : Array Node} {n : Node} (h : Extends (nodes.push n) nodes')
    (content : Content) :
    Extends nodes (nodes'.modify nodes.size fun n => { n with content }) ∧
      (nodes'.modify nodes.size fun n => { n with content })[nodes.size]? =
        some { n with content } ∧
      ∀ id, nodes.size + 1 ≤ id → id < nodes'.size →
        (nodes'.modify nodes.size fun n => { n with content })[id]? = nodes'[id]? := by
  refine ⟨((Extends.push nodes n).trans h).modify _, ?_, fun id hid _ => ?_⟩
  -- It has been there since before the parts were read, and only its content is new.
  · rw [Array.getElem?_modify, if_pos rfl, h.getElem?_push]
    rfl
  · rw [Array.getElem?_modify, if_neg (Nat.ne_of_lt hid)]

/-- **A list is read** if its items are. -/
theorem Parses.list {vs : List Value} (h : List.Forall₂ Parses kss vs) (m : Option Nat) :
    Parses (.flowSequenceStart :: (List.intercalate [.flowEntry] kss ++ [.flowSequenceEnd]))
      (.list m vs) where
  starts := ⟨_, _, rfl, .sequence⟩
  node fuel place ts rest b hfuel hts htokens := by
    obtain ⟨t, ts, rfl, hkind, hts⟩ := List.map_eq_cons_iff.1 hts
    rw [List.cons_append] at htokens
    rw [← joinKinds_true] at hts hfuel
    simp only [List.length_cons, List.length_append, List.length_nil] at hfuel
    -- The brackets are two tokens more than the items, and one round is taken by the list itself.
    obtain ⟨fuel, rfl⟩ : ∃ k, fuel = k + 1 := ⟨fuel - 1, by omega⟩
    let empty : Node := ⟨coreTag "seq", .sequence [], t.start⟩
    obtain ⟨ids, nodes, hitems, hextends, hdraws⟩ := flowItems_eq h fuel t.start true ts rest
      { b with tokens := ts ++ rest, nodes := b.nodes.push empty } (by omega) hts rfl
    -- The node of the list was pushed first and empty. Its items are filled in after they are read.
    obtain ⟨hfilled, hnode, hsame⟩ := fill_extends hextends (.sequence ids)
    rw [Array.size_push] at hdraws
    refine ⟨_, ?_, hfilled, ?_⟩
    · rw [Build.node_sequence fuel place htokens hkind, bind_ok hitems]
      rfl
    · rw [Array.size_modify]
      exact .list hnode (hdraws.congr hsame)

/-- **A mapping is read** if its members are, as no two of them have the same key. -/
theorem Parses.map {es : Entries} (h : List.Forall₂ ParsesMember kss es)
    (hnodup : (es.map (·.1)).Nodup) (m : Option Nat) :
    Parses (.flowMappingStart :: (List.intercalate [.flowEntry] kss ++ [.flowMappingEnd]))
      (.map m es) where
  starts := ⟨_, _, rfl, .mapping⟩
  node fuel place ts rest b hfuel hts htokens := by
    obtain ⟨t, ts, rfl, hkind, hts⟩ := List.map_eq_cons_iff.1 hts
    rw [List.cons_append] at htokens
    rw [← joinKinds_true] at hts hfuel
    simp only [List.length_cons, List.length_append, List.length_nil] at hfuel
    -- As for a list: the braces stand for the round that the mapping takes.
    obtain ⟨fuel, rfl⟩ : ∃ k, fuel = k + 1 := ⟨fuel - 1, by omega⟩
    let empty : Node := ⟨coreTag "map", .mapping [], t.start⟩
    obtain ⟨pairs, nodes, hpairs, hextends, hdraws⟩ := flowPairs_eq h fuel t.start true ts rest
      { b with tokens := ts ++ rest, nodes := b.nodes.push empty } (by omega) hts rfl
    obtain ⟨hfilled, hnode, hsame⟩ := fill_extends hextends (.mapping pairs)
    rw [Array.size_push] at hdraws
    refine ⟨_, ?_, hfilled, ?_⟩
    · rw [Build.node_mapping fuel place htokens hkind, bind_ok hpairs]
      rfl
    · rw [Array.size_modify]
      exact .map hnode hnodup (hdraws.congr hsame)

end Parses

/-! ### Documents -/

namespace Build

variable {b b' : Builder} {t : Token} {fuel : Nat}

/-- No further document starts at the end of the source. -/
theorem documentStart_end (htokens : b.tokens = [t]) (hkind : t.kind = .streamEnd) :
    documentStart fuel b = .ok (none, b) := by
  obtain ⟨tokens, fault, handles, anchors, nodes⟩ := b
  obtain ⟨kind, start, stop⟩ := t
  obtain rfl : tokens = _ := htokens
  obtain rfl : kind = _ := hkind
  cases fuel <;> rfl

/-- The root of the only document of a source. -/
theorem singleDocument_eq {begin : Token} {ts : List Token} {id : NodeId}
    (htokens : b.tokens = begin :: t :: ts) (hstart : StartsNode t.kind)
    (hnode : node fuel .block { b with tokens := t :: ts, handles := coreHandles } = .ok (id, b'))
    {last : Token} (hrest : b'.tokens = [last]) (hlast : last.kind = .streamEnd) :
    singleDocument fuel b = .ok (some id, b') := by
  have hsome : (some <$> node fuel .block) { b with
      tokens := t :: ts, handles := coreHandles } = .ok (some id, b') := by
    show (node fuel .block _ >>= fun p => _) = _
    rw [hnode]
    rfl
  obtain ⟨tokens, fault, handles, anchors, nodes⟩ := b
  obtain ⟨kind, start, stop⟩ := t
  obtain rfl : tokens = _ := htokens
  -- What stands in front of the value: the start of the source, and no directives.
  have htake : take ⟨begin :: ⟨kind, start, stop⟩ :: ts, fault, handles, anchors, nodes⟩ =
      .ok (begin, ⟨⟨kind, start, stop⟩ :: ts, fault, handles, anchors, nodes⟩) := rfl
  have hpeek : peek ⟨⟨kind, start, stop⟩ :: ts, fault, handles, anchors, nodes⟩ =
      .ok (⟨kind, start, stop⟩, ⟨⟨kind, start, stop⟩ :: ts, fault, handles, anchors, nodes⟩) := rfl
  rw [singleDocument, bind_ok htake, bind_ok hpeek]
  have hhandles : (modify fun b => { b with handles := coreHandles } : Build Unit)
      ⟨⟨kind, start, stop⟩ :: ts, fault, handles, anchors, nodes⟩ =
      .ok ((), ⟨⟨kind, start, stop⟩ :: ts, fault, coreHandles, anchors, nodes⟩) := rfl
  -- None of the three starts of a value is the start of a directive or of a document.
  cases hstart
  all_goals
    dsimp only
    rw [pure_bind, if_pos rfl, bind_ok hhandles, bind_ok hsome]
    exact bind_ok (documentStart_end hrest hlast) _

end Build

/-- **The graph of a document** whose tokens are read as a value draws this value. -/
theorem Graph.ofTokens_eq {ks : List TokenKind} {v : Value} (h : Parses ks v) {ts : List Token}
    (hts : ts.map (·.kind) = .streamStart :: (ks ++ [.streamEnd])) :
    ∃ nodes, Graph.ofTokens ⟨ts, none⟩ = .ok ⟨nodes, some 0⟩ ∧ Draws nodes v 0 nodes.size := by
  obtain ⟨begin, ts, rfl, -, hts⟩ := List.map_eq_cons_iff.1 hts
  obtain ⟨ts, ending, rfl, hkinds, hending⟩ := List.map_eq_append_iff.1 hts
  obtain ⟨last, rfl, hlast⟩ := List.map_eq_singleton_iff.1 hending
  obtain ⟨k, more, rfl, hstart⟩ := h.starts
  obtain ⟨t, ts, rfl, rfl, hmore⟩ := List.map_eq_cons_iff.1 hkinds
  -- Every token may take a round, and the reader has two for each of them.
  have hfuel : (t.kind :: more).length ≤ 2 * (begin :: (t :: ts ++ [last])).length + 8 := by
    have hlength := congrArg List.length hkinds
    rw [List.length_map] at hlength
    rw [← hlength]
    simp only [List.length_cons, List.length_append]
    omega
  obtain ⟨nodes, hnode, -, hdraws⟩ := h.node _ .block (t :: ts) [last]
    ⟨t :: (ts ++ [last]), none, Build.coreHandles, [], #[]⟩ hfuel hkinds rfl
  refine ⟨nodes, ?_, hdraws⟩
  -- The value is read first, so its node has the number of the root.
  let b : Builder := ⟨begin :: (t :: ts ++ [last]), none, Build.coreHandles, [], #[]⟩
  have hroot : Build.singleDocument (2 * b.tokens.length + 8) b =
      .ok (some 0, ⟨[last], none, Build.coreHandles, [], nodes⟩) :=
    Build.singleDocument_eq rfl hstart hnode rfl hlast
  rw [Graph.ofTokens]
  dsimp only
  rw [StateT.run, hroot]

end Playbook.Yaml
