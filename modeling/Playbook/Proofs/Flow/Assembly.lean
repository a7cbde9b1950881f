import Mathlib.Data.List.Nodup
import Playbook.Proofs.Flow.Graphs
import Playbook.Proofs.Mappings

/-!
# Finding the parts of trees

The parts of collections are found in rounds: what is entered in one round is completed in the next.
On nodes that are all as they are in drawings nothing goes wrong, and the rounds come to an end,
since each node is entered once only. Then all nodes that have been entered are complete, and so are
the nodes that they refer to.

Main definitions:

- `Yaml.Becomes`: what a node becomes, by itself;
- `Yaml.Assembly.Sound`: what has been found so far is right, and what is not complete waits.

Main statement: `Yaml.Assemble.completeAll_eq`, from `Sound.enter` and `Sound.complete` for single
steps.
-/

namespace Playbook.Yaml

/-! ### What nodes become -/

/-- A pair of a mapping is a pair of a text and a value. -/
def IsEntry (nodes : Array Node) (p : NodeId × NodeId) (e : Scalar × NodeId) : Prop :=
  ∃ k start, nodes[p.1]? = some ⟨coreTag "str", .scalar k, start⟩ ∧ e = (.str k, p.2)

/-- **What a node becomes,** and the type of collection that it is. -/
inductive Becomes (nodes : Array Node) (id : NodeId) : Option CollectionType → Part → Prop
  /-- A scalar. -/
  | scalar {tag text : String} {start : Mark} {type : ScalarType} {s : Scalar}
    (hnode : nodes[id]? = some ⟨tag, .scalar text, start⟩)
    (htype : ScalarType.ofTag? tag = some type) (hread : type.read text = .ok s)
    (hmark : s.mark? = none) : Becomes nodes id none (.scalar s)
  /-- A list. -/
  | list {ids : List NodeId} {start : Mark}
    (hnode : nodes[id]? = some ⟨coreTag "seq", .sequence ids, start⟩)
    (hids : ∀ r ∈ ids, r < nodes.size) : Becomes nodes id (some .seq) (.list ids)
  /-- A mapping. -/
  | map {pairs : List (NodeId × NodeId)} {entries : List (Scalar × NodeId)} {start : Mark}
    (hnode : nodes[id]? = some ⟨coreTag "map", .mapping pairs, start⟩)
    (hpairs : List.Forall₂ (IsEntry nodes) pairs entries)
    (hnodup : (entries.map (·.1)).Nodup) (hids : ∀ p ∈ pairs, p.2 < nodes.size) :
    Becomes nodes id (some .map) (.map entries)

/-- A key becomes its text. -/
theorem becomes_key {nodes : Array Node} {id : NodeId} {k : String} {start : Mark}
    (hnode : nodes[id]? = some ⟨coreTag "str", .scalar k, start⟩) :
    Becomes nodes id none (.scalar (.str k)) := by
  have htype : ScalarType.ofTag? (coreTag "str") = some .str := rfl
  exact .scalar hnode htype rfl rfl

namespace Becomes

variable {nodes : Array Node} {id : NodeId} {part : Part} {type : Option CollectionType}
  {start : Mark}

/-- A node with a text becomes a scalar. -/
theorem of_scalar {tag text : String} (h : Becomes nodes id type part)
    (hnode : nodes[id]? = some ⟨tag, .scalar text, start⟩) :
    type = none ∧ ∃ t s, ScalarType.ofTag? tag = some t ∧ t.read text = .ok s ∧
      part = .scalar s := by
  cases h with
  | scalar hscalar htype hread =>
    rw [hnode] at hscalar
    cases hscalar
    exact ⟨rfl, _, _, htype, hread, rfl⟩
  | list hlist =>
    rw [hnode] at hlist
    cases hlist
  | map hmap =>
    rw [hnode] at hmap
    cases hmap

/-- A node with items becomes a list. -/
theorem of_sequence {tag : String} {ids : List NodeId} (h : Becomes nodes id type part)
    (hnode : nodes[id]? = some ⟨tag, .sequence ids, start⟩) : part = .list ids := by
  cases h with
  | scalar hscalar =>
    rw [hnode] at hscalar
    cases hscalar
  | list hlist =>
    rw [hnode] at hlist
    cases hlist
    rfl
  | map hmap =>
    rw [hnode] at hmap
    cases hmap

/-- A node with pairs becomes a mapping. -/
theorem of_mapping {tag : String} {pairs : List (NodeId × NodeId)} (h : Becomes nodes id type part)
    (hnode : nodes[id]? = some ⟨tag, .mapping pairs, start⟩) :
    ∃ entries, part = .map entries ∧ List.Forall₂ (IsEntry nodes) pairs entries := by
  cases h with
  | scalar hscalar =>
    rw [hnode] at hscalar
    cases hscalar
  | list hlist =>
    rw [hnode] at hlist
    cases hlist
  | map hmap hpairs =>
    rw [hnode] at hmap
    cases hmap
    exact ⟨_, rfl, hpairs⟩

end Becomes

/-- Whether all nodes become something. -/
def AllBecome (nodes : Array Node) : Prop :=
  ∀ id < nodes.size, ∃ type part, Becomes nodes id type part

section Drawings

variable {nodes : Array Node}

theorem DrawsItems.mem_lt {vs : List Value} {ids : List NodeId} {lo hi : Nat}
    (h : DrawsItems nodes vs ids lo hi) : ∀ r ∈ ids, lo ≤ r ∧ r < hi := by
  -- Each drawing begins where the one before it ends.
  induction vs generalizing ids lo with
  | nil =>
    cases h
    exact List.forall_mem_nil _
  | cons v vs ih =>
    cases h with
    | cons hv hrest =>
      refine List.forall_mem_cons.2
        ⟨⟨Nat.le_refl _, Nat.lt_of_lt_of_le hv.lt hrest.le⟩, fun r hr => ?_⟩
      obtain ⟨hlo, hhi⟩ := ih hrest r hr
      exact ⟨Nat.le_trans (Nat.le_of_lt hv.lt) hlo, hhi⟩

theorem DrawsEntries.mem_lt {es : Entries} {pairs : List (NodeId × NodeId)} {lo hi : Nat}
    (h : DrawsEntries nodes es pairs lo hi) : ∀ p ∈ pairs, lo < p.2 ∧ p.2 < hi := by
  induction es generalizing pairs lo with
  | nil =>
    cases h
    exact List.forall_mem_nil _
  | cons e es ih =>
    cases h with
    | cons hkey hv hrest =>
      refine List.forall_mem_cons.2
        ⟨⟨Nat.lt_succ_self _, Nat.lt_of_lt_of_le hv.lt hrest.le⟩, fun p hp => ?_⟩
      obtain ⟨hlo, hhi⟩ := ih hrest p hp
      exact ⟨Nat.lt_trans (Nat.lt_trans (Nat.lt_succ_self _) hv.lt) hlo, hhi⟩

/-- The entries that pairs become. -/
theorem DrawsEntries.exists_entries {es : Entries} {pairs : List (NodeId × NodeId)} {lo hi : Nat}
    (h : DrawsEntries nodes es pairs lo hi) :
    ∃ entries, List.Forall₂ (IsEntry nodes) pairs entries ∧
      entries.map (fun e => Value.scalar e.1) = es.map (·.1) := by
  induction es generalizing pairs lo with
  | nil =>
    cases h
    exact ⟨[], .nil, rfl⟩
  | cons e es ih =>
    cases h with
    | @cons k v _ pairs start _ mid _ hkey hv hrest =>
      obtain ⟨entries, hentries, hkeys⟩ := ih hrest
      exact ⟨(.str k, lo + 1) :: entries, .cons ⟨k, start, hkey, rfl⟩ hentries,
        congrArg (Value.str k :: ·) hkeys⟩

mutual

/-- All nodes of a drawing become something. -/
theorem Draws.becomes {v : Value} {lo hi : Nat} (hsize : hi ≤ nodes.size) :
    Draws nodes v lo hi → ∀ id, lo ≤ id → id < hi → ∃ type part, Becomes nodes id type part
  | .scalar hnode htype hread hmark, id, hlo, hhi => by
    -- A scalar is one node; of a collection the first node is itself, and the others are its parts.
    obtain rfl : id = lo := by omega
    exact ⟨_, _, .scalar hnode htype hread hmark⟩
  | .list hnode h, id, hlo, hhi => by
    by_cases hid : id = lo
    · subst hid
      exact ⟨_, _, .list hnode fun r hr => Nat.lt_of_lt_of_le (h.mem_lt r hr).2 hsize⟩
    · exact h.becomes hsize id (by omega) hhi
  | .map hnode hnodup h, id, hlo, hhi => by
    by_cases hid : id = lo
    · subst hid
      obtain ⟨entries, hentries, hkeys⟩ := h.exists_entries
      have hdistinct : (entries.map (·.1)).Nodup := by
        refine List.Nodup.of_map Value.scalar ?_
        rw [List.map_map]
        exact hkeys ▸ hnodup
      exact ⟨_, _, .map hnode hentries hdistinct
        fun p hp => Nat.lt_of_lt_of_le (h.mem_lt p hp).2 hsize⟩
    · exact h.becomes hsize id (by omega) hhi

/-- All nodes of drawings of values become something. -/
theorem DrawsItems.becomes {vs : List Value} {ids : List NodeId} {lo hi : Nat}
    (hsize : hi ≤ nodes.size) : DrawsItems nodes vs ids lo hi →
    ∀ id, lo ≤ id → id < hi → ∃ type part, Becomes nodes id type part
  | .nil, id, hlo, hhi => absurd hlo (Nat.not_le.2 hhi)
  | @DrawsItems.cons _ _ _ _ _ mid _ h hrest, id, hlo, hhi => by
    -- A node is one of the first drawing, or of those behind it.
    by_cases hid : id < mid
    · exact h.becomes (Nat.le_trans hrest.le hsize) id hlo hid
    · exact hrest.becomes hsize id (Nat.not_lt.1 hid) hhi

/-- All nodes of drawings of entries become something. -/
theorem DrawsEntries.becomes {es : Entries} {pairs : List (NodeId × NodeId)} {lo hi : Nat}
    (hsize : hi ≤ nodes.size) : DrawsEntries nodes es pairs lo hi →
    ∀ id, lo ≤ id → id < hi → ∃ type part, Becomes nodes id type part
  | .nil, id, hlo, hhi => absurd hlo (Nat.not_le.2 hhi)
  | @DrawsEntries.cons _ _ _ _ _ _ _ mid _ hkey h hrest, id, hlo, hhi => by
    by_cases hid : id = lo
    · subst hid
      exact ⟨_, _, becomes_key hkey⟩
    · by_cases hmid : id < mid
      · exact h.becomes (Nat.le_trans hrest.le hsize) id (by omega) hmid
      · exact hrest.becomes hsize id (Nat.not_lt.1 hmid) hhi

end

end Drawings

/-! ### What has been found -/

/-- Whether a node has been entered. -/
def Assembly.Entered (a : Assembly) (id : NodeId) : Prop := ∃ part, a.parts[id]? = some (some part)

/-- How many steps are left at most: one for each collection that waits, and one for each node that
has not been entered. -/
def Assembly.steps (a : Assembly) : Nat :=
  a.waiting.length + a.parts.countP (·.isNone)

/-- **What has been found is right:** each node that has been entered is complete, and the nodes
that it refers to have been entered, or it waits, or it still has to be gone through in this round.
-/
structure Assembly.Sound (nodes : Array Node) (round : List (NodeId × CollectionType))
    (a : Assembly) : Prop where
  /-- The nodes are as they were. -/
  nodes_eq : a.nodes = nodes
  /-- There is a place for each of them. -/
  size_eq : a.parts.size = nodes.size
  /-- What has been found. -/
  parts : ∀ id part, a.parts[id]? = some (some part) →
    (∃ type, (id, type) ∈ round ++ a.waiting) ∨
    (∃ type, Becomes nodes id type part) ∧ ∀ r ∈ part.references, a.Entered r
  /-- What waits has been entered, and is a collection of its type. -/
  waiting : ∀ e ∈ round ++ a.waiting, a.Entered e.1 ∧ ∃ part, Becomes nodes e.1 (some e.2) part

/-- What a step does: it enters nodes, and it does not add to the steps that are left. -/
structure Assembly.Grows (a a' : Assembly) : Prop where
  /-- What has been entered stays so. -/
  entered : ∀ id, a.Entered id → a'.Entered id
  /-- The steps do not become more. -/
  steps_le : a'.steps ≤ a.steps

namespace Assembly

variable {nodes : Array Node} {a a' a'' : Assembly} {round : List (NodeId × CollectionType)}
  {id : NodeId} {part : Part} {type : Option CollectionType}

theorem Grows.refl (a : Assembly) : a.Grows a := ⟨fun _ h => h, Nat.le_refl _⟩

theorem Grows.trans (h : a.Grows a') (h' : a'.Grows a'') : a.Grows a'' :=
  ⟨fun id hid => h'.entered id (h.entered id hid), Nat.le_trans h'.steps_le h.steps_le⟩

/-- A part is found. -/
def found (a : Assembly) (id : NodeId) (part : Part) : Assembly :=
  { a with parts := a.parts.setIfInBounds id (some part) }

/-- A collection is found that has to wait. -/
def await (a : Assembly) (id : NodeId) (type : CollectionType) (part : Part) : Assembly :=
  { a.found id part with waiting := (id, type) :: a.waiting }

theorem parts_found (h : id < a.parts.size) (r : NodeId) :
    (a.found id part).parts[r]? = if r = id then some (some part) else a.parts[r]? := by
  rw [found, Array.getElem?_setIfInBounds, if_pos h]
  by_cases hr : r = id
  · rw [if_pos hr, if_pos hr.symm]
  · rw [if_neg hr, if_neg (Ne.symm hr)]

theorem entered_found (h : id < a.parts.size) {r : NodeId} :
    (a.found id part).Entered r ↔ r = id ∨ a.Entered r := by
  rw [Entered, parts_found h, Entered]
  by_cases hr : r = id
  · rw [if_pos hr]
    exact ⟨fun _ => .inl hr, fun _ => ⟨part, rfl⟩⟩
  · rw [if_neg hr]
    exact ⟨.inr, fun hentered => hentered.resolve_left hr⟩

/-- Where nothing has been found nothing is. -/
theorem parts_eq_none (h : id < a.parts.size) (hfresh : ¬a.Entered id) :
    a.parts[id]? = some none := by
  rw [Array.getElem?_eq_getElem h]
  cases hpart : a.parts[id] with
  | none => rfl
  | some part => exact absurd ⟨part, by rw [Array.getElem?_eq_getElem h, hpart]⟩ hfresh

theorem countP_found (h : id < a.parts.size) :
    (a.found id part).parts.countP (·.isNone) =
      a.parts.countP (·.isNone) - if a.parts[id].isNone then 1 else 0 := by
  rw [found, Array.setIfInBounds_def, dif_pos h, Array.countP_set h]
  rfl

/-- A node that is found for the first time is a step less. -/
theorem steps_found_of_fresh (h : id < a.parts.size) (hfresh : ¬a.Entered id) :
    (a.found id part).steps + 1 = a.steps := by
  have hnone : a.parts[id] = none := by
    have hpart := parts_eq_none h hfresh
    rw [Array.getElem?_eq_getElem h] at hpart
    exact Option.some.inj hpart
  have hpos : 0 < a.parts.countP (·.isNone) :=
    -- What is found has not been found before, so it is one of those that are counted.
    Array.countP_pos_iff.2 ⟨a.parts[id], Array.getElem_mem h, by rw [hnone]; rfl⟩
  have hcount : (a.found id part).parts.countP (·.isNone) = a.parts.countP (·.isNone) - 1 := by
    rw [countP_found h, hnone]
    rfl
  rw [steps, steps, hcount]
  show a.waiting.length + _ + 1 = _
  omega

/-- A node that is found again is none less. -/
theorem steps_found_of_entered (h : id < a.parts.size) (hentered : a.Entered id) :
    (a.found id part).steps = a.steps := by
  obtain ⟨old, hold⟩ := hentered
  rw [Array.getElem?_eq_getElem h] at hold
  rw [steps, steps, countP_found h, Option.some.inj hold]
  rfl

/-- **A part is found that is complete:** what waited for it need not wait any more. -/
theorem Sound.found {round' : List (NodeId × CollectionType)} (h : a.Sound nodes round)
    (hid : id < nodes.size) (hbecomes : Becomes nodes id type part)
    (hrefs : ∀ r ∈ part.references, a.Entered r) (hround : ∀ e ∈ round, e.1 = id ∨ e ∈ round')
    (hsub : ∀ e ∈ round', e ∈ round) : (a.found id part).Sound nodes round' where
  nodes_eq := h.nodes_eq
  size_eq := Array.size_setIfInBounds.trans h.size_eq
  parts r p hp := by
    have hsize : id < a.parts.size := h.size_eq ▸ hid
    rw [parts_found hsize] at hp
    -- The part is the one that is found, or one of those from before.
    by_cases hr : r = id
    · rw [if_pos hr, Option.some.injEq, Option.some.injEq] at hp
      subst hr hp
      exact .inr ⟨⟨type, hbecomes⟩, fun s hs => (entered_found hsize).2 (.inr (hrefs s hs))⟩
    · rw [if_neg hr] at hp
      obtain ⟨t, ht⟩ | ⟨hold, holdRefs⟩ := h.parts r p hp
      · refine .inl ⟨t, ?_⟩
        obtain ht | ht := List.mem_append.1 ht
        · exact List.mem_append_left _ ((hround _ ht).resolve_left hr)
        · exact List.mem_append_right _ ht
      · exact .inr ⟨hold, fun s hs => (entered_found hsize).2 (.inr (holdRefs s hs))⟩
  waiting e he := by
    -- What still waits has been waiting before.
    have hsize : id < a.parts.size := h.size_eq ▸ hid
    have hmem : e ∈ round ++ a.waiting := by
      obtain he | he := List.mem_append.1 he
      · exact List.mem_append_left _ (hsub e he)
      · exact List.mem_append_right _ he
    obtain ⟨hentered, hpart⟩ := h.waiting e hmem
    exact ⟨(entered_found hsize).2 (.inr hentered), hpart⟩

/-- **A collection is found that has to wait.** -/
theorem Sound.await {t : CollectionType} {empty : Part} (h : a.Sound nodes round)
    (hid : id < nodes.size) (hbecomes : Becomes nodes id (some t) part) :
    (a.await id t empty).Sound nodes round where
  nodes_eq := h.nodes_eq
  size_eq := Array.size_setIfInBounds.trans h.size_eq
  parts r p hp := by
    have hsize : id < a.parts.size := h.size_eq ▸ hid
    have hpart : (a.found id empty).parts[r]? = some (some p) := hp
    rw [parts_found hsize] at hpart
    -- What waits has been entered with nothing in it yet, so nothing is claimed of its part.
    by_cases hr : r = id
    · subst hr
      exact .inl ⟨t, List.mem_append_right _ List.mem_cons_self⟩
    · rw [if_neg hr] at hpart
      obtain ⟨t', ht'⟩ | ⟨hold, holdRefs⟩ := h.parts r p hpart
      · refine .inl ⟨t', ?_⟩
        obtain ht' | ht' := List.mem_append.1 ht'
        · exact List.mem_append_left _ ht'
        · exact List.mem_append_right _ (List.mem_cons_of_mem _ ht')
      · exact .inr ⟨hold, fun s hs => (entered_found hsize).2 (.inr (holdRefs s hs))⟩
  waiting e he := by
    have hsize : id < a.parts.size := h.size_eq ▸ hid
    have hmem : e = (id, t) ∨ e ∈ round ++ a.waiting := by
      obtain he | he := List.mem_append.1 he
      · exact .inr (List.mem_append_left _ he)
      · exact (List.mem_cons.1 he).imp_right (List.mem_append_right _)
    obtain rfl | hmem := hmem
    · exact ⟨(entered_found hsize).2 (.inl rfl), part, hbecomes⟩
    · obtain ⟨hentered, hwaits⟩ := h.waiting e hmem
      exact ⟨(entered_found hsize).2 (.inr hentered), hwaits⟩

end Assembly

/-! ### Steps -/

namespace Assemble

variable {nodes : Array Node} {a : Assembly} {round : List (NodeId × CollectionType)}
  {id : NodeId} {part : Part} {type : Option CollectionType}

theorem enter_of_entered (h : a.Entered id) : enter id a = .ok ((), a) := by
  obtain ⟨part, hpart⟩ := h
  have hsome : (a.parts.getD id none).isSome = true := by
    rw [Array.getD_eq_getD_getElem?, hpart]
    rfl
  rw [enter]
  show ((if (a.parts.getD id none).isSome = true then pure () else _) : Assemble Unit) a = _
  rw [if_pos hsome]
  rfl

theorem getD_eq_none (h : id < a.parts.size) (hfresh : ¬a.Entered id) :
    a.parts.getD id none = none := by
  rw [Array.getD_eq_getD_getElem?, Assembly.parts_eq_none h hfresh]
  rfl

theorem node_eq {n : Node} (h : a.nodes[id]? = some n) : node id a = .ok (n, a) := by
  show Except.ok (a.nodes.getD id default, a) = _
  rw [Array.getD_eq_getD_getElem?, h]
  rfl

theorem get_eq : (get : Assemble Assembly) a = .ok (a, a) := rfl

/-- A scalar that is entered is found at once. -/
theorem enter_scalar {tag text : String} {start : Mark} {scalarType : ScalarType} {s : Scalar}
    (hid : id < a.parts.size) (hfresh : ¬a.Entered id)
    (hnode : a.nodes[id]? = some ⟨tag, .scalar text, start⟩)
    (htype : ScalarType.ofTag? tag = some scalarType) (hread : scalarType.read text = .ok s)
    (hmark : s.mark? = none) : enter id a = .ok ((), a.found id (.scalar s)) := by
  -- A scalar without a mark is put in as it is: only what is no number is told apart by its node.
  have hidentified : identified id s = s := by
    cases s with
    | float x =>
      have hnan : x.isNaN = false := by
        by_contra hnan
        simp [Scalar.mark?, eq_true_of_ne_false hnan] at hmark
      rw [identified, hnan]
      rfl
    | _ => rfl
  have hvalue : scalarValue id scalarType a = .ok (s, a) := by
    have htext : scalarText (a.nodes.size + 1) id a = .ok (text, a) := by
      rw [scalarText, bind_ok (node_eq hnode)]
      rfl
    rw [scalarValue, bind_ok get_eq, bind_ok htext, bind_ok (node_eq hnode)]
    dsimp only
    rw [hread]
    cases scalarType <;> rfl
  rw [enter]
  show ((if (a.parts.getD id none).isSome = true then pure () else _) : Assemble Unit) a = _
  rw [getD_eq_none hid hfresh]
  show (node id >>= fun n => _) a = _
  rw [bind_ok (node_eq hnode)]
  dsimp only
  rw [htype]
  show (scalarValue id scalarType >>= fun s => _) a = _
  rw [bind_ok hvalue, hidentified]
  rfl

/-- A collection that is entered has to wait. -/
theorem enter_list {ids : List NodeId} {start : Mark}
    (hid : id < a.parts.size) (hfresh : ¬a.Entered id)
    (hnode : a.nodes[id]? = some ⟨coreTag "seq", .sequence ids, start⟩) :
    enter id a = .ok ((), a.await id .seq (.list [])) := by
  rw [enter]
  show ((if (a.parts.getD id none).isSome = true then pure () else _) : Assemble Unit) a = _
  rw [getD_eq_none hid hfresh]
  show (node id >>= fun n => _) a = _
  rw [bind_ok (node_eq hnode)]
  rfl

theorem enter_map {pairs : List (NodeId × NodeId)} {start : Mark}
    (hid : id < a.parts.size) (hfresh : ¬a.Entered id)
    (hnode : a.nodes[id]? = some ⟨coreTag "map", .mapping pairs, start⟩) :
    enter id a = .ok ((), a.await id .map (.map [])) := by
  rw [enter]
  show ((if (a.parts.getD id none).isSome = true then pure () else _) : Assemble Unit) a = _
  rw [getD_eq_none hid hfresh]
  show (node id >>= fun n => _) a = _
  rw [bind_ok (node_eq hnode)]
  rfl

/-- **A node is entered.** -/
theorem enter_eq (h : a.Sound nodes round) (hid : id < nodes.size)
    (hbecomes : Becomes nodes id type part) :
    ∃ a', enter id a = .ok ((), a') ∧ a'.Sound nodes round ∧ a.Grows a' ∧ a'.Entered id := by
  have hsize : id < a.parts.size := h.size_eq ▸ hid
  -- A node is entered once: if it has been, nothing is done.
  by_cases hfresh : a.Entered id
  · exact ⟨a, enter_of_entered hfresh, h, .refl a, hfresh⟩
  have hgrows (p : Part) (r : NodeId) (hr : a.Entered r) : (a.found id p).Entered r :=
    (Assembly.entered_found hsize).2 (.inr hr)
  have hentered (p : Part) : (a.found id p).Entered id :=
    (Assembly.entered_found hsize).2 (.inl rfl)
  have hsteps (p : Part) : (a.found id p).steps + 1 = a.steps :=
    Assembly.steps_found_of_fresh hsize hfresh
  -- A collection is one node less to enter and one more to wait for.
  have hwaits (t : CollectionType) (p : Part) : (a.await id t p).steps ≤ a.steps := by
    have hone : (a.await id t p).steps = (a.found id p).steps + 1 := by
      show (a.waiting.length + 1) + _ = (a.waiting.length + _) + 1
      exact Nat.succ_add _ _
    exact Nat.le_of_eq (hone.trans (hsteps p))
  have hnodes := h.nodes_eq
  -- Only a scalar is complete at once.
  cases hbecomes with
  | scalar hnode htype hread hmark =>
    refine ⟨_, enter_scalar hsize hfresh (hnodes ▸ hnode) htype hread hmark, ?_,
      ⟨hgrows _, Nat.le_of_succ_le (Nat.le_of_eq (hsteps _))⟩, hentered _⟩
    exact h.found hid (.scalar hnode htype hread hmark) (List.forall_mem_nil _)
      (fun e he => .inr he) fun e he => he
  | list hnode hids =>
    exact ⟨_, enter_list hsize hfresh (hnodes ▸ hnode), h.await hid (.list hnode hids),
      ⟨hgrows _, hwaits _ _⟩, hentered _⟩
  | map hnode hpairs hnodup hids =>
    exact ⟨_, enter_map hsize hfresh (hnodes ▸ hnode), h.await hid (.map hnode hpairs hnodup hids),
      ⟨hgrows _, hwaits _ _⟩, hentered _⟩

/-- Nodes are entered one after another. -/
theorem forM_enter_eq (hall : AllBecome nodes) {ids : List NodeId}
    (hids : ∀ r ∈ ids, r < nodes.size) (h : a.Sound nodes round) :
    ∃ a', ids.forM enter a = .ok ((), a') ∧ a'.Sound nodes round ∧ a.Grows a' ∧
      ∀ r ∈ ids, a'.Entered r := by
  -- Induction on the nodes: what a step has entered stays entered.
  induction ids generalizing a with
  | nil => exact ⟨a, rfl, h, .refl a, List.forall_mem_nil _⟩
  | cons r ids ih =>
    obtain ⟨hr, hids⟩ := List.forall_mem_cons.1 hids
    obtain ⟨type, part, hbecomes⟩ := hall r hr
    obtain ⟨a₁, hfirst, h₁, hgrows₁, hentered₁⟩ := enter_eq h hr hbecomes
    obtain ⟨a₂, hrest, h₂, hgrows₂, hentered₂⟩ := ih hids h₁
    refine ⟨a₂, ?_, h₂, hgrows₁.trans hgrows₂,
      List.forall_mem_cons.2 ⟨hgrows₂.entered r hentered₁, hentered₂⟩⟩
    show (enter r >>= fun _ => ids.forM enter) a = _
    rw [bind_ok hfirst, hrest]

/-! ### Mappings -/

/-- The keys of entries are texts. -/
theorem exists_key {pairs : List (NodeId × NodeId)} {entries : List (Scalar × NodeId)}
    (h : List.Forall₂ (IsEntry nodes) pairs entries) :
    ∀ p ∈ pairs, ∃ k start, nodes[p.1]? = some ⟨coreTag "str", .scalar k, start⟩ := by
  induction h with
  | nil => exact List.forall_mem_nil _
  | cons hone _ ih =>
    obtain ⟨k, start, hnode, -⟩ := hone
    exact List.forall_mem_cons.2 ⟨⟨k, start, hnode⟩, ih⟩

section Mapping

variable {pairs : List (NodeId × NodeId)} {entries : List (Scalar × NodeId)} {start : Mark}
  (hnode : a.nodes[id]? = some ⟨coreTag "map", .mapping pairs, start⟩)
  (hpairs : List.Forall₂ (IsEntry a.nodes) pairs entries)

include hnode hpairs

/-- A mapping whose keys are texts merges nothing. -/
theorem flattenFrom_eq (fuel i : Nat) : flattenFrom fuel id i [] a = .ok ([], a) := by
  -- No key is the sign of a merge, since all of them are texts. So no pair is taken out.
  induction fuel generalizing i with
  | zero =>
    rw [flattenFrom]
    rfl
  | succ fuel ih =>
    rw [flattenFrom, bind_ok (node_eq hnode)]
    dsimp only
    cases hi : pairs[i]? with
    | none => rfl
    | some p =>
      obtain ⟨key, keyStart, hkey⟩ := exists_key hpairs p (List.mem_of_getElem? hi)
      dsimp only
      rw [bind_ok (node_eq hkey)]
      exact ih (i + 1)

theorem merge_eq : merge id a = .ok ((), a) := by
  obtain ⟨fuel, hfuel⟩ : ∃ fuel, mergeFuel a = .ok (fuel, a) := ⟨_, rfl⟩
  rw [merge, bind_ok (node_eq hnode)]
  dsimp only
  rw [bind_ok hfuel]
  cases fuel with
  | zero =>
    rw [flatten]
    rfl
  | succ fuel =>
    rw [flatten, bind_ok (flattenFrom_eq hnode hpairs fuel 0)]
    rfl

end Mapping

/-- A text that is no key yet comes at the end. -/
theorem insertKey_of_new {k : String} {r : NodeId} {entries : List (Scalar × NodeId)}
    (h : Scalar.str k ∉ entries.map (·.1)) :
    insertKey (.str k) r entries = entries ++ [(.str k, r)] := by
  induction entries with
  | nil => rfl
  | cons e rest ih =>
    rw [List.map_cons, List.mem_cons, not_or] at h
    have hother : ¬e.1.sameKey (.str k) = true := fun hsame =>
      h.1 (Value.scalar.inj (Entries.sameKey_str (v := .scalar e.1) |>.1 hsame)).symm
    rw [insertKey, if_neg hother, ih h.2]
    rfl

/-- One pair of a mapping that starts at a place. -/
def readPair (began : Mark) (entries : List (Scalar × NodeId)) (p : NodeId × NodeId) :
    Assemble (List (Scalar × NodeId)) := do
  enter p.1
  match ((← get).parts.getD p.1 none) with
  | some (.scalar key) =>
    enter p.2
    return insertKey key p.2 entries
  | _ =>
    wrong (.within "while constructing a mapping" began "found unhashable key"
      (← node p.1).start)

/-- A node that has been entered and is a text has been found. -/
theorem getD_key (h : a.Sound nodes round) (hentered : a.Entered id) {k : String} {start : Mark}
    (hnode : nodes[id]? = some ⟨coreTag "str", .scalar k, start⟩) :
    a.parts.getD id none = some (.scalar (.str k)) := by
  obtain ⟨part, hpart⟩ := hentered
  rw [Array.getD_eq_getD_getElem?, hpart, Option.getD_some]
  obtain ⟨type, hwaits⟩ | ⟨⟨type, hbecomes⟩, -⟩ := h.parts id part hpart
  · -- only collections wait
    obtain ⟨-, p, hp⟩ := h.waiting _ hwaits
    cases (hp.of_scalar hnode).1
  · obtain ⟨-, t, s, ht, hread, rfl⟩ := hbecomes.of_scalar hnode
    cases ht
    cases hread
    rfl

/-- Pairs are read one after another. -/
theorem foldlM_readPair (hall : AllBecome nodes) (began : Mark) {pairs : List (NodeId × NodeId)}
    (before : List (Scalar × NodeId)) {entries : List (Scalar × NodeId)}
    (hpairs : List.Forall₂ (IsEntry nodes) pairs entries) (hids : ∀ p ∈ pairs, p.2 < nodes.size)
    (hnodup : ((before ++ entries).map (·.1)).Nodup) (h : a.Sound nodes round) :
    ∃ a', pairs.foldlM (readPair began) before a = .ok (before ++ entries, a') ∧
      a'.Sound nodes round ∧ a.Grows a' ∧ ∀ e ∈ entries, a'.Entered e.2 := by
  -- The entries read so far are in front, and each new key differs from theirs.
  induction hpairs generalizing a before with
  | nil =>
    refine ⟨a, ?_, h, .refl a, List.forall_mem_nil _⟩
    rw [List.append_nil]
    rfl
  | @cons p e pairs entries he hpairs ih =>
    obtain ⟨k, start, hnode, rfl⟩ := he
    obtain ⟨hid, hids⟩ := List.forall_mem_cons.1 hids
    have hkey : p.1 < nodes.size := (Array.getElem?_eq_some_iff.1 hnode).1
    obtain ⟨type, part, hbecomes⟩ := hall p.2 hid
    -- the key, the value, and the pairs after it
    obtain ⟨a₁, hfirst, h₁, hgrows₁, hentered₁⟩ := enter_eq h hkey (becomes_key hnode)
    obtain ⟨a₂, hsecond, h₂, hgrows₂, hentered₂⟩ := enter_eq h₁ hid hbecomes
    -- All keys are different, so none is replaced.
    have hnew : Scalar.str k ∉ before.map (·.1) := by
      rw [List.map_append] at hnodup
      intro hmem
      exact (List.nodup_append.1 hnodup).2.2 _ hmem _ List.mem_cons_self rfl
    obtain ⟨a₃, hrest, h₃, hgrows₃, hentered₃⟩ :=
      ih (before ++ [(.str k, p.2)]) hids (by rwa [List.append_assoc]) h₂
    refine ⟨a₃, ?_, h₃, (hgrows₁.trans hgrows₂).trans hgrows₃,
      List.forall_mem_cons.2 ⟨hgrows₃.entered _ hentered₂, hentered₃⟩⟩
    have hread : readPair began before p a = .ok (before ++ [(.str k, p.2)], a₂) := by
      rw [readPair, bind_ok hfirst, bind_ok get_eq, getD_key h₁ hentered₁ hnode]
      dsimp only
      rw [bind_ok hsecond, insertKey_of_new hnew]
      rfl
    rw [List.foldlM_cons, bind_ok hread, hrest, List.append_assoc]
    rfl

/-- **A collection that waits is completed.** -/
theorem complete_eq (hall : AllBecome nodes) {t : CollectionType}
    (h : a.Sound nodes ((id, t) :: round)) :
    ∃ a', complete id t a = .ok ((), a') ∧ a'.Sound nodes round ∧ a.Grows a' := by
  obtain ⟨hentered, part, hbecomes⟩ := h.waiting (id, t) List.mem_cons_self
  have hround : ∀ e ∈ (id, t) :: round, e.1 = id ∨ e ∈ round := by
    intro e he
    exact (List.mem_cons.1 he).imp_left fun heq => congrArg Prod.fst heq
  have hsub : ∀ e ∈ round, e ∈ (id, t) :: round := fun e he => List.mem_cons_of_mem _ he
  -- what is left to do once the parts have been found
  have hput {a' : Assembly} (h' : a'.Sound nodes ((id, t) :: round)) (hgrows : a.Grows a')
      (hrefs : ∀ r ∈ part.references, a'.Entered r) :
      (a'.found id part).Sound nodes round ∧ a.Grows (a'.found id part) := by
    have hid : id < nodes.size := by
      cases hbecomes <;> exact (Array.getElem?_eq_some_iff.1 ‹_›).1
    have hsize : id < a'.parts.size := h'.size_eq ▸ hid
    refine ⟨h'.found hid hbecomes hrefs hround hsub, hgrows.trans ⟨fun r hr => ?_, ?_⟩⟩
    · exact (Assembly.entered_found hsize).2 (.inr hr)
    · exact Nat.le_of_eq (Assembly.steps_found_of_entered hsize (hgrows.entered id hentered))
  have hnodes := h.nodes_eq
  -- All items are entered, or all keys and values; nothing is left to be merged.
  cases hbecomes with
  | list hnode hids =>
    obtain ⟨a', hrun, h', hgrows, hrefs⟩ := forM_enter_eq hall hids h
    refine ⟨_, ?_, hput h' hgrows hrefs⟩
    rw [complete, bind_ok (node_eq (hnodes ▸ hnode))]
    dsimp only
    rw [bind_ok hrun]
    rfl
  | @map pairs entries start hnode hpairs hnodup hids =>
    obtain ⟨a', hrun, h', hgrows, hrefs⟩ := foldlM_readPair hall start [] hpairs hids
      hnodup h
    refine ⟨_, ?_, hput h' hgrows (List.forall_mem_map.2 hrefs)⟩
    have hread : readEntries id a = .ok (entries, a') := by
      rw [readEntries, bind_ok (node_eq (hnodes ▸ hnode))]
      exact hrun
    have hentries : entriesOf id a = .ok (entries, a') := by
      rw [entriesOf, bind_ok (merge_eq (hnodes ▸ hnode) (hnodes ▸ hpairs)), hread]
    rw [complete, bind_ok hentries]
    rfl

/-! ### Rounds -/

/-- **A round completes all collections that it goes through.** -/
theorem forM_complete_eq (hall : AllBecome nodes) (h : a.Sound nodes round) :
    ∃ a', round.forM (fun e => complete e.1 e.2) a = .ok ((), a') ∧ a'.Sound nodes [] ∧
      a.Grows a' := by
  -- Induction on the round: what has been completed is left out of it.
  induction round generalizing a with
  | nil => exact ⟨a, rfl, h, .refl a⟩
  | cons e round ih =>
    obtain ⟨a₁, hfirst, h₁, hgrows₁⟩ := complete_eq hall h
    obtain ⟨a₂, hrest, h₂, hgrows₂⟩ := ih h₁
    refine ⟨a₂, ?_, h₂, hgrows₁.trans hgrows₂⟩
    show (complete e.1 e.2 >>= fun _ => round.forM fun e => complete e.1 e.2) a = _
    rw [bind_ok hfirst, hrest]

/-- What waits is gone through in the next round. -/
theorem sound_round (h : a.Sound nodes []) :
    ({ a with waiting := [] } : Assembly).Sound nodes a.waiting.reverse where
  nodes_eq := h.nodes_eq
  size_eq := h.size_eq
  parts id part hpart := by
    obtain ⟨type, htype⟩ | hdone := h.parts id part hpart
    · refine .inl ⟨type, ?_⟩
      rw [List.append_nil]
      exact List.mem_reverse.2 htype
    · exact .inr hdone
  waiting e he := by
    rw [List.append_nil, List.mem_reverse] at he
    exact h.waiting e he

/-- **The rounds come to an end** when nothing waits any more: each round has fewer steps left than
the one before it. -/
theorem completeAll_eq (hall : AllBecome nodes) (h : a.Sound nodes []) {fuel : Nat}
    (hfuel : a.steps < fuel) :
    ∃ a', completeAll fuel a = .ok ((), a') ∧ a'.Sound nodes [] ∧ a'.waiting = [] ∧
      ∀ id, a.Entered id → a'.Entered id := by
  -- Induction on the bound, by the steps that are left.
  induction fuel generalizing a with
  | zero => exact absurd hfuel (Nat.not_lt_zero _)
  | succ fuel ih =>
    rw [completeAll, bind_ok get_eq]
    dsimp only
    by_cases hnil : a.waiting = []
    · refine ⟨a, ?_, h, hnil, fun id hid => hid⟩
      rw [hnil]
      rfl
    · obtain ⟨a₁, hround, h₁, hgrows₁⟩ := forM_complete_eq hall (sound_round h)
      -- Something has waited, and the round has not entered more nodes than it has used up.
      have hless : a₁.steps < a.steps := by
        have hpos : 0 < a.waiting.length := List.length_pos_iff.2 hnil
        have hsteps : ({ a with waiting := [] } : Assembly).steps =
            a.parts.countP (·.isNone) := Nat.zero_add _
        have hle := hgrows₁.steps_le
        rw [hsteps] at hle
        rw [Assembly.steps, Assembly.steps] at *
        omega
      obtain ⟨a₂, hall₂, h₂, hwaiting₂, hentered₂⟩ := ih h₁ (by omega)
      refine ⟨a₂, ?_, h₂, hwaiting₂, fun id hid => hentered₂ id (hgrows₁.entered id hid)⟩
      have hmore : ¬a.waiting.reverse.isEmpty = true := by
        rwa [List.isEmpty_iff, List.reverse_eq_nil_iff]
      rw [if_neg hmore]
      have hclear : (modify fun a => { a with waiting := [] } : Assemble Unit) a =
          .ok ((), { a with waiting := [] }) := rfl
      rw [bind_ok hclear, bind_ok hround]
      exact hall₂

end Assemble

end Playbook.Yaml
