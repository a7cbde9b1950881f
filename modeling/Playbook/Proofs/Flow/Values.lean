import Mathlib.Data.List.Range
import Playbook.Proofs.Flow.Assembly
import Playbook.Proofs.JsonReader

/-!
# Values of trees

In a drawing each node but the root is referred to once, so no node is shared and no container bears
a mark: the value of the graph of a drawing is the value that is drawn, without marks.

Main definitions:

- `Yaml.referencesIn`: the nodes that the parts of a range of nodes refer to;
- `Yaml.AreComplete`: parts that are those of their nodes and refer to parts that have been found.

Main statement: `Yaml.Graph.value_eq`, from `Yaml.sharedNodes_eq` and `Yaml.Draws.valueOf_eq`.
-/

namespace Playbook.Yaml

/-- The nodes that the part of a node refers to, if it has been found. -/
def referencesAt (parts : Array (Option Part)) (id : NodeId) : List NodeId :=
  ((parts.getD id none).map Part.references).getD []

/-- The references of the nodes from one number up to another. -/
def referencesIn (parts : Array (Option Part)) (lo hi : Nat) : List NodeId :=
  (List.range' lo (hi - lo)).flatMap (referencesAt parts)

/-- What has been found are the parts of the nodes. -/
def AreParts (nodes : Array Node) (parts : Array (Option Part)) : Prop :=
  ∀ id part, parts.getD id none = some part → ∃ type, Becomes nodes id type part

/-- The nodes that what a node holds refers to, but for keys. -/
def Content.references : Content → List NodeId
  | .scalar _ => []
  | .sequence ids => ids
  | .mapping pairs => pairs.map (·.2)

/-- Numbers that are all different and lie between two others. -/
structure OnceWithin (lo hi : Nat) (ids : List NodeId) : Prop where
  /-- No number comes twice. -/
  nodup : ids.Nodup
  /-- All lie there. -/
  within : ∀ id ∈ ids, lo ≤ id ∧ id < hi

section References

variable {nodes : Array Node} {parts : Array (Option Part)} {id : NodeId} {lo mid hi : Nat}

theorem OnceWithin.sublist {ids ids' : List NodeId} (h : OnceWithin lo hi ids)
    (hsub : ids'.Sublist ids) : OnceWithin lo hi ids' :=
  ⟨h.nodup.sublist hsub, fun id hid => h.within id (hsub.subset hid)⟩

theorem OnceWithin.append {ids ids' : List NodeId} (h : OnceWithin lo mid ids)
    (h' : OnceWithin mid hi ids') (hlo : lo ≤ mid) (hhi : mid ≤ hi) :
    OnceWithin lo hi (ids ++ ids') := by
  -- What the two have in common would lie below `mid` and not below it.
  refine ⟨List.nodup_append.2 ⟨h.nodup, h'.nodup, ?_⟩, fun id hid => ?_⟩
  · rintro x hx y hy rfl
    exact absurd (h.within x hx).2 (Nat.not_lt.2 (h'.within x hy).1)
  · obtain hid | hid := List.mem_append.1 hid
    · exact ⟨(h.within id hid).1, Nat.lt_of_lt_of_le (h.within id hid).2 hhi⟩
    · exact ⟨Nat.le_trans hlo (h'.within id hid).1, (h'.within id hid).2⟩

theorem OnceWithin.cons {ids : List NodeId} (h : OnceWithin (lo + 1) hi ids) (hlo : lo < hi) :
    OnceWithin lo hi (lo :: ids) := by
  refine ⟨List.nodup_cons.2 ⟨fun hmem => ?_, h.nodup⟩,
    List.forall_mem_cons.2 ⟨?_, fun id hid => ?_⟩⟩
  -- The first number is below all that the others may be.
  · exact absurd (h.within lo hmem).1 (Nat.not_le.2 (Nat.lt_succ_self lo))
  · exact ⟨Nat.le_refl _, hlo⟩
  · exact ⟨Nat.le_of_succ_le (h.within id hid).1, (h.within id hid).2⟩

/-- The first references of two groups may be taken together. -/
theorem OnceWithin.perm (first : List NodeId) {firsts rest rests : List NodeId}
    (h : OnceWithin lo hi ((first ++ rest) ++ (firsts ++ rests))) :
    OnceWithin lo hi ((first ++ firsts) ++ (rest ++ rests)) := by
  have hperm : ((first ++ firsts) ++ (rest ++ rests)).Perm
      -- Only the two groups in the middle change places.
      ((first ++ rest) ++ (firsts ++ rests)) := by
    rw [List.append_assoc, List.append_assoc]
    exact (List.perm_append_comm_assoc firsts rest rests).append_left first
  exact ⟨hperm.nodup_iff.2 h.nodup, fun id hid => h.within id (hperm.mem_iff.1 hid)⟩

theorem referencesIn_cons (h : lo < hi) :
    referencesIn parts lo hi = referencesAt parts lo ++ referencesIn parts (lo + 1) hi := by
  rw [referencesIn, show hi - lo = (hi - (lo + 1)) + 1 by omega, List.range'_succ,
    List.flatMap_cons]
  rfl

theorem referencesIn_append (h : lo ≤ mid) (h' : mid ≤ hi) :
    referencesIn parts lo hi = referencesIn parts lo mid ++ referencesIn parts mid hi := by
  have hrange := @List.range'_append_1 lo (mid - lo) (hi - mid)
  -- The numbers up to `mid` and those from `mid` on make up all of them.
  rw [show lo + (mid - lo) = mid by omega, show mid - lo + (hi - mid) = hi - lo by omega] at hrange
  rw [referencesIn, ← hrange, List.flatMap_append]
  rfl

theorem references_eq {pairs : List (NodeId × NodeId)} {entries : List (Scalar × NodeId)}
    (h : List.Forall₂ (IsEntry nodes) pairs entries) :
    entries.map (·.2) = pairs.map (·.2) := by
  induction h with
  | nil => rfl
  | cons hone _ ih =>
    obtain ⟨k, start, -, rfl⟩ := hone
    rw [List.map_cons, List.map_cons, ih]

/-- A part refers to what its node refers to. -/
theorem referencesAt_sublist (h : AreParts nodes parts) {n : Node} (hnode : nodes[id]? = some n) :
    (referencesAt parts id).Sublist n.content.references := by
  -- A part is what its node becomes, so its references can be read off the node.
  rw [referencesAt]
  cases hpart : parts.getD id none with
  | none => exact List.nil_sublist _
  | some part =>
    obtain ⟨type, hbecomes⟩ := h id part hpart
    cases hbecomes with
    | scalar hscalar => exact List.nil_sublist _
    | list hlist =>
      rw [hnode, Option.some.injEq] at hlist
      subst hlist
      exact List.Sublist.refl _
    | @map pairs entries _ hmap hpairs =>
      rw [hnode, Option.some.injEq] at hmap
      subst hmap
      show (entries.map (·.2)).Sublist (pairs.map (·.2))
      rw [references_eq hpairs]

/-- A drawing whose root refers to what its parts refer to. -/
theorem OnceWithin.root (hparts : AreParts nodes parts) {n : Node} (hnode : nodes[lo]? = some n)
    (hle : lo + 1 ≤ hi)
    (h : OnceWithin (lo + 1) hi (n.content.references ++ referencesIn parts (lo + 1) hi)) :
    OnceWithin (lo + 1) hi (referencesIn parts lo hi) := by
  rw [referencesIn_cons hle]
  exact h.sublist ((referencesAt_sublist hparts hnode).append_right _)

mutual

/-- **In a drawing each node is referred to once at most,** and its root is not. -/
theorem Draws.references (hparts : AreParts nodes parts) {v : Value} {lo hi : Nat} :
    Draws nodes v lo hi → OnceWithin (lo + 1) hi (referencesIn parts lo hi)
  | .scalar hnode .. => by
    -- The node of a scalar is the only one of its drawing, and it refers to nothing.
    refine OnceWithin.root hparts hnode (Nat.le_refl _) ?_
    rw [referencesIn, Nat.sub_self]
    exact ⟨List.nodup_nil, List.forall_mem_nil _⟩
  | .list hnode h => OnceWithin.root hparts hnode h.le (h.references hparts)
  | .map hnode _ h => OnceWithin.root hparts hnode h.le (h.references hparts)

/-- The drawings of items are apart from one another. -/
theorem DrawsItems.references (hparts : AreParts nodes parts) {vs : List Value}
    {ids : List NodeId} {lo hi : Nat} :
    DrawsItems nodes vs ids lo hi → OnceWithin lo hi (ids ++ referencesIn parts lo hi)
  | .nil => by
    rw [referencesIn, Nat.sub_self]
    exact ⟨List.nodup_nil, List.forall_mem_nil _⟩
  | .cons h hrest => by
    -- First comes the drawing of the first item, and its root is not referred to from inside it. So
    -- its number can join the references.
    rw [referencesIn_append (Nat.le_of_lt h.lt) hrest.le]
    exact OnceWithin.perm [lo] (((h.references hparts).cons h.lt).append
      (hrest.references hparts) (Nat.le_of_lt h.lt) hrest.le)

/-- The drawings of entries are apart from one another, and no key refers to anything. -/
theorem DrawsEntries.references (hparts : AreParts nodes parts) {es : Entries}
    {pairs : List (NodeId × NodeId)} {lo hi : Nat} :
    DrawsEntries nodes es pairs lo hi →
    OnceWithin lo hi (pairs.map (·.2) ++ referencesIn parts lo hi)
  | .nil => by
    rw [referencesIn, Nat.sub_self]
    exact ⟨List.nodup_nil, List.forall_mem_nil _⟩
  | .cons hkey h hrest => by
    -- A key is a scalar: it refers to nothing, and the value refers to numbers after it.
    have hnone : referencesAt parts lo = [] :=
      List.sublist_nil.1 (referencesAt_sublist hparts hkey)
    have hlo : lo + 1 ≤ hi := Nat.le_trans (Nat.le_of_lt h.lt) hrest.le
    rw [referencesIn_cons hlo, hnone, List.nil_append,
      referencesIn_append (Nat.le_of_lt h.lt) hrest.le]
    have hmore : OnceWithin (lo + 1) hi _ := OnceWithin.perm [lo + 1]
      (((h.references hparts).cons h.lt).append (hrest.references hparts) (Nat.le_of_lt h.lt)
        hrest.le)
    exact ⟨hmore.nodup, fun id hid =>
      ⟨Nat.le_of_succ_le (hmore.within id hid).1, (hmore.within id hid).2⟩⟩

end

end References

/-! ### Sharing -/

section Counts

variable {nodes : Array Node} {parts : Array (Option Part)}

/-- One more reference to a node. -/
def countOne (counts : Array Nat) (id : NodeId) : Array Nat := counts.modify id (· + 1)

theorem getD_countOne (counts : Array Nat) (id r : NodeId) :
    (countOne counts r).getD id 0 ≤ counts.getD id 0 + [r].count id := by
  rw [countOne, Array.getD_eq_getD_getElem?, Array.getD_eq_getD_getElem?, Array.getElem?_modify]
  -- Out of bounds nothing is counted, which is why there is only `≤` here.
  by_cases hr : r = id
  · subst hr
    rw [if_pos rfl, List.count_singleton_self]
    cases counts[r]? with
    | none => exact Nat.zero_le _
    | some n => exact Nat.le_refl _
  · rw [if_neg hr]
    exact Nat.le_add_right _ _

theorem getD_countAll (counts : Array Nat) (id : NodeId) (ids : List NodeId) :
    (ids.foldl countOne counts).getD id 0 ≤ counts.getD id 0 + ids.count id := by
  induction ids generalizing counts with
  | nil => exact Nat.le_refl _
  | cons r rest ih =>
    have hone := getD_countOne counts id r
    have hrest := ih (countOne counts r)
    rw [List.foldl_cons, ← List.singleton_append, List.count_append]
    omega

/-- The references of all nodes that have been found. -/
theorem toList_flatMap_references :
    parts.toList.flatMap (fun part => (part.map Part.references).getD []) =
      referencesIn parts 0 parts.size := by
  -- A part is looked up by its number, so the list of parts is that of what is found for the
  -- numbers.
  have hlist : parts.toList = (List.range' 0 parts.size).map fun id => parts.getD id none := by
    refine List.ext_getElem (by simp) fun id hid _ => ?_
    simp only [Array.length_toList] at hid
    simp [hid]
  rw [hlist, List.flatMap_map]
  rfl

/-- A node is counted as often as it is referred to. -/
theorem referenceCounts_eq :
    referenceCounts parts =
      (referencesIn parts 0 parts.size).foldl countOne (Array.replicate parts.size 0) := by
  rw [← toList_flatMap_references, List.foldl_flatMap, referenceCounts, ← Array.foldl_toList]
  -- Both go through the parts in order. A node without a part adds nothing to either.
  congr 1
  funext counts part
  cases part <;> rfl

/-- **No node of a drawing is shared.** -/
theorem sharedNodes_eq (hparts : AreParts nodes parts) {v : Value} (hsize : parts.size = nodes.size)
    (h : Draws nodes v 0 nodes.size) :
    sharedNodes parts ((referenceCounts parts).modify 0 (· + 1)) =
      Array.replicate parts.size false := by
  have honce := h.references hparts
  rw [← hsize] at honce
  -- the root is counted once more, and nothing else refers to it
  have hroot : (referencesIn parts 0 parts.size ++ [0]).Nodup := by
    refine List.nodup_append.2 ⟨honce.nodup, List.nodup_singleton 0, ?_⟩
    rintro x hx y hy rfl
    rw [List.mem_singleton.1 hy] at hx
    exact absurd (honce.within 0 hx).1 (Nat.not_succ_le_zero 0)
  have hcounts : (referenceCounts parts).modify 0 (· + 1) =
      (referencesIn parts 0 parts.size ++ [0]).foldl countOne (Array.replicate parts.size 0) := by
    rw [List.foldl_append, ← referenceCounts_eq]
    rfl
  have hone (id : NodeId) : ¬1 < ((referenceCounts parts).modify 0 (· + 1)).getD id 0 := by
    have hle := getD_countAll (Array.replicate parts.size 0) id
      (referencesIn parts 0 parts.size ++ [0])
    have hzero : (Array.replicate parts.size 0).getD id 0 = 0 := by
      rw [Array.getD_eq_getD_getElem?, Array.getElem?_replicate]
      split <;> rfl
    have hcount := List.nodup_iff_count_le_one.1 hroot id
    rw [hcounts]
    omega
  have hnone : ((List.range ((referenceCounts parts).modify 0 (· + 1)).size).filter fun id =>
      decide (1 < ((referenceCounts parts).modify 0 (· + 1)).getD id 0)) = [] :=
    List.filter_eq_nil_iff.2 fun id _ => by rw [decide_eq_true_eq]; exact hone id
  rw [sharedNodes, hnone]
  rfl

end Counts

/-! ### Values -/

/-- Whether a node has been found. -/
def Found (parts : Array (Option Part)) (id : NodeId) : Prop :=
  ∃ part, parts.getD id none = some part

/-- What has been found is complete: it is the part of its node, and what it refers to has been
found. -/
structure AreComplete (nodes : Array Node) (parts : Array (Option Part)) : Prop where
  /-- Parts are those of the nodes. -/
  areParts : AreParts nodes parts
  /-- They refer to what has been found. -/
  references : ∀ id part, parts.getD id none = some part → ∀ r ∈ part.references, Found parts r

section Values

variable {nodes : Array Node} {parts : Array (Option Part)} {above : List NodeId}

/-- The part of a node that has been found. -/
theorem AreComplete.exists_part (hcomplete : AreComplete nodes parts) {id : NodeId}
    (hfound : Found parts id) :
    ∃ part, parts.getD id none = some part ∧ (∃ type, Becomes nodes id type part) ∧
      ∀ r ∈ part.references, Found parts r := by
  obtain ⟨part, hpart⟩ := hfound
  exact ⟨part, hpart, hcomplete.areParts id part hpart, hcomplete.references id part hpart⟩

/-- No enclosing node comes again. -/
theorem contains_above {lo : Nat} (habove : ∀ x ∈ above, x < lo) : above.contains lo = false := by
  rw [Bool.eq_false_iff]
  intro hmem
  exact absurd (habove lo (List.contains_iff_mem.1 hmem)) (Nat.lt_irrefl lo)

theorem getD_replicate_false (n : Nat) (id : NodeId) :
    (Array.replicate n false).getD id false = false := by
  rw [Array.getD_eq_getD_getElem?, Array.getElem?_replicate]
  split <;> rfl

mutual

/-- **The value of a drawing** is the value that is drawn, without marks. -/
theorem Draws.valueOf_eq (hcomplete : AreComplete nodes parts) (n fuel : Nat)
    (above : List NodeId) {v : Value} {lo hi : Nat} :
    Draws nodes v lo hi → hi - lo ≤ fuel → (∀ x ∈ above, x < lo) → Found parts lo →
    valueOf parts (Array.replicate n false) fuel above lo = v.unmarked
  | h@(.scalar hnode htype hread hmark), hfuel, habove, hfound => by
    -- There are no more rounds than nodes that the value is drawn with: each round is spent on a
    -- node, and its parts lie after it.
    obtain ⟨fuel, rfl⟩ : ∃ k, fuel = k + 1 := ⟨fuel - 1, by have hlt := h.lt; omega⟩
    obtain ⟨part, hpart, ⟨_, hbecomes⟩, -⟩ := hcomplete.exists_part hfound
    obtain ⟨-, t, s, ht, hs, rfl⟩ := hbecomes.of_scalar hnode
    obtain rfl := Option.some.inj (htype.symm.trans ht)
    obtain rfl := Except.ok.inj (hread.symm.trans hs)
    rw [valueOf, hpart]
    dsimp only [Option.getD_some, Part.shape?]
    rw [hmark]
    rfl
  | .list hnode h, hfuel, habove, hfound => by
    obtain ⟨fuel, rfl⟩ : ∃ k, fuel = k + 1 := ⟨fuel - 1, by have hle := h.le; omega⟩
    obtain ⟨part, hpart, ⟨_, hbecomes⟩, hreferences⟩ := hcomplete.exists_part hfound
    -- The items lie after this node, and the nodes that enclose them before them.
    obtain rfl := hbecomes.of_sequence hnode
    have hitems := h.valueOf_eq hcomplete n fuel (lo :: above) (by omega)
      (List.forall_mem_cons.2 ⟨Nat.lt_succ_self _, fun x hx => Nat.lt_succ_of_lt (habove x hx)⟩)
      hreferences
    rw [valueOf, hpart]
    dsimp only [Option.getD_some, Part.shape?]
    rw [contains_above habove, getD_replicate_false]
    exact congrArg (Value.list none) hitems
  | .map hnode _ h, hfuel, habove, hfound => by
    obtain ⟨fuel, rfl⟩ : ∃ k, fuel = k + 1 := ⟨fuel - 1, by have hle := h.le; omega⟩
    obtain ⟨part, hpart, ⟨_, hbecomes⟩, hreferences⟩ := hcomplete.exists_part hfound
    obtain ⟨entries, rfl, hpairs⟩ := hbecomes.of_mapping hnode
    have hentries := h.valueOf_eq hcomplete n fuel (lo :: above) hpairs (by omega)
      (List.forall_mem_cons.2 ⟨Nat.lt_succ_self _, fun x hx => Nat.lt_succ_of_lt (habove x hx)⟩)
      (List.forall_mem_map.1 hreferences)
    rw [valueOf, hpart]
    dsimp only [Option.getD_some, Part.shape?]
    rw [contains_above habove, getD_replicate_false]
    exact congrArg (Value.map none) hentries

/-- The values of drawings of items. -/
theorem DrawsItems.valueOf_eq (hcomplete : AreComplete nodes parts) (n fuel : Nat)
    (above : List NodeId) {vs : List Value} {ids : List NodeId} {lo hi : Nat} :
    DrawsItems nodes vs ids lo hi → hi - lo ≤ fuel → (∀ x ∈ above, x < lo) →
    (∀ r ∈ ids, Found parts r) →
    ids.map (valueOf parts (Array.replicate n false) fuel above) = Value.unmarkedItems vs
  | .nil, _, _, _ => rfl
  | .cons h hrest, hfuel, habove, hfound => by
    -- The second drawing begins where the first one ends, so the bounds for both follow from those
    -- for all.
    obtain ⟨hone, hmore⟩ := List.forall_mem_cons.1 hfound
    have hlt := h.lt
    have hle := hrest.le
    rw [List.map_cons, h.valueOf_eq hcomplete n fuel above (by omega) habove hone,
      hrest.valueOf_eq hcomplete n fuel above (by omega)
        (fun x hx => Nat.lt_trans (habove x hx) hlt) hmore]
    rfl

/-- The values of drawings of entries. -/
theorem DrawsEntries.valueOf_eq (hcomplete : AreComplete nodes parts) (n fuel : Nat)
    (above : List NodeId) {es : Entries} {pairs : List (NodeId × NodeId)}
    {entries : List (Scalar × NodeId)} {lo hi : Nat} : DrawsEntries nodes es pairs lo hi →
    List.Forall₂ (IsEntry nodes) pairs entries → hi - lo ≤ fuel → (∀ x ∈ above, x < lo) →
    (∀ e ∈ entries, Found parts e.2) →
    entries.map (fun e => (Value.scalar e.1,
      valueOf parts (Array.replicate n false) fuel above e.2)) = Value.unmarkedEntries es
  | .nil, .nil, _, _, _ => rfl
  | .cons hkey h hrest, .cons hone hpairs, hfuel, habove, hfound => by
    -- The key is known: its node was added for it, and the entry holds what that node says.
    obtain ⟨k, start, hnode, rfl⟩ := hone
    rw [hkey] at hnode
    cases hnode
    obtain ⟨hvalue, hmore⟩ := List.forall_mem_cons.1 hfound
    have hlt := h.lt
    have hle := hrest.le
    rw [List.map_cons, h.valueOf_eq hcomplete n fuel above (by omega)
        (fun x hx => Nat.lt_succ_of_lt (habove x hx)) hvalue,
      hrest.valueOf_eq hcomplete n fuel above hpairs (by omega)
        (fun x hx => Nat.lt_trans (habove x hx) (Nat.lt_of_succ_lt hlt)) hmore]
    rfl

end

end Values

/-- When nothing waits any more all is complete. -/
theorem areComplete_of_sound {nodes : Array Node} {a : Assembly} (h : a.Sound nodes [])
    (hwaiting : a.waiting = []) : AreComplete nodes a.parts := by
  -- A part that is not complete would have to wait.
  have hpart (id : NodeId) (part : Part) (hpart : a.parts.getD id none = some part) :
      (∃ type, Becomes nodes id type part) ∧ ∀ r ∈ part.references, a.Entered r := by
    have hget : a.parts[id]? = some (some part) := by
      rw [Array.getD_eq_getD_getElem?] at hpart
      cases hget : a.parts[id]? with
      | none =>
        rw [hget] at hpart
        cases hpart
      | some p =>
        rw [hget, Option.getD_some] at hpart
        rw [hpart]
    obtain ⟨type, htype⟩ | hdone := h.parts id part hget
    · rw [hwaiting] at htype
      cases htype
    · exact hdone
  refine ⟨fun id part hp => (hpart id part hp).1, fun id part hp r hr => ?_⟩
  obtain ⟨p, hr⟩ := (hpart id part hp).2 r hr
  exact ⟨p, by rw [Array.getD_eq_getD_getElem?, hr]; rfl⟩

/-- **The value of the graph of a drawing** is the value that is drawn, without marks. -/
theorem Graph.value_eq {nodes : Array Node} {v : Value} (h : Draws nodes v 0 nodes.size) :
    Graph.value ⟨nodes, some 0⟩ = .ok v.unmarked := by
  have hall : AllBecome nodes := fun id hid => h.becomes (Nat.le_refl _) id (Nat.zero_le _) hid
  -- Nothing is found at the start, so there is nothing to say of any part.
  let start : Assembly := ⟨nodes, Array.replicate nodes.size none, []⟩
  have hsound : start.Sound nodes [] := by
    refine ⟨rfl, Array.size_replicate, fun id part hpart => ?_, List.forall_mem_nil _⟩
    rw [Array.getElem?_replicate] at hpart
    split at hpart <;> cases hpart
  -- Each node that is not found takes a step, and so does each that waits.
  have hsteps : start.steps = nodes.size := by
    show 0 + (Array.replicate nodes.size none).countP (·.isNone) = _
    rw [Array.countP_replicate, Nat.zero_add]
    rfl
  obtain ⟨type, part, hroot⟩ := hall 0 h.lt
  obtain ⟨a₁, henter, h₁, hgrows₁, hentered₁⟩ := Assemble.enter_eq hsound h.lt hroot
  -- The root is entered, and then everything that waits is completed, in fewer steps than there are
  -- rounds.
  obtain ⟨a₂, hcomplete, h₂, hwaiting₂, hentered₂⟩ := Assemble.completeAll_eq hall h₁
    (Nat.lt_of_le_of_lt (hsteps ▸ hgrows₁.steps_le) (Nat.lt_add_of_pos_right Nat.two_pos))
  have hdone := areComplete_of_sound h₂ hwaiting₂
  have hfound : Found a₂.parts 0 := by
    obtain ⟨p, hp⟩ := hentered₂ 0 hentered₁
    exact ⟨p, by rw [Array.getD_eq_getD_getElem?, hp]; rfl⟩
  have hwork : (Assemble.enter 0 >>= fun _ => Assemble.completeAll (nodes.size + 2)) start =
      .ok ((), a₂) := by
    rw [bind_ok henter, hcomplete]
  have hvalue := h.valueOf_eq hdone a₂.parts.size (nodes.size + 1) [] (Nat.le_succ _)
    (List.forall_mem_nil _) hfound
  rw [← sharedNodes_eq hdone.areParts h₂.size_eq h] at hvalue
  rw [Graph.value]
  dsimp only
  rw [StateT.run, hwork]
  exact congrArg Except.ok hvalue

end Playbook.Yaml
