import Mathlib.Data.List.Forall2
import Playbook.Proofs.Blame
import Playbook.Record

/-!
# Decoding records

A document is decoded to records, or it is rejected with a decoding fault that says for which file
and why, or a failure escapes.

* `Document.Holds` — the records that a value holds: nothing holds none, and a list holds one for
  each of its items, whose keys are made texts.
* `Document.Rejects` — why a document is rejected: a problem with its words, its structure or its
  nodes, or another shape than records have. `Document.Misshapen` names the first item that is no
  record.
* `Document.Escapes` — what is no problem of the document but a failure: a scalar that looks like a
  value of a type and is none, such as a month that no year has, and a key that is too long to be
  written.
* `Document.records_cases` — every document falls under one of the three, and what decoding does is
  what they say. That failures escape at all is `Document.escapes_badMonth`.

What escapes is found by the traces of `Playbook.Proofs.Blame`. What is left here is the shape of
values: a value of a document that is a list by its kind has items, and an item that is a mapping by
its kind has entries (`Yaml.exists_entries_of_kind`), since the only container that can be inside
its own items is the list itself.
-/

namespace Playbook

/-! ### Keys -/

/-- The keys of a record are texts. -/
def Record.HasTextKeys (r : Record) : Prop := ∀ k ∈ Entries.keys r, ∃ s, k = .str s

namespace Entries

variable {es more : Entries} {key value k : Value}

/-- A new entry brings no key but its own. -/
theorem mem_keys_insert (h : k ∈ keys (insert es key value)) : k = key ∨ k ∈ keys es := by
  induction es with
  | nil => exact .inl (List.mem_singleton.1 h)
  | cons e rest ih =>
    obtain ⟨k', v'⟩ := e
    rw [insert] at h
    split at h
    · exact .inr h
    · rcases List.mem_cons.1 h with rfl | h
      · exact .inr List.mem_cons_self
      · exact (ih h).imp_right (List.mem_cons_of_mem _)

theorem mem_keys_update (h : k ∈ keys (update es more)) : k ∈ keys es ∨ k ∈ keys more := by
  induction more generalizing es with
  | nil => exact .inl h
  | cons e rest ih =>
    obtain ⟨k', v'⟩ := e
    rcases ih h with h | h
    · rcases mem_keys_insert h with rfl | h
      · exact .inr List.mem_cons_self
      · exact .inl h
    · exact .inr (List.mem_cons_of_mem _ h)

theorem mem_keys_ofList (h : k ∈ keys (ofList es)) : k ∈ keys es :=
  (mem_keys_update h).resolve_left List.not_mem_nil

end Entries

/-! ### The shape of values -/

namespace Value

/-- Filling in a container makes no mapping inside itself. -/
theorem fill_ne_again {mark m : Nat} {whole v : Value} {shape : Shape}
    (hwhole : ∀ m', whole ≠ .again shape m') (hv : v ≠ .again shape m) :
    fill mark whole v ≠ .again shape m := by
  intro h
  -- Only a mark is replaced, and then by the whole, which is no such mark itself.
  cases v with
  | again shape' m' =>
    rw [fill] at h
    split at h
    · exact hwhole m h
    · exact hv h
  | list m' items =>
    rw [fill] at h
    split at h <;> cases h
  | map m' entries =>
    rw [fill] at h
    split at h <;> cases h
  | set m' items =>
    rw [fill] at h
    split at h <;> cases h
  | scalar | tuple | opaqueThing => cases h

theorem mem_fillItems {mark : Nat} {whole item : Value} {items : List Value}
    (h : item ∈ fillItems mark whole items) : ∃ v ∈ items, item = fill mark whole v := by
  induction items with
  | nil => cases h
  | cons v rest ih =>
    rw [fillItems] at h
    rcases List.mem_cons.1 h with rfl | h
    · exact ⟨v, List.mem_cons_self, rfl⟩
    · obtain ⟨w, hw, rfl⟩ := ih h
      exact ⟨w, List.mem_cons_of_mem _ hw, rfl⟩

/-- A mapping that is not inside itself has entries. -/
theorem exists_entries {v : Value} (hkind : v.kind = .mapping) (h : ∀ m, v ≠ .again .map m) :
    ∃ es, v.entries? = some es := by
  cases v with
  | scalar s => cases s <;> cases hkind
  | map m es => cases m <;> exact ⟨_, rfl⟩
  | again shape m =>
    cases shape with
    | map => exact absurd rfl (h m)
    | tuple | list | set => cases hkind
  | tuple | list | set | opaqueThing => cases hkind

/-- A list that is not inside itself has items. -/
theorem exists_items {v : Value} (hkind : v.kind = .sequence) (h : ∀ m, v ≠ .again .list m) :
    ∃ items, v.items? = some items := by
  cases v with
  | scalar s => cases s <;> cases hkind
  | list m items => cases m <;> exact ⟨_, rfl⟩
  | again shape m =>
    cases shape with
    | list => exact absurd rfl (h m)
    | tuple | map | set => cases hkind
  | tuple | map | set | opaqueThing => cases hkind

end Value

namespace Yaml

variable {parts : Array (Option Part)} {shared : Array Bool}

/-- A place inside itself is the place of a collection above. -/
theorem mem_of_valueOf_eq_again {fuel : Nat} {above : List NodeId} {id : NodeId} {shape : Shape}
    {m : Nat} (h : valueOf parts shared fuel above id = .again shape m) :
    id ∈ above ∧ ((parts.getD id none).getD default).shape? = some shape := by
  cases fuel with
  | zero => cases h
  | succ fuel =>
    rw [valueOf] at h
    -- The mark is given where the place is among those above, so it is the place of a collection.
    dsimp only at h
    split at h
    · next shape' hshape =>
      split at h
      · next habove =>
        cases h
        exact ⟨List.contains_iff_mem.1 habove, hshape⟩
      · split at h <;> cases h
    · split at h <;> cases h

/-- The items of a list are tuples or values of nodes, and the node of the list is a list. -/
theorem valueOf_eq_list {fuel : Nat} {above : List NodeId} {id : NodeId} {m : Option Nat}
    {items : List Value} (h : valueOf parts shared (fuel + 1) above id = .list m items) :
    ((parts.getD id none).getD default).shape? = some .list ∧ ∀ item ∈ items,
      (∃ m' pair, item = .tuple m' pair) ∨
        ∃ other, item = valueOf parts shared fuel (id :: above) other := by
  rw [valueOf] at h
  dsimp only at h
  -- A collection that is not above itself becomes a list for a sequence and for ordered pairs.
  split at h
  · split at h
    · cases h
    · split at h
      · cases h
      · next ids hpart =>
        cases h
        rw [hpart]
        refine ⟨rfl, fun item hitem => .inr ?_⟩
        obtain ⟨other, _, rfl⟩ := List.mem_map.1 hitem
        exact ⟨other, rfl⟩
      · next triples hpart =>
        cases h
        rw [hpart]
        refine ⟨rfl, fun item hitem => .inl ?_⟩
        obtain ⟨_, _, rfl⟩ := List.mem_map.1 hitem
        exact ⟨_, _, rfl⟩
      · cases h
      · cases h
  · split at h <;> cases h

theorem Graph.value_eq_ok {g : Graph} {v : Value} (h : g.value = .ok v) :
    v = .null ∨ ∃ parts shared root, v = valueOf parts shared (g.nodes.size + 1) [] root := by
  rw [Graph.value] at h
  split at h
  · cases h
    exact .inl rfl
  · next root _ =>
    dsimp only at h
    split at h
    · cases h
      exact .inr ⟨_, _, root, rfl⟩
    · cases h

/-- The value of a graph is not inside itself. -/
theorem Graph.value_ne_again {g : Graph} {v : Value} (h : g.value = .ok v) (shape : Shape)
    (m : Nat) : v ≠ .again shape m := by
  rintro rfl
  obtain hnull | ⟨parts, shared, root, hv⟩ := Graph.value_eq_ok h
  · cases hnull
  · exact List.not_mem_nil (mem_of_valueOf_eq_again hv.symm).1

/-- **Items that are mappings have entries:** only the list itself can be inside its items. -/
theorem Graph.exists_entries_of_kind {g : Graph} {v : Value} {items : List Value}
    (h : g.value = .ok v) (hitems : v.items? = some items) {item : Value} (hitem : item ∈ items)
    (hkind : item.kind = .mapping) : ∃ es, item.entries? = some es := by
  -- A value with items is a list, shared or not.
  obtain ⟨m, raw, rfl⟩ : ∃ m raw, v = .list m raw := by
    unfold Value.items? at hitems
    split at hitems
    · exact ⟨_, _, rfl⟩
    · exact ⟨_, _, rfl⟩
    · cases hitems
  -- The items stand one below the root. So a mapping that is above itself there is the root, which
  -- is a list.
  have hraw : ∀ item ∈ raw, ∀ m', item ≠ .again .map m' := by
    rintro item hitem m' rfl
    obtain hnull | ⟨parts, shared, root, hv⟩ := Graph.value_eq_ok h
    · cases hnull
    · obtain ⟨hroot, hall⟩ := valueOf_eq_list hv.symm
      rcases hall _ hitem with ⟨_, _, htuple⟩ | ⟨other, hother⟩
      · cases htuple
      · obtain ⟨hmem, hshape⟩ := mem_of_valueOf_eq_again hother.symm
        rw [List.mem_singleton.1 hmem, hroot] at hshape
        cases hshape
  refine Value.exists_entries hkind ?_
  -- A list that contains itself is filled in first, which makes no mapping out of an item.
  cases m with
  | none =>
    cases hitems
    exact hraw item hitem
  | some mark =>
    cases hitems
    obtain ⟨v, hv, rfl⟩ := Value.mem_fillItems hitem
    exact fun m' => Value.fill_ne_again (fun _ => Value.noConfusion) (hraw v hv m')

end Yaml

namespace Document

/-! ### What a document holds -/

/-- The characters of a document. -/
def source : Document → Except Yaml.Error Yaml.Source
  | text s => Yaml.Source.ofText s
  | bytes b => Yaml.Source.ofBytes b

/-- The record of a mapping: its keys are made texts, and of keys with the same text the last one
wins. -/
def textRecord (es : Entries) : Record := Entries.ofList (es.map fun e => (.str e.1.text, e.2))

/-- A mapping has a key that is too long to be written. -/
def HasLongKey (es : Entries) : Prop := ∃ e ∈ es, e.1.holdsLong = true

/-- The record of an item. -/
inductive IsRecordOf : Value → Record → Prop
  /-- Nothing counts as the empty record. -/
  | nothing {v : Value} (h : v.kind = .null) : IsRecordOf v []
  /-- A mapping. -/
  | mapping {v : Value} {es : Entries} (h : v.entries? = some es) (hkeys : ¬HasLongKey es) :
      IsRecordOf v (textRecord es)

/-- **The records that a value holds.** -/
inductive Holds : Value → List Record → Prop
  /-- Nothing holds none. -/
  | nothing {v : Value} (h : v.kind = .null) : Holds v []
  /-- A list holds one for each item, in order. -/
  | items {v : Value} {items : List Value} {rs : List Record} (h : v.items? = some items)
      (hrecords : List.Forall₂ IsRecordOf items rs) : Holds v rs

/-- **Why a value holds no records:** it is no list, or one of its items, the first that is none, is
no record. -/
inductive Misshapen : Value → Yaml.Error → Prop
  /-- It is no list. -/
  | top {v : Value} (hnull : v.kind ≠ .null) (hkind : v.kind ≠ .sequence) :
      Misshapen v (.shape ("expected a sequence of mappings, got " ++ v.kind.name))
  /-- An item is no mapping. -/
  | item {v : Value} {before after : List Value} {item : Value} {rs : List Record}
      (hitems : v.items? = some (before ++ item :: after))
      (hbefore : List.Forall₂ IsRecordOf before rs) (hnull : item.kind ≠ .null)
      (hkind : item.kind ≠ .mapping) :
      Misshapen v (.shape ("item " ++ toString before.length ++ " must be a mapping, got " ++
        item.kind.name))

/-- **Why a document is rejected.** -/
inductive Rejects (d : Document) : Yaml.Error → Prop
  /-- It has no value. -/
  | malformed {e : Yaml.Error} (h : d.value = .error (.document e)) : Rejects d e
  /-- Its value holds no records. -/
  | misshapen {v : Value} {e : Yaml.Error} (h : d.value = .ok v) (hshape : Misshapen v e) :
      Rejects d e

/-- **What escapes from a document.** -/
inductive Escapes (d : Document) : Failure → Prop
  /-- One of its words cannot be converted, and its tokens end there. -/
  | word {s : Yaml.Source} {f : Failure} (hsource : d.source = .ok s)
      (htokens : (Yaml.tokens s).fault = some (.failure f)) (h : Yaml.Unconvertible f) : Escapes d f
  /-- One of its nodes is to blame. -/
  | node {s : Yaml.Source} {g : Yaml.Graph} {f : Failure} (hsource : d.source = .ok s)
      (hgraph : Yaml.Graph.ofTokens (Yaml.tokens s) = .ok g) (h : g.Blames f) : Escapes d f
  /-- One of the keys of its records is too long to be written. -/
  | key {v : Value} {items : List Value} {item : Value} {es : Entries} (hvalue : d.value = .ok v)
      (hitems : v.items? = some items) (hitem : item ∈ items) (hes : item.entries? = some es)
      (hkey : HasLongKey es) : Escapes d Scalar.tooLongFailure

/-! ### Records of mappings -/

/-- Keys that are made texts are texts. -/
theorem hasTextKeys_textRecord (es : Entries) : (textRecord es).HasTextKeys := by
  intro k hk
  obtain ⟨e, he, rfl⟩ := List.mem_map.1 (Entries.mem_keys_ofList hk)
  obtain ⟨e', _, rfl⟩ := List.mem_map.1 he
  exact ⟨_, rfl⟩

theorem IsRecordOf.hasTextKeys {v : Value} {r : Record} (h : IsRecordOf v r) : r.HasTextKeys := by
  cases h with
  | nothing => exact fun k hk => absurd hk List.not_mem_nil
  | mapping => exact hasTextKeys_textRecord _

theorem Holds.hasTextKeys {v : Value} {rs : List Record} (h : Holds v rs) :
    ∀ r ∈ rs, r.HasTextKeys := by
  cases h with
  | nothing => exact fun r hr => absurd hr List.not_mem_nil
  | items h hrecords =>
    clear h
    induction hrecords with
    | nil => exact fun r hr => absurd hr List.not_mem_nil
    | cons hr _ ih => exact List.forall_mem_cons.2 ⟨hr.hasTextKeys, ih⟩

/-- The keys of entries are made texts one by one, up to the first that is too long. -/
theorem textKeys_eq (es : Entries) :
    textKeys es = if es.any (fun e => e.1.holdsLong) then .error Scalar.tooLongFailure
      else .ok (textRecord es) := by
  -- Induction on the entries: the first key that is too long decides, whatever comes after it.
  have hpairs : (es.mapM fun e => (do return (.str (← e.1.text?), e.2) :
      Except Failure (Value × Value))) =
      if es.any (fun e => e.1.holdsLong) then .error Scalar.tooLongFailure
      else .ok (es.map fun e => (.str e.1.text, e.2)) := by
    induction es with
    | nil => rfl
    | cons e rest ih =>
      rw [List.mapM_cons, ih, List.any_cons]
      cases hlong : e.1.holdsLong with
      | true =>
        simp only [Value.text?, hlong]
        rfl
      | false =>
        simp only [Value.text?, hlong]
        cases hrest : rest.any fun e => e.1.holdsLong <;> rfl
  rw [textKeys]
  refine (congrArg (· >>= fun pairs => .ok (Entries.ofList pairs)) hpairs).trans ?_
  cases es.any fun e => e.1.holdsLong <;> rfl

theorem textKeys_of_hasLongKey {es : Entries} (h : HasLongKey es) :
    textKeys es = .error Scalar.tooLongFailure := by
  rw [textKeys_eq, if_pos (List.any_eq_true.2 h)]

theorem textKeys_of_not_hasLongKey {es : Entries} (h : ¬HasLongKey es) :
    textKeys es = .ok (textRecord es) := by
  rw [textKeys_eq, if_neg fun hany => h (List.any_eq_true.1 hany)]

/-! ### Records of lists -/

/-- What is wrong with the item at a position. -/
inductive Misfit : Nat → Value → Yaml.LoadFault → Prop
  /-- It is no mapping. -/
  | other {i : Nat} {item : Value} (hnull : item.kind ≠ .null) (hentries : item.entries? = none) :
      Misfit i item (.document (.shape ("item " ++ toString i ++ " must be a mapping, got " ++
        item.kind.name)))
  /-- It has a key that is too long to be written. -/
  | key {i : Nat} {item : Value} {es : Entries} (hentries : item.entries? = some es)
      (hkey : HasLongKey es) : Misfit i item (.failure Scalar.tooLongFailure)

/-- **One item** is a record, or it ends the walk. -/
theorem recordsFrom_cons (i : Nat) (item : Value) (rest : List Value) :
    (∃ r, IsRecordOf item r ∧
        recordsFrom i (item :: rest) = (r :: ·) <$> recordsFrom (i + 1) rest) ∨
      ∃ e, Misfit i item e ∧ recordsFrom i (item :: rest) = .error e := by
  rw [recordsFrom]
  -- The three ways to be an item: nothing, no mapping, and a mapping with keys to be written.
  by_cases hnull : item.kind = .null
  · rw [if_pos hnull]
    exact .inl ⟨[], .nothing hnull, rfl⟩
  · rw [if_neg hnull]
    cases hentries : item.entries? with
    | none => exact .inr ⟨_, .other hnull hentries, rfl⟩
    | some es =>
      by_cases hlong : HasLongKey es
      · refine .inr ⟨_, .key hentries hlong, ?_⟩
        dsimp only
        rw [textKeys_of_hasLongKey hlong]
        rfl
      · refine .inl ⟨textRecord es, .mapping hentries hlong, ?_⟩
        dsimp only
        rw [textKeys_of_not_hasLongKey hlong]
        rfl

/-- **All items** are records, or the first that is none ends the walk. -/
theorem recordsFrom_cases (i : Nat) (items : List Value) :
    (∃ rs, List.Forall₂ IsRecordOf items rs ∧ recordsFrom i items = .ok rs) ∨
      ∃ before item after rs e, items = before ++ item :: after ∧
        List.Forall₂ IsRecordOf before rs ∧ Misfit (i + before.length) item e ∧
        recordsFrom i items = .error e := by
  -- Induction on the items: what comes before the first misfit are records, and its position counts
  -- them.
  induction items generalizing i with
  | nil => exact .inl ⟨[], .nil, rfl⟩
  | cons item rest ih =>
    rcases recordsFrom_cons i item rest with ⟨r, hr, hrun⟩ | ⟨e, he, hrun⟩
    · rcases ih (i + 1) with ⟨rs, hall, hrest⟩ | ⟨before, bad, after, rs, e, rfl, hall, he, hrest⟩
      · exact .inl ⟨r :: rs, .cons hr hall, by rw [hrun, hrest]; rfl⟩
      · refine .inr ⟨item :: before, bad, after, r :: rs, e, rfl, .cons hr hall, ?_, ?_⟩
        · rw [List.length_cons, ← Nat.add_assoc, Nat.add_right_comm]
          exact he
        · rw [hrun, hrest]
          rfl
    · exact .inr ⟨[], item, rest, [], e, rfl, .nil, he, hrun⟩

/-- **The records of a value of a document** are those it holds, or the value has another shape, or
one of its keys is too long to be written. -/
theorem recordsOf_cases {g : Yaml.Graph} {v : Value} (hg : g.value = .ok v) :
    (∃ rs, Holds v rs ∧ recordsOf v = .ok rs) ∨
      (∃ e, Misshapen v e ∧ recordsOf v = .error (.document e)) ∨
      ∃ items item es, v.items? = some items ∧ item ∈ items ∧ item.entries? = some es ∧
        HasLongKey es ∧ recordsOf v = .error (.failure Scalar.tooLongFailure) := by
  rw [recordsOf]
  by_cases hnull : v.kind = .null
  · rw [if_pos hnull]
    exact .inl ⟨[], .nothing hnull, rfl⟩
  · rw [if_neg hnull]
    cases h : v.items? with
    | none =>
      -- No items, and no list by its kind either: a sequence would have had items.
      refine .inr (.inl ⟨_, .top hnull fun hkind => ?_, rfl⟩)
      obtain ⟨items, hsome⟩ := Value.exists_items hkind (g.value_ne_again hg .list)
      rw [h] at hsome
      cases hsome
    | some items =>
      dsimp only
      rcases recordsFrom_cases 0 items with
        ⟨rs, hall, hrun⟩ | ⟨before, item, after, rs, e, rfl, hbefore, he, hrun⟩
      · exact .inl ⟨rs, .items h hall, hrun⟩
      · have hmem : item ∈ before ++ item :: after := List.mem_append_right _ List.mem_cons_self
        rw [hrun]
        cases he with
        | other hitem hentries =>
          refine .inr (.inl ⟨_, ?_, rfl⟩)
          -- No entries, and no mapping by its kind: a mapping among the items would have had
          -- entries.
          rw [Nat.zero_add]
          refine .item h hbefore hitem fun hkind => ?_
          obtain ⟨es, hes⟩ := g.exists_entries_of_kind hg h hmem hkind
          rw [hentries] at hes
          cases hes
        | key hentries hlong => exact .inr (.inr ⟨_, item, _, rfl, hmem, hentries, hlong, rfl⟩)

/-! ### Records of documents -/

theorem value_eq (d : Document) :
    d.value = match d.source with
      | .ok s => Yaml.ofSource s
      | .error e => .error (.document e) := by
  cases d <;> rfl

/-- A value of a document is the value of its graph. -/
theorem exists_graph_of_value {d : Document} {v : Value} (h : d.value = .ok v) :
    ∃ g : Yaml.Graph, g.value = .ok v := by
  rw [value_eq] at h
  -- Reading the tokens and forming the value can both go wrong; here neither has.
  split at h
  · rw [Yaml.ofSource] at h
    split at h
    · cases h
    · cases h
    · next g _ =>
      split at h
      · next v' hv =>
        cases h
        exact ⟨g, hv⟩
      · cases h
      · cases h
  · cases h

/-- A document without a value is rejected, or one of its words or nodes escapes. -/
theorem escapes_of_value {d : Document} {f : Failure} (h : d.value = .error (.failure f)) :
    d.Escapes f := by
  rw [value_eq] at h
  split at h
  · next s hsource =>
    -- A failure comes from the tokens, or from the value of the graph that they make.
    rw [Yaml.ofSource] at h
    split at h
    · cases h
    · next f' hgraph =>
      cases h
      have htokens := Yaml.Graph.fault_of_ofTokens hgraph
      exact .word hsource htokens (Yaml.unconvertible_of_tokensFrom htokens)
    · next g hgraph =>
      split at h
      · cases h
      · cases h
      · next f' hvalue =>
        cases h
        exact .node hsource hgraph (Yaml.Graph.blames_of_value hvalue)
  · cases h

/-- The records of a document are those that the value of its graph holds. -/
theorem exists_holds_of_records {d : Document} {headline : String} {file : Option String}
    {rs : List Record} (h : d.records headline file = .ok rs) :
    ∃ (g : Yaml.Graph) (v : Value), g.value = .ok v ∧ Holds v rs := by
  rw [records] at h
  split at h
  · next rs' hrun =>
    cases h
    cases hvalue : d.value with
    | error e =>
      rw [hvalue] at hrun
      cases hrun
    | ok v =>
      rw [hvalue, Except.bind] at hrun
      obtain ⟨g, hg⟩ := exists_graph_of_value hvalue
      rcases recordsOf_cases hg with ⟨rs, hholds, hok⟩ | ⟨_, _, herr⟩ | ⟨_, _, _, _, _, _, _, herr⟩
      · cases hrun.symm.trans hok
        exact ⟨g, v, hg, hholds⟩
      · cases hrun.symm.trans herr
      · cases hrun.symm.trans herr
  · cases h
  · cases h

/-- The records of a document have texts as keys. -/
theorem hasTextKeys_of_records {d : Document} {headline : String} {file : Option String}
    {rs : List Record} (h : d.records headline file = .ok rs) : ∀ r ∈ rs, r.HasTextKeys := by
  obtain ⟨_, _, _, hholds⟩ := exists_holds_of_records h
  exact hholds.hasTextKeys

/-- The kinds of the failures that can escape. -/
def escapingKinds : List FailureKind :=
  [.key, .index, .value, .overflow, .attribute, .type, .depth]

theorem Escapes.ofKind {d : Document} {f : Failure} (h : d.Escapes f) :
    f.OfKind escapingKinds := by
  -- every kind in which the conversion of a scalar can fail is among them
  have hread : ∀ {type : Yaml.ScalarType} {text : String},
      type.read text = .error (.failure f) → f.OfKind escapingKinds := by
    intro type text hfault
    have hkinds : ∀ k ∈ type.faultKinds, k ∈ escapingKinds := by cases type <;> decide
    exact hkinds _ (Yaml.ScalarType.ofKind_read type text _ hfault)
  cases h with
  | word _ _ h =>
    cases h with
    | character =>
      rw [Failure.OfKind, Yaml.noCharacter]
      split <;> decide
    | version h =>
      have hkind := Numeral.ofKind_int _ _ _ h
      rw [Failure.OfKind, List.mem_singleton.1 hkind]
      decide
  | node _ _ h =>
    cases h with
    | scalar _ _ h => exact hread h
    | mapping _ _ _ h => exact hread h
    | timestamp => exact (by decide : FailureKind.type ∈ escapingKinds)
    | endless => exact (by decide : FailureKind.depth ∈ escapingKinds)
  | key => exact (by decide : FailureKind.value ∈ escapingKinds)

/-- **Decoding records.** A document holds records, one for each of its items and with texts as
keys, and they are the answer. Or it is rejected, and the answer is a decoding fault with the given
sentence and file, caused by what is wrong with the document. Or a failure escapes, for one of the
reasons that a failure can escape for. -/
theorem records_cases (d : Document) (headline : String) (file : Option String) :
    (∃ v rs, d.value = .ok v ∧ Holds v rs ∧ (∀ r ∈ rs, r.HasTextKeys) ∧
        d.records headline file = .ok rs) ∨
      (∃ e, d.Rejects e ∧
        d.records headline file = .error (.resolution .decode headline file (some (.document e)))) ∨
      ∃ f, d.Escapes f ∧ f.OfKind escapingKinds ∧
        d.records headline file = .error (.failure f) := by
  rw [records]
  cases hvalue : d.value with
  | error e =>
    cases e with
    | document e => exact .inr (.inl ⟨e, .malformed hvalue, rfl⟩)
    | failure f =>
      have hescapes := escapes_of_value hvalue
      exact .inr (.inr ⟨f, hescapes, hescapes.ofKind, rfl⟩)
  | ok v =>
    obtain ⟨g, hg⟩ := exists_graph_of_value hvalue
    rcases recordsOf_cases hg with
      ⟨rs, hholds, hrun⟩ | ⟨e, he, hrun⟩ | ⟨items, item, es, hitems, hitem, hes, hlong, hrun⟩
    · exact .inl ⟨v, rs, rfl, hholds, hholds.hasTextKeys, by rw [Except.bind, hrun]⟩
    · exact .inr (.inl ⟨e, .misshapen hvalue he, by rw [Except.bind, hrun]⟩)
    · have hescapes : d.Escapes Scalar.tooLongFailure := .key hvalue hitems hitem hes hlong
      exact .inr (.inr ⟨_, hescapes, hescapes.ofKind, by rw [Except.bind, hrun]⟩)

/-- The document `- a: 2001-13-40`, whose scalar looks like a date. -/
def badMonth : Document := .bytes
  [45, 32, 97, 58, 32, 50, 48, 48, 49, 45, 49, 51, 45, 52, 48]

/-- **Failures escape:** there is no thirteenth month. -/
theorem escapes_badMonth :
    badMonth.records "failed" none = .error (.failure (.value "month must be in 1..12")) := by
  -- The characters decide the result by evaluation, up to the comparison of failures.
  have htest : (match badMonth.records "failed" none with
      | .error (.failure f) => f == .value "month must be in 1..12"
      | _ => false) = true := by decide +kernel
  split at htest
  · next f h =>
    rw [h, eq_of_beq htest]
  · cases htest

end Document

end Playbook
