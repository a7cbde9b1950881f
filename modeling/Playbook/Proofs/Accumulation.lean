import Playbook.ExtraVars
import Playbook.Proofs.Keys
import Playbook.Proofs.Mappings

/-!
# Variables that accumulate

Each item of the command line is put over what the items before it gave. Whether this is done item
by item, or the items are parted and what the last ones gave is put over what the first ones gave as
a whole, comes to the same: putting mappings over each other is associative.

* `Entries.find?_insert_key`, `Entries.find?_update_keys`, `Entries.keys_update` — what is in a
  mapping that has been put over another: the last value of each key wins, and the first spelling
  and the place of a key stay.
* `Entries.update_update` — **putting mappings over each other is associative,** if no two keys of
  the mapping in the middle are the same.
* `ExtraVars.ofItems_append` — the variables of two lists of items, one after the other.

The condition on the keys is what carries the argument. A key that stands twice in the middle would
be set twice by one order of doing things and once by the other. Equal keys need not be written
alike, so that the proofs need all that is known of keys being the same (`Value.sameKey_comm`,
`Value.sameKey_congr`).
-/

namespace Playbook

namespace Entries

variable {es mid more : Entries} {k key v w : Value}

/-! ### Setting keys -/

/-- **No two keys of a mapping are the same.** -/
def KeysDiffer (es : Entries) : Prop := es.keys.Pairwise fun k key => k.sameKey key = false

theorem keysDiffer_nil : KeysDiffer [] := List.Pairwise.nil

theorem keysDiffer_cons {e : Value × Value} :
    KeysDiffer (e :: es) ↔ (∀ key ∈ es.keys, e.1.sameKey key = false) ∧ es.KeysDiffer :=
  List.pairwise_cons

theorem find?_cons_of_same {e : Value × Value} (h : e.1.sameKey key = true) :
    find? (e :: es) key = some e.2 := if_pos h

theorem find?_cons_of_other {e : Value × Value} (h : e.1.sameKey key = false) :
    find? (e :: es) key = es.find? key := if_neg (Bool.eq_false_iff.1 h)

theorem insert_cons_of_same {e : Value × Value} (h : e.1.sameKey key = true) :
    insert (e :: es) key v = (e.1, v) :: es := if_pos h

theorem insert_cons_of_other {e : Value × Value} (h : e.1.sameKey key = false) :
    insert (e :: es) key v = e :: es.insert key v := if_neg (Bool.eq_false_iff.1 h)

/-- A key is not found if and only if no key is the same. -/
theorem find?_eq_none_iff : es.find? key = none ↔ ∀ k ∈ es.keys, k.sameKey key = false := by
  induction es with
  | nil => exact iff_of_true rfl fun _ hk => nomatch hk
  | cons e rest ih =>
    have hcons : keys (e :: rest) = e.1 :: keys rest := rfl
    rw [hcons, List.forall_mem_cons]
    cases hkey : e.1.sameKey key with
    | true => simp [find?_cons_of_same hkey]
    | false => simp [find?_cons_of_other hkey, ih]

/-- **A key that has been set** has its value, and other keys have the values that they had. -/
theorem find?_insert_key (es : Entries) (k v key : Value) :
    (es.insert k v).find? key = if k.sameKey key then some v else es.find? key := by
  induction es with
  | nil => rfl
  | cons e rest ih =>
    -- By whether the first key is the one that is set, and then by whether it is the one looked
    -- for.
    cases hk : e.1.sameKey k with
    | true =>
      -- the key in this place is the one that is set
      rw [insert_cons_of_same hk, ← Value.sameKey_congr hk]
      cases hkey : e.1.sameKey key with
      | true => exact find?_cons_of_same hkey
      | false =>
        rw [find?_cons_of_other hkey, if_neg Bool.false_ne_true]
        exact find?_cons_of_other hkey
    | false =>
      rw [insert_cons_of_other hk]
      cases hkey : e.1.sameKey key with
      | true =>
        -- The first key is found, so it is not the one that is set further on.
        have hother : k.sameKey key = false := by
          rw [Value.sameKey_comm, ← Value.sameKey_congr hkey, hk]
        rw [find?_cons_of_same hkey, find?_cons_of_same hkey, hother, if_neg Bool.false_ne_true]
      | false => rw [find?_cons_of_other hkey, find?_cons_of_other hkey, ih]

/-- A key keeps its place, and a new key comes last. -/
theorem keys_insert (es : Entries) (k v : Value) :
    (es.insert k v).keys = es.keys ++ if (es.find? k).isNone then [k] else [] := by
  induction es with
  | nil => rfl
  | cons e rest ih =>
    cases hk : e.1.sameKey k with
    | true =>
      rw [insert_cons_of_same hk, find?_cons_of_same hk]
      exact (List.append_nil _).symm
    | false =>
      rw [insert_cons_of_other hk, find?_cons_of_other hk]
      exact congrArg (e.1 :: ·) ih

/-- Of two values that are set for one key, the second one stays. -/
theorem insert_insert (es : Entries) (h : k.sameKey key = true) :
    (es.insert k w).insert key v = es.insert k v := by
  induction es with
  | nil => exact insert_cons_of_same h
  | cons e rest ih =>
    -- The two keys are the same for every key that is there, however they are spelt.
    have hsame : e.1.sameKey k = e.1.sameKey key := by
      rw [Value.sameKey_comm, Value.sameKey_congr h, Value.sameKey_comm]
    cases hk : e.1.sameKey k with
    | true =>
      rw [insert_cons_of_same hk, insert_cons_of_same hk]
      exact insert_cons_of_same (hsame.symm.trans hk)
    | false =>
      rw [insert_cons_of_other hk, insert_cons_of_other hk,
        insert_cons_of_other (hsame.symm.trans hk), ih]

/-- A key that is there may be set before or after another one. -/
theorem insert_comm (hne : k.sameKey key = false) (hfound : es.find? key ≠ none) :
    (es.insert k w).insert key v = (es.insert key v).insert k w := by
  induction es with
  | nil => exact absurd rfl hfound
  | cons e rest ih =>
    -- By which of the two keys stands in the first place. It cannot be both.
    cases hk : e.1.sameKey k with
    | true =>
      have hkey : e.1.sameKey key = false := (Value.sameKey_congr hk key).trans hne
      rw [insert_cons_of_same hk, insert_cons_of_other hkey, insert_cons_of_same hk]
      exact insert_cons_of_other hkey
    | false =>
      cases hkey : e.1.sameKey key with
      | true =>
        rw [insert_cons_of_other hk, insert_cons_of_same hkey, insert_cons_of_same hkey]
        have hother : insert ((e.1, v) :: rest) k w = (e.1, v) :: insert rest k w :=
          insert_cons_of_other hk
        exact hother.symm
      | false =>
        rw [find?_cons_of_other hkey] at hfound
        rw [insert_cons_of_other hk, insert_cons_of_other hkey, insert_cons_of_other hkey,
          insert_cons_of_other hk, ih hfound]

theorem KeysDiffer.insert (h : es.KeysDiffer) (k v : Value) : (es.insert k v).KeysDiffer := by
  rw [KeysDiffer, keys_insert]
  -- A key that is there stays where it is. A new one is like none of the others.
  cases hfind : es.find? k with
  | some w =>
    rw [Option.isNone_some, if_neg Bool.false_ne_true, List.append_nil]
    exact h
  | none =>
    refine List.pairwise_append.2 ⟨h, List.pairwise_singleton _ _, fun a ha b hb => ?_⟩
    rw [List.mem_singleton.1 hb]
    exact find?_eq_none_iff.1 hfind a ha

/-! ### Putting mappings over others -/

theorem update_cons (es : Entries) (e : Value × Value) (more : Entries) :
    es.update (e :: more) = (es.insert e.1 e.2).update more := rfl

theorem KeysDiffer.update (h : es.KeysDiffer) (more : Entries) : (es.update more).KeysDiffer := by
  induction more generalizing es with
  | nil => exact h
  | cons e rest ih => exact ih (h.insert e.1 e.2)

/-- **The last value of a key wins.** -/
theorem find?_update_keys (h : more.KeysDiffer) (es : Entries) (key : Value) :
    (es.update more).find? key = (more.find? key).or (es.find? key) := by
  induction more generalizing es with
  | nil => rfl
  | cons e rest ih =>
    obtain ⟨hnew, hrest⟩ := keysDiffer_cons.1 h
    rw [update_cons, ih hrest, find?_insert_key]
    cases hkey : e.1.sameKey key with
    | true =>
      -- the key is not set again by what comes after it
      have hlast : find? rest key = none := by
        refine find?_eq_none_iff.2 fun k hk => ?_
        rw [Value.sameKey_comm, ← Value.sameKey_congr hkey, hnew k hk]
      rw [hlast, find?_cons_of_same hkey]
      rfl
    | false => rw [find?_cons_of_other hkey, if_neg Bool.false_ne_true]

/-- **The first spelling and the place of a key stay,** and new keys come after the others. -/
theorem keys_update (h : more.KeysDiffer) (es : Entries) :
    (es.update more).keys = es.keys ++ more.keys.filter fun key => (es.find? key).isNone := by
  induction more generalizing es with
  | nil => exact (List.append_nil _).symm
  | cons e rest ih =>
    -- The first entry is set: no key behind it is the same, so it makes none of them known.
    obtain ⟨hnew, hrest⟩ := keysDiffer_cons.1 h
    have hkeys : keys (e :: rest) = e.1 :: keys rest := rfl
    have hsame : ((keys rest).filter fun key => ((es.insert e.1 e.2).find? key).isNone) =
        (keys rest).filter fun key => (es.find? key).isNone := by
      refine List.filter_congr fun key hkey => ?_
      rw [find?_insert_key, hnew key hkey, if_neg Bool.false_ne_true]
    rw [update_cons, ih hrest, hsame, keys_insert, hkeys, List.filter_cons]
    split <;> simp

/-- A key that is there may be set before a mapping without it is put over, or after. -/
theorem insert_update (hnew : ∀ k ∈ more.keys, k.sameKey key = false)
    (hfound : es.find? key ≠ none) :
    (es.update more).insert key v = (es.insert key v).update more := by
  induction more generalizing es with
  | nil => rfl
  | cons e rest ih =>
    -- The key is still there when the first entry is set, which is what the induction needs.
    obtain ⟨hne, hrest⟩ := List.forall_mem_cons.1 hnew
    have hfound' : (es.insert e.1 e.2).find? key ≠ none := by
      rw [find?_insert_key, hne, if_neg Bool.false_ne_true]
      exact hfound
    rw [update_cons, update_cons, ih hrest hfound', insert_comm hne hfound]

/-- **A key may be set in what is put over a mapping,** or when that is done. -/
theorem update_insert (h : more.KeysDiffer) (es : Entries) (key v : Value) :
    es.update (more.insert key v) = (es.update more).insert key v := by
  induction more generalizing es with
  | nil => rfl
  | cons e rest ih =>
    obtain ⟨hnew, hrest⟩ := keysDiffer_cons.1 h
    cases hkey : e.1.sameKey key with
    | true =>
      -- the key is the first one, so nothing behind it sets it again
      have hrestnew : ∀ k ∈ keys rest, k.sameKey key = false := by
        intro k hk
        rw [Value.sameKey_comm, ← Value.sameKey_congr hkey, hnew k hk]
      have hfound : (es.insert e.1 e.2).find? key ≠ none := by
        rw [find?_insert_key, hkey, if_pos rfl]
        exact Option.some_ne_none _
      rw [insert_cons_of_same hkey, update_cons, update_cons, insert_update hrestnew hfound,
        insert_insert es hkey]
    | false => rw [insert_cons_of_other hkey, update_cons, update_cons, ih hrest]

/-- **Putting mappings over each other is associative.** -/
theorem update_update (h : mid.KeysDiffer) (es more : Entries) :
    es.update (mid.update more) = (es.update mid).update more := by
  induction more generalizing mid with
  | nil => rfl
  | cons e rest ih =>
    -- the first entry is set in the middle, and taken out of it again
    calc es.update (mid.update (e :: rest))
        = es.update ((mid.insert e.1 e.2).update rest) := by rw [update_cons]
      _ = (es.update (mid.insert e.1 e.2)).update rest := ih (h.insert e.1 e.2)
      _ = ((es.update mid).insert e.1 e.2).update rest := by rw [update_insert h]
      _ = (es.update mid).update (e :: rest) := by rw [update_cons]

end Entries

/-! ### Items -/

namespace ExtraVars

variable {fs : FileSystem} {vars mid after : Entries}

/-- The variables with those of an item put over them. -/
def addItem (fs : FileSystem) (vars : Entries) (item : String) : Except Fault Entries := do
  return vars.update (← ofItem fs (Item.ofText item))

theorem ofItems_eq (fs : FileSystem) (items : List String) :
    ofItems fs items = items.foldlM (addItem fs) [] := rfl

/-- What an item leaves has no two keys that are the same, if what it finds has none. -/
theorem keysDiffer_of_addItem {item : String} (h : vars.KeysDiffer)
    (hitem : addItem fs vars item = .ok after) : after.KeysDiffer := by
  rw [addItem] at hitem
  -- What an item gives may have keys that are the same: they are put over one by one.
  cases hes : ofItem fs (Item.ofText item) with
  | error f =>
    rw [hes] at hitem
    cases hitem
  | ok es =>
    rw [hes] at hitem
    cases hitem
    exact h.update es

theorem keysDiffer_of_addItems {items : List String} (h : vars.KeysDiffer)
    (hitems : items.foldlM (addItem fs) vars = .ok after) : after.KeysDiffer := by
  induction items generalizing vars with
  | nil =>
    cases hitems
    exact h
  | cons item rest ih =>
    rw [List.foldlM_cons] at hitems
    cases hitem : addItem fs vars item with
    | error f =>
      rw [hitem] at hitems
      cases hitems
    | ok next =>
      rw [hitem] at hitems
      exact ih (keysDiffer_of_addItem h hitem) hitems

/-- The variables of items have no two keys that are the same. -/
theorem keysDiffer_of_ofItems {items : List String} (h : ofItems fs items = .ok after) :
    after.KeysDiffer :=
  keysDiffer_of_addItems Entries.keysDiffer_nil h

/-- **An item after others** may be put over what these gave before that is put over what was
there, or after. -/
theorem addItem_update (h : mid.KeysDiffer) (vars : Entries) (item : String) :
    addItem fs (vars.update mid) item = (addItem fs mid item).map vars.update := by
  rw [addItem, addItem]
  cases ofItem fs (Item.ofText item) with
  | error f => rfl
  | ok es => exact congrArg Except.ok (Entries.update_update h vars es).symm

/-- **Items after others,** one by one. -/
theorem addItems_update (h : mid.KeysDiffer) (vars : Entries) (items : List String) :
    items.foldlM (addItem fs) (vars.update mid) =
      (items.foldlM (addItem fs) mid).map vars.update := by
  -- What has been given so far goes along with the induction: it has no two keys that are the same.
  induction items generalizing mid with
  | nil => rfl
  | cons item rest ih =>
    rw [List.foldlM_cons, List.foldlM_cons, addItem_update h]
    cases hitem : addItem fs mid item with
    | error f => rfl
    | ok next => exact ih (keysDiffer_of_addItem h hitem)

/-- **Variables accumulate from left to right.** What two lists of items give, one after the other,
is what the first one gives with what the second one gives put over it. So the keys of the first
one come first, spelt as they are there, and the other keys of the second one follow; and where both
have a key, the value is that of the second one. No two keys are the same, however they are
spelt. -/
theorem ofItems_append (fs : FileSystem) {items more : List String} {before after : Entries}
    (hbefore : ofItems fs items = .ok before) (hafter : ofItems fs more = .ok after) :
    ofItems fs (items ++ more) = .ok (before.update after) ∧
      (before.update after).keys =
        before.keys ++ (after.keys.filter fun key => (before.find? key).isNone) ∧
      (∀ key, (before.update after).find? key = (after.find? key).or (before.find? key)) ∧
      (before.update after).KeysDiffer := by
  have hdiffer := keysDiffer_of_ofItems hbefore
  have hdiffer' := keysDiffer_of_ofItems hafter
  refine ⟨?_, Entries.keys_update hdiffer' before, Entries.find?_update_keys hdiffer' before,
    hdiffer.update after⟩
  rw [ofItems_eq] at hbefore hafter ⊢
  calc (items ++ more).foldlM (addItem fs) []
      = more.foldlM (addItem fs) (before.update []) := by
        rw [List.foldlM_append, hbefore]
        rfl
    _ = (more.foldlM (addItem fs) []).map before.update :=
        addItems_update Entries.keysDiffer_nil before more
    _ = .ok (before.update after) := by
        rw [hafter]
        rfl

/-- Entries of scalars. -/
def ofScalars (pairs : List (Scalar × Scalar)) : Entries :=
  pairs.map fun e => (.scalar e.1, .scalar e.2)

/-- The scalars of entries, if there is nothing else in them. -/
def scalars? : Entries → Option (List (Scalar × Scalar))
  | [] => some []
  | (.scalar k, .scalar v) :: rest => (scalars? rest).map ((k, v) :: ·)
  | _ :: _ => none

theorem eq_ofScalars {es : Entries} {pairs : List (Scalar × Scalar)}
    (h : scalars? es = some pairs) : es = ofScalars pairs := by
  fun_induction scalars? es generalizing pairs with
  | case1 =>
    cases h
    rfl
  | case2 k v rest ih =>
    obtain ⟨more, hmore, rfl⟩ := Option.map_eq_some_iff.1 h
    exact congrArg ((.scalar k, .scalar v) :: ·) (ih hmore)
  | case3 => cases h

/-- Variables are found to be scalars by a test. -/
theorem eq_ok_of_scalars? {found : Except Fault Entries} {pairs : List (Scalar × Scalar)}
    (h : found.toOption.bind scalars? = some pairs) : found = .ok (ofScalars pairs) := by
  cases found with
  | error f => cases h
  | ok es => exact congrArg Except.ok (eq_ofScalars h)

/-- A number is a key three times: as an integer, as a double in a file, and as truth. Beside it
stand a file that does not exist, a document that is no mapping, and one that is malformed. -/
theorem ofItems_append_numbers :
    let fs : FileSystem := .ofAnswers "/" [("vars.yml", .ok "1.0: file\n".toUTF8.toList)]
    let items := ["\x7b1: a, k: p\x7d", "n = 1"]
    let more := ["@vars.yml", "@missing.yml", "- 5", "\x7b1.0: b", "\x7btrue: c, m: q\x7d"]
    ofItems fs items =
        .ok (ofScalars [(.int 1, .str "a"), (.str "k", .str "p"), (.str "n", .str "1")]) ∧
      ofItems fs more = .ok (ofScalars [(.float .one, .str "c"), (.str "m", .str "q")]) ∧
      ofItems fs (items ++ more) =
        .ok (ofScalars [(.int 1, .str "c"), (.str "k", .str "p"), (.str "n", .str "1"),
          (.str "m", .str "q")]) := by
  intro fs items more
  have hitems := @eq_ok_of_scalars? (ofItems fs items)
    [(.int 1, .str "a"), (.str "k", .str "p"), (.str "n", .str "1")] (by decide +kernel)
  have hmore := @eq_ok_of_scalars? (ofItems fs more)
    [(.float .one, .str "c"), (.str "m", .str "q")] (by decide +kernel)
  refine ⟨hitems, hmore, (ofItems_append fs hitems hmore).1.trans (congrArg Except.ok ?_)⟩
  exact eq_ofScalars (by decide +kernel)

end ExtraVars

end Playbook
