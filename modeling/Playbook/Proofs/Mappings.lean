import Playbook.Value.Mark

/-!
# Mappings of names

The names that templates find are the keys of mappings. Such keys are texts that differ from each
other, and only a text is the same key as a text, so a name is looked up by equality alone.

* `Entries.find?_update` — one mapping put over another: its names hide those of the other one.
* `Entries.AreNames.ofList` — names with their values make the mapping that they are.
* `Entries.insert_of_find?` — setting a key to the value that it has changes nothing.
* `Entries.AreOwn` — names whose values are things of their own, which bear no marks.
-/

namespace Playbook.Entries

variable {es more : Entries} {k : String} {v : Value}

/-! ### Keys that are texts -/

/-- Setting a key to the value that it has changes nothing. -/
theorem insert_of_find? {key : Value} (h : es.find? key = some v) : es.insert key v = es := by
  induction es with
  | nil => cases h
  | cons e rest ih =>
    rw [find?] at h
    rw [insert]
    -- The value stands where the key is found, and nothing is moved.
    by_cases hkey : e.1.sameKey key = true
    · rw [if_pos hkey] at h ⊢
      cases h
      rfl
    · rw [if_neg hkey] at h ⊢
      rw [ih h]

/-- Only a text is the same key as a text. -/
theorem sameKey_str : v.sameKey (.str k) = true ↔ v = .str k := by
  cases v with
  | scalar s => cases s <;> simp [Value.sameKey, Scalar.sameKey, Scalar.equal, Scalar.number?]
  | _ => simp [Value.sameKey]

/-- A text that has been set has its value, and others have the values that they had. -/
theorem find?_insert (es : Entries) (k k' : String) (v : Value) :
    (es.insert (.str k) v).find? (.str k') = if k = k' then some v else es.find? (.str k') := by
  have hsame : (Value.str k).sameKey (.str k') = true ↔ k = k' := by
    rw [sameKey_str]
    simp
  induction es with
  | nil =>
    show (if (Value.str k).sameKey (.str k') then some v else none) = _
    simp only [hsame]
    rfl
  | cons e rest ih =>
    rw [insert]
    -- The key that is set is the one that is asked for, or it is not and is passed over.
    by_cases hkey : e.1.sameKey (.str k) = true
    · rw [if_pos hkey, find?, find?, sameKey_str.1 hkey]
      simp only [hsame]
      split <;> rfl
    · rw [if_neg hkey, find?, find?, ih]
      by_cases hk : k = k'
      · rw [if_pos hk, if_pos hk, if_neg (hk ▸ hkey)]
      · rw [if_neg hk, if_neg hk]

/-! ### Names -/

/-- **The keys of a mapping are names:** texts that differ from each other. -/
structure AreNames (es : Entries) : Prop where
  /-- They are texts. -/
  texts : ∀ e ∈ es, ∃ s, e.1 = .str s
  /-- They differ from each other. -/
  distinct : (es.map (·.1)).Nodup

theorem AreNames.of_cons {e : Value × Value} (h : AreNames (e :: es)) :
    (∃ s, e.1 = .str s) ∧ (∀ d ∈ es, d.1 ≠ e.1) ∧ AreNames es := by
  obtain ⟨htext, htexts⟩ := List.forall_mem_cons.1 h.texts
  obtain ⟨hnew, hdistinct⟩ := List.nodup_cons.1 h.distinct
  refine ⟨htext, fun d hd heq => hnew ?_, htexts, hdistinct⟩
  exact List.mem_map.2 ⟨d, hd, heq⟩

/-- What is no key of a mapping is not found in it. -/
theorem find?_of_forall_ne (h : ∀ e ∈ es, e.1 ≠ .str k) : es.find? (.str k) = none := by
  induction es with
  | nil => rfl
  | cons e rest ih =>
    obtain ⟨hne, hrest⟩ := List.forall_mem_cons.1 h
    rw [find?, if_neg (fun hkey => hne (sameKey_str.1 hkey)), ih hrest]

/-- Each name has its value. -/
theorem AreNames.find?_of_mem (h : es.AreNames) {e : Value × Value} (he : e ∈ es) :
    es.find? e.1 = some e.2 := by
  induction es with
  | nil => cases he
  | cons d rest ih =>
    obtain ⟨⟨name, hname⟩, hnew, hrest⟩ := h.of_cons
    rw [find?]
    -- A name later in the mapping differs from the first one, so the search goes on to it.
    obtain rfl | he := List.mem_cons.1 he
    · rw [hname, if_pos (sameKey_str.2 rfl)]
    · obtain ⟨k, hk⟩ := hrest.texts e he
      have hne : ¬ d.1.sameKey e.1 = true := by
        rw [hk, sameKey_str, ← hk]
        exact (hnew e he).symm
      rw [if_neg hne, ih hrest he]

/-- **The names of a mapping hide those of the mapping that it is put over.** -/
theorem find?_update (h : more.AreNames) (es : Entries) (k : String) :
    (es.update more).find? (.str k) = (more.find? (.str k)).or (es.find? (.str k)) := by
  induction more generalizing es with
  | nil => rfl
  | cons e rest ih =>
    obtain ⟨⟨name, hname⟩, hnew, hrest⟩ := h.of_cons
    show ((es.insert e.1 e.2).update rest).find? (.str k) = _
    rw [ih hrest, find?, hname, find?_insert]
    by_cases hk : name = k
    · -- the name is not among those that come after it
      subst hk
      rw [find?_of_forall_ne (hname ▸ hnew), if_pos rfl, if_pos (sameKey_str.2 rfl)]
      rfl
    · have hne : ¬ (Value.str name).sameKey (.str k) = true := by
        rw [sameKey_str]
        simpa using hk
      rw [if_neg hk, if_neg hne]

/-- A new key comes after those that are there. -/
theorem insert_of_new {key : Value} (h : ∀ e ∈ es, e.1.sameKey key = false) :
    es.insert key v = es ++ [(key, v)] := by
  induction es with
  | nil => rfl
  | cons e rest ih =>
    obtain ⟨he, hrest⟩ := List.forall_mem_cons.1 h
    rw [insert, he, if_neg Bool.false_ne_true, ih hrest]
    rfl

theorem update_of_new (es : Entries) (h : (es ++ more).AreNames) :
    es.update more = es ++ more := by
  -- The names put in so far are in front: each new one differs from them and goes to the end.
  induction more generalizing es with
  | nil => rw [update_nil, List.append_nil]
  | cons e rest ih =>
    have hnew : ∀ d ∈ es, d.1.sameKey e.1 = false := by
      intro d hd
      obtain ⟨k, hk⟩ := h.texts e (List.mem_append_right _ List.mem_cons_self)
      have hdistinct := h.distinct
      rw [List.map_append, List.nodup_append] at hdistinct
      have hne : d.1 ≠ e.1 := hdistinct.2.2 _ (List.mem_map_of_mem hd) _
        (List.mem_map_of_mem List.mem_cons_self)
      rw [hk] at hne ⊢
      exact eq_false_of_ne_true fun hsame => hne (sameKey_str.1 hsame)
    have hsnoc : es ++ e :: rest = (es ++ [e]) ++ rest := List.append_cons es e rest
    rw [hsnoc] at h ⊢
    rw [← ih (es ++ [e]) h]
    exact congrArg (update · rest) (insert_of_new hnew)

/-- **Names with their values** make the mapping that they are. -/
theorem AreNames.ofList (h : es.AreNames) : ofList es = es := update_of_new [] h

/-! ### Values without marks -/

theorem endMark_le_iff {n : Nat} :
    es.endMark ≤ n ↔ ∀ e ∈ es, e.1.endMark ≤ n ∧ e.2.endMark ≤ n := by
  unfold endMark
  induction es with
  | nil => simp [Value.endMarkOfEntries]
  | cons e rest ih =>
    rw [Value.endMarkOfEntries, Nat.max_le, Nat.max_le, ih, List.forall_mem_cons]

theorem endMark_eq_zero : es.endMark = 0 ↔ ∀ e ∈ es, e.1.endMark = 0 ∧ e.2.endMark = 0 := by
  simpa only [Nat.le_zero] using endMark_le_iff (n := 0)

theorem endMark_insert {key : Value} (h : es.endMark = 0) (hk : key.endMark = 0)
    (hv : v.endMark = 0) : (es.insert key v).endMark = 0 := by
  rw [endMark_eq_zero] at h ⊢
  induction es with
  | nil => exact List.forall_mem_cons.2 ⟨⟨hk, hv⟩, h⟩
  | cons e rest ih =>
    obtain ⟨he, hrest⟩ := List.forall_mem_cons.1 h
    rw [insert]
    split
    · exact List.forall_mem_cons.2 ⟨⟨he.1, hv⟩, hrest⟩
    · exact List.forall_mem_cons.2 ⟨he, ih hrest⟩

theorem endMark_update (h : es.endMark = 0) (hmore : more.endMark = 0) :
    (es.update more).endMark = 0 := by
  rw [endMark_eq_zero] at hmore
  induction more generalizing es with
  | nil => exact h
  | cons e rest ih =>
    obtain ⟨he, hrest⟩ := List.forall_mem_cons.1 hmore
    exact ih (endMark_insert h he.1 he.2) hrest

theorem endMark_of_find? {key : Value} (h : es.endMark = 0) (hv : es.find? key = some v) :
    v.endMark = 0 := by
  rw [endMark_eq_zero] at h
  induction es with
  | nil => cases hv
  | cons e rest ih =>
    obtain ⟨he, hrest⟩ := List.forall_mem_cons.1 h
    rw [find?] at hv
    split at hv
    · cases hv
      exact he.2
    · exact ih hrest hv

/-- **Names whose values are their own:** nothing in them bears a mark. -/
structure AreOwn (es : Entries) : Prop extends AreNames es where
  /-- Nothing bears a mark. -/
  unmarked : es.endMark = 0

end Playbook.Entries
