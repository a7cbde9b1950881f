import Playbook.Proofs.Inert
import Playbook.Report

/-!
# Variables that hide others

The variables of a task hide the extra ones of the same names. A template looks names up one by one,
so it cannot tell two mappings apart in which every name has the same value, whatever hidden entries
they were made from and in whatever order they stand.

* `Entries.find?_update_congr` — what a mapping hides of two others does not matter.
* `Rendering.Indifferent` — a rendering that gives the same in surroundings that are related, and
  leaves related surroundings behind; `Rendering.indifferent_ofEntries` says that it is enough to
  know this of the runs of templates.
* `Report.args_congr` — **hidden extra variables do not matter:** the arguments of a task are the
  same, or rendering them fails in the same way.

There are two relations of surroundings. If all names are texts, related surroundings have the same
names with the same values (`Surroundings.Alike`), so a template runs in the same way in both and
leaves the same traces. If a name is no text, every template fails before it looks at anything
(`Surroundings.Nameless`), and then nothing else is the same in both.
-/

namespace Playbook

/-! ### Mappings that are put over others -/

namespace Entries

variable {es es' more : Entries} {key v : Value} {k : String}

/-- A text is the same key as itself only. -/
theorem str_sameKey : (Value.str k).sameKey v = true ↔ v = .str k := by
  cases v with
  | scalar s =>
    cases s with
    | str t => exact sameKey_str.trans eq_comm
    | _ => simp [Value.sameKey, Scalar.sameKey, Scalar.equal, Scalar.number?]
  | _ => simp [Value.sameKey]

/-- Setting another key does not change what is found for a text. -/
theorem find?_insert_of_ne (es : Entries) (v : Value) (hkey : key ≠ .str k) :
    (es.insert key v).find? (.str k) = es.find? (.str k) := by
  induction es with
  | nil =>
    -- Without entries the key is added, and it is not the one that is looked for.
    show (if key.sameKey (.str k) then some v else none) = none
    rw [if_neg fun h => hkey (sameKey_str.1 h)]
  | cons e rest ih =>
    rw [insert]
    by_cases hsame : e.1.sameKey key = true
    · -- the key in this place is no text either
      have hne : ¬ e.1.sameKey (.str k) = true := by
        intro h
        rw [sameKey_str.1 h, str_sameKey] at hsame
        exact hkey hsame
      rw [if_pos hsame, find?, find?, if_neg hne, if_neg hne]
    · rw [if_neg hsame, find?, find?, ih]

/-- **What a mapping hides of others does not matter:** under the same mapping, a name has the same
value if it has the same one in what is not hidden. -/
theorem find?_update_congr
    (h : more.find? (.str k) = none → es.find? (.str k) = es'.find? (.str k)) :
    (es.update more).find? (.str k) = (es'.update more).find? (.str k) := by
  -- Induction on what is put over the others, for all that may be under it: both get the same entry
  -- in each step.
  induction more generalizing es es' with
  | nil => exact h rfl
  | cons e rest ih =>
    show ((es.insert e.1 e.2).update rest).find? _ = ((es'.insert e.1 e.2).update rest).find? _
    apply ih
    intro hrest
    -- After this step both have the value under the name, or neither has changed for it.
    by_cases hkey : e.1 = .str k
    · rw [hkey, find?_insert, find?_insert, if_pos rfl, if_pos rfl]
    · rw [find?_insert_of_ne es e.2 hkey, find?_insert_of_ne es' e.2 hkey]
      apply h
      rw [find?, if_neg fun hsame => hkey (sameKey_str.1 hsame), hrest]

/-- All keys are texts. -/
def AreTexts (es : Entries) : Prop := ∀ e ∈ es, ∃ s, e.1 = .str s

theorem areTexts_cons {e : Value × Value} :
    AreTexts (e :: es) ↔ (∃ s, e.1 = .str s) ∧ es.AreTexts := List.forall_mem_cons

theorem areTexts_insert : (es.insert key v).AreTexts ↔ es.AreTexts ∧ ∃ s, key = .str s := by
  induction es with
  | nil =>
    show AreTexts [(key, v)] ↔ _
    rw [areTexts_cons]
    exact and_comm
  | cons e rest ih =>
    rw [insert]
    by_cases hsame : e.1.sameKey key = true
    -- The key in this place stays. It is the same as the new one, so both are texts or neither is.
    · have hiff : (∃ s, e.1 = .str s) ↔ ∃ s, key = .str s := by
        constructor
        · rintro ⟨s, hs⟩
          rw [hs, str_sameKey] at hsame
          exact ⟨s, hsame⟩
        · rintro ⟨s, rfl⟩
          exact ⟨s, sameKey_str.1 hsame⟩
      rw [if_pos hsame, areTexts_cons, areTexts_cons, hiff]
      constructor
      · rintro ⟨hkey, hrest⟩
        exact ⟨⟨hkey, hrest⟩, hkey⟩
      · exact And.left
    · rw [if_neg hsame, areTexts_cons, areTexts_cons, ih, and_assoc]

theorem areTexts_update : (es.update more).AreTexts ↔ es.AreTexts ∧ more.AreTexts := by
  induction more generalizing es with
  | nil => exact ⟨fun h => ⟨h, fun _ he => nomatch he⟩, And.left⟩
  | cons e rest ih =>
    show ((es.insert e.1 e.2).update rest).AreTexts ↔ _
    rw [ih, areTexts_insert, areTexts_cons, and_assoc]

/-- Setting a name leaves the keys as they are, or adds it to them. -/
theorem keys_insert_cases (es : Entries) (key v : Value) :
    (es.insert key v).keys = es.keys ∨
      (es.insert key v).keys = es.keys ++ [key] ∧ ∀ e ∈ es, ¬ e.1.sameKey key = true := by
  induction es with
  | nil => exact .inr ⟨rfl, fun _ he => nomatch he⟩
  | cons e rest ih =>
    rw [insert]
    by_cases hsame : e.1.sameKey key = true
    · rw [if_pos hsame]
      exact .inl rfl
    · rw [if_neg hsame]
      -- In front of the key nothing changes, so the two cases are those of the entries after it.
      obtain hrest | ⟨hrest, hnew⟩ := ih
      · exact .inl (congrArg (e.1 :: ·) hrest)
      · refine .inr ⟨congrArg (e.1 :: ·) hrest, ?_⟩
        exact List.forall_mem_cons.2 ⟨hsame, hnew⟩

theorem AreNames.insert (h : es.AreNames) (k : String) (v : Value) :
    (es.insert (.str k) v).AreNames := by
  refine ⟨areTexts_insert.2 ⟨h.texts, k, rfl⟩, ?_⟩
  show (es.insert (.str k) v).keys.Nodup
  obtain hkeys | ⟨hkeys, hnew⟩ := keys_insert_cases es (.str k) v
  · rw [hkeys]
    exact h.distinct
  · rw [hkeys, List.nodup_append]
    -- A key that is new is the same as none of the others, and so it is equal to none.
    refine ⟨h.distinct, List.pairwise_singleton _ _, fun a ha b hb => ?_⟩
    obtain ⟨e, he, rfl⟩ := List.mem_map.1 ha
    rw [List.mem_singleton.1 hb]
    exact fun heq => hnew e he (sameKey_str.2 heq)

theorem AreNames.update (h : es.AreNames) (hmore : more.AreTexts) : (es.update more).AreNames := by
  induction more generalizing es with
  | nil => exact h
  | cons e rest ih =>
    obtain ⟨⟨k, hk⟩, hrest⟩ := areTexts_cons.1 hmore
    show ((es.insert e.1 e.2).update rest).AreNames
    rw [hk]
    exact ih (h.insert k e.2) hrest

/-- **The keys of a mapping can be told apart:** each of them is the same key as itself, and no two
of them are the same key. -/
structure IsDict (es : Entries) : Prop where
  /-- Each key is the same as itself. -/
  same : ∀ e ∈ es, e.1.sameKey e.1 = true
  /-- Two keys are not the same. -/
  distinct : es.Pairwise fun d e => d.1.sameKey e.1 = false

/-- Keys that can be told apart and are texts are names. -/
theorem IsDict.areNames (h : es.IsDict) (htexts : es.AreTexts) : es.AreNames := by
  refine ⟨htexts, List.pairwise_map.2 (h.distinct.imp_of_mem fun {d e} hd _ hsame heq => ?_)⟩
  obtain ⟨s, hs⟩ := htexts d hd
  rw [← heq, hs, sameKey_str.2 rfl] at hsame
  cases hsame

/-! ### Mappings with the same names -/

/-- In two mappings every name has the same value, or none in both. -/
def SameNames (es es' : Entries) : Prop := ∀ k : String, es.find? (.str k) = es'.find? (.str k)

/-- What is found is the value of a key that is the same. -/
theorem exists_of_find? (h : es.find? key = some v) :
    ∃ e ∈ es, e.1.sameKey key = true ∧ e.2 = v := by
  induction es with
  | nil => cases h
  | cons e rest ih =>
    rw [find?] at h
    by_cases hkey : e.1.sameKey key = true
    · rw [if_pos hkey] at h
      exact ⟨e, List.mem_cons_self, hkey, Option.some.inj h⟩
    · rw [if_neg hkey] at h
      obtain ⟨d, hd, hsame⟩ := ih h
      exact ⟨d, List.mem_cons_of_mem _ hd, hsame⟩

/-- A key that is there, or one that is the same, is found. -/
theorem find?_ne_none {e : Value × Value} (he : e ∈ es) (hkey : e.1.sameKey key = true) :
    es.find? key ≠ none := by
  induction es with
  | nil => cases he
  | cons d rest ih =>
    rw [find?]
    by_cases hd : d.1.sameKey key = true
    · rw [if_pos hd]
      exact Option.some_ne_none _
    · rw [if_neg hd]
      obtain rfl | he := List.mem_cons.1 he
      · exact absurd hkey hd
      · exact ih he

theorem SameNames.subset (h : SameNames es es') (hes : es.AreNames) : es ⊆ es' := by
  intro e he
  obtain ⟨k, hk⟩ := hes.texts e he
  have hfind : es.find? (.str k) = some e.2 := hk ▸ hes.find?_of_mem he
  obtain ⟨d, hd, hsame, hvalue⟩ := exists_of_find? ((h k).symm.trans hfind)
  -- The other mapping has an entry with this name, and with the same value: this one.
  have heq : d = e := Prod.ext ((sameKey_str.1 hsame).trans hk.symm) hvalue
  exact heq ▸ hd

/-- Mappings with the same names have the same marks. -/
theorem SameNames.endMark_eq (h : SameNames es es') (hes : es.AreNames) (hes' : es'.AreNames) :
    es.endMark = es'.endMark := by
  have hsubset : ∀ {xs ys : Entries}, xs ⊆ ys → xs.endMark ≤ ys.endMark := fun hxs =>
    endMark_le_iff.2 fun e he => endMark_le_iff.1 (Nat.le_refl _) e (hxs he)
  -- Each has the entries of the other one.
  apply Nat.le_antisymm
  · exact hsubset (h.subset hes)
  · exact hsubset (SameNames.subset (fun k => (h k).symm) hes')

end Entries

/-! ### Surroundings that are alike -/

namespace Surroundings

open Entries Template

/-- **Surroundings in which templates see the same:** the same names, all of which are texts, with
the same values. -/
structure Alike (s s' : Surroundings) : Prop where
  /-- The names have the same values. -/
  names : SameNames s.names s'.names
  /-- The keys of the one mapping are names. -/
  left : s.names.AreNames
  /-- So are those of the other one. -/
  right : s'.names.AreNames
  /-- The same has become of containers. -/
  changes : s.changes = s'.changes
  -- The key is looked up in both with the same result.
  /-- Marks go on from the same number. -/
  next : s.next = s'.next

/-- **Surroundings in which no template is run,** since a name in them is no text. -/
structure Nameless (s s' : Surroundings) : Prop where
  /-- A key of the one mapping is no text. -/
  left : ¬ s.names.AreTexts
  /-- Neither is one of the other. -/
  right : ¬ s'.names.AreTexts
  /-- The same has become of containers. -/
  changes : s.changes = s'.changes

theorem textual_iff {es : Entries} : (Scope.ofEntries es).textual = true ↔ es.AreTexts := by
  show List.all es _ = true ↔ _
  -- Only whether all keys are texts is asked, one key at a time.
  rw [List.all_eq_true]
  constructor
  · intro h e he
    have hkey := h e he
    dsimp only at hkey
    split at hkey
    · next s hs => exact ⟨s, hs⟩
    · cases hkey
  · intro h e he
    obtain ⟨s, hs⟩ := h e he
    dsimp only
    rw [hs]

/-- Templates see the same in them. -/
theorem Alike.scope {s s' : Surroundings} (h : s.Alike s') :
    Scope.ofEntries s.names = Scope.ofEntries s'.names := by
  have hfind : (Scope.ofEntries s.names).find = (Scope.ofEntries s'.names).find :=
    funext h.names
  have htextual : (Scope.ofEntries s.names).textual = (Scope.ofEntries s'.names).textual :=
    (textual_iff.2 h.left.texts).trans (textual_iff.2 h.right.texts).symm
  calc Scope.ofEntries s.names
      = ⟨(Scope.ofEntries s.names).find, (Scope.ofEntries s.names).textual⟩ := rfl
    _ = Scope.ofEntries s'.names := by rw [hfind, htextual]

/-- Names that get the same values stay the same. -/
theorem renamed_alike {es es' : Entries} (named : List (String × Value)) (h : SameNames es es')
    (hes : es.AreNames) (hes' : es'.AreNames) :
    SameNames (renamed es named) (renamed es' named) ∧ (renamed es named).AreNames ∧
      (renamed es' named).AreNames := by
  -- One name after another. Whether it is there is the same in both, and a name that is not there
  -- is not added.
  induction named generalizing es es' with
  | nil => exact ⟨h, hes, hes'⟩
  | cons e rest ih =>
    have hstep : ∀ es : Entries, renamed es (e :: rest) =
        renamed (if (es.find? (.str e.1)).isSome then es.insert (.str e.1) e.2 else es) rest :=
      fun _ => rfl
    rw [hstep, hstep, ← h e.1]
    by_cases hfound : (es.find? (.str e.1)).isSome = true
    · rw [if_pos hfound, if_pos hfound]
      apply ih
      · intro k
        rw [find?_insert, find?_insert, h k]
      · exact hes.insert e.1 e.2
      · exact hes'.insert e.1 e.2
    · rw [if_neg hfound, if_neg hfound]
      exact ih h hes hes'

/-- **Surroundings stay alike** when a run leaves the same traces in both. -/
theorem Alike.after {s s' : Surroundings} (h : s.Alike s') (traces : Traces) :
    (s.after traces).Alike (s'.after traces) := by
  obtain ⟨hnames, hleft, hright⟩ := renamed_alike traces.named h.names h.left h.right
  refine ⟨hnames, hleft, hright, rfl, ?_⟩
  -- Marks of the names are those of the values, which are the same.
  have hmarks : (renamed s.names traces.named).endMark = (renamed s'.names traces.named).endMark :=
    hnames.endMark_eq hleft hright
  show max s.next (max (renamed s.names traces.named).endMark _) = max s'.next (max _ _)
  rw [h.next, hmarks]

end Surroundings

/-! ### Runs without names -/

namespace Template

open Eval

variable {scope : Scope}

/-- What a run fails with before it looks at the names around it. -/
def earlyFailure (t : String) : Failure :=
  match settledOf t with
  | .error f => f
  | .ok _ => .type "keywords must be strings"

/-- **A run with a name that is no text** fails at once and leaves nothing behind. -/
theorem ending_of_not_textual (h : scope.textual = false) (t : String)
    (current : List (Nat × Value)) (next : Nat) :
    ending t scope current next = (.error (earlyFailure t), .empty current next) := by
  rw [earlyFailure]
  cases hsettled : settledOf t with
  | error f => exact ending_of_error hsettled scope current next
  | ok settled =>
    -- The template can be read, so the run goes on to the names and ends there.
    unfold settledOf at hsettled
    unfold ending
    cases hnodes : nodesOf t with
    | error e =>
      rw [hnodes] at hsettled
      cases hsettled
    | ok nodes =>
      rw [hnodes] at hsettled
      change settle vocabulary nodes = .ok settled at hsettled
      show runChecked scope nodes _ _ = _
      rw [runChecked, hsettled]
      show (if scope.textual then _ else _ : Eval String) _ _ = _
      rw [h]
      rfl

/-- Nothing is given back from a store in which nothing has been taken over. -/
theorem gives_tracesAfter_empty (p : Puller) (current : List (Nat × Value)) (next : Nat) :
    Gives p (.empty current next) tracesAfter ⟨[], current⟩ := by
  -- Neither cells nor names have been added to the empty store.
  have hnil : Holds #[] 0 0 [] [] := .nil (Nat.le_refl _)
  have hparts : Holds (Store.empty current next).cells 0 0 [.row [.row [], .row []]]
      [.tuple none [.tuple none [], .tuple none []]] := .row (.row hnil (.row hnil hnil)) hnil
  have hgive := hparts.give (p := p) rfl
  refine (Gives.of_ok (a := .empty current next) rfl).bind ?_
  refine hgive.bind ?_
  show Gives p _ (pure (Traces.mk [] ([] ++ current.filter fun _ => true))) _
  rw [List.nil_append, List.filter_eq_self.2 fun _ _ => rfl]
  exact .pure _

/-- So it leaves what it found. -/
theorem run_of_not_textual (h : scope.textual = false) (t : String)
    (current : List (Nat × Value)) (next : Nat) :
    run t scope current next = ⟨.error (earlyFailure t), ⟨[], current⟩⟩ := by
  have hending := ending_of_not_textual h t current next
  have hresult : (run t scope current next).result = .error (earlyFailure t) := by
    rw [run_result, hending]
  have htraces : (run t scope current next).traces = ⟨[], current⟩ := by
    rw [run_traces, hending]
    obtain hgiven | ⟨e, hgiven⟩ := gives_tracesAfter_empty (fun _ => throw tooDeep) current next
    · rw [hgiven]
    · rw [hgiven]
  calc run t scope current next
      = ⟨(run t scope current next).result, (run t scope current next).traces⟩ := rfl
    _ = ⟨.error (earlyFailure t), ⟨[], current⟩⟩ := by rw [hresult, htraces]

end Template

/-! ### Renderings in related surroundings -/

namespace Rendering

variable {α β : Type} {related : Surroundings → Surroundings → Prop} {x : Rendering α}

/-- **A rendering does not tell related surroundings apart:** it gives the same in both, and leaves
related surroundings behind. -/
def Indifferent (related : Surroundings → Surroundings → Prop) (x : Rendering α) : Prop :=
  ∀ s s', related s s' →
    (x.runIn s).1 = (x.runIn s').1 ∧ related (x.runIn s).2 (x.runIn s').2

namespace Indifferent

theorem pure (a : α) : Indifferent related (pure a : Rendering α) := fun _ _ h => ⟨rfl, h⟩

theorem throw (f : Fault) : Indifferent related (throw f : Rendering α) := fun _ _ h => ⟨rfl, h⟩

/-- One rendering after another. -/
theorem bind {f : α → Rendering β} (hx : Indifferent related x)
    (hf : ∀ a, Indifferent related (f a)) : Indifferent related (x >>= f) := by
  intro s s' h
  obtain ⟨hresult, hleft⟩ := hx s s' h
  show (ExceptT.bindCont f (x.runIn s).1 (x.runIn s).2).1 =
      (ExceptT.bindCont f (x.runIn s').1 (x.runIn s').2).1 ∧
    related (ExceptT.bindCont f (x.runIn s).1 (x.runIn s).2).2
      (ExceptT.bindCont f (x.runIn s').1 (x.runIn s').2).2
  -- The second rendering starts in what the first leaves, and this is related by `hleft`.
  rw [← hresult]
  cases (x.runIn s).1 with
  | ok a => exact hf a _ _ hleft
  | error e => exact ⟨rfl, hleft⟩

theorem mapM {f : β → Rendering α} (xs : List β) (h : ∀ b, Indifferent related (f b)) :
    Indifferent related (xs.mapM f) := by
  induction xs with
  | nil =>
    rw [List.mapM_nil]
    exact .pure []
  | cons b rest ih =>
    rw [List.mapM_cons]
    exact .bind (h b) fun a => .bind ih fun as => .pure _

end Indifferent

section Containers

variable (hchanges : ∀ s s', related s s' → s.changes = s'.changes)
include hchanges

theorem indifferent_now (mark : Nat) (v : Value) : Indifferent related (now mark v) := by
  intro s s' h
  refine ⟨?_, h⟩
  show Except.ok (s.changes.now mark v) = Except.ok (s'.changes.now mark v)
  rw [hchanges s s' h]

variable {render : Value → Rendering Value} (hrender : ∀ v, Indifferent related (render v))
include hrender

theorem indifferent_itemsFrom (mark : Nat) (v : Value) (left i : Nat) :
    Indifferent related (itemsFrom render mark v left i) := by
  -- Along the items. Each time the container is looked at as it is now, which is the same in both.
  induction left generalizing i with
  | zero => exact .throw _
  | succ left ih =>
    rw [itemsFrom]
    refine .bind (indifferent_now hchanges mark v) fun w => ?_
    split
    · split
      · exact .pure _
      · exact .bind (hrender _) fun w => .bind (ih _) fun ws => .pure _
    · exact .pure _

omit hrender in
theorem indifferent_entriesNow (mark : Nat) (v : Value) (size : Nat) :
    Indifferent related (entriesNow mark v size) := by
  rw [entriesNow]
  refine .bind (indifferent_now hchanges mark v) fun w => ?_
  split
  · split
    · exact .pure _
    · exact .throw _
  · exact .pure _

theorem indifferent_entriesFrom (mark : Nat) (v : Value) (size left i : Nat) :
    Indifferent related (entriesFrom render mark v size left i) := by
  induction left generalizing i with
  | zero =>
    rw [entriesFrom]
    exact .bind (indifferent_entriesNow hchanges mark v size) fun _ => .pure _
  | succ left ih =>
    rw [entriesFrom]
    refine .bind (indifferent_entriesNow hchanges mark v size) fun es => ?_
    split
    · exact .pure _
    · exact .bind (hrender _) fun w => .bind (ih _) fun ws => .pure _

omit hchanges in
theorem indifferent_entriesBy (es : Entries) : Indifferent related (entriesBy render es) := by
  induction es with
  | nil => exact .pure []
  | cons e rest ih => exact .bind (hrender _) fun w => .bind ih fun ws => .pure _

end Containers

section Templates

variable (hchanges : ∀ s s', related s s' → s.changes = s'.changes)
  (htemplate : ∀ t, Indifferent related (ofTemplate t))
include hchanges htemplate

theorem indifferent_ofValueWithin (depth : Nat) (v : Value) :
    Indifferent related (ofValueWithin depth v) := by
  -- Induction on the depth, by the shape of the value: of what is in a value only templates look at
  -- names.
  induction depth generalizing v with
  | zero => exact .throw _
  | succ depth ih =>
    rw [ofValueWithin.eq_def]
    dsimp only
    split
    · next t =>
      have htext : Indifferent related (ofText t) := by
        unfold ofText
        split
        · exact .pure t
        · exact htemplate t
      exact .bind htext fun _ => .pure _
    · exact .bind (indifferent_entriesBy ih _) fun _ => .pure _
    · exact .bind (.mapM _ ih) fun _ => .pure _
    · refine .bind (indifferent_now hchanges _ _) fun _ => ?_
      exact .bind (indifferent_entriesFrom hchanges ih _ _ _ _ _) fun _ => .pure _
    · exact .bind (indifferent_itemsFrom hchanges ih _ _ _ _) fun _ => .pure _
    · exact .throw _
    · exact .throw _
    · exact .pure _

/-- **It is enough to know this of templates,** and that the same has become of containers. -/
theorem indifferent_ofEntries (es : Entries) : Indifferent related (ofEntries es) :=
  indifferent_entriesBy (indifferent_ofValueWithin hchanges htemplate Template.depthLimit) es

end Templates

/-- **A template runs in the same way** in surroundings that are alike. -/
theorem indifferent_ofTemplate_alike (t : String) :
    Indifferent Surroundings.Alike (ofTemplate t) := by
  intro s s' h
  -- All that a run is given is the same in both.
  have hrun : runOf t s = runOf t s' := by
    unfold runOf
    rw [h.scope, h.changes, h.next]
  rw [runIn_ofTemplate, runIn_ofTemplate, hrun]
  exact ⟨rfl, h.after _⟩

/-- **Where a name is no text, a template fails** in one way, whatever the names are. -/
theorem indifferent_ofTemplate_nameless (t : String) :
    Indifferent Surroundings.Nameless (ofTemplate t) := by
  intro s s' h
  have hfail : ∀ {s : Surroundings}, ¬ s.names.AreTexts →
      (ofTemplate t).runIn s = (.error (.ofRun t (Template.earlyFailure t)),
        s.after ⟨[], s.changes⟩) := by
    intro s hnames
    have htextual : (Template.Scope.ofEntries s.names).textual = false := by
      rw [← Bool.not_eq_true]
      exact fun htrue => hnames (Surroundings.textual_iff.1 htrue)
    rw [runIn_ofTemplate, runOf, Template.run_of_not_textual htextual]
    rfl
  rw [hfail h.left, hfail h.right]
  exact ⟨rfl, h.left, h.right, h.changes⟩

end Rendering

/-! ### Hidden variables -/

namespace Report

open Entries

/-- **A name that is no text is no hidden one,** if the variables that hide others are texts. So it
is there in both of two mappings that agree on what is not hidden. -/
theorem areTexts_of_agree {extra extra' vars : Entries} (hextra : extra.IsDict)
    (h : ∀ key, vars.find? key = none → extra.find? key = extra'.find? key)
    (htexts : (extra'.update vars).AreTexts) : (extra.update vars).AreTexts := by
  obtain ⟨hextra', hvars⟩ := areTexts_update.1 htexts
  refine areTexts_update.2 ⟨fun e he => ?_, hvars⟩
  cases hhidden : vars.find? e.1 with
  | some v =>
    -- the key is hidden by a text
    obtain ⟨d, hd, hsame, -⟩ := exists_of_find? hhidden
    obtain ⟨s, hs⟩ := hvars d hd
    rw [hs, str_sameKey] at hsame
    exact ⟨s, hsame⟩
  | none =>
    -- the key is found in the other mapping, where it is a text
    have hfound : extra'.find? e.1 ≠ none := h e.1 hhidden ▸ find?_ne_none he (hextra.same e he)
    obtain ⟨v, hv⟩ := Option.ne_none_iff_exists'.1 hfound
    obtain ⟨d, hd, hsame, -⟩ := exists_of_find? hv
    obtain ⟨s, hs⟩ := hextra' d hd
    rw [hs, str_sameKey] at hsame
    exact ⟨s, hsame⟩

/-- **Hidden extra variables do not matter.** If two mappings of extra variables agree on every key
that is no variable of a task, the arguments of the task are the same with both, or rendering them
fails in the same way. -/
theorem args_congr (o : Options) (t : Task) {extra extra' : Entries} (hextra : extra.IsDict)
    (hextra' : extra'.IsDict)
    (h : ∀ key, t.vars.find? key = none → extra.find? key = extra'.find? key) :
    args o extra t = args o extra' t := by
  have hsymm : ∀ key, t.vars.find? key = none → extra'.find? key = extra.find? key :=
    fun key hkey => (h key hkey).symm
  unfold args argsIn
  split
  -- All names are texts in both mappings, or in neither. A template goes on in the first case only.
  · by_cases htexts : (extra.update t.vars).AreTexts
    · have htexts' : (extra'.update t.vars).AreTexts := areTexts_of_agree hextra' hsymm htexts
      have hvars : t.vars.AreTexts := (areTexts_update.1 htexts).2
      have hnames : SameNames (extra.update t.vars) (extra'.update t.vars) := fun k =>
        find?_update_congr (h (.str k))
      have hleft : (extra.update t.vars).AreNames :=
        (hextra.areNames (areTexts_update.1 htexts).1).update hvars
      have hright : (extra'.update t.vars).AreNames :=
        (hextra'.areNames (areTexts_update.1 htexts').1).update hvars
      have halike : (Surroundings.beside (extra.update t.vars) t.args).Alike
          (.beside (extra'.update t.vars) t.args) := by
        refine ⟨hnames, hleft, hright, rfl, ?_⟩
        show max 2 (max (extra.update t.vars).endMark _) = max 2 (max _ _)
        rw [hnames.endMark_eq hleft hright]
      have hall := Rendering.indifferent_ofEntries (fun _ _ h => h.changes)
        Rendering.indifferent_ofTemplate_alike t.args
      exact (hall _ _ halike).1
    · have htexts' : ¬ (extra'.update t.vars).AreTexts := fun htexts' =>
        htexts (areTexts_of_agree hextra h htexts')
      have hnameless : (Surroundings.beside (extra.update t.vars) t.args).Nameless
          (.beside (extra'.update t.vars) t.args) := ⟨htexts, htexts', rfl⟩
      have hall := Rendering.indifferent_ofEntries (fun _ _ h => h.changes)
        Rendering.indifferent_ofTemplate_nameless t.args
      exact (hall _ _ hnameless).1
  · rfl

/-- A task that has a variable of its own, and reads another one besides. -/
def greetingTask : Task where
  name := "greet"
  module := .str "shell"
  args := [(.str "text", .list none [.str "\x7b\x7b own ~ extra \x7d\x7d"])]
  vars := [(.str "own", .str "a")]
  loop := ""
  source := "site.yml"

/-- The extra variable of the name that the task has is one thing or another, or there is none. -/
theorem args_congr_greetingTask :
    (∀ key, greetingTask.vars.find? key = none →
      Entries.find? [(.str "extra", .str "b"), (.str "own", .int 1)] key =
        Entries.find? [(.str "extra", .str "b")] key) ∧
    args ⟨0, false, true⟩ [(.str "extra", .str "b"), (.str "own", .int 1)] greetingTask =
      args ⟨0, false, true⟩ [(.str "extra", .str "b")] greetingTask := by
  have hagree : ∀ key, greetingTask.vars.find? key = none →
      Entries.find? [(.str "extra", .str "b"), (.str "own", .int 1)] key =
        Entries.find? [(.str "extra", .str "b")] key := by
    intro key hkey
    have hown : ¬ (Value.str "own").sameKey key = true := by
      intro hsame
      rw [greetingTask, find?, if_pos hsame] at hkey
      cases hkey
    rw [find?, find?, find?, if_neg hown]
    rfl
  refine ⟨hagree, args_congr ⟨0, false, true⟩ greetingTask ⟨?_, ?_⟩ ⟨?_, ?_⟩ hagree⟩ <;> decide

end Report

end Playbook
