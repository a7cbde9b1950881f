import Playbook.Proofs.Confinement.Rendering
import Playbook.Proofs.JsonReader

/-!
# What rendering keeps

Rendering goes through mappings and lists and puts other texts in the place of texts. All else in
arguments is as it was: the keys of mappings, the lengths of lists, and whatever is no text, mapping
or list, with all that it holds. Neither do the arguments themselves change, if no container in them
is in reach of a template: templates find containers by the names around them alone, so what they
leave behind tells of no container of the arguments (`Rendering.ensures_ofText`).

Main definitions:

- `Value.Rendered`: a value and what rendering it can give;
- `Value.fitsWithin`: whether the containers that a rendering goes through nest too deep;
- `Surroundings.ApartFrom`: surroundings that share no container with arguments;
- `Rendering.IsNew`, `Rendering.IsCopy`: what is said of the result of rendering a value.

Rendering makes new containers, so what it leaves as it is it gives without marks
(`Value.unmarked`).

Main statement: `Rendering.shape_ofEntries`. Its two halves are two accounts of rendered values:
`Rendering.account_isNew`, for surroundings that are apart, and `Rendering.account_isCopy`, for
texts without the marks of expressions and statements.
-/

namespace Playbook

namespace Value

mutual

/-- **What rendering a value can give.** A text becomes a text, the same one if it is passed over;
mappings and lists become new ones with the same keys and as many items; all else stays. -/
inductive Rendered : Value → Value → Prop
  /-- A text becomes a text. -/
  | text {t u : String} (h : Template.isPlain t = true → u = t) : Rendered (.str t) (.str u)
  /-- A list becomes a list of what its items become. -/
  | list {m : Option Nat} {vs ws : List Value} (h : RenderedItems vs ws) :
    Rendered (.list m vs) (.list none ws)
  /-- A mapping becomes a mapping to what its values become. -/
  | map {m : Option Nat} {es fs : List (Value × Value)} (h : RenderedEntries es fs) :
    Rendered (.map m es) (.map none fs)
  /-- What is of no such kind stays. -/
  | other {v : Value} (h : v.kind ∉ [Kind.string, .sequence, .mapping]) : Rendered v v

/-- What rendering values one by one can give. -/
inductive RenderedItems : List Value → List Value → Prop
  /-- There are no values. -/
  | nil : RenderedItems [] []
  /-- One value after another. -/
  | cons {v w : Value} {vs ws : List Value} (h : Rendered v w) (hrest : RenderedItems vs ws) :
    RenderedItems (v :: vs) (w :: ws)

/-- What rendering the values of entries can give. -/
inductive RenderedEntries : List (Value × Value) → List (Value × Value) → Prop
  /-- There are no entries. -/
  | nil : RenderedEntries [] []
  /-- An entry keeps its key. -/
  | cons {k v w : Value} {es fs : List (Value × Value)} (h : Rendered v w)
    (hrest : RenderedEntries es fs) : RenderedEntries ((k, v) :: es) ((k, w) :: fs)

end

/-- Whether the containers that a rendering goes through nest less deep than a number. Those that
hold themselves nest deeper than any. -/
def fitsWithin : Nat → Value → Bool
  | 0, _ => false
  | depth + 1, .list _ items => items.all (fitsWithin depth)
  | depth + 1, .map _ entries => entries.all fun e => fitsWithin depth e.2
  | _ + 1, .again shape _ => shape != .map && shape != .list
  | _ + 1, _ => true

/-! ### The containers that a rendering goes through -/

mutual

/-- A value whose containers have no marks is the same without marks. -/
theorem unmarked_of_walkedMarks : (v : Value) → v.walkedMarks = [] → v.unmarked = v
  | .list m items, h => by
    obtain ⟨hm, hitems⟩ := List.append_eq_nil_iff.1 h
    rw [unmarked, unmarkedItems_of_walkedMarks items hitems, Option.toList_eq_nil_iff.1 hm]
  | .map m entries, h => by
    obtain ⟨hm, hentries⟩ := List.append_eq_nil_iff.1 h
    rw [unmarked, unmarkedEntries_of_walkedMarks entries hentries, Option.toList_eq_nil_iff.1 hm]
  | .scalar _, _ | .tuple .., _ | .set .., _ | .again .., _ | .opaqueThing .., _ => rfl

/-- Values whose containers have no marks are the same without marks. -/
theorem unmarkedItems_of_walkedMarks :
    (vs : List Value) → walkedMarksOfItems vs = [] → unmarkedItems vs = vs
  | [], _ => rfl
  | v :: rest, h => by
    obtain ⟨hv, hrest⟩ := List.append_eq_nil_iff.1 h
    rw [unmarkedItems, unmarked_of_walkedMarks v hv, unmarkedItems_of_walkedMarks rest hrest]

/-- Entries whose containers have no marks are the same without marks. -/
theorem unmarkedEntries_of_walkedMarks :
    (es : List (Value × Value)) → walkedMarksOfEntries es = [] → unmarkedEntries es = es
  | [], _ => rfl
  | (k, v) :: rest, h => by
    obtain ⟨hv, hrest⟩ := List.append_eq_nil_iff.1 h
    rw [unmarkedEntries, unmarked_of_walkedMarks v hv, unmarkedEntries_of_walkedMarks rest hrest]

end

mutual

/-- A rendering goes through containers of the value. -/
theorem walkedMarks_subset : (v : Value) → v.walkedMarks ⊆ v.containerMarks
  | .list _ items => List.append_subset.2 ⟨List.subset_append_left _ _,
      List.Subset.trans (walkedMarksOfItems_subset items) (List.subset_append_right _ _)⟩
  | .map _ entries => List.append_subset.2 ⟨List.subset_append_left _ _,
      List.Subset.trans (walkedMarksOfEntries_subset entries) (List.subset_append_right _ _)⟩
  | .scalar _ | .tuple .. | .set .. | .again .. | .opaqueThing .. => List.nil_subset _

/-- A rendering goes through containers of the values. -/
theorem walkedMarksOfItems_subset :
    (vs : List Value) → walkedMarksOfItems vs ⊆ containerMarksOfItems vs
  | [] => List.nil_subset _
  | v :: rest => List.append_subset.2
      ⟨List.Subset.trans (walkedMarks_subset v) (List.subset_append_left _ _),
        List.Subset.trans (walkedMarksOfItems_subset rest) (List.subset_append_right _ _)⟩

/-- A rendering goes through containers of the entries. -/
theorem walkedMarksOfEntries_subset :
    (es : List (Value × Value)) → walkedMarksOfEntries es ⊆ containerMarksOfEntries es
  | [] => List.nil_subset _
  | (_, v) :: rest => List.append_subset.2
      ⟨fun _ hm => List.mem_append_left _ (List.mem_append_right _ (walkedMarks_subset v hm)),
        List.Subset.trans (walkedMarksOfEntries_subset rest) (List.subset_append_right _ _)⟩

end

mutual

/-- Marks of containers are below the bound of all marks. -/
theorem lt_endMark_of_mem {m : Nat} : (v : Value) → m ∈ v.containerMarks → m < v.endMark
  | .tuple mark items, h | .list mark items, h | .set mark items, h => by
    show m < max (endOf mark) (endMarkOfItems items)
    obtain h | h := List.mem_append.1 h
    · obtain rfl : mark = some m := by simpa using h
      exact Nat.lt_of_lt_of_le (Nat.lt_succ_self m) (Nat.le_max_left _ _)
    · exact Nat.lt_of_lt_of_le (lt_endMarkOfItems_of_mem items h) (Nat.le_max_right _ _)
  | .map mark entries, h => by
    show m < max (endOf mark) (endMarkOfEntries entries)
    obtain h | h := List.mem_append.1 h
    · obtain rfl : mark = some m := by simpa using h
      exact Nat.lt_of_lt_of_le (Nat.lt_succ_self m) (Nat.le_max_left _ _)
    · exact Nat.lt_of_lt_of_le (lt_endMarkOfEntries_of_mem entries h) (Nat.le_max_right _ _)
  | .scalar _, h | .again .., h | .opaqueThing .., h => nomatch h

/-- Marks of containers in values are below the bound of all marks. -/
theorem lt_endMarkOfItems_of_mem {m : Nat} :
    (vs : List Value) → m ∈ containerMarksOfItems vs → m < endMarkOfItems vs
  | v :: rest, h => by
    rw [endMarkOfItems]
    obtain h | h := List.mem_append.1 h
    · exact Nat.lt_of_lt_of_le (lt_endMark_of_mem v h) (Nat.le_max_left _ _)
    · exact Nat.lt_of_lt_of_le (lt_endMarkOfItems_of_mem rest h) (Nat.le_max_right _ _)

/-- Marks of containers in entries are below the bound of all marks. -/
theorem lt_endMarkOfEntries_of_mem {m : Nat} :
    (es : List (Value × Value)) → m ∈ containerMarksOfEntries es → m < endMarkOfEntries es
  | (k, v) :: rest, h => by
    have hentry : m ∈ k.containerMarks ++ v.containerMarks → m < max k.endMark v.endMark := by
      intro h
      obtain h | h := List.mem_append.1 h
      · exact Nat.lt_of_lt_of_le (lt_endMark_of_mem k h) (Nat.le_max_left _ _)
      · exact Nat.lt_of_lt_of_le (lt_endMark_of_mem v h) (Nat.le_max_right _ _)
    rw [endMarkOfEntries]
    obtain h | h := List.mem_append.1 h
    · exact Nat.lt_of_lt_of_le (hentry h) (Nat.le_max_left _ _)
    · exact Nat.lt_of_lt_of_le (lt_endMarkOfEntries_of_mem rest h) (Nat.le_max_right _ _)

end

end Value

namespace Entries

/-- The marks of the containers in entries. -/
def containerMarks (es : Entries) : List Nat := Value.containerMarksOfEntries es

/-- Whether no value of a mapping nests too deep to be rendered. -/
def fit (es : Entries) : Bool := es.all fun e => e.2.fitsWithin Template.depthLimit

end Entries

/-! ### Surroundings apart from arguments -/

/-- **Surroundings share no container with arguments:** no name has a value in which there is one of
the arguments, none of them has become something else or is in what another container has become,
and their marks are not to be given to new ones. -/
def Surroundings.ApartFrom (s : Surroundings) (fields : Entries) : Prop :=
  s.Confined fun m => m ∉ fields.containerMarks

/-- Names whose values share no container with arguments are apart from them as long as nothing has
happened. -/
theorem Surroundings.apartFrom_beside {names fields : Entries}
    (h : ∀ m ∈ names.containerMarks, m ∉ fields.containerMarks) :
    (beside names fields).ApartFrom fields := by
  refine ⟨fun e he => ((Value.confined_entries.1 h) e he).2, List.forall_mem_nil _, ?_⟩
  -- The next mark to give is the bound of all marks, those of the arguments among them.
  intro m hm hmem
  have hlt : m < fields.endMark := Value.lt_endMarkOfEntries_of_mem fields hmem
  have hle : fields.endMark ≤ (beside names fields).next :=
    Nat.le_trans (Nat.le_max_right _ _) (Nat.le_max_right _ _)
  exact Nat.not_lt_of_le hm (Nat.lt_of_lt_of_le hlt hle)

namespace Rendering

open Value (RenderedItems RenderedEntries)

/-! ### Values that become new ones -/

/-- What is said of the result of rendering a value: it can be given, and the containers in it that
a rendering goes through are new and nest no deeper than this one has gone. -/
def IsNew (depth : Nat) (v : Value) : Except Fault Value → Prop
  | .ok w => v.Rendered w ∧ w.walkedMarks = [] ∧ w.fitsWithin depth = true
  | .error _ => True

theorem renderedItems_of_isNew {depth : Nat} {vs ws : List Value}
    (h : OneByOne (IsNew depth) vs (.ok ws)) :
    RenderedItems vs ws ∧ ∀ w ∈ ws, w.walkedMarks = [] ∧ w.fitsWithin depth = true := by
  change List.Forall₂ _ vs ws at h
  induction h with
  | nil => exact ⟨.nil, List.forall_mem_nil _⟩
  | cons hv _ ih => exact ⟨.cons hv.1 ih.1, List.forall_mem_cons.2 ⟨hv.2, ih.2⟩⟩

theorem renderedEntries_of_isNew {depth : Nat} {es fs : Entries}
    (h : OneByOne (OfEntry (IsNew depth)) es (.ok fs)) :
    RenderedEntries es fs ∧ ∀ f ∈ fs, f.2.walkedMarks = [] ∧ f.2.fitsWithin depth = true := by
  change List.Forall₂ _ es fs at h
  induction h with
  | nil => exact ⟨.nil, List.forall_mem_nil _⟩
  | @cons e f _ _ he _ ih =>
    obtain ⟨k, v⟩ := e
    obtain ⟨k', w⟩ := f
    obtain ⟨rfl, hv⟩ := he
    exact ⟨.cons hv.1 ih.1, List.forall_mem_cons.2 ⟨hv.2, ih.2⟩⟩

/-- New lists and mappings hold what their parts become, one level deeper. -/
theorem account_isNew : Account IsNew where
  tooDeep _ := trivial
  list {depth m items r} h := by
    cases r with
    | error f => trivial
    | ok ws =>
      obtain ⟨hrendered, hnew⟩ := renderedItems_of_isNew h
      refine ⟨.list hrendered, ?_, List.all_eq_true.2 fun w hw => (hnew w hw).2⟩
      rw [Value.walkedMarks, Value.walkedMarksOfItems_eq]
      exact List.flatMap_eq_nil_iff.2 fun w hw => (hnew w hw).1
  map {depth m es r} h := by
    cases r with
    | error f => trivial
    | ok fs =>
      obtain ⟨hrendered, hnew⟩ := renderedEntries_of_isNew h
      refine ⟨.map hrendered, ?_, List.all_eq_true.2 fun f hf => (hnew f hf).2⟩
      rw [Value.walkedMarks, Value.walkedMarksOfEntries_eq]
      exact List.flatMap_eq_nil_iff.2 fun f hf => (hnew f hf).1
  again _ := trivial
  other {depth v} hkind := by
    refine ⟨.other hkind, ?_⟩
    cases v with
    | list | map => simp [Value.kind] at hkind
    | again shape m => cases shape <;> simp [Value.kind] at hkind <;> exact ⟨rfl, rfl⟩
    | _ => exact ⟨rfl, rfl⟩

/-- A text becomes a text, if it does. -/
theorem isNew_text {t : String} {r : Except Fault String} (depth : Nat)
    (h : ∀ out, r = .ok out → Template.isPlain t = true → out = t) :
    IsNew (depth + 1) (.str t) (r.map .str) := by
  cases r with
  | ok u => exact ⟨.text (h u rfl), rfl, rfl⟩
  | error f => trivial

/-! ### Texts that are passed over -/

/-- What is said of the result of rendering a value all of whose texts are passed over: it is the
value, or it nests too deep. -/
def IsCopy (depth : Nat) (v : Value) (r : Except Fault Value) : Prop :=
  r = if v.fitsWithin depth then .ok v.unmarked else .error (.failure Template.Eval.tooDeep)

/-- A row whose parts are copied is copied if no part nests too deep. -/
theorem OneByOne.copy {δ ε : Type} {fits : δ → Bool} {copy : δ → ε} {f : Fault} {ds : List δ}
    {r : Except Fault (List ε)}
    (h : OneByOne (fun d r => r = if fits d then .ok (copy d) else .error f) ds r) :
    r = if ds.all fits then .ok (ds.map copy) else .error f := by
  have hfits {d : δ} {r : Except Fault ε} (h : r = if fits d then .ok (copy d) else .error f) :
      (fits d = true ∧ r = .ok (copy d)) ∨ (fits d = false ∧ r = .error f) := by
    cases hd : fits d <;> simp [hd] at h ⊢ <;> exact h
  cases r with
  | ok es =>
    change List.Forall₂ _ ds es at h
    induction h with
    | nil => rfl
    | cons hd _ ih =>
      obtain ⟨hfit, heq⟩ | ⟨-, heq⟩ := hfits hd
      · cases heq
        rw [List.all_cons, hfit, Bool.true_and, List.map_cons]
        split at ih
        · next hall =>
          cases ih
          rw [if_pos hall]
        · cases ih
      · cases heq
  | error e =>
    obtain ⟨d, hd, he⟩ := h
    obtain ⟨-, heq⟩ | ⟨hfit, heq⟩ := hfits he
    · cases heq
    · cases heq
      rw [if_neg fun hall => by simp [List.all_eq_true.1 hall d hd] at hfit]

theorem ofEntry_isCopy {depth : Nat} {e : Value × Value} {r : Except Fault (Value × Value)}
    (h : OfEntry (IsCopy depth) e r) :
    r = if e.2.fitsWithin depth then .ok (e.1, e.2.unmarked)
      else .error (.failure Template.Eval.tooDeep) := by
  cases r with
  | ok f =>
    obtain ⟨hkey, hvalue⟩ := h
    unfold IsCopy at hvalue
    split at hvalue
    · next hfit =>
      rw [if_pos hfit]
      exact congrArg Except.ok (Prod.ext hkey (Except.ok.inj hvalue))
    · cases hvalue
  | error f =>
    change Except.error f = _ at h
    split at h
    · cases h
    · next hfit =>
      rw [if_neg hfit]
      cases h
      rfl

/-- Lists and mappings of copies are copies, and nest one level deeper than what they hold. -/
theorem account_isCopy : Account IsCopy where
  tooDeep _ := rfl
  list {depth m items r} h := by
    have hr := OneByOne.copy h
    rw [IsCopy, Value.unmarked, Value.unmarkedItems_eq, Value.fitsWithin]
    split at hr <;> rw [hr]
    · next hall => rw [if_pos hall]; rfl
    · next hall => rw [if_neg hall]; rfl
  map {depth m es r} h := by
    have hr := OneByOne.copy (h.mono fun _ _ => ofEntry_isCopy)
    rw [IsCopy, Value.unmarked, Value.unmarkedEntries_eq, Value.fitsWithin]
    split at hr <;> rw [hr]
    · next hall => rw [if_pos hall]; rfl
    · next hall => rw [if_neg hall]; rfl
  again {depth shape m} hkind := by
    cases shape with
    | map | list => rfl
    | tuple | set => simp [Value.kind] at hkind
  other {depth v} hkind := by
    cases v with
    | list | map => simp [Value.kind] at hkind
    | again shape m => cases shape <;> simp [Value.kind] at hkind <;> rfl
    | _ => rfl

/-- **Arguments all of whose texts are passed over** are given as they are, or they nest too deep,
and nothing else happens. -/
theorem runIn_ofEntries_of_isPlain {fields : Entries} {s : Surroundings}
    (hplain : ∀ t ∈ fields.texts, Template.isPlain t = true)
    (hmarks : ∀ m ∈ Value.walkedMarksOfEntries fields, s.changes.lookup m = none) :
    (ofEntries fields).runIn s =
      (if fields.fit then .ok (Value.unmarkedEntries fields)
        else .error (.failure Template.Eval.tooDeep), s) := by
  have htexts : ∀ t ∈ fields.texts, ∀ depth,
      Ensures (· = s) (fun r => IsCopy (depth + 1) (.str t) (r.map .str)) (ofText t) := by
    intro t ht depth
    rw [show ofText t = pure t from if_pos (hplain t ht)]
    exact .pure rfl
  have hmarks' : ∀ m ∈ Value.walkedMarksOfEntries fields, ∀ s', s' = s →
      s'.changes.lookup m = none := by
    rintro m hm _ rfl
    exact hmarks m hm
  obtain ⟨hafter, hresult⟩ := ensures_ofEntries account_isCopy htexts hmarks' s rfl
  have hcopy := OneByOne.copy (hresult.mono fun _ _ => ofEntry_isCopy)
  rw [Value.unmarkedEntries_eq]
  exact Prod.ext hcopy hafter

/-- **What rendering keeps.** If nothing around arguments shares a container with them, then
whatever rendering them gives has their shape, with a text for each text and the same one for a text
that is passed over, and with everything else as it is; rendering this once more changes nothing, in
any surroundings, if all texts in it are passed over. The arguments themselves are as before, even
if rendering them fails: nothing has become of any container in them.

And if all texts in the arguments are passed over, then rendering them gives the arguments and does
nothing else, in all surroundings in which nothing has become of their containers, even if some are
shared. It can fail only if the arguments nest too deep. -/
theorem shape_ofEntries (fields : Entries) (s : Surroundings) :
    (s.ApartFrom fields →
      (∀ out, ((ofEntries fields).runIn s).1 = .ok out →
        RenderedEntries fields out ∧
          ((∀ t ∈ out.texts, Template.isPlain t = true) →
            ∀ s', (ofEntries out).runIn s' = (.ok out, s'))) ∧
      ∀ m ∈ fields.containerMarks, ((ofEntries fields).runIn s).2.changes.lookup m = none) ∧
    ((∀ t ∈ fields.texts, Template.isPlain t = true) →
      (∀ m ∈ fields.containerMarks, s.changes.lookup m = none) →
      (ofEntries fields).runIn s =
        (if fields.fit then .ok (Value.unmarkedEntries fields)
          else .error (.failure Template.Eval.tooDeep), s)) := by
  constructor
  · intro hs
    -- The marks that templates may come upon are all but those of the arguments.
    have hwalked : ∀ m ∈ Value.walkedMarksOfEntries fields,
        ∀ s' : Surroundings, s'.ApartFrom fields → s'.changes.lookup m = none := by
      intro m hm s' hs'
      exact hs'.lookup (not_not_intro (Value.walkedMarksOfEntries_subset fields hm))
    obtain ⟨hafter, hout⟩ := ensures_ofEntries account_isNew
      (fun t _ depth => (ensures_ofText t).mono fun _ => isNew_text depth) hwalked s hs
    refine ⟨fun out hresult => ?_, fun m hm => hafter.lookup (not_not_intro hm)⟩
    rw [hresult] at hout
    obtain ⟨hrendered, hown⟩ := renderedEntries_of_isNew hout
    refine ⟨hrendered, fun hplain s' => ?_⟩
    -- The result is new all the way down, so the second rendering is the case without templates.
    have hmarks : Value.walkedMarksOfEntries out = [] := by
      rw [Value.walkedMarksOfEntries_eq]
      exact List.flatMap_eq_nil_iff.2 fun f hf => (hown f hf).1
    have hfit : out.fit = true := List.all_eq_true.2 fun f hf => (hown f hf).2
    have hnone : ∀ m ∈ Value.walkedMarksOfEntries out, s'.changes.lookup m = none := by
      rw [hmarks]
      exact List.forall_mem_nil _
    rw [runIn_ofEntries_of_isPlain hplain hnone, if_pos hfit,
      Value.unmarkedEntries_of_walkedMarks out hmarks]
  · intro hplain hmarks
    exact runIn_ofEntries_of_isPlain hplain fun m hm =>
      hmarks m (Value.walkedMarksOfEntries_subset fields hm)

/-- A tuple that arguments hold twice keeps its text, and a text becomes what it gives; a list that
the names share with arguments without such texts is given as it is. -/
theorem shape_ofEntries_tags :
    let tuple : Value := .tuple (some 5) [.str "\x7b\x7b name \x7d\x7d"]
    let fields : Entries :=
      [(.str "\x7b\x7b name \x7d\x7d", .list none [tuple, .str "\x7b\x7b name \x7d\x7d", tuple])]
    let s := Surroundings.beside [(.str "name", .str "web")] fields
    let shared : Entries := [(.str "tags", .list (some 7) [.str "a", .int 1])]
    s.ApartFrom fields ∧
      (∃ out, ((ofEntries fields).runIn s).1 = .ok out ∧ out.texts = ["web"] ∧
        RenderedEntries fields out ∧ ∀ s', (ofEntries out).runIn s' = (.ok out, s')) ∧
      ((ofEntries fields).runIn s).2.changes.lookup 5 = none ∧
      (∀ t ∈ shared.texts, Template.isPlain t = true) ∧
      (∀ m ∈ shared.containerMarks, (Surroundings.ofEntries shared).changes.lookup m = none) ∧
      (ofEntries shared).runIn (.ofEntries shared) =
        (.ok [(.str "tags", .list none [.str "a", .int 1])], .ofEntries shared) := by
  intro tuple fields s shared
  have hs : s.ApartFrom fields := Surroundings.apartFrom_beside (List.forall_mem_nil _)
  have hplain : ∀ t ∈ shared.texts, Template.isPlain t = true := by decide +kernel
  have hmarks : ∀ m ∈ shared.containerMarks,
      (Surroundings.ofEntries shared).changes.lookup m = none := fun _ _ => rfl
  have hfit : shared.fit = true := by decide +kernel
  have htexts : (match ((ofEntries fields).runIn s).1 with
      | .ok out => out.texts == ["web"]
      | _ => false) = true := by decide +kernel
  obtain ⟨hrendered, hkept⟩ := (shape_ofEntries fields s).1 hs
  have hshared := (shape_ofEntries shared (.ofEntries shared)).2 hplain hmarks
  rw [hfit] at hshared
  refine ⟨hs, ?_, hkept 5 (by decide +kernel), hplain, hmarks, hshared⟩
  split at htexts
  · next out hout =>
    have hweb : out.texts = ["web"] := eq_of_beq htexts
    obtain ⟨hshape, hagain⟩ := hrendered out hout
    refine ⟨out, hout, hweb, hshape, hagain ?_⟩
    rw [hweb]
    decide +kernel
  · cases htexts

end Rendering

end Playbook
