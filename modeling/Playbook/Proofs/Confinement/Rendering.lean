import Playbook.Proofs.Confinement
import Playbook.Proofs.Shadowing

/-!
# Renderings stay among the containers that they find

What a run leaves behind is given back from its store, and all containers in it have marks that the
run has noted, or marks that are new. So a rendering that finds marks of a set leaves marks of this
set: what has become of containers is told of them alone.

Main definition: `Surroundings.Confined`, surroundings in which all marks are of a set.

Main statement: `Rendering.ensures_ofText`, a text leaves such surroundings if it finds them.
-/

namespace Playbook

namespace Template

open Eval

variable {α β : Type} {own : Nat → Prop}

/-! ### Giving back -/

/-- A value that is no container has no marks of containers. -/
theorem confined_opaqueThing (type literal text : String) :
    Value.Confined own (.opaqueThing type literal text) := List.forall_mem_nil _

/-- What is given back has the marks of the cells that it is given back from. -/
theorem confines_giveAt {marks : CellMarks}
    (hmarks : ∀ (r : Nat) m, (marks[r]?).join = some m → own m) (depth : Nat) (path : List Ref)
    (d : Datum) : Confines own (Value.Confined own) (giveAt marks depth path d) := by
  induction depth generalizing path d with
  | zero => exact .throw (FailureKind.mem_all _)
  | succ depth ih =>
    have hentry {path : List Ref} (e : Datum × Datum) :
        Confines own (fun e : Value × Value => e.1.Confined own ∧ e.2.Confined own) (do
          let key ← giveAt marks depth path e.1
          return (key, ← giveAt marks depth path e.2)) :=
      (ih path e.1).bind fun k hk => (ih path e.2).bind fun v hv => .pure ⟨hk, hv⟩
    cases d with
    | scalar s => exact .pure (List.forall_mem_nil _)
    | tuple self items =>
      rw [giveAt]
      refine (Ensures.mapM fun d _ => ih path d).bind fun vs hvs => .pure ?_
      refine Value.confined_mark ?_ (Value.confined_items.2 hvs)
      -- The empty tuple has no cell, and so no mark.
      cases self with
      | none => exact fun m hm => by cases hm
      | some r => exact hmarks r
    | view v r =>
      rw [giveAt]
      refine .next (within_entries r) fun es => .next (.mapM fun e _ => ?_) fun vs => ?_
      · dsimp only
        split <;> exact (ih path _).within
      · exact .pure (confined_opaqueThing _ _ _)
    | cell r =>
      have hmark : ∀ m, (marks[r]?).join = some m → own m := hmarks r
      rw [giveAt]
      refine .next (within_cell r) fun c => ?_
      cases c with
      | list items | set items =>
        dsimp only
        split
        · exact .pure (List.forall_mem_nil _)
        · refine (Ensures.mapM fun d _ => ih _ d).bind fun vs hvs => .pure ?_
          exact Value.confined_mark hmark (Value.confined_items.2 hvs)
      | map t =>
        dsimp only
        split
        · exact .pure (List.forall_mem_nil _)
        · refine (Ensures.mapM fun e _ => hentry e).bind fun es hes => .pure ?_
          exact Value.confined_mark hmark (Value.confined_entries.2 hes)
      | fields entries =>
        refine .next (.mapM fun e _ => (hentry e).within) fun es => ?_
        exact .pure (confined_opaqueThing _ _ _)
      | loop s =>
        refine .next (LoopState.within_total (FailureKind.subset_all _) r) fun n => ?_
        exact .pure (confined_opaqueThing _ _ _)
      | _ => exact .pure (confined_opaqueThing _ _ _)
    | _ => exact .pure (confined_opaqueThing _ _ _)

/-- The marks that cells are given back with are those that have been noted, and new ones. -/
theorem confines_marksOf (visits : Visits) :
    Confines own (fun marks => ∀ (r : Nat) m, (marks[r]?).join = some m → own m)
      (marksOf visits) := by
  refine Ensures.get.bind fun s hs => .pure ?_
  have hnoted : ∀ e ∈ s.marked, own e.1 := hs.noted
  -- The marks that have been noted are put over the new ones, the last one first.
  generalize s.marked = marked at hnoted
  induction marked with
  | nil =>
    intro r m hm
    rw [List.foldr_nil, Array.getElem?_mapIdx] at hm
    cases hn : visits[r]? with
    | none => simp [hn] at hm
    | some n =>
      obtain ⟨-, rfl⟩ : 1 < n ∧ s.next + r = m := by simpa [hn] using hm
      exact hs.unused _ (Nat.le_add_right _ _)
  | cons e rest ih =>
    obtain ⟨he, hrest⟩ := List.forall_mem_cons.1 hnoted
    intro r m hm
    rw [List.foldr_cons] at hm
    obtain ⟨mark, d⟩ := e
    dsimp only at hm
    split at hm
    · rw [Array.getElem?_setIfInBounds] at hm
      split at hm
      · split at hm
        · cases hm
          exact he
        · cases hm
      · exact ih hrest r m hm
    · exact ih hrest r m hm

theorem Datum.confines_give (d : Datum) : Confines own (Value.Confined own) d.give := by
  unfold Datum.give
  split
  · exact .pure (List.forall_mem_nil _)
  · refine .next .getThe fun s => .next (within_countVisits _ _ _) fun visits => ?_
    exact (confines_marksOf visits).bind fun marks hmarks => confines_giveAt hmarks _ _ _

/-- Traces in which all marks are of a set. -/
structure Traces.Confined (own : Nat → Prop) (t : Traces) : Prop where
  /-- The names have values with marks of the set. -/
  named : ∀ e ∈ t.named, e.2.Confined own
  /-- What has marks and has been looked at has marks of the set. -/
  current : ∀ e ∈ t.current, own e.1 ∧ e.2.Confined own

/-- What is left behind of a confined store is confined. -/
theorem confines_tracesAfter : Confines own (Traces.Confined own) tracesAfter := by
  refine Ensures.get.bind fun s hs => ?_
  refine (Datum.confines_give _).bind fun v hv => ?_
  split
  · rename_i m m' named m'' marked
    -- All that is left behind is given back at once, as one tuple of two rows.
    have hparts : ∀ v ∈ [Value.tuple m' named, .tuple m'' marked], v.Confined own :=
      Value.confined_items.1 fun m hm => hv m (List.mem_append_right _ hm)
    obtain ⟨hnamed, hmarked⟩ : (Value.tuple m' named).Confined own ∧
        (Value.tuple m'' marked).Confined own := by simpa using hparts
    have hitems {mark : Option Nat} {vs : List Value} (h : (Value.tuple mark vs).Confined own) :
        ∀ v ∈ vs, v.Confined own :=
      Value.confined_items.1 fun m hm => h m (List.mem_append_right _ hm)
    refine .pure ⟨fun e he => ?_, fun e he => ?_⟩
    · exact hitems hnamed e.2 (List.of_mem_zip he).2
    · obtain he | he := List.mem_append.1 he
      · obtain ⟨hkey, hvalue⟩ := List.of_mem_zip he
        obtain ⟨d, hd, hdkey⟩ := List.mem_map.1 hkey
        exact ⟨hdkey ▸ hs.noted d hd, hitems hmarked e.2 hvalue⟩
      · exact hs.current e (List.mem_filter.1 he).1
  · exact .pure ⟨fun e he => (nomatch he), hs.current⟩

/-- A run keeps to the marks of what is around the template. -/
theorem confined_traces {scope : Scope} (hscope : scope.Confined own)
    {current : List (Nat × Value)} (hcurrent : ∀ e ∈ current, own e.1 ∧ e.2.Confined own)
    {next : Nat} (hnext : ∀ m, next ≤ m → own m) (t : String) :
    (run t scope current next).traces.Confined own := by
  have hall : FailureKind.all ⊆ (Regime.confined own).admitted := List.Subset.refl _
  have hpuller : Puller.Within (.confined own) fun _ => throw tooDeep :=
    Puller.within_tooDeep (FailureKind.mem_all _)
  have hending : (ending t scope current next).2.Confined own := by
    have hrun : Keeps (.confined own) (do runChecked scope (← Eval.ofExcept (nodesOf t))) :=
      .bind (.ofExcept (failsIn_all _)) fun nodes => keeps_runChecked hscope nodes
    have hempty : (Store.empty current next).Confined own :=
      ⟨fun e he => (nomatch he), hcurrent, hnext⟩
    exact (hrun hall _ _ hpuller hempty).store
  rw [run_traces]
  split
  · next traces htraces => exact (confines_tracesAfter hall _ _ hpuller hending).ok traces htraces
  · exact ⟨fun e he => (nomatch he), hcurrent⟩

end Template

/-! ### Surroundings -/

namespace Surroundings

variable {own : Nat → Prop} {s : Surroundings}

/-- **Surroundings are confined to a set of marks:** the containers in the values of names have
marks of the set, so have those that have become something else and what they have become, and so
have all containers that are to come. -/
structure Confined (own : Nat → Prop) (s : Surroundings) : Prop where
  /-- The values of names have marks of the set. -/
  names : ∀ e ∈ s.names, e.2.Confined own
  /-- What has become something else has a mark of the set, and so has what it has become. -/
  changes : ∀ e ∈ s.changes, own e.1 ∧ e.2.Confined own
  /-- Marks that nothing bears yet are of the set. -/
  unused : ∀ m, s.next ≤ m → own m

theorem Confined.scope (hs : s.Confined own) :
    (Template.Scope.ofEntries s.names).Confined own := by
  intro name v hv
  obtain ⟨e, he, -, rfl⟩ := Entries.exists_of_find? hv
  exact hs.names e he

theorem confined_insert {es : Entries} (hes : ∀ e ∈ es, e.2.Confined own) {key v : Value}
    (hv : v.Confined own) : ∀ e ∈ es.insert key v, e.2.Confined own := by
  induction es with
  | nil => exact List.forall_mem_cons.2 ⟨hv, hes⟩
  | cons e rest ih =>
    obtain ⟨he, hrest⟩ := List.forall_mem_cons.1 hes
    rw [Entries.insert]
    split
    · exact List.forall_mem_cons.2 ⟨hv, hrest⟩
    · exact List.forall_mem_cons.2 ⟨he, ih hrest⟩

/-- Names that get other values have these. -/
theorem confined_renamed {es : Entries} {named : List (String × Value)}
    (hes : ∀ e ∈ es, e.2.Confined own) (hnamed : ∀ e ∈ named, e.2.Confined own) :
    ∀ e ∈ renamed es named, e.2.Confined own := by
  induction named generalizing es with
  | nil => exact hes
  | cons e rest ih =>
    obtain ⟨he, hrest⟩ := List.forall_mem_cons.1 hnamed
    have hset : ∀ d ∈ if (es.find? (.str e.1)).isSome then es.insert (.str e.1) e.2 else es,
        d.2.Confined own := by
      split
      · exact confined_insert hes he
      · exact hes
    exact ih hset hrest

/-- What has become of a container with a mark outside the set is not told: it is as it was. -/
theorem Confined.lookup (hs : s.Confined own) {mark : Nat} (hmark : ¬ own mark) :
    s.changes.lookup mark = none := by
  rw [List.lookup_eq_none_iff]
  intro e he
  -- Whatever has changed has a mark of the set.
  have hne : mark ≠ e.1 := fun hsame => hmark (hsame ▸ (hs.changes e he).1)
  simpa using hne

/-- **Surroundings stay confined** when what a run leaves behind is. -/
theorem Confined.after (hs : s.Confined own) {traces : Template.Traces}
    (htraces : traces.Confined own) : (s.after traces).Confined own := by
  refine ⟨confined_renamed hs.names htraces.named, htraces.current, fun m hm => ?_⟩
  exact hs.unused m (Nat.le_trans (Nat.le_max_left _ _) hm)

end Surroundings

/-! ### Renderings -/

namespace Rendering

variable {own : Nat → Prop}

/-- A template keeps to the marks of what is around it. -/
theorem ensures_ofTemplate (t : String) :
    Ensures (Surroundings.Confined own) (fun _ => True) (ofTemplate t) := by
  intro s hs
  rw [runIn_ofTemplate]
  exact ⟨hs.after (Template.confined_traces hs.scope hs.changes hs.unused t), trivial⟩

/-- **Rendering a text** keeps to the marks of what is around it, and gives back a text without the
marks of expressions and statements. -/
theorem ensures_ofText (t : String) :
    Ensures (Surroundings.Confined own)
      (fun r => ∀ out, r = .ok out → Template.isPlain t = true → out = t) (ofText t) := by
  unfold ofText
  split
  · refine .pure fun out hout _ => ?_
    cases hout
    rfl
  · next hplain =>
    exact (ensures_ofTemplate t).mono fun _ _ _ _ h => absurd h hplain

end Rendering

end Playbook
