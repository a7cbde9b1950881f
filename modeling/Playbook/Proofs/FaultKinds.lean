import Playbook.Proofs.Evaluation.Nodes

/-!
# What templates fail with

What a template fails with can be read off its text. This holds of a run as long as it holds of the
cells in the store that their content lets computations fail with nothing else. A loop lets whoever
finds it ask for the items that are still to come, and a stream lets computations fail with
anything. Hence there are no streams in the store unless everything is admitted.

What a template does to the values around it is read off its text in the same way. A value can only
be changed by what is called, by a stream, or by setting a field of it. So a template that sets no
fields, and of which it can be said what it fails with, leaves what it has taken over as it was.
This is kept true only as long as not everything is admitted.

Main definitions:

- `Store.Intact`, `Terms`, `Store.Admits`: what is kept true of the store;
- `Terms.regime`: the regime of keeping it true;
- `ending`: what a run gives and the store that it leaves.

Main statements: `ends_ending`, what a run fails with and what it leaves as it is, and
`kind_mem_of_run`, the first part of this for any run.
-/

namespace Playbook.Template

open Eval

variable {kinds : List FailureKind} {kept : Option Scope}

/-! ### What is kept true -/

/-- **What has been taken over is as it was:** the names that have been looked up hold the values
that they have around the template, each in cells of its own, and nothing bears a mark. -/
structure Store.Intact (scope : Scope) (s : Store) : Prop where
  /-- The names have been found. -/
  found : ∀ e ∈ s.named, (scope.find e.1).isSome = true
  /-- They hold their values. -/
  held : Holds s.cells 0 s.cells.size (s.named.map (·.2))
    (s.named.map fun e => (scope.find e.1).getD .null)
  /-- Nothing has been taken over with a mark. -/
  marked : s.marked = []
  /-- Nothing has become something else before. -/
  current : s.current = []

/-- What a run is held to. -/
structure Terms where
  /-- What the cells may let computations fail with. -/
  admitted : List FailureKind
  /-- What is around the template, if what is taken over from it is to stay as it is. -/
  kept : Option Scope

/-- **A store is as it is to be:** what its cells let computations fail with is admitted, and what
has been taken over is as it was, if this is to be so and not everything is admitted. -/
structure Store.Admits (inv : Terms) (s : Store) : Prop where
  /-- What the cells let computations fail with is admitted. -/
  cells : ∀ c ∈ s.cells, c.faultKinds ⊆ inv.admitted
  /-- What has been taken over is as it was. -/
  intact : ∀ scope, inv.kept = some scope → ¬ FailureKind.all ⊆ inv.admitted → s.Intact scope

variable {inv : Terms} {s t : Store}

/-- Nothing is to stay as it is. -/
def Terms.IsFree (inv : Terms) : Prop := inv.kept = none ∨ FailureKind.all ⊆ inv.admitted

namespace Store.Admits

/-- Where nothing is to stay as it is, only the cells are of concern. -/
theorem of_isFree (hfree : inv.IsFree) (hcells : ∀ c ∈ s.cells, c.faultKinds ⊆ inv.admitted) :
    s.Admits inv := by
  refine ⟨hcells, fun scope hscope hall => ?_⟩
  obtain hkept | hadmitted := hfree
  · cases hkept.symm.trans hscope
  · exact absurd hadmitted hall

theorem push {c : Cell} (hs : s.Admits inv) (h : c.faultKinds ⊆ inv.admitted) :
    Store.Admits inv { s with cells := s.cells.push c } := by
  refine ⟨fun d hd => ?_, fun scope hscope hall => ?_⟩
  · rcases Array.mem_push.mp hd with hd | rfl
    · exact hs.cells d hd
    · exact h
  · obtain ⟨hfound, hheld, hmarked, hcurrent⟩ := hs.intact scope hscope hall
    refine ⟨hfound, ?_, hmarked, hcurrent⟩
    rw [Array.push_eq_append, Array.size_append]
    exact (hheld.grow _).widen (Nat.le_refl _) (Nat.le_add_right _ _)

/-- What the cells let computations fail with stays admitted if it is for the one that is set. -/
theorem cells_set {c : Cell} (hs : s.Admits inv) (r : Ref) (h : c.faultKinds ⊆ inv.admitted) :
    ∀ d ∈ s.cells.setIfInBounds r c, d.faultKinds ⊆ inv.admitted := by
  intro d hd
  rcases Array.mem_or_eq_of_mem_setIfInBounds hd with hd | rfl
  · exact hs.cells d hd
  · exact h

/-- A loop holds no value, so its state is no part of what has been taken over. -/
theorem setLoop {r : Ref} {state : LoopState} (state' : LoopState) (hs : s.Admits inv)
    (h : Cursor.faultKinds ⊆ inv.admitted) (hloop : s.cells[r]? = some (.loop state)) :
    Store.Admits inv { s with cells := s.cells.setIfInBounds r (.loop state') } := by
  refine ⟨hs.cells_set r h, fun scope hscope hall => ?_⟩
  obtain ⟨hfound, hheld, hmarked, hcurrent⟩ := hs.intact scope hscope hall
  refine ⟨hfound, ?_, hmarked, hcurrent⟩
  rw [Array.size_setIfInBounds]
  refine hheld.mono fun r' c hc hcontainer => ?_
  rw [Array.getElem?_setIfInBounds_ne, hc]
  rintro rfl
  rw [hloop] at hc
  cases hc
  cases hcontainer

theorem other (hs : s.Admits inv) (hcells : t.cells = s.cells) (hnamed : t.named = s.named)
    (hmarked : t.marked = s.marked) (hcurrent : t.current = s.current) : t.Admits inv := by
  refine ⟨fun c hc => hs.cells c (hcells ▸ hc), fun scope hscope hall => ?_⟩
  obtain ⟨hfound, hheld, hmark, hnow⟩ := hs.intact scope hscope hall
  constructor
  · rw [hnamed]
    exact hfound
  · rw [hnamed, hcells]
    exact hheld
  · rw [hmarked, hmark]
  · rw [hcurrent, hnow]

end Store.Admits

/-- **What a run is held to is a regime.** Marks are noted, and cells are changed, where nothing is
to stay as it is. -/
def Terms.regime (inv : Terms) : Regime where
  Good := Store.Admits inv
  admitted := inv.admitted
  own _ := inv.IsFree
  free := inv.IsFree
  free_of_own hfree := hfree
  free_of_all hall := .inr hall
  cells hs hc := hs.cells _ hc
  current _ hfree _ := fun _ _ => hfree
  push hs h := hs.push h
  set r hs hfree h := .of_isFree hfree (hs.cells_set r h)
  setLoop state' hs h hloop := hs.setLoop state' h hloop
  note _ hs hfree := .of_isFree hfree hs.cells
  other hs hcells hnamed hmarked hcurrent _ := hs.other hcells hnamed hmarked hcurrent

/-! ### What is around a template -/

/-- No fields are set if something is to stay as it is: a field may be one of a mapping. -/
def Spares (kept : Option Scope) (fields : List String) : Prop := kept = none ∨ fields = []

/-- What is around the template is what is to stay as it is, if something is, and then it bears no
marks. -/
def Scope.Suits (around : Scope) (kept : Option Scope) : Prop :=
  ∀ scope, kept = some scope →
    around = scope ∧ ∀ name v, scope.find name = some v → v.endMark = 0

/-- **The value of a name** is taken over with cells of its own, which come after those of the
values that have been taken over before. -/
theorem Scope.Suits.knows {scope : Scope} (hsuits : scope.Suits inv.kept)
    (hd : FailureKind.depth ∈ inv.admitted) : inv.regime.Knows scope := by
  intro name v hv
  cases hkept : inv.kept with
  | none =>
    have hfree : inv.IsFree := .inl hkept
    refine .bind (within_take hd fun _ _ => hfree) fun d => .bind ?_ fun _ => .pure _
    exact .modifyGet_of_good fun s hs => Store.Admits.of_isFree hfree hs.cells
  | some kept =>
    obtain ⟨rfl, hmarks⟩ := hsuits kept hkept
    have hunmarked := hmarks name v hv
    intro hadm p s hp hs
    have htake := within_take (R := inv.regime) hd
      (Value.confined_of_isUnshared (v.isUnshared_of_endMark hunmarked)) hadm p s hp hs
    -- What is taken over is added behind the cells that are there, so these stay as they were.
    obtain ⟨more, r, hrun, hheld⟩ := takes_takeWithin depthLimit hunmarked p s
    change take v p s = _ at hrun
    rw [hrun] at htake
    have hafter : Store.Admits inv { s with cells := s.cells ++ more } := htake.store
    cases r with
    | error e =>
      rw [takeNamed, bind_of_error hrun]
      refine ⟨fun _ _ => trivial, fun f hf => ?_, hafter⟩
      cases hf
      exact htake.error e rfl
    | ok d =>
      rw [takeNamed, bind_of_ok hrun]
      refine ⟨fun _ _ => trivial, fun f hf => (nomatch hf), ?_⟩
      -- The name has been found, and its value is held by the cells that were added.
      refine Store.Admits.mk hafter.cells fun scope' hscope' hall => ?_
      obtain rfl : scope = scope' := by simpa [hkept] using hscope'
      obtain ⟨hfound, hnamed, hmarked, hcurrent⟩ := Store.Admits.intact hs scope hkept hall
      refine ⟨fun e he => ?_, ?_, hmarked, hcurrent⟩
      · obtain he | he := List.mem_append.1 he
        · exact hfound e he
        · rw [List.mem_singleton.1 he, hv]
          rfl
      · show Holds (s.cells ++ more) 0 (s.cells ++ more).size ((s.named ++ [(name, d)]).map (·.2))
          ((s.named ++ [(name, d)]).map fun e => (scope.find e.1).getD .null)
        rw [List.map_append, List.map_append, List.map_singleton, List.map_singleton, hv]
        exact (hnamed.grow more).append (hheld d rfl)

/-! ### Runs -/

/-- A run of a template fails with what the template fails with at most. -/
theorem Settled.within_runNodes {scope : Scope} {t : Settled} (hsuits : scope.Suits kept)
    (hf : Spares kept t.fields) :
    Within (Terms.regime ⟨t.faultKinds, kept⟩) t.faultKinds (runNodes scope t) := by
  have hd : FailureKind.depth ∈ t.faultKinds := by simp [Settled.faultKinds]
  have ht : FailureKind.type ∈ t.faultKinds := by simp [Settled.faultKinds]
  have hnodes : nodeKinds t.nodes ⊆ t.faultKinds := by
    intro k hk
    simp [Settled.faultKinds, hk]
  have hspares : (Terms.regime ⟨t.faultKinds, kept⟩).Spares t.fields := hf.imp_left .inl
  obtain ⟨hfields, hfieldsBlocks⟩ := Regime.spares_append.1 hspares
  have hknows : (Terms.regime ⟨t.faultKinds, kept⟩).Knows scope := Scope.Suits.knows hsuits hd
  refine Template.within_runNodes hknows hd ht ⟨hnodes, hfields⟩ fun b hb => ?_
  refine ⟨fun k hk => ?_, hfieldsBlocks.of_mem hb⟩
  have : k ∈ t.blocks.flatMap fun b => nodeKinds b.body := List.mem_flatMap_of_mem hb hk
  show k ∈ t.faultKinds
  simp [Settled.faultKinds, this]

/-- A template as it is run, or why it cannot be read. -/
def settledOf (template : String) : Except Failure Settled := do
  settle vocabulary (← nodesOf template)

/-- A run of a template, and the store that it leaves. -/
def ending (template : String) (scope : Scope) (current : List (Nat × Value)) (next : Nat) :
    Except Failure String × Store :=
  (do runChecked scope (← Eval.ofExcept (nodesOf template)) : Eval String)
    (fun _ => throw tooDeep) (.empty current next)

/-- What a run gives is what its nodes put out, once they have been read. -/
theorem run_result (template : String) (scope : Scope) (current : List (Nat × Value))
    (next : Nat) :
    (run template scope current next).result = (ending template scope current next).1 := by
  unfold run ending
  dsimp only
  split
  · rename_i result store hrun
    rw [hrun]
    split <;> rfl

/-- A run of a template that cannot be read says why, and that is all. -/
theorem ending_of_error {template : String} {f : Failure} (h : settledOf template = .error f)
    (scope : Scope) (current : List (Nat × Value)) (next : Nat) :
    ending template scope current next = (.error f, .empty current next) := by
  unfold settledOf at h
  unfold ending
  cases hnodes : nodesOf template with
  | error e =>
    rw [hnodes] at h
    cases h
    rfl
  | ok nodes =>
    rw [hnodes] at h
    change settle vocabulary nodes = .error f at h
    show runChecked scope nodes _ _ = _
    rw [runChecked, h]
    rfl

/-- Nothing is in the store at the start of a run. -/
theorem Store.admits_empty {current : List (Nat × Value)} (h : kept = none ∨ current = [])
    (next : Nat) : (Store.empty current next).Admits ⟨kinds, kept⟩ := by
  refine ⟨fun c hc => by simp [Store.empty] at hc, fun scope hscope _ => ?_⟩
  refine ⟨fun e he => ?_, .nil (Nat.le_refl _), rfl, ?_⟩
  · cases he
  · exact h.resolve_left fun h => by cases h.symm.trans hscope

/-- **A run of a template** that can be read fails with what the template fails with at most, and
leaves what it finds as it is, if this is asked for and not everything is admitted. -/
theorem ends_ending {template : String} {t : Settled} (h : settledOf template = .ok t)
    {scope : Scope} (hsuits : scope.Suits kept) (hf : Spares kept t.fields)
    {current : List (Nat × Value)} (hcurrent : kept = none ∨ current = []) (next : Nat) :
    Ends (Terms.regime ⟨t.faultKinds, kept⟩) t.faultKinds (fun _ => True)
      (ending template scope current next) := by
  have ht : FailureKind.type ∈ t.faultKinds := by simp [Settled.faultKinds]
  have hd : FailureKind.depth ∈ t.faultKinds := by simp [Settled.faultKinds]
  unfold settledOf at h
  unfold ending
  cases hnodes : nodesOf template with
  | error e =>
    rw [hnodes] at h
    cases h
  | ok nodes =>
    rw [hnodes] at h
    change settle vocabulary nodes = .ok t at h
    have hrun :
        Within (Terms.regime ⟨t.faultKinds, kept⟩) t.faultKinds (runChecked scope nodes) := by
      rw [runChecked, h]
      change Within (Terms.regime ⟨t.faultKinds, kept⟩) t.faultKinds
        (if scope.textual then runNodes scope t else typeFault "keywords must be strings")
      split
      · exact Settled.within_runNodes hsuits hf
      · exact within_typeFault ht _
    exact hrun (List.Subset.refl _) _ _ (Puller.within_tooDeep hd)
      (Store.admits_empty hcurrent next)

/-- **A run fails** because the template cannot be read, or in one of the ways of the template. -/
theorem kind_mem_of_run {template : String} {scope : Scope} {current : List (Nat × Value)}
    {next : Nat} {f : Failure} (h : (run template scope current next).result = .error f) :
    settledOf template = .error f ∨
      ∃ t, settledOf template = .ok t ∧ f.kind ∈ t.faultKinds := by
  rw [run_result] at h
  cases hsettled : settledOf template with
  | error e =>
    rw [ending_of_error hsettled] at h
    cases h
    exact .inl rfl
  | ok t =>
    -- What becomes of the containers around the template does not matter here.
    have hsuits : scope.Suits none := nofun
    exact .inr ⟨t, rfl, (ends_ending hsettled hsuits (.inl rfl) (.inl rfl) next).error f h⟩

end Playbook.Template
