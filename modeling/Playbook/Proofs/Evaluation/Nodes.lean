import Playbook.Proofs.Evaluation.Expressions

/-!
# What nodes put out, and what calls give

Nodes and calls are gone through as expressions are: what is shown is shown of one step, on the
assumption that the evaluator which is asked for the parts keeps to a regime. Calls are made only
where everything is admitted. There they keep to the regime, whatever they fail with, and any nodes
may be run.

Evaluation itself follows by induction on how deeply evaluations are nested.

Main statements: `within_runNode`, `keeps_callDatum`, `within_answer`, the step of evaluation, and
`within_evaluate`.
-/

namespace Playbook.Template

open Eval

variable {R : Regime} {α : Type} {self : Evaluator} (hself : self.Within R) {setting : Setting}
  (hknows : R.Knows setting.scope)

/-! ### Texts and values -/

theorem within_shownValue (hd : FailureKind.depth ∈ R.admitted)
    (hv : FailureKind.value ∈ R.admitted) (site : Site) (d : Datum) :
    Within R R.admitted (shownValue site d) :=
  .bind (Datum.within_text hd hv d) fun _ => .pure _

include hself in
theorem within_runOutput (hd : FailureKind.depth ∈ R.admitted) (site : Site) {parts : List Part}
    (h : kindsOfParts parts ⊆ R.admitted) : Within R R.admitted (runOutput self site parts) := by
  refine .mapM fun part hpart => ?_
  have hkinds := subset_of_flatMap_subset h hpart
  cases part with
  | data s => exact .pure _
  | value e =>
    obtain ⟨hv, he⟩ := List.cons_subset.1 hkinds
    refine .bind (hself.expr site he) fun d => ?_
    exact .bind (within_shownValue hd hv site d) fun cs => .pure _

/-! ### Definitions -/

theorem within_newDefinition (site : Site) (name : Option String) (parameters : List Parameter)
    (body : List Node) : Within R R.admitted (newDefinition site name parameters body) :=
  .bind (Site.within_knows site) fun _ => within_alloc (List.nil_subset _)

theorem keeps_handOver (m : Definition) (i : Inputs) : Keeps R (handOver m i) := by
  unfold handOver
  split
  extract_lets hasCaller caller count goOn
  have hgoOn (values : List (String × Option Datum)) : Keeps R (goOn values) := by
    dsimp only [goOn]
    grind
  clear_value goOn
  split
  split
  · exact .bind (within_newMap _) fun d => hgoOn _
  · split <;> grind

include hself in
theorem keeps_fillParameters (hall : FailureKind.all ⊆ R.admitted) (site : Site)
    (ps : List Parameter) : Keeps R (fillParameters self site ps) := by
  refine .forM fun p _ => .bind (within_valueIn _ _) fun found => ?_
  split
  · exact .pure _
  · split
    · exact .bind (hself.keeps hall _) fun d => within_setIn _ _ _
    · exact .bind (.pure _) fun d => within_setIn _ _ _

include hself hknows

theorem keeps_callDefinition (hall : FailureKind.all ⊆ R.admitted) (m : Definition) (i : Inputs) :
    Keeps R (callDefinition self setting m i) := by
  refine .bind (keeps_handOver m i) fun values => ?_
  refine .bind (Setting.within_enter hknows _ _ _ _) fun frame => ?_
  refine .bind (keeps_fillParameters hself hall _ _) fun _ => ?_
  refine .bind (.of_admitted ?_) fun _ => .pure _
  exact hself.text (hall (by decide)) _ (R.allows_of_all hall _)

/-! ### Loops -/

/-- The items to come of a loop, each of which is run in a frame of its own. -/
theorem within_runItems (hassign : assignKinds ⊆ R.admitted) (hc : Cursor.faultKinds ⊆ R.admitted)
    (site : Site) {b : LoopBody} (htarget : R.Spares b.target.objects) (hbody : R.Allows b.body)
    (f : Frame) (r : Ref) (fuel : Nat) (out : List (List Datum)) :
    Within R R.admitted (runItems self setting site b f r fuel out) := by
  induction fuel generalizing out with
  | zero => exact .pure _
  | succ fuel ih =>
    refine .bind (LoopState.within_advance hc r) fun found => ?_
    split
    · exact .pure _
    · refine .bind (Setting.within_enter hknows _ _ f _) fun frame => ?_
      refine .bind (Site.within_assign hassign _ _ htarget _) fun _ => ?_
      exact .bind (hself.pieces _ hbody) fun pieces => ih _

/-- The items that pass a test are a stream: there is a test only where everything is admitted. -/
theorem within_runLoop (hassign : assignKinds ⊆ R.admitted) (hc : Cursor.faultKinds ⊆ R.admitted)
    (site : Site) {b : LoopBody} (htest : b.test.isSome = true → FailureKind.all ⊆ R.admitted)
    (htarget : R.Spares b.target.objects) (hbody : R.Allows b.body)
    (hotherwise : R.Allows b.otherwise) (recursive : Bool) (depth : Nat) (d : Datum) :
    Within R R.admitted (runLoop self setting site b recursive depth d) := by
  have ht : FailureKind.type ∈ R.admitted := hassign (by decide)
  unfold runLoop
  extract_lets watched state goOn
  have hgoOn (source : Datum) : Within R R.admitted (goOn source) := by
    refine .bind (Site.within_knows site) fun outside => ?_
    refine .bind (Datum.within_cursor ht source) fun cursor => ?_
    refine .bind (within_alloc hc) fun cell => ?_
    have hitems (f : Frame) (r : Ref) (fuel : Nat) (out : List (List Datum)) :
        Within R R.admitted (runItems self setting site b f r fuel out) :=
      within_runItems hself hknows hassign hc site htarget hbody f r fuel out
    split
    · refine .bind (hitems _ _ _ _) fun out => ?_
      split
      · refine .bind (Setting.within_enter hknows _ _ _ _) fun frame => ?_
        exact hself.pieces _ hotherwise
      · exact .pure _
    · exact .pure _
  clear_value goOn
  split
  · next e he => exact .bind (within_newStream (htest (by simp [he])) _ _) hgoOn
  · exact hgoOn _

/-- A loop that is called goes on where it stands. -/
theorem keeps_callLoop (hall : FailureKind.all ⊆ R.admitted) (r : Ref) (i : Inputs) :
    Keeps R (callLoop self setting r i) := by
  have hany : ∀ kinds, kinds ⊆ R.admitted := FailureKind.subset_of_all hall
  refine .bind (within_loopState r) fun s => .bind (Signature.within_bind (by decide) _ _) ?_
  intro values
  split
  · exact within_typeFault (by decide) _
  -- The body is run once more, and where everything is admitted it may be any body.
  · refine .bind (.of_admitted ?_) fun pieces => .bind (.of_admitted ?_) fun text => .pure _
    · exact within_runLoop hself hknows (hany _) (hany _) _ (fun _ => hall)
        (.inl (R.free_of_all hall)) (R.allows_of_all hall _) (R.allows_of_all hall _) _ _ _
    · exact Evaluator.within_joined (hall (by decide)) pieces

/-! ### Named blocks -/

theorem within_runBlock (hblocks : ∀ b ∈ setting.blocks, R.Allows b.body)
    (seen : List (String × Datum)) (name : String) :
    Within R R.admitted (runBlock self setting seen name) := by
  unfold runBlock
  split
  · exact .pure _
  · next b hfind =>
    refine .bind (Setting.within_enter hknows _ _ _ _) fun frame => ?_
    exact hself.pieces _ (hblocks b (List.mem_of_find?_eq_some hfind))

/-! ### Calls -/

/-- **What a call gives.** -/
theorem keeps_callDatum (hall : FailureKind.all ⊆ R.admitted) (f : Datum) (i : Inputs) :
    Keeps R (callDatum self setting f i) := by
  have hmethod (owner : Datum) (name : String) :
      Keeps R (callMethod (fun g i => self (.call g i)) owner name i) :=
    keeps_callMethod hall (fun g i => hself.keeps hall (.call g i)) owner name i
  have hdefinition (m : Definition) : Keeps R (callDefinition self setting m i) :=
    keeps_callDefinition hself hknows hall m i
  have hblock (seen : List (String × Datum)) (name : String) :
      Keeps R (runBlock self setting seen name) :=
    .of_admitted (within_runBlock hself hknows (fun b _ => R.allows_of_all hall b.body) seen name)
  have hjoined (pieces : List Datum) : Keeps R (Evaluator.joined pieces) :=
    .of_admitted (Evaluator.within_joined (hall (by decide)) pieces)
  have hloop (r : Ref) : Keeps R (callLoop self setting r i) :=
    keeps_callLoop hself hknows hall r i
  unfold callDatum
  split <;> grind

/-! ### Other templates -/

omit hself hknows in
theorem within_noOther (ht : FailureKind.type ∈ R.admitted) :
    Within R R.admitted (noOther : Eval α) :=
  within_typeFault ht _

omit hknows in
theorem within_runInsert (ht : FailureKind.type ∈ R.admitted) (hr : FailureKind.run ∈ R.admitted)
    (hm : FailureKind.mutation ∈ R.admitted) (site : Site) {e : Expr}
    (h : e.faultKinds ⊆ R.admitted) (optional : Bool) :
    Within R R.admitted (runInsert self site e optional) := by
  refine .bind (hself.expr site h) fun d => ?_
  -- Other templates are not there, so a choice among them comes to one of two failures, or to
  -- nothing if it is optional and empty.
  extract_lets select
  have hselect : Within R R.admitted select := by
    refine .bind (Datum.within_isTrue d) fun t => ?_
    split
    · refine .bind (Datum.within_cursor ht d) fun c => ?_
      refine .bind (Cursor.within_next hm c) fun found => ?_
      split
      · exact within_noOther ht
      · split
        · exact .pure _
        · exact within_runFault hr _
    · split
      · exact .pure _
      · exact within_runFault hr _
  clear_value select
  split
  · exact hselect
  · exact hselect
  · exact within_noOther ht
  · exact within_noOther ht
  · exact hselect

/-! ### Nodes -/

/-- **What a node puts out** is found with what the node fails with at most. -/
theorem within_runNode (hd : FailureKind.depth ∈ R.admitted) (ht : FailureKind.type ∈ R.admitted)
    (hblocks : ∀ b ∈ setting.blocks, R.Allows b.body) (site : Site) {n : Node}
    (h : n.faultKinds ⊆ R.admitted) (hf : R.Spares n.fields) :
    Within R R.admitted (runNode self setting site n) := by
  cases n with
  | output parts => exact within_runOutput hself hd site h
  | assign target value =>
    obtain ⟨hassign, hvalue⟩ := List.append_subset.1 h
    refine .bind (Site.within_checkObjects (hassign (by decide)) site _) fun _ => ?_
    refine .bind (hself.expr site hvalue) fun d => ?_
    exact .bind (Site.within_assign hassign site _ hf d) fun _ => .pure _
  | capture target filter body =>
    simp only [Node.faultKinds, List.append_subset] at h
    obtain ⟨⟨hassign, hfilter⟩, hbody⟩ := h
    obtain ⟨htarget, hfields⟩ := Regime.spares_append.1 hf
    refine .bind (Site.within_knows site) fun outside => ?_
    refine .bind (Setting.within_enter hknows _ _ _ _) fun frame => ?_
    refine .bind (hself.text ht _ ⟨hbody, hfields⟩) fun text => ?_
    extract_lets goOn
    have hgoOn (d : Datum) : Within R R.admitted (goOn d) :=
      .bind (Site.within_assign hassign site _ htarget d) fun _ => .pure _
    clear_value goOn
    cases filter with
    | none => exact hgoOn _
    | some e => exact .bind (hself.expr _ hfilter) hgoOn
  | branch test body others otherwise =>
    simp only [Node.faultKinds, List.append_subset, armKinds_eq] at h
    obtain ⟨⟨⟨htest, hbody⟩, hothers⟩, hotherwise⟩ := h
    simp only [Node.fields, Regime.spares_append, armFields_eq] at hf
    obtain ⟨⟨hfields, hfieldsOthers⟩, hfieldsOtherwise⟩ := hf
    refine .bind (hself.expr site htest) fun d => .bind (Datum.within_isTrue d) fun t => ?_
    split
    · exact hself.pieces site ⟨hbody, hfields⟩
    · have harm {a : Expr × List Node} (ha : a ∈ others) :
          a.1.faultKinds ⊆ R.admitted ∧ R.Allows a.2 :=
        have hkinds := List.append_subset.1 (subset_of_flatMap_subset hothers ha)
        ⟨hkinds.1, hkinds.2, hfieldsOthers.of_mem ha⟩
      -- The body that is run belongs to one of the branches, since it was found among them.
      refine (Within.ensures_findM? fun a ha => ?_).bind fun found hfound => ?_
      · exact .bind (hself.expr site (harm ha).1) fun d => Datum.within_isTrue d
      · split
        · exact hself.pieces site (harm (hfound _ rfl)).2
        · exact hself.pieces site ⟨hotherwise, hfieldsOtherwise⟩
  | loop target source test recursive body otherwise =>
    simp only [Node.fields, Regime.spares_append] at hf
    obtain ⟨⟨htarget, hfields⟩, hfields'⟩ := hf
    -- A loop without a test fails as its parts do; one with a test makes a stream, and then
    -- everything is admitted.
    obtain ⟨⟨⟨⟨⟨hassign, hc⟩, hsource⟩, hbody⟩, hotherwise⟩, htest⟩ :
        ((((assignKinds ⊆ R.admitted ∧ Cursor.faultKinds ⊆ R.admitted) ∧
          source.faultKinds ⊆ R.admitted) ∧ nodeKinds body ⊆ R.admitted) ∧
            nodeKinds otherwise ⊆ R.admitted) ∧
              (test.isSome = true → FailureKind.all ⊆ R.admitted) := by
      cases test with
      | none =>
        simp only [Node.faultKinds, List.append_subset] at h
        exact ⟨h, nofun⟩
      | some e =>
        have hany : ∀ kinds, kinds ⊆ R.admitted := FailureKind.subset_of_all h
        exact ⟨⟨⟨⟨⟨hany _, hany _⟩, hany _⟩, hany _⟩, hany _⟩, fun _ => h⟩
    refine .bind (hself.expr site hsource) fun d => ?_
    exact within_runLoop hself hknows hassign hc site htest htarget ⟨hbody, hfields⟩
      ⟨hotherwise, hfields'⟩ _ _ d
  | definition name parameters body =>
    refine .bind (within_newDefinition site _ _ _) fun d => ?_
    exact .bind (Site.within_setName site name d) fun _ => .pure _
  | callBlock parameters call body =>
    have hany : ∀ kinds, kinds ⊆ R.admitted := FailureKind.subset_of_all h
    refine .bind (within_newDefinition _ _ _ _) fun caller => ?_
    split
    · refine .bind (hself.expr site (hany _)) fun f => ?_
      refine .bind (within_inputsOf hself site (hany _) (hany _) (hany _) (hany _)) fun i => ?_
      exact .bind (hself (.call f _) (hany _) (.inr rfl)) fun d => .pure _
    · exact .pure _
  | filterBlock filter body =>
    obtain ⟨hfilter, hbody⟩ := List.append_subset.1 h
    refine .bind (Site.within_knows site) fun _ => .bind (Site.within_knows site) fun _ => ?_
    refine .bind (Setting.within_enter hknows _ _ _ _) fun frame => ?_
    refine .bind (hself.text ht _ ⟨hbody, hf⟩) fun text => ?_
    exact .bind (hself.expr _ hfilter) fun d => .pure _
  | bind bindings body =>
    simp only [Node.faultKinds, List.append_subset] at h
    obtain ⟨⟨hassign, hbindings⟩, hbody⟩ := h
    obtain ⟨htargets, hfields⟩ := Regime.spares_append.1 hf
    refine .bind (Site.within_knows site) fun outside => ?_
    refine .bind (Setting.within_enter hknows _ _ _ _) fun frame => ?_
    refine .bind (.forM fun b hb => ?_) fun _ => hself.pieces _ ⟨hbody, hfields⟩
    refine .bind (hself.expr site (subset_of_flatMap_subset hbindings hb)) fun d => ?_
    exact Site.within_assign hassign _ _ (htargets.of_mem hb) d
  | escaped e body =>
    obtain ⟨he, hbody⟩ := List.append_subset.1 h
    refine .bind (Site.within_knows site) fun _ => .bind (Site.within_knows site) fun _ => ?_
    refine .bind (Setting.within_enter hknows _ _ _ _) fun frame => ?_
    refine .bind (hself.expr _ he) fun d => .bind (Datum.within_isTrue d) fun t => ?_
    exact hself.pieces _ ⟨hbody, hf⟩
  | block name seesLocals mustFill body =>
    have hrun (seen : List (String × Datum)) :
        Within R R.admitted (runBlock self setting seen name) :=
      within_runBlock hself hknows hblocks seen name
    have hseen : Within R R.admitted (do
        let seen ← if seesLocals then site.seenInside else pure site.seen
        runBlock self setting seen name) := by
      split
      · exact .bind (Site.within_seenInside site) hrun
      · exact hrun _
    cases mustFill with
    | true => exact .bind (within_runFault (h (by simp [Node.faultKinds])) _) fun _ => hseen
    | false => exact hseen
  | extend e | load e _ | loadNames e _ =>
    obtain ⟨ht, he⟩ := List.cons_subset.1 h
    exact .bind (.discard (hself.expr site he)) fun _ => within_noOther ht
  | insert e optional =>
    simp only [Node.faultKinds, List.cons_subset] at h
    obtain ⟨ht, hr, hm, he⟩ := h
    exact within_runInsert hself ht hr hm site he optional

/-! ### Evaluation -/

/-- What streams may call keeps to the regime where everything is admitted. -/
theorem words_within (hall : FailureKind.all ⊆ R.admitted) : (self.words setting).Within R where
  filter name d i := hself.keeps hall (.filter name d i)
  test name d i := within_applyTest _ name (FailureKind.subset_all _) d i
  enter b := .bind (Site.within_knows _) fun _ => Setting.within_enter hknows _ _ _ _
  admits b frame d := by
    refine .bind (Site.within_assign (FailureKind.subset_all _) _ _ ?_ _) fun _ => ?_
    · exact .inl (R.free_of_all hall)
    · split
      · exact .bind (hself.keeps hall _) fun d => Datum.within_isTrue d
      · exact .pure _

/-- Only streams are asked for items, and with streams around everything is admitted. -/
theorem within_pullRow (r : Ref) : Within R R.admitted (pullRow (self.words setting) r) := by
  refine .bind ?_ fun found => .pure _
  by_cases hall : FailureKind.all ⊆ R.admitted
  · exact .of_all hall (keeps_pullWith hall (words_within hself hknows hall) r)
  · rw [pullWith]
    generalize Cursor.itemLimit = fuel
    cases fuel with
    | zero => exact .pure none
    | succ fuel =>
      rw [pullWithin]
      refine within_bind_cell r fun c hc => ?_
      cases c with
      | stream type flow => exact absurd hc hall
      | _ => exact .pure none

/-- **The step of evaluation:** requests are answered with what they fail with at most, if the
evaluator that is asked for their parts does so. -/
theorem within_answer (hd : FailureKind.depth ∈ R.admitted) (ht : FailureKind.type ∈ R.admitted)
    (hblocks : ∀ b ∈ setting.blocks, R.Allows b.body) {r : Request}
    (h : r.faultKinds ⊆ R.admitted) (hf : R.Spares r.fields) :
    Within R R.admitted (answer self setting r) := by
  cases r with
  | expr site e => exact within_evalExpr hself hd hknows site h
  | nodes site ns =>
    have hns : ns.flatMap Node.faultKinds ⊆ R.admitted := nodeKinds_eq ns ▸ h
    have hfields : R.Spares (ns.flatMap Node.fields) := nodeFields_eq ns ▸ hf
    refine .bind (.mapM fun n hn => ?_) fun pieces => .pure _
    exact within_runNode hself hknows hd ht hblocks site (subset_of_flatMap_subset hns hn)
      (hfields.of_mem hn)
  | call f i =>
    have hall : FailureKind.all ⊆ R.admitted := h
    exact .of_all hall (keeps_callDatum hself hknows hall f i)
  | filter name d i => exact within_applyFilter name h d i
  | pull r => exact within_pullRow hself hknows r

omit hself in
/-- **Evaluation** keeps to a regime, and fails with what is evaluated at most, at any depth. -/
theorem within_evaluate (hd : FailureKind.depth ∈ R.admitted) (ht : FailureKind.type ∈ R.admitted)
    (hblocks : ∀ b ∈ setting.blocks, R.Allows b.body) (depth : Nat) :
    (evaluate setting depth).Within R := by
  induction depth with
  | zero => exact fun r _ _ => .throw hd
  | succ depth ih =>
    intro r hr hf
    -- Streams are asked with the evaluator of the depth below, as the parts of a request are.
    exact .pulling (ih.puller hd) (within_answer ih hknows hd ht hblocks hr hf)

omit hself hknows in
/-- **A run** keeps to a regime in which its nodes may be run, and the bodies of its blocks. -/
theorem within_runNodes {scope : Scope} (hknows : R.Knows scope)
    (hd : FailureKind.depth ∈ R.admitted) (ht : FailureKind.type ∈ R.admitted) {t : Settled}
    (hnodes : R.Allows t.nodes) (hblocks : ∀ b ∈ t.blocks, R.Allows b.body) :
    Within R R.admitted (runNodes scope t) := by
  refine .bind (Setting.within_enter hknows _ _ _ _) fun frame => ?_
  exact (within_evaluate hknows hd ht hblocks nesting).text ht _ hnodes

end Playbook.Template
