import Playbook.Proofs.Evaluation.Kinds
import Playbook.Proofs.Evaluation.Methods
import Playbook.Proofs.Evaluation.Streams

/-!
# The values of expressions

An evaluator answers requests with the help of another one, which answers requests for their parts.
So what is shown of evaluation is shown of one step: if the other evaluator keeps to a regime, and
fails with nothing but what can be read off its requests, then so does what is evaluated with it.

Main definitions:

- `Regime.Knows`: what is around a template may be taken over;
- `Regime.Spares`, `Regime.Allows`: fields may be set, and nodes may be run;
- `Evaluator.Within`: an evaluator keeps to a regime where it may.

Main statement: `within_evalExpr`.
-/

namespace Playbook.Template

open Eval

variable {R : Regime} {α : Type}

/-! ### What is around a template -/

/-- The value of a name is taken over, and noted with the name. -/
def takeNamed (name : String) (v : Value) : Eval (Option Datum) := do
  let d ← take v
  modifyThe Store fun s => { s with named := s.named ++ [(name, d)] }
  return some d

namespace Regime

/-- The values of the names around a template may be taken over. -/
def Knows (R : Regime) (scope : Scope) : Prop :=
  ∀ name v, scope.find name = some v → Within R R.admitted (takeNamed name v)

/-- Fields are set only where cells may be changed: a field may be one of a mapping. -/
def Spares (R : Regime) (fields : List String) : Prop := R.free ∨ fields = []

theorem spares_append {as bs : List String} :
    R.Spares (as ++ bs) ↔ R.Spares as ∧ R.Spares bs := by
  unfold Spares
  rw [List.append_eq_nil_iff, or_and_left]

theorem Spares.of_mem {f : α → List String} {xs : List α} (h : R.Spares (xs.flatMap f)) {a : α}
    (ha : a ∈ xs) : R.Spares (f a) :=
  h.imp id fun h => List.flatMap_eq_nil_iff.1 h a ha

/-- Nodes may be run: what they fail with is admitted, and they set fields only where they may. -/
structure Allows (R : Regime) (ns : List Node) : Prop where
  /-- What they fail with is admitted. -/
  kinds : nodeKinds ns ⊆ R.admitted
  /-- They set fields only where cells may be changed. -/
  fields : R.Spares (nodeFields ns)

/-- Where everything is admitted, any nodes may be run. -/
theorem allows_of_all (hall : FailureKind.all ⊆ R.admitted) (ns : List Node) : R.Allows ns :=
  ⟨FailureKind.subset_of_all hall _, .inl (R.free_of_all hall)⟩

end Regime

/-! ### Names and frames -/

section Sites

variable {R : Regime} {kinds : List FailureKind}

@[grind .]
theorem Site.within_knows (site : Site) : Within R kinds site.knows := by
  grind [knows]

@[grind .]
theorem Site.within_setName (site : Site) (name : String) (d : Datum) :
    Within R kinds (site.setName name d) := by
  grind [setName]

@[grind .]
theorem Site.within_setField (hfree : R.free) (ht : FailureKind.type ∈ kinds) (site : Site)
    (object name : String) (d : Datum) : Within R kinds (site.setField object name d) := by
  unfold setField
  extract_lets refuse
  have hrefuse (type : String) : Within R kinds (refuse type) := within_typeFault ht _
  clear_value refuse
  refine .bind (within_valueIn _ _) fun found => ?_
  split <;> grind

mutual

/-- Assigning unpacks what is assigned to several targets. -/
theorem Site.within_assign (h : assignKinds ⊆ kinds) (site : Site) :
    ∀ (t : Target) (_ : R.Spares t.objects) (d : Datum), Within R kinds (site.assign t d)
  | .name s, _, d => within_setName site s d
  | .field object name, hf, d =>
    within_setField (hf.resolve_right (List.cons_ne_nil _ _)) (h (by decide)) site object name d
  | .tuple targets, hf, d =>
    .bind (Datum.within_unpack (h (by decide)) (h (by decide)) (h (by decide)) _ d) fun ds =>
      within_assignAll h site targets hf ds

theorem Site.within_assignAll (h : assignKinds ⊆ kinds) (site : Site) :
    ∀ (ts : List Target) (_ : R.Spares (targetObjects ts)) (ds : List Datum),
      Within R kinds (site.assignAll ts ds)
  | [], _, _ => .pure _
  | _ :: _, _, [] => .pure _
  | t :: ts, hf, d :: ds =>
    have hfields := Regime.spares_append.1 hf
    .bind (within_assign h site t hfields.1 d) fun _ => within_assignAll h site ts hfields.2 ds

end

theorem Site.within_checkObjects (h : FailureKind.run ∈ kinds) (site : Site)
    (objects : List String) : Within R kinds (site.checkObjects objects) := by
  refine .forM fun name _ => ?_
  extract_lets refuse
  have hrefuse : Within R kinds refuse := within_runFault h _
  clear_value refuse
  refine .bind (within_valueIn _ _) fun found => ?_
  split <;> grind

theorem Site.within_boundFrom (fuel n : Nat) : Within R kinds (boundFrom fuel n) := by
  induction fuel generalizing n with
  | zero => exact .pure []
  | succ fuel ih => grind [boundFrom]

theorem Site.within_seenInside (site : Site) : Within R kinds site.seenInside := by
  have hbound (fuel n : Nat) : Within R kinds (boundFrom fuel n) := within_boundFrom fuel n
  grind [seenInside]

variable {setting : Setting} (hknows : R.Knows setting.scope)
include hknows

@[grind .]
theorem Setting.within_scoped? (name : String) : Within R kinds (setting.scoped? name) := by
  refine .bind .getThe fun s => ?_
  split
  · exact .pure _
  · split
    · exact .pure _
    · exact .of_admitted (hknows name _ ‹_›)

@[grind .]
theorem Setting.within_lookUp (seen : List (String × Datum)) (name : String) :
    Within R kinds (setting.lookUp seen name) := by
  grind [lookUp]

@[grind .]
theorem Setting.within_enter (seen : List (String × Datum)) (outer : Option Nat) (f : Frame)
    (given : List (String × Option Datum)) : Within R kinds (setting.enter seen outer f given) := by
  refine .bind (.mapM fun (name, origin) _ => ?_) fun values => within_newFrame _
  cases origin <;> grind

@[grind .]
theorem Site.within_lookUp (site : Site) (name : String) :
    Within R kinds (site.lookUp setting name) := by
  grind [lookUp]

end Sites

/-! ### Requests -/

/-- Not being asked any more fails for the depth. -/
theorem Puller.within_tooDeep (hd : FailureKind.depth ∈ R.admitted) :
    Puller.Within R fun _ => throw tooDeep := by
  intro r s hs
  refine ⟨fun a ha => ?_, fun f hf => ?_, hs⟩
  · cases ha
  · cases hf
    exact hd

namespace Evaluator

/-- An evaluator keeps to a regime, and fails with what is admitted, if it is asked for nothing that
may fail otherwise or change what is to stay. -/
def Within (R : Regime) (self : Evaluator) : Prop :=
  ∀ r : Request, r.faultKinds ⊆ R.admitted → R.Spares r.fields →
    Eval.Within R R.admitted (self r)

variable {self : Evaluator} (hself : self.Within R)
include hself

/-- Where everything is admitted, anything may be asked for. -/
theorem Within.keeps (hall : FailureKind.all ⊆ R.admitted) (r : Request) :
    Eval.Keeps R (self r) :=
  .of_admitted (hself r (FailureKind.subset_of_all hall _) (.inl (R.free_of_all hall)))

theorem Within.expr (site : Site) {e : Expr} (h : e.faultKinds ⊆ R.admitted) :
    Eval.Within R R.admitted (self.expr site e) :=
  hself (.expr site e) h (.inr rfl)

theorem Within.exprOr (site : Site) {e : Option Expr} (h : kindsOfOption e ⊆ R.admitted) :
    Eval.Within R R.admitted (self.exprOr site e) := by
  cases e with
  | none => exact .pure _
  | some e => exact hself.expr site h

theorem Within.exprs (site : Site) {es : List Expr} (h : kindsOfAll es ⊆ R.admitted) :
    Eval.Within R R.admitted (self.exprs site es) := by
  rw [kindsOfAll_eq] at h
  exact .mapM fun e he => hself.expr site (subset_of_flatMap_subset h he)

theorem Within.named (site : Site) {es : List (String × Expr)} (h : kindsOfNamed es ⊆ R.admitted) :
    Eval.Within R R.admitted (self.named site es) := by
  rw [kindsOfNamed_eq] at h
  refine .mapM fun e he => ?_
  exact .bind (hself.expr site (subset_of_flatMap_subset h he)) fun d => .pure _

theorem Within.pieces (site : Site) {ns : List Node} (h : R.Allows ns) :
    Eval.Within R R.admitted (self.pieces site ns) := by
  refine .bind (hself (.nodes site ns) h.kinds h.fields) fun d => ?_
  split <;> exact .pure _

omit hself in
theorem within_joined (ht : FailureKind.type ∈ R.admitted) (pieces : List Datum) :
    Eval.Within R R.admitted (joined pieces) :=
  .bind (within_joinedTexts ht 0 pieces) fun _ => .pure _

theorem Within.text (ht : FailureKind.type ∈ R.admitted) (site : Site) {ns : List Node}
    (h : R.Allows ns) : Eval.Within R R.admitted (self.text site ns) :=
  .bind (hself.pieces site h) fun pieces => within_joined ht pieces

/-- Streams that are asked by way of requests fail with what is admitted. -/
theorem Within.puller (hd : FailureKind.depth ∈ R.admitted) :
    Puller.Within R self.puller := by
  intro r s hs
  unfold Evaluator.puller
  refine Eval.Within.bind (hself (.pull r) (List.nil_subset _) (.inr rfl)) (fun d => ?_)
    (List.Subset.refl _) _ s (Puller.within_tooDeep hd) hs
  split <;> exact .pure _

end Evaluator

/-! ### Expressions -/

section Expressions

variable {self : Evaluator} (hself : self.Within R)
include hself

theorem within_inputsOf (site : Site) {plain : List Expr} {named : List (String × Expr)}
    {more moreNamed : Option Expr} (hplain : kindsOfAll plain ⊆ R.admitted)
    (hnamed : kindsOfNamed named ⊆ R.admitted) (hmore : kindsOfMore more ⊆ R.admitted)
    (hmoreNamed : kindsOfMore moreNamed ⊆ R.admitted) :
    Within R R.admitted (inputsOf self site plain named more moreNamed) := by
  unfold inputsOf
  refine .bind (hself.exprs site hplain) fun first => ?_
  refine .bind (hself.named site hnamed) fun names => ?_
  extract_lets goOn
  -- What follows once the plain arguments are there: more named ones, from the pairs of a map.
  have hgoOn (rest : List Datum) : Within R R.admitted (goOn rest) := by
    dsimp -zeta only [goOn]
    cases moreNamed with
    | none => exact .pure _
    | some e =>
      simp only [kindsOfMore, List.append_subset] at hmoreNamed
      have ht : FailureKind.type ∈ R.admitted := hmoreNamed.1 (by decide)
      refine .bind (hself.expr site hmoreNamed.2) fun d => ?_
      extract_lets refuse collect
      have hrefuse : Within R R.admitted refuse :=
        .bind (Datum.within_typeName d) fun type => within_typeFault ht _
      have hcollect (entries : DataEntries) : Within R R.admitted (collect entries) := by
        refine .bind (.mapM fun entry _ => ?_) fun restNames => .pure _
        split
        · exact .pure _
        · exact within_typeFault ht _
      clear_value refuse collect
      split
      · refine .bind (within_cell _) fun c => ?_
        split
        · exact hcollect _
        · exact .bind hrefuse hcollect
      · exact .bind hrefuse hcollect
  clear_value goOn
  cases more with
  | none => exact hgoOn []
  | some e =>
    simp only [kindsOfMore, List.append_subset] at hmore
    have ht : FailureKind.type ∈ R.admitted := hmore.1 (by decide)
    have hc : Cursor.faultKinds ⊆ R.admitted := List.Subset.trans (by decide) hmore.1
    refine .bind (hself.expr site hmore.2) fun d => ?_
    -- Whatever says that there are no items to go through is said as a wrong type.
    refine .bind_attempt (Datum.within_cursor ht d) (fun c => ?_) fun f _ => ?_
    · exact .bind (Cursor.within_rest hc c) hgoOn
    · exact .bind (Datum.within_typeName d) fun type => .bind (within_typeFault ht _) hgoOn

theorem within_evalChain (site : Site) {rest : List (Relation × Expr)}
    (h : kindsOfCompared rest ⊆ R.admitted) (a : Datum) :
    Within R R.admitted (evalChain self site a rest) := by
  induction rest generalizing a with
  | nil => exact .pure _
  | cons r rest ih =>
    obtain ⟨rel, e⟩ := r
    simp only [kindsOfCompared, List.append_subset] at h
    obtain ⟨⟨hrel, he⟩, hrest⟩ := h
    refine .bind (hself.expr site he) fun b => .bind (Datum.within_holds hrel a b) fun holds => ?_
    split
    · exact ih hrest b
    · exact .pure _

theorem within_evalPairs (hd : FailureKind.depth ∈ R.admitted) (ht : FailureKind.type ∈ R.admitted)
    (site : Site) {pairs : List (Expr × Expr)} (h : kindsOfPairs pairs ⊆ R.admitted) :
    Within R R.admitted (evalPairs self site pairs) := by
  rw [kindsOfPairs_eq] at h
  refine .bind (.mapM fun p hp => ?_) fun entries => ?_
  · have hparts := List.append_subset.1 (subset_of_flatMap_subset h hp)
    refine .bind (hself.expr site hparts.1) fun key => ?_
    exact .bind (hself.expr site hparts.2) fun d => .pure _
  · exact .bind (.forM fun e _ => Datum.within_checkKey hd ht _) fun _ => within_newMap _

omit hself in
mutual

theorem isUnshared_of_constantValue? :
    ∀ {e : Expr} {v : Value}, constantValue? e = some v → v.isUnshared = true
  | .constant s, _, h => by
    cases h
    rfl
  | .tuple items, v, h => by
    rw [constantValue?, Option.map_eq_some_iff] at h
    obtain ⟨vs, hvs, rfl⟩ := h
    exact isUnshared_of_constantValues? hvs

theorem isUnshared_of_constantValues? :
    ∀ {es : List Expr} {vs : List Value}, constantValues? es = some vs →
      Value.areUnshared vs = true
  | [], _, h => by
    cases h
    rfl
  | e :: rest, vs, h => by
    rw [constantValues?] at h
    split at h
    · next v vs hv hvs =>
      cases h
      rw [Value.areUnshared, isUnshared_of_constantValue? hv, isUnshared_of_constantValues? hvs]
      rfl
    · cases h

end

omit hself in
theorem within_constantTuple (hd : FailureKind.depth ∈ R.admitted) {v : Value}
    (hv : v.isUnshared = true) : Within R R.admitted (constantTuple v) := by
  refine .bind .getThe fun s => ?_
  split
  · exact .pure _
  · refine .bind (within_take hd (Value.confined_of_isUnshared hv)) fun d => ?_
    exact .bind (.modifyGet fun _ => ⟨rfl, rfl, rfl, rfl, Nat.le_refl _⟩) fun _ => .pure _

omit hself in
theorem within_evalConstant {s : Scalar} (h : constantKinds s ⊆ R.admitted) :
    Within R R.admitted (evalConstant s) := by
  unfold evalConstant
  split
  · rename_i x
    have hname (hx : (x.isNaN || x.isInfinite) = true) : FailureKind.name ∈ R.admitted :=
      h (by simp [constantKinds, hx])
    grind
  · exact .pure _

omit hself in
theorem within_evalArithmetic {op : Arithmetic} (h : op.faultKinds ⊆ R.admitted) (a b : Datum) :
    Within R R.admitted (evalArithmetic op a b) := by
  unfold evalArithmetic
  split
  · exact .bind (within_formatPercent (List.Subset.trans (by decide) h) _ b) fun s => .pure _
  · exact Datum.within_arithmetic h a b

omit hself in
theorem within_known {known : List String} {ofName : String → List FailureKind} {name kind : String}
    (h : knownKinds known ofName name ⊆ R.admitted) {x : Eval α}
    (hx : ofName name ⊆ R.admitted → Within R R.admitted x) :
    Within R R.admitted (if known.contains name then x else unknownReached kind name) := by
  unfold knownKinds at h
  split at h
  · rename_i hknown
    rw [if_pos hknown]
    exact hx h
  · rename_i hknown
    rw [if_neg hknown]
    exact within_runFault (h (by decide)) _

/-- **The value of an expression** is found with what the expression fails with at most. -/
theorem within_evalExpr (hd : FailureKind.depth ∈ R.admitted) {setting : Setting}
    (hknows : R.Knows setting.scope) (site : Site) {e : Expr} (h : e.faultKinds ⊆ R.admitted) :
    Within R R.admitted (evalExpr self setting site e) := by
  cases e with
  | constant s => exact within_evalConstant h
  | name s => exact Site.within_lookUp hknows site s
  | tuple items =>
    refine .bind (hself.exprs site h) fun ds => ?_
    split
    · rename_i vs hvs
      exact within_constantTuple hd (isUnshared_of_constantValues? hvs)
    · exact within_newTuple _
  | list items => exact .bind (hself.exprs site h) fun ds => within_newList _
  | map pairs =>
    have ht : FailureKind.type ∈ R.admitted := h (by simp [Expr.faultKinds])
    simp only [Expr.faultKinds, List.cons_subset] at h
    exact within_evalPairs hself hd ht site h.2
  | signed sign e =>
    simp only [Expr.faultKinds, List.cons_subset] at h
    obtain ⟨ht, hu, he⟩ := h
    exact .bind (hself.expr site he) fun d => Datum.within_signed ht hu sign d
  | arithmetic op a b =>
    simp only [Expr.faultKinds, List.append_subset] at h
    obtain ⟨⟨hop, ha⟩, hb⟩ := h
    refine .bind (hself.expr site ha) fun x => .bind (hself.expr site hb) fun y => ?_
    exact within_evalArithmetic hop x y
  | both a b =>
    simp only [Expr.faultKinds, List.append_subset] at h
    refine .bind (hself.expr site h.1) fun x => .bind (Datum.within_isTrue x) fun t => ?_
    split
    · exact hself.expr site h.2
    · exact .pure _
  | either a b =>
    simp only [Expr.faultKinds, List.append_subset] at h
    refine .bind (hself.expr site h.1) fun x => .bind (Datum.within_isTrue x) fun t => ?_
    split
    · exact .pure _
    · exact hself.expr site h.2
  | opposite e =>
    exact .bind (hself.expr site h) fun d => .bind (Datum.within_isTrue d) fun t => .pure _
  | concat items =>
    simp only [Expr.faultKinds, List.cons_subset] at h
    refine .bind (hself.exprs site h.2) fun ds => ?_
    exact .bind (.mapM fun d _ => Datum.within_text hd h.1 d) fun _ => .pure _
  | compare first rest =>
    simp only [Expr.faultKinds, List.append_subset] at h
    exact .bind (hself.expr site h.1) fun a => within_evalChain hself site h.2 a
  | choice test yes no line =>
    simp only [Expr.faultKinds, List.append_subset] at h
    obtain ⟨⟨htest, hyes⟩, hno⟩ := h
    refine .bind (hself.expr site htest) fun d => .bind (Datum.within_isTrue d) fun t => ?_
    split
    · exact hself.expr site hyes
    · split
      · exact hself.expr site hno
      · exact .pure _
  | member e name =>
    simp only [Expr.faultKinds, List.append_subset] at h
    exact .bind (hself.expr site h.2) fun d => Datum.within_member h.1 d name
  | item e index =>
    simp only [Expr.faultKinds, List.append_subset] at h
    obtain ⟨⟨hparts, he⟩, hindex⟩ := h
    refine .bind (hself.expr site he) fun d => .bind (hself.expr site hindex) fun i => ?_
    exact Datum.within_item hparts d i
  | slice e start stop step =>
    simp only [Expr.faultKinds, List.append_subset] at h
    obtain ⟨⟨⟨⟨hslice, he⟩, hstart⟩, hstop⟩, hstep⟩ := h
    refine .bind (hself.expr site he) fun d => .bind (hself.exprOr site hstart) fun a => ?_
    refine .bind (hself.exprOr site hstop) fun b => .bind (hself.exprOr site hstep) fun c => ?_
    exact Datum.within_slice hslice d a b c
  | bounds start stop step => exact .throw (h (by simp [Expr.faultKinds]))
  | call callee plain named more moreNamed =>
    -- What is called is a value like others, so everything is admitted for a call.
    have hany : ∀ kinds, kinds ⊆ R.admitted := FailureKind.subset_of_all h
    refine .bind (hself.expr site (hany _)) fun f => ?_
    refine .bind (within_inputsOf hself site (hany _) (hany _) (hany _) (hany _)) fun i => ?_
    exact hself (.call f i) (hany _) (.inr rfl)
  | filter e name plain named more moreNamed =>
    simp only [Expr.faultKinds, List.append_subset] at h
    obtain ⟨⟨⟨⟨⟨hname, he⟩, hplain⟩, hnamed⟩, hmore⟩, hmoreNamed⟩ := h
    have hrest (d : Datum) : Within R R.admitted (do
        let i ← inputsOf self site plain named more moreNamed
        if filterNames.contains name then self (.filter name d i)
        else unknownReached "filter" name) := by
      refine .bind (within_inputsOf hself site hplain hnamed hmore hmoreNamed) fun i => ?_
      exact within_known hname fun hfilter => hself (.filter name d i) hfilter (.inr rfl)
    cases e with
    | none => exact hrest (.str site.hole)
    | some e => exact .bind (hself.expr site he) hrest
  | test e name plain named more moreNamed =>
    simp only [Expr.faultKinds, List.append_subset] at h
    obtain ⟨⟨⟨⟨⟨hname, he⟩, hplain⟩, hnamed⟩, hmore⟩, hmoreNamed⟩ := h
    refine .bind (hself.expr site he) fun d => ?_
    refine .bind (within_inputsOf hself site hplain hnamed hmore hmoreNamed) fun i => ?_
    refine within_known hname fun htest => ?_
    exact .bind (within_applyTest filterNames name htest d i) fun b => .pure _

end Expressions

end Playbook.Template
