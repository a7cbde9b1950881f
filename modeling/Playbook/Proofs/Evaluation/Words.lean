import Playbook.Proofs.Evaluation.Operators
import Playbook.Template.Filter

/-!
# What filters and tests fail with

Every filter and every test has its own ways to fail, which depend on its name alone. A filter that
makes a stream does nothing before somebody asks the stream for an item, and then anything may
happen: whoever applies it has to be ready for every failure.

Main definitions: `Filter.callKinds`, `filterKinds`, `testKinds`.

Main statements: `within_applyFilter`, `within_applyTest`.
-/

namespace Playbook

/-- What a filter of values fails with when a datum is given to it. -/
def Filter.callKinds : Filter → List FailureKind
  | .truth => [.type]
  | f => .type :: .undefined :: .depth :: f.faultKinds

theorem Filter.type_mem_callKinds (f : Filter) : FailureKind.type ∈ f.callKinds := by
  cases f <;> simp [callKinds]

namespace Template

open Eval

variable {R : Regime} {kinds : List FailureKind} {α β : Type}

/-! ### Filters of any datum -/

@[grind .]
theorem within_shownChars (hd : FailureKind.depth ∈ kinds) (hv : FailureKind.value ∈ kinds)
    (d : Datum) : Within R kinds (shownChars d) := by
  grind [shownChars]

/-- What showing a datum as a text fails with, beside wrong arguments. -/
def shownKinds : List FailureKind := [.type, .depth, .value]

theorem within_valueFilter {f : Filter} (h : f.callKinds ⊆ kinds) (d : Datum) :
    Within R kinds (valueFilter f d) := by
  have happly (hsub : FailureKind.type :: .undefined :: .depth :: f.faultKinds ⊆ kinds) :
      Within R kinds (do Eval.take (← Eval.ofExcept (f.apply (← d.give)))) := by
    have hd : FailureKind.depth ∈ kinds := hsub (by simp)
    have hf : f.faultKinds ⊆ kinds := fun k hk => hsub (by simp [hk])
    refine .bind (Datum.within_give hd d) fun v => ?_
    refine (Ensures.ofExcept (f.failsIn_apply hf v)).bind fun w hw => ?_
    obtain ⟨s, rfl⟩ := Filter.exists_scalar_of_apply hw
    exact within_take hd (List.forall_mem_nil _)
  unfold valueFilter
  split
  · exact .pure _
  · exact .bind (Datum.within_isTrue _) fun b => .pure _
  · exact within_missingFault (h (by simp [Filter.callKinds])) _
  · exact .throw (h (by simp [Filter.callKinds, Filter.faultKinds, noYamlParts]))
  · exact .pure _
  · rename_i hnotTruth _ _ _ _
    -- Only the filter of truth could not fail in these ways, and it is not among the rest.
    refine happly ?_
    cases f with
    | truth => exact (hnotTruth rfl).elim
    | _ => exact h

/-- What replacing by pattern fails with when data are given to it, whatever they are. -/
def substituteKinds : List FailureKind := (Filter.substitute .null .null).callKinds

theorem within_substituteFilter (h : substituteKinds ⊆ kinds) (d : Datum) (i : Inputs) :
    Within R kinds (substituteFilter d i) := by
  have ht : FailureKind.type ∈ kinds := h (by decide)
  have hd : FailureKind.depth ∈ kinds := h (by decide)
  have hv : FailureKind.value ∈ kinds := h (by decide)
  have hu : FailureKind.undefined ∈ kinds := h (by decide)
  have hp (v : Value) : FailsIn kinds (Filter.patternOf v) :=
    Filter.failsIn_patternOf (List.Subset.trans (by decide) h) v
  have hs (p r : Value) (d : Datum) : Within R kinds (valueFilter (.substitute p r) d) :=
    within_valueFilter (show (Filter.substitute p r).callKinds ⊆ kinds from h) d
  unfold substituteFilter
  refine .bind (Signature.within_bind ht _ _) fun values => ?_
  refine .bind (Datum.within_give hd _) fun p => ?_
  split
  · grind
  · exact .bind (Datum.within_give hd _) fun r => hs _ _ _

section
variable (ht : FailureKind.type ∈ kinds)
include ht

theorem within_defaultFilter (d : Datum) (i : Inputs) : Within R kinds (defaultFilter d i) := by
  unfold defaultFilter
  refine .bind (Signature.within_bind ht _ _) fun values => ?_
  split <;> grind

theorem within_attrFilter (hu : FailureKind.undefined ∈ kinds) (hd : FailureKind.depth ∈ kinds)
    (d : Datum) (i : Inputs) : Within R kinds (attrFilter d i) := by
  unfold attrFilter
  refine .bind (Signature.within_bind ht _ _) fun values => ?_
  split <;> grind

theorem within_tojsonFilter (hv : FailureKind.value ∈ kinds) (hd : FailureKind.depth ∈ kinds)
    (d : Datum) (i : Inputs) : Within R kinds (tojsonFilter d i) := by
  have hj (style : Json.Style) (v : Value) : FailsIn kinds (v.json style) :=
    Value.failsIn_json (by simp [Value.documentKinds, ht, hv]) style v
  unfold tojsonFilter
  refine .bind (Signature.within_bind ht _ _) fun values => ?_
  split <;> grind

/-! ### Numbers -/

theorem within_absoluteFilter (d : Datum) (i : Inputs) : Within R kinds (absoluteFilter d i) := by
  unfold absoluteFilter
  refine .bind (Inputs.within_one ht _ _) fun d => ?_
  split <;> grind

end

theorem kind_notFinite (h : [.value, .overflow] ⊆ kinds) (x : Binary64) :
    (notFinite x).kind ∈ kinds := by
  unfold notFinite
  split
  · exact h (by simp)
  · exact h (by simp)

/-- What rounding fails with. -/
def roundKinds : List FailureKind :=
  [.type, .run, .value, .undefined, .overflow, .zeroDivision, .memory, .depth]

theorem within_roundFilter (h : roundKinds ⊆ kinds) (d : Datum) (i : Inputs) :
    Within R kinds (roundFilter d i) := by
  have ht : FailureKind.type ∈ kinds := h (by decide)
  have hd : FailureKind.depth ∈ kinds := h (by decide)
  have hr : FailureKind.run ∈ kinds := h (by decide)
  have hu : FailureKind.undefined ∈ kinds := h (by decide)
  have ho : FailureKind.overflow ∈ kinds := h (by decide)
  have hfinite (x : Binary64) : (notFinite x).kind ∈ kinds :=
    kind_notFinite (List.Subset.trans (by decide) h) x
  -- Rounding up or down multiplies with a power of ten and divides by it again.
  have harith {op : Arithmetic} (hop : op.faultKinds ⊆ roundKinds) (a b : Datum) :
      Within R kinds (a.arithmetic op b) :=
    Datum.within_arithmetic (List.Subset.trans hop h) a b
  have hnear (x) : FailsIn kinds (nearestInt x) := by grind [nearestInt]
  have htoward (up d) : Within R kinds (roundToward up d) := by
    unfold roundToward
    split <;> grind
  have hto (d p) : Within R kinds (roundTo d p) := by
    unfold roundTo
    split
    · grind
    · split <;> grind
  unfold roundFilter
  refine .bind (Signature.within_bind ht _ _) fun values => ?_
  extract_lets places toward method
  have htw (up) : Within R kinds (toward up) := by
    refine .bind (harith (by decide) _ _) fun unit => .bind (harith (by decide) _ _) fun y => ?_
    exact .bind (htoward _ _) fun z => harith (by decide) _ _
  clear_value toward method
  refine .bind (Datum.within_checkKey hd ht _) fun _ => ?_
  split <;> grind

@[grind .]
theorem failsIn_intInBase (hv : FailureKind.value ∈ kinds) (s : String) (base : Int) :
    FailsIn kinds (intInBase s base) := by
  grind [intInBase, markedInt, Numeral.int, Numeral.noInteger]

/-- The failures that say that an operand is unsuitable. -/
def unsuitableKinds : List FailureKind := [.type, .value, .decoding, .base64]

theorem saysUnsuitable_iff {f : Failure} : saysUnsuitable f = true ↔ f.kind ∈ unsuitableKinds := by
  obtain ⟨kind, message⟩ := f
  cases kind <;> simp [saysUnsuitable, unsuitableKinds]

/-- What finding the number of a datum fails with. -/
def numberKinds : List FailureKind := [.type, .value, .undefined, .overflow]

theorem within_doubleFrom (h : numberKinds ⊆ kinds) (d : Datum) :
    Within R kinds (doubleFrom d) := by
  have ht : FailureKind.type ∈ kinds := h (by decide)
  have hv : FailureKind.value ∈ kinds := h (by decide)
  have hu : FailureKind.undefined ∈ kinds := h (by decide)
  have ho : FailureKind.overflow ∈ kinds := h (by decide)
  unfold doubleFrom
  split <;> grind

theorem within_intFrom (h : numberKinds ⊆ kinds) (d base : Datum) :
    Within R kinds (intFrom d base) := by
  have ht : FailureKind.type ∈ kinds := h (by decide)
  have hv : FailureKind.value ∈ kinds := h (by decide)
  have hu : FailureKind.undefined ∈ kinds := h (by decide)
  have hfinite (x : Binary64) : (notFinite x).kind ∈ kinds :=
    kind_notFinite (List.Subset.trans (by decide) h) x
  unfold intFrom
  split <;> grind

/-- What is left of the failures of finding a number when unsuitable operands are caught. -/
theorem within_bind_number {x : Eval α} {f : Except Failure α → Eval β}
    (hx : Within R (kinds ++ unsuitableKinds) x) (hok : ∀ a, Within R kinds (f (.ok a)))
    (herror : ∀ e : Failure, (saysUnsuitable e = false → e.kind ∈ kinds) →
      Within R kinds (f (.error e))) : Within R kinds (attempt x >>= f) := by
  refine .bind_attempt_of_subset (List.subset_append_left _ _) hx hok fun e he => ?_
  refine herror e fun hsays => ?_
  rcases List.mem_append.mp he with he | he
  · exact he
  -- It says that the operand is unsuitable, so it is not one that is thrown again.
  · rw [saysUnsuitable_iff.mpr he] at hsays
    cases hsays

theorem numberKinds_subset (hu : FailureKind.undefined ∈ kinds)
    (ho : FailureKind.overflow ∈ kinds) : numberKinds ⊆ kinds ++ unsuitableKinds := by
  intro k hk
  simp only [numberKinds, List.mem_cons, List.not_mem_nil, or_false] at hk
  rcases hk with rfl | rfl | rfl | rfl <;> simp [unsuitableKinds, hu, ho]

theorem within_intFilter (ht : FailureKind.type ∈ kinds) (hu : FailureKind.undefined ∈ kinds)
    (ho : FailureKind.overflow ∈ kinds) (d : Datum) (i : Inputs) :
    Within R kinds (intFilter d i) := by
  have hn := numberKinds_subset hu ho
  unfold intFilter
  refine .bind (Signature.within_bind ht _ _) fun values => ?_
  refine within_bind_number (within_intFrom hn _ _) (fun n => .pure _) fun e he => ?_
  dsimp -zeta only
  extract_lets otherwise goOn
  -- The second attempt, by way of a double, is made only if the operand was unsuitable.
  have hgoOn (u : PUnit) : Within R kinds (goOn u) := by
    refine within_bind_number (within_doubleFrom hn _) (fun x => ?_) fun e he => ?_
    · dsimp only
      split <;> grind
    · dsimp only
      split <;> grind
  clear_value goOn
  split
  · exact .bind (.throw (he (by grind))) hgoOn
  · exact hgoOn _

theorem within_floatFilter (ht : FailureKind.type ∈ kinds) (hu : FailureKind.undefined ∈ kinds)
    (ho : FailureKind.overflow ∈ kinds) (d : Datum) (i : Inputs) :
    Within R kinds (floatFilter d i) := by
  have hn := numberKinds_subset hu ho
  unfold floatFilter
  refine .bind (Signature.within_bind ht _ _) fun values => ?_
  refine within_bind_number (within_doubleFrom hn _) (fun x => ?_) fun e he => ?_
  · dsimp only
    split <;> grind
  · dsimp only
    split <;> grind

/-! ### Texts -/

@[grind .]
theorem within_expectText (ht : FailureKind.type ∈ kinds) (d : Datum) :
    Within R kinds (expectText d) := by
  unfold expectText
  split <;> grind

@[grind .]
theorem within_limitOf (ht : FailureKind.type ∈ kinds) (ho : FailureKind.overflow ∈ kinds)
    (d : Option Datum) : Within R kinds (limitOf d) := by
  unfold limitOf
  split <;> grind

@[grind .]
theorem within_widthOf (ht : FailureKind.type ∈ kinds) (ho : FailureKind.overflow ∈ kinds)
    (hm : FailureKind.memory ∈ kinds) (d : Datum) : Within R kinds (widthOf d) := by
  grind [widthOf, noMemory]

theorem within_indentFilter (ht : FailureKind.type ∈ kinds) (hu : FailureKind.undefined ∈ kinds)
    (ha : FailureKind.attribute ∈ kinds) (d : Datum) (i : Inputs) :
    Within R kinds (indentFilter d i) := by
  unfold indentFilter
  refine .bind (Signature.within_bind ht _ _) fun values => ?_
  extract_lets goOn
  have hgoOn (x) : Within R kinds (goOn x) := by
    dsimp -zeta only [goOn]
    extract_lets shown
    have hshown (x) : Within R kinds (shown x) := by grind
    clear_value shown
    split <;> grind
  clear_value goOn
  split
  · grind
  · split
    · grind
    · split <;> grind

theorem within_truncateFilter (h : .assertion :: shownKinds ⊆ kinds) (d : Datum) (i : Inputs) :
    Within R kinds (truncateFilter d i) := by
  have ht : FailureKind.type ∈ kinds := h (by decide)
  have hd : FailureKind.depth ∈ kinds := h (by decide)
  have hv : FailureKind.value ∈ kinds := h (by decide)
  have ha : FailureKind.assertion ∈ kinds := h (by decide)
  unfold truncateFilter
  refine .bind (Signature.within_bind ht _ _) fun values => ?_
  refine .bind (within_asIndex ht _) fun length => .bind (within_expectText ht _) fun mark => ?_
  extract_lets insist goOn
  -- Two lengths are insisted on, with a failure of a kind that nothing else here has.
  have hinsist (limit n : Int) (what : String) : Within R kinds (insist limit n what) := by grind
  clear_value insist
  have hgoOn (leeway : Int) : Within R kinds (goOn leeway) := by
    refine .bind (hinsist _ _ _) fun _ => .bind (hinsist _ _ _) fun _ => ?_
    refine .bind (within_shownChars hd hv d) fun s => ?_
    split <;> grind
  clear_value goOn
  split <;> grind

theorem within_replaceFilter (h : .overflow :: shownKinds ⊆ kinds) (d : Datum) (i : Inputs) :
    Within R kinds (replaceFilter d i) := by
  have ht : FailureKind.type ∈ kinds := h (by decide)
  have hd : FailureKind.depth ∈ kinds := h (by decide)
  have hv : FailureKind.value ∈ kinds := h (by decide)
  have ho : FailureKind.overflow ∈ kinds := h (by decide)
  unfold replaceFilter
  refine .bind (Signature.within_bind ht _ _) fun values => ?_
  split <;> grind

theorem within_trimFilter (h : shownKinds ⊆ kinds) (d : Datum) (i : Inputs) :
    Within R kinds (trimFilter d i) := by
  have ht : FailureKind.type ∈ kinds := h (by decide)
  have hd : FailureKind.depth ∈ kinds := h (by decide)
  have hv : FailureKind.value ∈ kinds := h (by decide)
  unfold trimFilter
  refine .bind (Signature.within_bind ht _ _) fun values => ?_
  refine .bind (within_shownChars hd hv _) fun s => ?_
  split <;> grind

theorem within_formatFilter (h : .run :: percentKinds ⊆ kinds) (d : Datum) (i : Inputs) :
    Within R kinds (formatFilter d i) := by
  have hp : percentKinds ⊆ kinds := fun k hk => h (List.mem_cons_of_mem _ hk)
  have hr : FailureKind.run ∈ kinds := h (by decide)
  have hd : FailureKind.depth ∈ kinds := h (by decide)
  have hv : FailureKind.value ∈ kinds := h (by decide)
  grind [formatFilter]

/-- What showing data in an address fails with. -/
def addressKinds : List FailureKind :=
  [.type, .depth, .value, .decoding, .mutation, .overflow, .memory]

theorem within_addressChars (h : addressKinds ⊆ kinds) (question : Bool) (d : Datum) :
    Within R kinds (addressChars question d) := by
  have hd : FailureKind.depth ∈ kinds := h (by decide)
  have hv : FailureKind.value ∈ kinds := h (by decide)
  have he (s : List Char) : FailsIn kinds ((Encoding.utf8 false).encode "strict" s) :=
    Filter.failsIn_encode (h (by decide)) _ s
  unfold addressChars
  split <;> grind

theorem within_addressFilter (h : addressKinds ⊆ kinds) (d : Datum) (i : Inputs) :
    Within R kinds (addressFilter d i) := by
  have ht : FailureKind.type ∈ kinds := h (by decide)
  have hv : FailureKind.value ∈ kinds := h (by decide)
  have hm : FailureKind.mutation ∈ kinds := h (by decide)
  have hc : Cursor.faultKinds ⊆ kinds := List.Subset.trans (by decide) h
  have ha (question : Bool) (d : Datum) : Within R kinds (addressChars question d) :=
    within_addressChars h question d
  unfold addressFilter
  refine .bind (within_alone ht _ _ _ _ _) fun _ => ?_
  extract_lets pairs
  have hpairs : Within R kinds pairs := by
    dsimp only [pairs]
    split <;> grind
  clear_value pairs
  refine .bind hpairs fun found => ?_
  split
  · exact .bind (ha _ _) fun cs => .pure _
  · refine .bind (.mapM fun e _ => .bind (Datum.within_unpack ht hv hm _ _) fun ds => ?_) ?_
    · split
      · exact .bind (ha _ _) fun k => .bind (ha _ _) fun e => .pure _
      · exact .pure _
    · exact fun parts => .pure _

/-! ### Sequences -/

theorem within_firstFilter (ht : FailureKind.type ∈ kinds) (hm : FailureKind.mutation ∈ kinds)
    (d : Datum) (i : Inputs) : Within R kinds (firstFilter d i) := by
  grind [firstFilter]

@[grind .]
theorem within_backwards? (ht : FailureKind.type ∈ kinds) (hc : Cursor.faultKinds ⊆ kinds)
    (d : Datum) : Within R kinds (backwards? d) := by
  unfold backwards?
  split <;> grind

theorem within_lastFilter (ht : FailureKind.type ∈ kinds) (hc : Cursor.faultKinds ⊆ kinds)
    (d : Datum) (i : Inputs) : Within R kinds (lastFilter d i) := by
  have hm : FailureKind.mutation ∈ kinds := hc (by decide)
  unfold lastFilter
  refine .bind (within_alone ht _ _ _ _ _) fun _ => ?_
  refine .bind (within_backwards? ht hc d) fun found => ?_
  split
  · refine .bind (Cursor.within_next hm _) fun found => ?_
    split <;> exact .pure _
  · exact .bind (Datum.within_typeName d) fun type => within_typeFault ht _

theorem within_lengthFilter (ht : FailureKind.type ∈ kinds) (ho : FailureKind.overflow ∈ kinds)
    (d : Datum) (i : Inputs) : Within R kinds (lengthFilter d i) := by
  grind [lengthFilter]

theorem within_listFilter (ht : FailureKind.type ∈ kinds) (hc : Cursor.faultKinds ⊆ kinds)
    (d : Datum) (i : Inputs) : Within R kinds (listFilter d i) := by
  grind [listFilter]

section
variable (h : orderKinds ⊆ kinds)
include h

/-- Items before a fault are worked on before the fault is thrown. -/
theorem within_rethrow {x : Cursor} {f : List Datum → Eval α} {g : α → Eval β}
    (hf : ∀ ds, Within R kinds (f ds)) (hg : ∀ a, Within R kinds (g a)) :
    Within R kinds (do
      let (items, fault) ← x.restBefore
      let a ← f items
      match fault with
      | some f => throw f
      | none => g a) := by
  have hc : Cursor.faultKinds ⊆ kinds := List.Subset.trans (by decide) h
  refine Cursor.within_bind_restBefore hc x fun items fault hfault => ?_
  refine .bind (hf items) fun a => ?_
  cases fault with
  | none => exact hg a
  | some f => exact .throw (hfault f rfl)

theorem within_extremeFilter (name : String) (rel : Relation) (d : Datum) (i : Inputs) :
    Within R kinds (extremeFilter name rel d i) := by
  have ht : FailureKind.type ∈ kinds := h (by decide)
  have hv : FailureKind.value ∈ kinds := h (by decide)
  have hm : FailureKind.mutation ∈ kinds := h (by decide)
  have hp : partsKinds ⊆ kinds := List.Subset.trans (by decide) h
  have hrel : rel.faultKinds ⊆ kinds := List.Subset.trans rel.faultKinds_subset h
  unfold extremeFilter
  refine .bind (Signature.within_bind ht _ _) fun values => ?_
  refine .bind (within_givenTrue _ _ _) fun exact_ => ?_
  refine .bind (Datum.within_cursor ht _) fun c => .bind (Cursor.within_next hm _) fun found => ?_
  split
  · exact .pure _
  · refine .bind (within_pathOf hv _) fun path => ?_
    extract_lets key
    have hkey (d) : Within R kinds (key d) := by grind
    clear_value key
    refine .bind (hkey _) fun k => ?_
    extract_lets start
    exact within_rethrow h (f := fun items => items.foldlM _ start) (by grind) (by grind)

theorem within_joinFilter (d : Datum) (i : Inputs) : Within R kinds (joinFilter d i) := by
  have ht : FailureKind.type ∈ kinds := h (by decide)
  have hv : FailureKind.value ∈ kinds := h (by decide)
  have hd : FailureKind.depth ∈ kinds := h (by decide)
  have hp : partsKinds ⊆ kinds := List.Subset.trans (by decide) h
  unfold joinFilter
  refine .bind (Signature.within_bind ht _ _) fun values => ?_
  refine .bind (within_pathOf hv _) fun path => ?_
  refine .bind (Datum.within_cursor ht _) fun c => ?_
  refine .bind (Datum.within_text hd hv _) fun between => ?_
  exact within_rethrow h (f := fun items => items.mapM _) (by grind) (by grind)

theorem within_sumFilter (d : Datum) (i : Inputs) : Within R kinds (sumFilter d i) := by
  have ht : FailureKind.type ∈ kinds := h (by decide)
  have hv : FailureKind.value ∈ kinds := h (by decide)
  have hd : FailureKind.depth ∈ kinds := h (by decide)
  have hp : partsKinds ⊆ kinds := List.Subset.trans (by decide) h
  have ha : Arithmetic.add.faultKinds ⊆ kinds := List.Subset.trans (by decide) h
  unfold sumFilter
  refine .bind (Signature.within_bind ht _ _) fun values => ?_
  refine .bind (within_pathOf hv _) fun path => ?_
  refine .bind (Datum.within_cursor ht _) fun c => ?_
  extract_lets start
  clear_value start
  split
  · exact within_typeFault ht _
  · exact within_typeFault ht _
  · exact within_rethrow h (f := fun items => items.foldlM _ start) (by grind) (by grind)

theorem within_sortFilter (d : Datum) (i : Inputs) : Within R kinds (sortFilter d i) := by
  have ht : FailureKind.type ∈ kinds := h (by decide)
  have hv : FailureKind.value ∈ kinds := h (by decide)
  have hd : FailureKind.depth ∈ kinds := h (by decide)
  have hu : FailureKind.undefined ∈ kinds := h (by decide)
  have hp : partsKinds ⊆ kinds := List.Subset.trans (by decide) h
  have hc : Cursor.faultKinds ⊆ kinds := List.Subset.trans (by decide) h
  unfold sortFilter
  refine .bind (Signature.within_bind ht _ _) fun values => ?_
  refine .bind (within_givenTrue _ _ _) fun b => ?_
  refine .bind (within_pathsOf hv _) fun paths => .bind (Datum.within_items ht hc d) fun items => ?_
  refine .bind (.mapM fun e _ => ?_) fun keyed => ?_
  -- All keys are looked for before two of them are compared.
  · refine .bind (.mapM fun path _ => ?_) fun keys => .pure _
    exact .bind (within_follow hp path _ e) fun k => .pure _
  · refine .bind (within_givenTrue _ _ _) fun falling => ?_
    exact .bind (within_sortBy hd ht hu _ _) fun sorted => within_newList _

@[grind .]
theorem within_neighbours (things : List (Datum × Datum)) : Within R kinds (neighbours things) := by
  have hd : FailureKind.depth ∈ kinds := h (by decide)
  induction things with
  | nil => exact .pure []
  | cons x rest ih => grind [neighbours]

theorem within_groupFilter (d : Datum) (i : Inputs) : Within R kinds (groupFilter d i) := by
  have ht : FailureKind.type ∈ kinds := h (by decide)
  have hv : FailureKind.value ∈ kinds := h (by decide)
  have hd : FailureKind.depth ∈ kinds := h (by decide)
  have hu : FailureKind.undefined ∈ kinds := h (by decide)
  have hp : partsKinds ⊆ kinds := List.Subset.trans (by decide) h
  have hc : Cursor.faultKinds ⊆ kinds := List.Subset.trans (by decide) h
  unfold groupFilter
  refine .bind (Signature.within_bind ht _ _) fun values => ?_
  extract_lets otherwise
  clear_value otherwise
  refine .bind (within_givenTrue _ _ _) fun b => .bind (within_pathOf hv _) fun path => ?_
  refine .bind (Datum.within_items ht hc d) fun items => .bind (.mapM fun e _ => ?_) fun keyed => ?_
  · exact .bind (within_follow hp path _ e) fun k => .pure _
  · refine .bind (within_sortKeyed hd ht hu _) fun sorted => ?_
    refine .bind (within_neighbours h sorted) fun groups => ?_
    refine .bind (.mapM fun g _ => ?_) fun rows => ?_
    · dsimp only
      split <;> grind
    · exact within_newList rows

theorem within_dictsortFilter (hr : FailureKind.run ∈ kinds) (ha : FailureKind.attribute ∈ kinds)
    (d : Datum) (i : Inputs) : Within R kinds (dictsortFilter d i) := by
  have ht : FailureKind.type ∈ kinds := h (by decide)
  have hd : FailureKind.depth ∈ kinds := h (by decide)
  have hu : FailureKind.undefined ∈ kinds := h (by decide)
  unfold dictsortFilter
  refine .bind (Signature.within_bind ht _ _) fun values => ?_
  extract_lets pairs goOn
  have hpairs : Within R kinds pairs := by
    dsimp only [pairs]
    split <;> grind
  clear_value pairs
  have hgoOn (byValue : Bool) : Within R kinds (goOn byValue) := by
    refine .bind (within_givenTrue _ _ _) fun b => .bind hpairs fun ps => ?_
    refine .bind (.mapM fun e _ => .bind (within_newTuple _) fun t => .pure _) fun keyed => ?_
    refine .bind (within_givenTrue _ _ _) fun falling => ?_
    exact .bind (within_sortBy hd ht hu _ _) fun sorted => within_newList _
  clear_value goOn
  split <;> grind

end

/-! ### Filters that make streams -/

section
variable (hall : FailureKind.all ⊆ R.admitted)
include hall

@[grind .]
theorem keeps_reverseFilter (d : Datum) (i : Inputs) : Keeps R (reverseFilter d i) := by
  unfold reverseFilter
  split <;> grind

@[grind .]
theorem keeps_uniqueFilter (d : Datum) (i : Inputs) : Keeps R (uniqueFilter d i) := by
  grind [uniqueFilter]

@[grind .]
theorem keeps_itemsFilter (d : Datum) (i : Inputs) : Keeps R (itemsFilter d i) := by
  grind [itemsFilter]

@[grind .]
theorem keeps_batchFilter (d : Datum) (i : Inputs) : Keeps R (batchFilter d i) := by
  grind [batchFilter]

@[grind .]
theorem keeps_sliceFilter (d : Datum) (i : Inputs) : Keeps R (sliceFilter d i) := by
  grind [sliceFilter]

end

/-! ### All filters -/

/-- What the filter of a name fails with. -/
def filterKinds (name : String) : List FailureKind :=
  match valueFilter? name, plainTextFilter? name with
  | some (_, _, f), _ => f.callKinds
  | none, some _ => shownKinds
  | none, none =>
    match name with
    | "default" | "d" | "abs" => [.type]
    | "escape" | "e" | "wordcount" | "trim" | "pprint" | "tojson" => shownKinds
    | "attr" => [.type, .undefined, .depth]
    | "int" | "float" => [.type, .undefined, .overflow]
    | "round" => roundKinds
    | "regex_replace" => substituteKinds
    | "indent" => [.type, .undefined, .attribute]
    | "truncate" => .assertion :: shownKinds
    | "replace" => .overflow :: shownKinds
    | "center" => .overflow :: .memory :: shownKinds
    | "format" => .run :: percentKinds
    | "urlencode" => addressKinds
    | "length" | "count" => [.type, .overflow]
    | "first" | "last" | "list" => .type :: Cursor.faultKinds
    | "min" | "max" | "join" | "sum" | "sort" | "groupby" => orderKinds
    | "dictsort" => .run :: .attribute :: orderKinds
    | _ => FailureKind.all

theorem within_escape (h : shownKinds ⊆ kinds) (d : Datum) (i : Inputs) :
    Within R kinds (applyFilter "escape" d i) := by
  refine .bind (Inputs.within_one (h (by decide)) _ _) fun d => ?_
  exact .bind (within_shownChars (h (by decide)) (h (by decide)) d) fun s => .pure _

theorem within_applyFilter (name : String) (h : filterKinds name ⊆ R.admitted) (d : Datum)
    (i : Inputs) : Within R R.admitted (applyFilter name d i) := by
  unfold filterKinds at h
  split at h
  · rename_i full parameter f hname
    have ht : FailureKind.type ∈ R.admitted := h f.type_mem_callKinds
    unfold applyFilter
    simp only [hname]
    exact .bind (within_alone ht _ _ _ _ _) fun _ => within_valueFilter h d
  · rename_i p hname hplain
    obtain ⟨full, parameter, f⟩ := p
    have ht : FailureKind.type ∈ R.admitted := h (by decide)
    have hd : FailureKind.depth ∈ R.admitted := h (by decide)
    have hv : FailureKind.value ∈ R.admitted := h (by decide)
    unfold applyFilter textFilter?
    simp only [hname, hplain]
    refine .bind (within_alone ht _ _ _ _ _) fun _ => ?_
    exact .bind (within_shownChars hd hv d) fun s => .pure _
  · rename_i hname hplain
    -- One case for each name, in the order of `filterKinds`.
    split at h
    · exact within_defaultFilter (h (by decide)) d i
    · exact within_defaultFilter (h (by decide)) d i
    · exact within_absoluteFilter (h (by decide)) d i
    · exact within_escape h d i
    · exact within_escape h d i
    · refine .bind (within_alone (h (by decide)) _ _ _ d i) fun _ => ?_
      exact .bind (within_shownChars (h (by decide)) (h (by decide)) d) fun s => .pure _
    · exact within_trimFilter h d i
    · refine .bind (within_alone (h (by decide)) _ _ _ d i) fun _ => ?_
      exact .bind (Datum.within_literal (h (by decide)) (h (by decide)) d) fun s => .pure _
    · exact within_tojsonFilter (h (by decide)) (h (by decide)) (h (by decide)) d i
    · exact within_attrFilter (h (by decide)) (h (by decide)) (h (by decide)) d i
    · exact within_intFilter (h (by decide)) (h (by decide)) (h (by decide)) d i
    · exact within_floatFilter (h (by decide)) (h (by decide)) (h (by decide)) d i
    · exact within_roundFilter h d i
    · exact within_substituteFilter h d i
    · exact within_indentFilter (h (by decide)) (h (by decide)) (h (by decide)) d i
    · exact within_truncateFilter h d i
    · exact within_replaceFilter h d i
    · refine .bind (Signature.within_bind (h (by decide)) _ _) fun values => ?_
      refine .bind (within_shownChars (h (by decide)) (h (by decide)) d) fun s => ?_
      refine .bind (within_widthOf (h (by decide)) (h (by decide)) (h (by decide)) _) fun n => ?_
      exact .pure _
    · exact within_formatFilter h d i
    · exact within_addressFilter h d i
    · exact within_lengthFilter (h (by decide)) (h (by decide)) d i
    · exact within_lengthFilter (h (by decide)) (h (by decide)) d i
    · exact within_firstFilter (h (by decide)) (h (by decide)) d i
    · exact within_lastFilter (h (by decide)) (List.Subset.trans (by decide) h) d i
    · exact within_listFilter (h (by decide)) (List.Subset.trans (by decide) h) d i
    · exact within_extremeFilter h _ _ d i
    · exact within_extremeFilter h _ _ d i
    · exact within_joinFilter h d i
    · exact within_sumFilter h d i
    · exact within_sortFilter h d i
    · exact within_groupFilter h d i
    · exact within_dictsortFilter (List.Subset.trans (by decide) h) (h (by decide))
        (h (by decide)) d i
    -- The filters that make streams are among the names that are left, and unknown names are.
    · refine .of_all h ?_
      unfold applyFilter textFilter?
      simp only [hname, hplain]
      cases hsequence : sequenceFilter? name with
      | none =>
        dsimp only
        split
        · exact .throw (FailureKind.mem_all _)
        · exact within_runFault (FailureKind.mem_all _) _
      | some f =>
        -- The filters of sequences that have not been listed make streams.
        unfold sequenceFilter? at hsequence
        split at hsequence
        all_goals cases hsequence
        all_goals grind

/-! ### Tests -/

@[grind .]
theorem Datum.within_isCallable (d : Datum) : Within R kinds d.isCallable := by
  unfold isCallable
  split <;> grind

@[grind .]
theorem Datum.within_isMapping (d : Datum) : Within R kinds d.isMapping := by
  unfold isMapping
  split <;> grind

@[grind .]
theorem Datum.within_isSequence (d : Datum) : Within R kinds d.isSequence := by
  unfold isSequence
  split <;> grind

/-- A test of the kind of a datum fails only in showing it as a text. -/
theorem within_kindTest? (h : shownKinds ⊆ kinds) {name full parameter : String}
    {test : Datum → Eval Bool} (htest : kindTest? name = some (full, parameter, test)) (d : Datum) :
    Within R kinds (test d) := by
  have ht : FailureKind.type ∈ kinds := h (by decide)
  have hd : FailureKind.depth ∈ kinds := h (by decide)
  have hv : FailureKind.value ∈ kinds := h (by decide)
  unfold kindTest? at htest
  split at htest
  all_goals cases htest
  -- Whether a datum is iterable is found by trying, and no failure comes of it.
  case h_13 => exact .bind_attempt (Datum.within_cursor ht d) (fun _ => .pure _) fun _ _ => .pure _
  all_goals first | exact .pure _ | grind

/-- What asking whether a remainder is a number fails with. -/
theorem within_remainderIs (h : Arithmetic.remainder.faultKinds ⊆ kinds) (d by_ : Datum) (n : Int) :
    Within R kinds (remainderIs d by_ n) := by
  have hd : FailureKind.depth ∈ kinds := h (by decide)
  have hp : percentKinds ⊆ kinds := List.Subset.trans (by decide) h
  unfold remainderIs
  split <;> grind

/-- What the test of a name fails with. -/
def testKinds (name : String) : List FailureKind :=
  match kindTest? name, relationTest? name with
  | some _, _ => shownKinds
  | none, some (_, rel) => .type :: rel.faultKinds
  | none, none =>
    match name with
    | "odd" | "even" | "divisibleby" => Arithmetic.remainder.faultKinds
    | "in" => partKinds
    | "sameas" | "callable" => [.type]
    | "filter" | "test" => [.type, .depth]
    | _ => [.run]

theorem within_checkOperands (ht : FailureKind.type ∈ kinds) (name : String) (i : Inputs) :
    Within R kinds (checkOperands name i) := by
  grind [checkOperands]

theorem within_applyTest (filters : List String) (name : String) (h : testKinds name ⊆ kinds)
    (d : Datum) (i : Inputs) : Within R kinds (applyTest filters name d i) := by
  unfold testKinds at h
  split at h
  · rename_i p hname
    obtain ⟨full, parameter, test⟩ := p
    unfold applyTest
    simp only [hname]
    refine .bind (within_alone (h (by decide)) _ _ _ d i) fun _ => ?_
    exact within_kindTest? h hname d
  · rename_i full rel hname hrel
    unfold applyTest
    simp only [hname, hrel]
    refine .bind (within_checkOperands (h List.mem_cons_self) _ _) fun _ => ?_
    exact Datum.within_holds (fun k hk => h (List.mem_cons_of_mem _ hk)) _ _
  · split at h
    · exact .bind (within_alone (h (by decide)) _ _ _ d i) fun _ => within_remainderIs h _ _ _
    · exact .bind (within_alone (h (by decide)) _ _ _ d i) fun _ => within_remainderIs h _ _ _
    · exact .bind (Signature.within_bind (h (by decide)) _ _) fun values =>
        within_remainderIs h _ _ _
    · exact .bind (Signature.within_bind (h (by decide)) _ _) fun values => Datum.within_isIn h _ _
    · exact .bind (Signature.within_bind (h (by decide)) _ _) fun values => .pure _
    · exact .bind (Inputs.within_one (h (by decide)) _ _) fun d => Datum.within_isCallable d
    · refine .bind (within_alone (h (by decide)) _ _ _ d i) fun _ => ?_
      refine .bind (Datum.within_checkKey (h (by decide)) (h (by decide)) d) fun _ => ?_
      split <;> exact .pure _
    · refine .bind (within_alone (h (by decide)) _ _ _ d i) fun _ => ?_
      refine .bind (Datum.within_checkKey (h (by decide)) (h (by decide)) d) fun _ => ?_
      split <;> exact .pure _
    -- A name that no test has is a failure of its own.
    · have hname : kindTest? name = none := by assumption
      have hrel : relationTest? name = none := by assumption
      unfold applyTest
      simp only [hname, hrel]
      exact within_runFault (h (by decide)) _

end Template

end Playbook
