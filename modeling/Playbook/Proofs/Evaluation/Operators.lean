import Playbook.Proofs.Evaluation.Data
import Playbook.Template.Filter

/-!
# What operators fail with

An operator fails with what it does to its operands: adding with operands of wrong types, dividing
with zero besides, and a text before a percent sign with whatever its conversions ask for. A part
that is not there is no failure of whoever looks for it, since it may be an attribute or an item,
and is only missing if it is neither (`Datum.within_bind_subscript`).

Main definitions: `Arithmetic.faultKinds`, `subscriptKinds`, `partsKinds`, `sliceKinds`.

Main statements: `Datum.within_arithmetic`, `within_formatPercent`, `Datum.within_member`,
`Datum.within_item`, `Datum.within_slice`, `Signature.within_bind`.
-/

namespace Playbook.Template

open Eval

variable {R : Regime} {kinds : List FailureKind} {α β : Type}

/-! ### Arithmetic -/

/-- What an operation fails with. -/
def Arithmetic.faultKinds : Arithmetic → List FailureKind
  | .add => [.type, .undefined, .overflow]
  | .subtract => [.type, .undefined, .overflow, .mutation, .memory, .depth]
  | .multiply => [.type, .undefined, .overflow, .memory]
  | .divide | .floorDivide | .power => [.type, .undefined, .overflow, .zeroDivision]
  | .remainder =>
    [.type, .undefined, .overflow, .zeroDivision, .key, .index, .depth, .value]

theorem Arithmetic.overflow_mem (op : Arithmetic) : FailureKind.overflow ∈ op.faultKinds := by
  cases op <;> decide

theorem Arithmetic.type_mem (op : Arithmetic) : FailureKind.type ∈ op.faultKinds := by
  cases op <;> decide

theorem Arithmetic.undefined_mem (op : Arithmetic) : FailureKind.undefined ∈ op.faultKinds := by
  cases op <;> decide

@[grind .]
theorem within_refuseOperands (h : FailureKind.type ∈ kinds) (sign : String) (a b : Datum) :
    Within R kinds (refuseOperands sign a b) := by
  grind [refuseOperands]

@[grind .]
theorem within_refuseJoin (h : FailureKind.type ∈ kinds) (type : String) (b : Datum) :
    Within R kinds (refuseJoin type b) := by
  grind [refuseJoin]

@[grind .]
theorem failsIn_doubleOf (h : FailureKind.overflow ∈ kinds) (i : Int) :
    FailsIn kinds (doubleOf i) := by
  grind [doubleOf]

@[grind .]
theorem failsIn_double (h : FailureKind.overflow ∈ kinds) (n : Scalar.Number) :
    FailsIn kinds (Number.double n) := by
  cases n <;> grind [Number.double]

@[grind .]
theorem failsIn_byZero (h : FailureKind.zeroDivision ∈ kinds) (message : String) :
    FailsIn kinds (byZero message : Except Failure α) := by
  grind [byZero]

@[grind .]
theorem failsIn_quotient (ho : FailureKind.overflow ∈ kinds) (hz : FailureKind.zeroDivision ∈ kinds)
    (a b : Int) : FailsIn kinds (quotient a b) := by
  grind [quotient]

@[grind .]
theorem failsIn_doublePower (ho : FailureKind.overflow ∈ kinds)
    (hz : FailureKind.zeroDivision ∈ kinds) (x y : Binary64) :
    FailsIn kinds (doublePower x y) := by
  grind [doublePower]

theorem failsIn_onInts {op : Arithmetic} (h : op.faultKinds ⊆ kinds) (a b : Int) :
    FailsIn kinds (onInts op a b) := by
  have ho : FailureKind.overflow ∈ kinds := h op.overflow_mem
  cases op with
  | add | subtract | multiply => exact .ok _
  | divide | floorDivide | remainder | power =>
    have hz : FailureKind.zeroDivision ∈ kinds := h (by decide)
    grind [onInts]

theorem failsIn_onDoubles {op : Arithmetic} (h : op.faultKinds ⊆ kinds) (x y : Binary64) :
    FailsIn kinds (onDoubles op x y) := by
  have ho : FailureKind.overflow ∈ kinds := h op.overflow_mem
  cases op with
  | add | subtract | multiply => exact .ok _
  | divide | floorDivide | remainder | power =>
    have hz : FailureKind.zeroDivision ∈ kinds := h (by decide)
    grind [onDoubles]

theorem failsIn_onNumbers {op : Arithmetic} (h : op.faultKinds ⊆ kinds) (a b : Scalar.Number) :
    FailsIn kinds (onNumbers op a b) := by
  have ho : FailureKind.overflow ∈ kinds := h op.overflow_mem
  have hints (i j : Int) : FailsIn kinds (onInts op i j) := failsIn_onInts h i j
  have hdoubles (x y : Binary64) : FailsIn kinds (onDoubles op x y) := failsIn_onDoubles h x y
  unfold onNumbers
  split <;> grind

@[grind .]
theorem within_calculate {op : Arithmetic} (h : op.faultKinds ⊆ kinds) (a b : Scalar.Number) :
    Within R kinds (calculate op a b) := by
  have hn : FailsIn kinds (onNumbers op a b) := failsIn_onNumbers h a b
  unfold calculate
  grind

@[grind .]
theorem within_checkRepeated (ho : FailureKind.overflow ∈ kinds) (hm : FailureKind.memory ∈ kinds)
    (length : Nat) (count : Int) {f : Failure} (hf : f.kind ∈ kinds) :
    Within R kinds (checkRepeated length count f) := by
  grind [checkRepeated, noMemory]

@[grind .]
theorem within_newMoment (h : FailureKind.overflow ∈ kinds) (s : Option Scalar) :
    Within R kinds (newMoment s) := by
  cases s <;> grind [newMoment]

theorem within_laterMoment? (h : FailureKind.overflow ∈ kinds) {d : Datum} {s : Span}
    {x : Eval Datum} (hx : laterMoment? d s = some x) : Within R kinds x := by
  unfold laterMoment? at hx
  split at hx <;> grind

theorem within_spanBetween? (h : FailureKind.type ∈ kinds) {a b : Datum}
    {x : Eval Datum} (hx : spanBetween? a b = some x) : Within R kinds x := by
  unfold spanBetween? at hx
  split at hx <;> grind

theorem within_onMoments? {op : Arithmetic} (h : op.faultKinds ⊆ kinds) {a b : Datum}
    {x : Eval Datum} (hx : onMoments? op a b = some x) : Within R kinds x := by
  have ho : FailureKind.overflow ∈ kinds := h op.overflow_mem
  have ht : FailureKind.type ∈ kinds := h op.type_mem
  unfold onMoments? at hx
  -- A case for each pair of operands that are moments, spans or numbers of spans.
  extract_lets integer at hx
  split at hx
  · grind
  · exact within_laterMoment? ho hx
  · exact within_laterMoment? ho hx
  · grind
  · grind
  · exact within_laterMoment? ho hx
  · exact within_spanBetween? ht hx
  · grind
  · grind
  · have hz : FailureKind.zeroDivision ∈ kinds := h (by decide)
    grind
  · have hints (i j : Int) : FailsIn kinds (onInts .floorDivide i j) := failsIn_onInts h i j
    grind
  · have hz : FailureKind.zeroDivision ∈ kinds := h (by decide)
    grind
  · grind

namespace Datum

@[grind .]
theorem within_add (h : Arithmetic.add.faultKinds ⊆ kinds) (a b : Datum) :
    Within R kinds (a.add b) := by
  have hu : FailureKind.undefined ∈ kinds := h (by decide)
  have ht : FailureKind.type ∈ kinds := h (by decide)
  have hm (x : Eval Datum) : onMoments? .add a b = some x → Within R kinds x :=
    within_onMoments? h
  unfold add
  split <;> grind

@[grind .]
theorem within_repeat? (ho : FailureKind.overflow ∈ kinds) (hm : FailureKind.memory ∈ kinds)
    (d : Datum) (n : Int) : Within R kinds (d.repeat? n) := by
  unfold repeat?
  split <;> grind [noMemory]

@[grind .]
theorem within_isRepeatable (d : Datum) : Within R kinds d.isRepeatable := by
  unfold isRepeatable
  split <;> grind

@[grind .]
theorem within_multiply (h : Arithmetic.multiply.faultKinds ⊆ kinds) (a b : Datum) :
    Within R kinds (a.multiply b) := by
  have hu : FailureKind.undefined ∈ kinds := h (by decide)
  have ht : FailureKind.type ∈ kinds := h (by decide)
  have ho : FailureKind.overflow ∈ kinds := h (by decide)
  have hmem : FailureKind.memory ∈ kinds := h (by decide)
  have hm (x : Eval Datum) : onMoments? .multiply a b = some x → Within R kinds x :=
    within_onMoments? h
  unfold multiply
  -- A sequence may stand on either side of the sign.
  extract_lets sequenceTimes
  have hs (d times) : Within R kinds (sequenceTimes d times) := by grind
  clear_value sequenceTimes
  split <;> grind

@[grind .]
theorem within_setItems? (d : Datum) : Within R kinds d.setItems? := by
  unfold setItems?
  split <;> grind

@[grind .]
theorem within_difference (h : Arithmetic.subtract.faultKinds ⊆ kinds) (a b : Datum) :
    Within R kinds (a.difference b) := by
  have ht : FailureKind.type ∈ kinds := h (by decide)
  have hd : FailureKind.depth ∈ kinds := h (by decide)
  have hc : Cursor.faultKinds ⊆ kinds := List.Subset.trans (by decide) h
  grind [difference]

@[grind .]
theorem within_arithmetic {op : Arithmetic} (h : op.faultKinds ⊆ kinds) (a b : Datum) :
    Within R kinds (a.arithmetic op b) := by
  have hu : FailureKind.undefined ∈ kinds := h op.undefined_mem
  have ht : FailureKind.type ∈ kinds := h op.type_mem
  have hm (x : Eval Datum) : onMoments? op a b = some x → Within R kinds x :=
    within_onMoments? h
  unfold arithmetic
  split
  · exact within_add h a b
  · exact within_multiply h a b
  · split
    · exact within_missingFault hu _
    · exact within_missingFault hu _
    · split
      · exact within_calculate h _ _
      -- They are not both numbers, so they may be sets, which have a difference.
      · refine .bind (within_setItems? _) fun as => .bind (within_setItems? _) fun bs => ?_
        split <;> grind

@[grind .]
theorem within_signed (ht : FailureKind.type ∈ kinds) (hu : FailureKind.undefined ∈ kinds)
    (s : Signum) (d : Datum) : Within R kinds (d.signed s) := by
  unfold signed
  split <;> grind

end Datum

@[grind .]
theorem within_asIndex (h : FailureKind.type ∈ kinds) (d : Datum) : Within R kinds (asIndex d) := by
  grind [asIndex]

@[grind .]
theorem within_asSize (h : FailureKind.type ∈ kinds) (ho : FailureKind.overflow ∈ kinds)
    (d : Datum) : Within R kinds (asSize d) := by
  grind [asSize, sizeOverflow]

/-! ### Parts -/

@[grind .]
theorem within_itemAt (h : FailureKind.index ∈ kinds) (what : String) (items : List α) (i : Int) :
    Within R kinds (itemAt what items i) := by
  grind [itemAt]

@[grind .]
theorem within_positionOf (h : FailureKind.type ∈ kinds) (what : String) (d : Datum) :
    Within R kinds (positionOf what d) := by
  grind [positionOf]

@[grind .]
theorem within_missingKey (hk : FailureKind.key ∈ kinds) (hd : FailureKind.depth ∈ kinds)
    (hv : FailureKind.value ∈ kinds) (d : Datum) : Within R kinds (missingKey d : Eval α) := by
  grind [missingKey]

@[grind .]
theorem within_refuseSubscript (h : FailureKind.type ∈ kinds) (d : Datum) :
    Within R kinds (refuseSubscript d : Eval α) := by
  grind [refuseSubscript]

/-- What asking for the item at an index fails with. -/
def subscriptKinds : List FailureKind := [.type, .key, .index, .undefined, .depth, .value]

@[grind .]
theorem Datum.within_subscript (h : subscriptKinds ⊆ kinds) (d index : Datum) :
    Within R kinds (d.subscript index) := by
  have ht : FailureKind.type ∈ kinds := h (by decide)
  have hk : FailureKind.key ∈ kinds := h (by decide)
  have hi : FailureKind.index ∈ kinds := h (by decide)
  have hu : FailureKind.undefined ∈ kinds := h (by decide)
  have hd : FailureKind.depth ∈ kinds := h (by decide)
  have hv : FailureKind.value ∈ kinds := h (by decide)
  unfold subscript
  split <;> grind

@[grind .]
theorem Datum.within_bound? (h : FailureKind.type ∈ kinds) (d : Datum) :
    Within R kinds d.bound? := by
  unfold bound?
  split <;> grind

/-- What asking for the items between two positions fails with. -/
def sliceKinds : List FailureKind := [.type, .value, .undefined]

@[grind .]
theorem Datum.within_slice (h : sliceKinds ⊆ kinds) (d start stop step : Datum) :
    Within R kinds (d.slice start stop step) := by
  have ht : FailureKind.type ∈ kinds := h (by decide)
  have hv : FailureKind.value ∈ kinds := h (by decide)
  have hu : FailureKind.undefined ∈ kinds := h (by decide)
  unfold slice
  extract_lets bounds
  have hbounds : Within R kinds bounds := by grind
  clear_value bounds
  split <;> grind

@[grind .]
theorem within_loopField? (h : Cursor.faultKinds ⊆ R.admitted) (r : Ref) (name : String) :
    Within R kinds (loopField? r name) := by
  unfold loopField?
  refine .bind (within_loopState r) fun s => ?_
  split <;> grind

@[grind .]
theorem Datum.within_field? (h : FailureKind.undefined ∈ kinds) (d : Datum) (name : String) :
    Within R kinds (d.field? name) := by
  unfold field?
  extract_lets method
  split <;> grind

@[grind .]
theorem Datum.within_attribute? (h : FailureKind.undefined ∈ kinds) (d : Datum) (name : String) :
    Within R kinds (d.attribute? name) := by
  unfold attribute?
  split <;> grind

@[grind .]
theorem Datum.within_refuseField (h : FailureKind.attribute ∈ kinds) (d : Datum) (name : String) :
    Within R kinds (d.refuseField name : Eval α) := by
  grind [refuseField]

@[grind .]
theorem Datum.within_absent (hd : FailureKind.depth ∈ kinds) (d key : Datum) :
    Within R kinds (d.absent key) := by
  unfold absent
  refine .bind (within_description d) fun owner => ?_
  split <;> grind

/-- The failures that say that a part is not there. -/
def absentKinds : List FailureKind := [.type, .key, .index, .attribute]

theorem Datum.saysAbsent_iff {f : Failure} : saysAbsent f = true ↔ f.kind ∈ absentKinds := by
  obtain ⟨kind, message⟩ := f
  cases kind <;> simp [saysAbsent, absentKinds]

/-- What looking for a part that may be an attribute or an item fails with. -/
def partsKinds : List FailureKind := [.undefined, .depth, .value]

/-- A part that is not there is no failure of whoever looks for it. -/
theorem Datum.within_bind_subscript (h : partsKinds ⊆ kinds) (d index : Datum)
    {f : Except Failure Datum → Eval β} (hok : ∀ e, Within R kinds (f (.ok e)))
    (herror : ∀ e : Failure, (saysAbsent e = false → e.kind ∈ kinds) →
      Within R kinds (f (.error e))) : Within R kinds (attempt (d.subscript index) >>= f) := by
  have hsub : kinds ⊆ kinds ++ absentKinds := List.subset_append_left _ _
  -- The item is looked for with more ways to fail, and those that say it is absent are caught.
  have hkinds : subscriptKinds ⊆ kinds ++ absentKinds :=
    List.Subset.trans (by decide : subscriptKinds ⊆ partsKinds ++ absentKinds)
      (List.append_subset.2 ⟨List.Subset.trans h hsub, List.subset_append_right _ _⟩)
  refine .bind_attempt_of_subset hsub (within_subscript hkinds d index) hok fun e he => ?_
  refine herror e fun hsays => ?_
  rcases List.mem_append.mp he with he | he
  · exact he
  · -- It says that the part is absent, so it is not one that is thrown again.
    rw [saysAbsent_iff.mpr he] at hsays
    cases hsays

@[grind .]
theorem Datum.within_member (h : partsKinds ⊆ kinds) (d : Datum) (name : String) :
    Within R kinds (d.member name) := by
  have hu : FailureKind.undefined ∈ kinds := h (by decide)
  have hd : FailureKind.depth ∈ kinds := h (by decide)
  unfold member
  refine .bind (within_attribute? hu d name) fun found => ?_
  split
  · exact .pure _
  · refine within_bind_subscript h d _ (fun e => .pure e) fun e he => ?_
    dsimp only
    split
    · exact within_absent hd d _
    · exact .throw (he (by grind))

@[grind .]
theorem Datum.within_item (h : partsKinds ⊆ kinds) (d index : Datum) :
    Within R kinds (d.item index) := by
  have hu : FailureKind.undefined ∈ kinds := h (by decide)
  have hd : FailureKind.depth ∈ kinds := h (by decide)
  unfold item
  refine within_bind_subscript h d _ (fun e => .pure e) fun e he => ?_
  dsimp only
  split
  · split <;> grind
  · exact .throw (he (by grind))

/-! ### Texts with percent signs -/

/-- What filling data into a text fails with. -/
def percentKinds : List FailureKind := .overflow :: subscriptKinds

section Percent

@[grind .]
theorem Operands.within_next (h : FailureKind.type ∈ kinds) (o : Operands) :
    Within R kinds o.next := by
  unfold next
  split <;> grind [tooFew]

@[grind .]
theorem Operands.within_nextCount (h : FailureKind.type ∈ kinds) (o : Operands) :
    Within R kinds o.nextCount := by
  grind [nextCount]

@[grind .]
theorem Datum.within_isKeyed (d : Datum) : Within R kinds d.isKeyed := by
  unfold isKeyed
  split <;> grind

theorem within_takeWidth (h : percentKinds ⊆ kinds) (c : Conversion) (o : Operands)
    (cs : List Char) : Within R kinds (takeWidth c o cs) := by
  have ht : FailureKind.type ∈ kinds := h (by decide)
  have hv : FailureKind.value ∈ kinds := h (by decide)
  have ho : FailureKind.overflow ∈ kinds := h (by decide)
  unfold takeWidth
  split <;> grind [tooLargeFor]

theorem within_takePrecision (h : percentKinds ⊆ kinds) (c : Conversion) (o : Operands)
    (cs : List Char) : Within R kinds (takePrecision c o cs) := by
  have ht : FailureKind.type ∈ kinds := h (by decide)
  have hv : FailureKind.value ∈ kinds := h (by decide)
  have ho : FailureKind.overflow ∈ kinds := h (by decide)
  unfold takePrecision
  split <;> grind [tooLargeFor]

theorem Datum.within_asInteger (h : percentKinds ⊆ kinds) (d : Datum) (letter : Char) :
    Within R kinds (d.asInteger letter) := by
  have ht : FailureKind.type ∈ kinds := h (by decide)
  have hv : FailureKind.value ∈ kinds := h (by decide)
  have hu : FailureKind.undefined ∈ kinds := h (by decide)
  have ho : FailureKind.overflow ∈ kinds := h (by decide)
  unfold asInteger
  extract_lets whole wanted refuse
  have hrefuse : Within R kinds refuse := by grind
  clear_value refuse
  split <;> grind

theorem Datum.within_asDouble (h : percentKinds ⊆ kinds) (d : Datum) :
    Within R kinds d.asDouble := by
  have ht : FailureKind.type ∈ kinds := h (by decide)
  have hu : FailureKind.undefined ∈ kinds := h (by decide)
  have ho : FailureKind.overflow ∈ kinds := h (by decide)
  unfold asDouble
  split <;> grind

theorem Datum.within_asChar (h : percentKinds ⊆ kinds) (d : Datum) : Within R kinds d.asChar := by
  have ht : FailureKind.type ∈ kinds := h (by decide)
  have ho : FailureKind.overflow ∈ kinds := h (by decide)
  unfold asChar
  split <;> grind

theorem Conversion.within_show? (h : percentKinds ⊆ kinds) (c : Conversion) (letter : Char)
    (d : Datum) : Within R kinds (c.show? letter d) := by
  have hd : FailureKind.depth ∈ kinds := h (by decide)
  have hv : FailureKind.value ∈ kinds := h (by decide)
  have hinteger : Within R kinds (d.asInteger letter) := Datum.within_asInteger h d letter
  have hdouble : Within R kinds d.asDouble := Datum.within_asDouble h d
  have hchar : Within R kinds d.asChar := Datum.within_asChar h d
  unfold show?
  split <;> grind

theorem within_fillPercent (h : percentKinds ⊆ kinds) (whole : Datum) (length fuel : Nat)
    (o : Operands) (cs : List Char) : Within R kinds (fillPercent whole length fuel o cs) := by
  have ht : FailureKind.type ∈ kinds := h (by decide)
  have hv : FailureKind.value ∈ kinds := h (by decide)
  have hs : subscriptKinds ⊆ kinds := fun k hk => h (List.mem_cons_of_mem _ hk)
  have hwidth (c : Conversion) (o : Operands) (cs : List Char) :
      Within R kinds (takeWidth c o cs) := within_takeWidth h c o cs
  have hprecision (c : Conversion) (o : Operands) (cs : List Char) :
      Within R kinds (takePrecision c o cs) := within_takePrecision h c o cs
  have hshow (c : Conversion) (letter : Char) (d : Datum) :
      Within R kinds (c.show? letter d) := c.within_show? h letter d
  induction fuel generalizing o cs with
  | zero => grind [fillPercent]
  | succ fuel ih =>
    -- The text may be at its end, at a doubled sign, at a conversion or at any other character.
    unfold fillPercent
    split
    · exact .pure _
    · exact .pure _
    · rename_i heq
      cases heq
      exact .bind (ih _ _) fun _ => .pure _
    · rename_i heq
      cases heq
      extract_lets goOn
      have hgoOn (x : Operands × List Char) : Within R kinds (goOn x) := by
        -- A width and a precision may each take an operand before the one that is shown.
        dsimp only [goOn]
        refine .bind (hwidth _ _ _) fun (c, o, cs) => .bind (hprecision c o cs) fun (c, o, cs) => ?_
        split
        · exact within_valueFault hv _
        · refine .bind (Operands.within_next ht o) fun (d, o) => .bind (hshow c _ d) fun shown => ?_
          split
          · exact .bind (ih _ _) fun _ => .pure _
          · exact within_valueFault hv _
      clear_value goOn
      split
      · split
        · split <;> grind
        · grind
      · grind
    · rename_i heq
      cases heq
      exact .bind (ih _ _) fun _ => .pure _

@[grind .]
theorem within_formatPercent (h : percentKinds ⊆ kinds) (text : String) (d : Datum) :
    Within R kinds (formatPercent text d) := by
  have ht : FailureKind.type ∈ kinds := h (by decide)
  have hfill (length fuel : Nat) (o : Operands) (cs : List Char) :
      Within R kinds (fillPercent d length fuel o cs) := within_fillPercent h d length fuel o cs
  unfold formatPercent
  split <;> grind

end Percent

/-! ### Arguments -/

section Arguments

variable (ht : FailureKind.type ∈ kinds)
include ht

@[grind .]
theorem Inputs.within_unnamed (name : String) (i : Inputs) : Within R kinds (i.unnamed name) := by
  grind [unnamed]

@[grind .]
theorem Inputs.within_one (name : String) (i : Inputs) : Within R kinds (i.one name) := by
  grind [one]

@[grind .]
theorem Inputs.within_none (type name : String) (i : Inputs) :
    Within R kinds (i.none type name) := by
  grind [Inputs.none]

@[grind .]
theorem Inputs.within_between (type name : String) (least most : Nat) (i : Inputs) :
    Within R kinds (i.between type name least most) := by
  grind [between]

@[grind .]
theorem Inputs.within_given (type name : String) (least most : Nat) (i : Inputs) :
    Within R kinds (i.given type name least most) := by
  grind [given]

@[grind .]
theorem Inputs.within_optional (name : String) (names : List String) (i : Inputs) :
    Within R kinds (i.optional name names) := by
  grind [optional]

@[grind .]
theorem Signature.within_tooMany (s : Signature) (n : Nat) :
    Within R kinds (s.tooMany n : Eval α) := by
  grind [tooMany]

@[grind .]
theorem Signature.within_bind (s : Signature) (i : Inputs) : Within R kinds (s.bind i) := by
  grind [bind]

end Arguments

@[grind .]
theorem within_argumentFault (h : FailureKind.run ∈ kinds) (message : String) :
    Within R kinds (argumentFault message : Eval α) := by
  grind [argumentFault]

@[grind .]
theorem within_givenTrue (values : List (Option Datum)) (n : Nat) (o : Bool) :
    Within R kinds (givenTrue values n o) := by
  grind [givenTrue]

@[grind .]
theorem within_alone (ht : FailureKind.type ∈ kinds) (name parameter : String) (n : Nat) (d : Datum)
    (i : Inputs) : Within R kinds (alone name parameter n d i) :=
  .discard (Signature.within_bind ht _ _)

@[grind .]
theorem failsIn_pathPart (hv : FailureKind.value ∈ kinds) (part : List Char) :
    FailsIn kinds (pathPart part) := by
  grind [pathPart]

@[grind .]
theorem failsIn_dottedPath (hv : FailureKind.value ∈ kinds) (s : List Char) :
    FailsIn kinds (dottedPath s) := by
  grind [dottedPath]

@[grind .]
theorem within_pathOf (hv : FailureKind.value ∈ kinds) (d : Datum) : Within R kinds (pathOf d) := by
  unfold pathOf
  split <;> grind

@[grind .]
theorem within_pathsOf (hv : FailureKind.value ∈ kinds) (d : Datum) :
    Within R kinds (pathsOf d) := by
  unfold pathsOf
  split <;> grind

@[grind .]
theorem within_partOr (h : partsKinds ⊆ kinds) (o : Option Datum) (d key : Datum) :
    Within R kinds (partOr o d key) := by
  grind [partOr]

@[grind .]
theorem within_follow (h : partsKinds ⊆ kinds) (path : AttributePath) (o : Option Datum)
    (d : Datum) : Within R kinds (follow path o d) := by
  grind [follow]

end Playbook.Template
