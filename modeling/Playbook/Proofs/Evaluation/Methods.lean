import Playbook.Proofs.Evaluation.Words
import Playbook.Template.Method

/-!
# Calling the functions that belong to data

What is called may be anything, so a call is made only where everything is admitted, and what it
fails with is of no concern. What is shown is that the store is kept as it is to be: the functions
of data change the cells that they belong to, and make streams, but they note no marks.

Two functions call others: lists are sorted by keys that a function gives, and the fields of a text
are filled with operands that are asked for by name. For these it is assumed that the others keep to
the regime.

Main statements: `keeps_callMethod`, `keeps_callKnown`.
-/

namespace Playbook.Template

open Eval

variable {R : Regime} {kinds : List FailureKind} {α : Type}

/-! ### Texts -/

@[grind .]
theorem Datum.keeps_shown (d : Datum) (spec : List Char) : Keeps R (d.shown spec) := by
  grind [Datum.shown]

@[grind .]
theorem keeps_fieldParts (fuel : Nat) (cs : List Char) (d : Datum) :
    Keeps R (fieldParts fuel cs d) := by
  fun_induction fieldParts fuel cs d <;> grind

@[grind .]
theorem Datum.keeps_inForm (d : Datum) (form : Option Char) : Keeps R (d.inForm form) := by
  unfold Datum.inForm
  split <;> grind

/-- The operands of names stay the same. -/
theorem FieldOperands.ensures_find {o : FieldOperands} (hnamed : ∀ s, Keeps R (o.named s))
    (name : List Char) :
    Ensures R FailureKind.all (fun r => ∀ s, Keeps R (r.2.named s)) (o.find name) := by
  unfold FieldOperands.find
  -- An operand may be the next one, or one asked for by number or by name; in each case the parts
  -- of it that the field names are looked for then.
  extract_lets isEnd first rest at_ goOn
  have hat (n : Nat) : Keeps R (at_ n) := by
    dsimp only [at_]
    split <;> grind
  clear_value at_
  have hgoOn (d : Datum) {o : FieldOperands} (hnamed : ∀ s, Keeps R (o.named s)) :
      Ensures R FailureKind.all (fun r => ∀ s, Keeps R (r.2.named s)) (goOn (d, o)) :=
    .next (keeps_fieldParts _ _ _) fun d => .pure hnamed
  clear_value goOn
  refine .next (.ofExcept (failsIn_all _)) fun index => ?_
  split
  · exact .next (hat _) fun d => hgoOn d hnamed
  · exact .throw_bind (FailureKind.mem_all _) _
  · exact .throw_bind (FailureKind.mem_all _) _
  · exact .next (hat _) fun d => hgoOn d hnamed
  · exact .next (hnamed _) fun d => hgoOn d hnamed

/-- Filling the fields of a text asks for nothing but the operands of names. -/
theorem ensures_fillBraces (fuel depth : Nat) {o : FieldOperands}
    (hnamed : ∀ s, Keeps R (o.named s)) (cs : List Char) :
    Ensures R FailureKind.all (fun r => ∀ s, Keeps R (r.2.named s))
      (fillBraces fuel depth o cs) := by
  induction fuel generalizing depth o cs with
  | zero => exact .pure hnamed
  | succ fuel ih =>
    cases cs with
    | nil => exact .pure hnamed
    | cons c cs =>
      unfold fillBraces
      extract_lets literal
      have hliteral (cs : List Char) :
          Ensures R FailureKind.all (fun r => ∀ s, Keeps R (r.2.named s)) (literal cs) :=
        .bind (ih depth hnamed cs) fun r hr => .pure hr
      clear_value literal
      split
      · split
        · exact hliteral _
        · exact .throw (FailureKind.mem_all _)
        · refine .next (.ofExcept (failsIn_all _)) fun (field, after) => ?_
          -- The operand of the field comes first, then its form, then how wide it is to be shown.
          refine .bind (FieldOperands.ensures_find hnamed _) fun (d, o) hnamed => ?_
          refine .next (Datum.keeps_inForm d _) fun d => ?_
          extract_lets goOn
          have hgoOn (spec : List Char) {o : FieldOperands}
              (hnamed : ∀ s, Keeps R (o.named s)) :
              Ensures R FailureKind.all (fun r => ∀ s, Keeps R (r.2.named s)) (goOn (spec, o)) := by
            refine .next (Datum.keeps_shown d spec) fun shown => ?_
            exact .bind (ih depth hnamed after) fun r hr => .pure hr
          clear_value goOn
          split
          · split
            · exact .throw_bind (FailureKind.mem_all _) _
            -- How it is shown may itself be filled with operands, one level deeper.
            · exact .bind (ih _ hnamed _) fun r hr => hgoOn _ hr
          · exact hgoOn _ hnamed
      · split
        · split
          · exact hliteral _
          · exact .throw (FailureKind.mem_all _)
        · exact hliteral _

/-- Filling fields asks for nothing but the operands of names. -/
theorem keeps_formatBraces {named : String → Eval Datum} (hnamed : ∀ s, Keeps R (named s))
    (text : String) (plain : Option (List Datum)) : Keeps R (formatBraces text plain named) :=
  .bind (ensures_fillBraces _ _ hnamed _).within fun _ => .pure _

@[grind .]
theorem keeps_namedOperand (named : List (String × Datum)) (name : String) :
    Keeps R (namedOperand named name) := by
  grind [namedOperand]

@[grind .]
theorem keeps_searchBound (d : Option Datum) : Keeps R (searchBound d) := by
  unfold searchBound
  split <;> grind

@[grind .]
theorem keeps_searched (s : List Char) (i : Inputs) : Keeps R (searched s i) := by
  grind [searched]

@[grind .]
theorem keeps_fillOf (d : Option Datum) : Keeps R (fillOf d) := by
  unfold fillOf
  split <;> grind

@[grind .]
theorem keeps_asSmall (d : Datum) : Keeps R (asSmall d) := by
  grind [asSmall]

@[grind .]
theorem keeps_edgeOf (name : String) (i : Inputs) : Keeps R (edgeOf name i) := by
  grind [edgeOf]

@[grind .]
theorem keeps_newTexts (parts : List (List Char)) : Keeps R (newTexts parts) := by
  grind [newTexts]

@[grind .]
theorem within_joinedTexts (ht : FailureKind.type ∈ kinds) (n : Nat) (ds : List Datum) :
    Within R kinds (joinedTexts n ds) := by
  induction ds generalizing n with
  | nil => exact .pure []
  | cons d rest ih => cases d with
    | scalar s => cases s <;> grind [joinedTexts]
    | _ => grind [joinedTexts]

@[grind .]
theorem keeps_joinTexts (between : List Char) (d : Datum) : Keeps R (joinTexts between d) := by
  refine .bind_attempt (Datum.within_cursor (by decide) d) (fun c => ?_) fun f _ => ?_
  · grind
  · exact within_typeFault (by decide) _

@[grind .]
theorem keeps_findText (last : Bool) (s : List Char) (i : Inputs) (name : String) :
    Keeps R (findText last s i name) := by
  grind [findText]

@[grind .]
theorem keeps_edgeIs (atEnd : Bool) (s : List Char) (i : Inputs) (name : String) :
    Keeps R (edgeIs atEnd s i name) := by
  unfold edgeIs
  refine .bind (Inputs.within_given (by decide) _ _ _ _ _) fun _ =>
    .bind (keeps_searched _ _) fun part => ?_
  extract_lets test
  clear_value test
  split
  · exact .pure _
  · refine .bind (.anyM fun d _ => ?_) fun ok => .pure _
    split <;> grind
  · grind

@[grind .]
theorem keeps_splitText (fromRight : Bool) (s : List Char) (i : Inputs) (name : String) :
    Keeps R (splitText fromRight s i name) := by
  grind [splitText]

@[grind .]
theorem keeps_partitionText (fromRight : Bool) (s : List Char) (d : Datum) :
    Keeps R (partitionText fromRight s d) := by
  grind [partitionText]

@[grind .]
theorem keeps_encodingOf (method : String) (i : Inputs) : Keeps R (encodingOf method i) := by
  have hname (parameter : String) (d : Datum) :
      Keeps R (encodingOf.expectName method parameter d) := by
    unfold encodingOf.expectName
    split <;> grind
  unfold encodingOf
  grind

@[grind .]
theorem keeps_encodeText (s : List Char) (i : Inputs) : Keeps R (encodeText s i) := by
  grind [encodeText]

@[grind .]
theorem keeps_decodeBytes (b : List UInt8) (i : Inputs) : Keeps R (decodeBytes b i) := by
  grind [decodeBytes]

@[grind .]
theorem keeps_translateChar (table : Datum) (c : Char) : Keeps R (translateChar table c) := by
  grind [translateChar]

@[grind .]
theorem keeps_tableKey (d : Datum) : Keeps R (tableKey d) := by
  unfold tableKey
  split <;> grind

@[grind .]
theorem keeps_newTable (i : Inputs) : Keeps R (newTable i) := by
  unfold newTable
  refine .bind (Inputs.within_between (by decide) _ _ _ _ _) fun _ => ?_
  -- A table is made of one mapping, or else of two or three texts.
  extract_lets number wrong text
  have hwrong : Keeps R wrong := within_typeFault (by decide) _
  have htext (n : Nat) (d : Datum) : Keeps R (text n d) := by
    dsimp only [text]
    split <;> grind
  clear_value number wrong text
  split
  · split
    · refine .bind (within_cell _) fun c => ?_
      split
      · refine .bind (.foldlM fun e _ t => ?_) fun t => within_newMap t
        exact .bind (keeps_tableKey _) fun k => .pure _
      · exact hwrong
    · exact hwrong
  · refine .bind (htext 2 _) fun target => ?_
    split <;> grind
  · exact .pure _

@[grind .]
theorem keeps_textMethod (text name : String) (i : Inputs) : Keeps R (textMethod text name i) := by
  have hformat (plain : Option (List Datum)) {named : String → Eval Datum}
      (hnamed : ∀ s, Keeps R (named s)) : Keeps R (formatBraces text plain named) :=
    keeps_formatBraces hnamed text plain
  unfold textMethod
  extract_lets s part
  have hpart (n : Nat) : Keeps R (part n) := by
    dsimp only [part]
    split <;> grind
  clear_value part
  split
  · grind
  · grind
  · split
    all_goals grind

@[grind .]
theorem keeps_countSame (d : Datum) (items : List Datum) : Keeps R (countSame d items) := by
  grind [countSame]

@[grind .]
theorem keeps_placeSame? (d : Datum) (n : Nat) (ds : List Datum) : Keeps R (placeSame? d n ds) := by
  induction ds generalizing n with
  | nil => exact .pure _
  | cons x rest ih => grind [placeSame?]

@[grind .]
theorem keeps_rowMethod (type : String) (d : Datum) (items : List Datum) (name : String)
    (i : Inputs) : Keeps R (rowMethod type d items name i) := by
  unfold rowMethod
  split
  · refine .bind (Inputs.within_one (by decide) _ _) fun e => ?_
    exact .bind (keeps_countSame _ _) fun n => .pure _
  · refine .bind (Inputs.within_between (by decide) _ _ _ _ _) fun _ => ?_
    extract_lets goOn
    have hgoOn (start : Int) : Keeps R (goOn start) := by
      dsimp -zeta only [goOn]
      extract_lets search
      have hsearch (stop : Int) : Keeps R (search stop) := by
        refine .bind (keeps_placeSame? _ _ _) fun place => ?_
        split
        · exact .pure _
        · split <;> grind
      clear_value search
      split <;> grind
    clear_value goOn
    split <;> grind
  · exact Datum.within_refuseField (by decide) _ _

/-! ### Containers -/

/-- A function of a list may call the function that gives the keys to sort by. -/
theorem keeps_listMethod (hall : FailureKind.all ⊆ R.admitted) {call : Caller}
    (hcall : ∀ f i, Keeps R (call f i)) (r : Ref) (name : String) (i : Inputs) :
    Keeps R (listMethod call r name i) := by
  unfold listMethod
  extract_lets content store pop sort
  have hcontent : Keeps R content := by
    refine .bind (within_cell r) fun c => ?_
    split <;> exact .pure _
  have hstore (items : List Datum) : Keeps R (store items) :=
    .bind (within_setCell (R.free_of_all hall) r (by simp)) fun _ => .pure _
  clear_value content store
  have hpop (n : Int) : Keeps R (pop n) := by
    refine .bind hcontent fun items => ?_
    split <;> grind
  -- The items to sort are read before the keys are asked for, since that calls a function.
  have hsort (u : PUnit) : Keeps R (sort u) := by
    dsimp -zeta only [sort]
    refine .bind (Inputs.within_optional (by decide) _ _ _) fun values => ?_
    refine .bind (Datum.within_isTrue _) fun falling => .bind hcontent fun items => ?_
    extract_lets goOn
    have hgoOn (keyed : Keyed) : Keeps R (goOn keyed) :=
      .bind (within_sortBy (by decide) (by decide) (by decide) _ _) fun sorted => hstore sorted
    clear_value goOn
    split
    · exact hgoOn _
    · refine .bind (.mapM fun d _ => ?_) hgoOn
      exact .bind (hcall _ _) fun k => .pure _
  clear_value pop sort
  split <;> grind

@[grind .]
theorem keeps_pairsToAdd (d : Datum) : Keeps R (pairsToAdd d) := by
  refine .bind (Datum.within_items (by decide) (by decide) d) fun items => .mapM fun (p, n) _ => ?_
  have hparts : Keeps R (Datum.items p) := Datum.within_items (by decide) (by decide) p
  refine .bind_attempt hparts (fun parts => ?_) fun f _ => ?_
  · grind
  · grind

@[grind .]
theorem keeps_addAll (t : Table) (d : Datum) : Keeps R (addAll t d) := by
  unfold addAll
  split <;> grind

@[grind .]
theorem keeps_newMapOf (name : String) (i : Inputs) : Keeps R (newMapOf name i) := by
  grind [newMapOf]

@[grind .]
theorem keeps_mapFromKeys (i : Inputs) : Keeps R (mapFromKeys i) := by
  grind [mapFromKeys]

@[grind .]
theorem keeps_mapMethod (hall : FailureKind.all ⊆ R.admitted) (r : Ref) (name : String)
    (i : Inputs) : Keeps R (mapMethod r name i) := by
  have hstore (t : Table) : Keeps R (setCell r (.map t)) :=
    within_setCell (R.free_of_all hall) r (by simp)
  unfold mapMethod
  split <;> grind

@[grind .]
theorem keeps_setMethod (hall : FailureKind.all ⊆ R.admitted) (r : Ref) (name : String)
    (i : Inputs) : Keeps R (setMethod r name i) := by
  unfold setMethod
  refine .bind (within_cell r) fun c => ?_
  extract_lets store others newSet apply
  have hstore (items : List Datum) : Keeps R (store items) :=
    .bind (within_setCell (R.free_of_all hall) r (by simp)) fun _ => .pure _
  have hnew (items : List Datum) : Keeps R (newSet items) := within_alloc (by simp)
  have hothers : Keeps R others := by
    refine .mapM fun d _ => .bind (Datum.within_items (by decide) (by decide) d) fun ds => ?_
    exact .bind (.forM fun e _ => Datum.within_checkKey (by decide) (by decide) e) fun _ => .pure _
  clear_value store others newSet
  have happly (items : List Datum) : Keeps R (apply items) := by
    dsimp -zeta only [apply]
    -- What the functions do with the other operands comes down to these three.
    extract_lets common remaining different
    have hcommon : Keeps R common := .bind hothers fun _ => .pure _
    have hremaining : Keeps R remaining := .bind hothers fun _ => .pure _
    have hdifferent : Keeps R different := .bind hothers fun _ => .pure _
    clear_value common remaining different
    split <;> grind
  clear_value apply
  split <;> exact happly _

@[grind .]
theorem keeps_bytesMethod (b : List UInt8) (name : String) (i : Inputs) :
    Keeps R (bytesMethod b name i) := by
  unfold bytesMethod
  split <;> grind

@[grind .]
theorem keeps_fillMethod (t : DateTime) (i : Inputs) : Keeps R (fillMethod t i) := by
  grind [fillMethod]

@[grind .]
theorem keeps_dayWith (year month day : Int) : Keeps R (dayWith year month day) := by
  grind [dayWith]

@[grind .]
theorem keeps_newDay (d : Date) : Keeps R (newDay d) := by
  grind [newDay]

@[grind .]
theorem keeps_replaceTime (t : DateTime) (i : Inputs) : Keeps R (replaceTime t i) := by
  unfold replaceTime
  refine .bind (Inputs.within_optional (by decide) _ _ _) fun values => ?_
  extract_lets part
  have hpart (n old : Nat) : Keeps R (part n old) := within_asIndex (by decide) _
  clear_value part
  refine .bind (hpart _ _) fun year => .bind (hpart _ _) fun month => ?_
  refine .bind (hpart _ _) fun day => .bind (keeps_dayWith _ _ _) fun date => ?_
  refine .bind (hpart _ _) fun hour => .bind (hpart _ _) fun minute => ?_
  refine .bind (hpart _ _) fun second => .bind (hpart _ _) fun micro => ?_
  grind

@[grind .]
theorem keeps_timeMethod (s : Scalar) (d : Date) (name : String) (i : Inputs) :
    Keeps R (timeMethod s d name i) := by
  unfold timeMethod
  split <;> grind

@[grind .]
theorem keeps_bytesOfInt (n : Int) (i : Inputs) : Keeps R (bytesOfInt n i) := by
  unfold bytesOfInt
  refine .bind (Signature.within_bind (by decide) _ _) fun values =>
    .bind (within_asSize (by decide) (by decide) _) fun length => ?_
  refine .bind (Datum.within_isTrue _) fun signed => ?_
  extract_lets size fits bytes finish
  have hfinish (little : Bool) : Keeps R (finish little) := by
    dsimp only [finish]
    grind
  clear_value size fits bytes finish
  split
  · exact hfinish _
  · exact hfinish _
  · exact .bind (within_valueFault (by decide) _) hfinish
  · exact .bind (Datum.within_typeName _) fun type => .bind (within_typeFault (by decide) _) hfinish

@[grind .]
theorem keeps_ratioOf (n : Scalar.Number) : Keeps R (ratioOf n) := by
  unfold ratioOf
  split <;> grind

@[grind .]
theorem keeps_numberMethod (s : Scalar) (name : String) (i : Inputs) :
    Keeps R (numberMethod s name i) := by
  unfold numberMethod
  split <;> grind

@[grind .]
theorem keeps_loopMethod (hall : FailureKind.all ⊆ R.admitted) (r : Ref) (name : String)
    (i : Inputs) : Keeps R (loopMethod r name i) := by
  have hc : Cursor.faultKinds ⊆ R.admitted := List.Subset.trans (by decide) hall
  grind [loopMethod]

@[grind .]
theorem keeps_cyclerMethod (hall : FailureKind.all ⊆ R.admitted) (r : Ref) (items : List Datum)
    (position : Nat) (name : String) (i : Inputs) :
    Keeps R (cyclerMethod r items position name i) := by
  unfold cyclerMethod
  split <;> grind

@[grind .]
theorem keeps_streamMethod (hall : FailureKind.all ⊆ R.admitted) (r : Ref) (flow : Flow)
    (name : String) (i : Inputs) : Keeps R (streamMethod r flow name i) := by
  unfold streamMethod
  split <;> grind

@[grind .]
theorem keeps_viewMethod (v : View) (r : Ref) (name : String) (i : Inputs) :
    Keeps R (viewMethod v r name i) := by
  unfold viewMethod
  split <;> grind

/-- A function that belongs to a datum may call others. -/
theorem keeps_callMethod (hall : FailureKind.all ⊆ R.admitted) {call : Caller}
    (hcall : ∀ f i, Keeps R (call f i)) (owner : Datum) (name : String) (i : Inputs) :
    Keeps R (callMethod call owner name i) := by
  have hlist (r : Ref) : Keeps R (listMethod call r name i) :=
    keeps_listMethod hall hcall r name i
  unfold callMethod
  split <;> grind

@[grind .]
theorem keeps_newRange (i : Inputs) : Keeps R (newRange i) := by
  unfold newRange
  split <;> grind

@[grind .]
theorem keeps_callKnown (k : Known) (i : Inputs) : Keeps R (callKnown k i) := by
  unfold callKnown
  split <;> grind

end Playbook.Template
