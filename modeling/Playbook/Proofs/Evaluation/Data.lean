import Playbook.Proofs.Evaluation
import Playbook.Proofs.Filters
import Playbook.Template.Comparison
import Playbook.Template.Exchange

/-!
# What operations on data fail with

For each operation on the store and on data, what it may fail with. Most of them are put together
from smaller ones, and then the rules of `Playbook.Proofs.Evaluation` are all there is to say. What
is not is why walking through items fails only as it does (`Cursor.ensures_restBefore`), where a
failure is kept beside the items that precede it, and how a value is taken into the store
(`Eval.within_takeWithin`), where cells are set twice.

Main statements: `Cursor.within_rest`, `LoopState.within_total`, `Datum.within_equal`,
`Datum.within_isIn`, `within_sortBy`, `Eval.within_take`, `Datum.within_give`.
-/

namespace Playbook.Template

variable {R : Regime} {kinds : List FailureKind} {α β : Type}

/-! ### The store -/

namespace Eval

@[grind .]
theorem within_typeFault (h : FailureKind.type ∈ kinds) (message : String) :
    Within R kinds (typeFault message : Eval α) := by
  grind [typeFault]

@[grind .]
theorem within_valueFault (h : FailureKind.value ∈ kinds) (message : String) :
    Within R kinds (valueFault message : Eval α) := by
  grind [valueFault]

@[grind .]
theorem within_missingFault (h : FailureKind.undefined ∈ kinds) (message : String) :
    Within R kinds (missingFault message : Eval α) := by
  grind [missingFault]

@[grind .]
theorem within_runFault (h : FailureKind.run ∈ kinds) (message : String) :
    Within R kinds (runFault message : Eval α) := by
  grind [runFault]

@[grind .]
theorem within_newList (items : List Datum) : Within R kinds (newList items) := by
  grind [newList]

@[grind .]
theorem within_newMap (t : Table) : Within R kinds (newMap t) := by
  grind [newMap]

@[grind .]
theorem within_newTuple (items : List Datum) : Within R kinds (newTuple items) := by
  grind [newTuple]

@[grind .]
theorem within_newGroup (key items : Datum) : Within R kinds (newGroup key items) := by
  grind [newGroup]

/-- A stream may be made only where everything is admitted. -/
@[grind .]
theorem within_newStream (hall : FailureKind.all ⊆ R.admitted) (plan : Plan) (source : Datum) :
    Within R kinds (newStream plan source) := by
  grind [newStream]

@[grind .]
theorem within_newIterator (hall : FailureKind.all ⊆ R.admitted) (type : String) (c : Cursor) :
    Within R kinds (newIterator type c) := by
  grind [newIterator]

@[grind .]
theorem within_newMark : Within R kinds newMark := by
  grind [newMark]

@[grind .]
theorem within_fresh (s : Scalar) : Within R kinds (fresh s) := by
  grind [fresh]

@[grind .]
theorem within_table (r : Ref) : Within R kinds (table r) := by
  grind [table]

@[grind .]
theorem within_entries (r : Ref) : Within R kinds (entries r) := by
  grind [entries]

@[grind .]
theorem within_loopState (r : Ref) : Within R kinds (loopState r) := by
  grind [loopState]

/-! ### Frames -/

@[grind .]
theorem within_newFrame (f : LiveFrame) : Within R kinds (newFrame f) := by
  grind [newFrame]

@[grind .]
theorem within_frame (n : Nat) : Within R kinds (frame n) := by
  grind [frame]

@[grind .]
theorem within_ownerOf (name : String) (fuel n : Nat) : Within R kinds (ownerOf name fuel n) := by
  induction fuel generalizing n with
  | zero => exact .pure none
  | succ fuel ih => grind [ownerOf]

@[grind .]
theorem within_owner? (n : Nat) (name : String) : Within R kinds (owner? n name) := by
  grind [owner?]

@[grind .]
theorem within_setIn (n : Nat) (name : String) (d : Option Datum) :
    Within R kinds (setIn n name d) := by
  grind [setIn]

@[grind .]
theorem within_valueIn (n : Nat) (name : String) : Within R kinds (valueIn n name) := by
  grind [valueIn]

@[grind .]
theorem within_knownFrom (fuel n : Nat) : Within R kinds (knownFrom fuel n) := by
  induction fuel generalizing n with
  | zero => exact .pure []
  | succ fuel ih => grind [knownFrom]

@[grind .]
theorem within_knownIn (n : Nat) : Within R kinds (knownIn n) := by
  grind [knownIn]

end Eval

open Eval

/-! ### Kinds of data -/

namespace Datum

@[grind .]
theorem within_typeName (d : Datum) : Within R kinds d.typeName := by
  unfold typeName
  split <;> grind

@[grind .]
theorem within_className (d : Datum) : Within R kinds d.className := by
  unfold className
  split <;> grind

@[grind .]
theorem within_description (d : Datum) : Within R kinds d.description := by
  unfold description
  split <;> grind

@[grind .]
theorem within_isTrue (d : Datum) : Within R kinds d.isTrue := by
  unfold isTrue
  split <;> grind

end Datum

@[grind .]
theorem View.within_item (v : View) (e : Datum × Datum) : Within R kinds (v.item e) := by
  cases v <;> grind [View.item]

/-! ### Walking through items -/

namespace Cursor

@[grind .]
theorem within_tableOfSize (h : FailureKind.mutation ∈ kinds) (r : Ref) (size : Nat) :
    Within R kinds (tableOfSize r size) := by
  grind [tableOfSize, sizeChanged]

@[grind .]
theorem within_itemsOf (r : Ref) : Within R kinds (itemsOf r) := by
  grind [itemsOf]

@[grind .]
theorem within_insistOnSize (h : FailureKind.mutation ∈ kinds) (r : Ref) (size : Nat) :
    Within R kinds (insistOnSize r size) := by
  grind [insistOnSize, membersChanged]

@[grind .]
theorem within_next (h : FailureKind.mutation ∈ kinds) (c : Cursor) : Within R kinds c.next := by
  unfold next
  split <;> grind [keysChanged]

@[grind .]
theorem within_take (h : FailureKind.mutation ∈ kinds) (n : Nat) (c : Cursor) :
    Within R kinds (c.take n) := by
  induction n generalizing c with
  | zero => grind [take]
  | succ n ih => grind [take]

/-- A failure that follows items is admitted. -/
def AdmitsFault (kinds : List FailureKind) (x : List Datum × Option Failure) : Prop :=
  ∀ f, x.2 = some f → f.kind ∈ kinds

theorem admitsFault_none (items : List Datum) : AdmitsFault kinds (items, none) := by
  intro f hf
  cases hf

theorem admitsFault_some {f : Failure} (h : f.kind ∈ kinds) (items : List Datum) :
    AdmitsFault kinds (items, some f) := by
  intro g hg
  cases hg
  exact h

theorem ensures_drain (r : Ref) (fuel : Nat) (found : List Datum) :
    Ensures R kinds (AdmitsFault kinds) (drain r fuel found) := by
  induction fuel generalizing found with
  | zero => exact .pure (admitsFault_none _)
  | succ fuel ih =>
    refine (Ensures.attempt (List.Subset.refl kinds) (Within.pull r)).bind fun x hx => ?_
    match x with
    | .error f => exact .pure (admitsFault_some (hx f rfl) _)
    | .ok none => exact .pure (admitsFault_none _)
    | .ok (some d) => exact ih _

theorem ensures_shownBefore (h : FailureKind.mutation ∈ kinds) (v : View) (r : Ref) (size : Nat)
    {entries : Table → DataEntries × Option Failure}
    (hentries : ∀ t f, (entries t).2 = some f → f.kind ∈ kinds) :
    Ensures R kinds (AdmitsFault kinds) (shownBefore v r size entries) := by
  have hsize : Within R kinds (tableOfSize r size) := within_tableOfSize h r size
  refine (Ensures.attempt (List.Subset.refl kinds) hsize).bind fun x hx => ?_
  match x with
  | .error f => exact .pure (admitsFault_some (hx f rfl) _)
  | .ok t =>
    -- The items are made first, whether a failure follows them or not.
    have hshown : Within R kinds ((entries t).1.mapM v.item) := by grind
    exact Ensures.bind hshown fun items _ => .pure (hentries t)

/-- **The items from a position on** come before an admitted failure if they come before one. -/
theorem ensures_restBefore (h : Cursor.faultKinds ⊆ kinds) (c : Cursor) :
    Ensures R kinds (AdmitsFault kinds) c.restBefore := by
  have hm : FailureKind.mutation ∈ kinds := h (by decide)
  unfold restBefore
  split
  · exact .pure (admitsFault_none _)
  · exact Ensures.bind (within_itemsOf _) fun items _ => .pure (admitsFault_none _)
  · exact Ensures.bind (within_itemsOf _) fun items _ => .pure (admitsFault_none _)
  · exact ensures_shownBefore hm _ _ _ (by grind [keysChanged])
  · exact ensures_shownBefore hm _ _ _ (by simp)
  · refine (Ensures.attempt (List.Subset.refl kinds) (within_insistOnSize hm _ _)).bind ?_
    intro x hx
    match x with
    | .error f => exact .pure (admitsFault_some (hx f rfl) _)
    | .ok () => exact .pure (admitsFault_none _)
  · exact ensures_drain _ _ _
  -- Two checks stand before the items of a range, and each goes on with what follows it.
  · extract_lets known held
    have hknown (u : PUnit) : Ensures R kinds (AdmitsFault kinds) (known u) :=
      .pure (admitsFault_none _)
    clear_value known
    have hheld (u : PUnit) : Ensures R kinds (AdmitsFault kinds) (held u) := by
      dsimp -zeta only [held]
      split
      · exact .throw_bind (h (by decide)) _
      · exact hknown _
    clear_value held
    split
    · exact .throw_bind (h (by decide)) _
    · exact hheld _

@[grind .]
theorem within_bind_restBefore (h : Cursor.faultKinds ⊆ kinds) (c : Cursor)
    {f : List Datum × Option Failure → Eval β}
    (hf : ∀ items fault, AdmitsFault kinds (items, fault) → Within R kinds (f (items, fault))) :
    Within R kinds (c.restBefore >>= f) :=
  (ensures_restBefore h c).bind fun x hx => hf x.1 x.2 hx

@[grind .]
theorem within_rest (h : Cursor.faultKinds ⊆ kinds) (c : Cursor) : Within R kinds c.rest := by
  unfold rest
  refine within_bind_restBefore h c fun items fault hfault => ?_
  cases fault with
  | none => exact .pure items
  | some f => exact .throw (hfault f rfl)

end Cursor

namespace Datum

@[grind .]
theorem within_cursor (h : FailureKind.type ∈ kinds) (d : Datum) : Within R kinds d.cursor := by
  unfold cursor
  split <;> grind

@[grind .]
theorem within_items (ht : FailureKind.type ∈ kinds) (hc : Cursor.faultKinds ⊆ kinds) (d : Datum) :
    Within R kinds d.items := by
  grind [items]

@[grind .]
theorem within_size? (h : FailureKind.overflow ∈ kinds) (d : Datum) : Within R kinds d.size? := by
  unfold size?
  split <;> grind [sizeOverflow]

@[grind .]
theorem within_unpack (ht : FailureKind.type ∈ kinds) (hv : FailureKind.value ∈ kinds)
    (hm : FailureKind.mutation ∈ kinds) (n : Nat) (d : Datum) : Within R kinds (d.unpack n) := by
  unfold unpack
  refine .bind_attempt (within_cursor ht d) (fun c => ?_) fun f _ => ?_
  · refine .bind (Cursor.within_take hm _ c) fun items => ?_
    extract_lets enough
    have henough (u : PUnit) : Within R kinds (enough u) := by grind
    clear_value enough
    grind
  · grind

end Datum

/-! ### Loops

The state of a loop may be kept only where going through items may fail: whoever finds the loop may
ask for the items to come. -/

namespace LoopState

variable (h : Cursor.faultKinds ⊆ R.admitted)
include h

@[grind .]
theorem within_advance (r : Ref) : Within R kinds (advance r) := by
  refine .assume fun hadm => ?_
  have hm : FailureKind.mutation ∈ kinds := hadm (h (by decide))
  unfold advance
  refine .bind (within_loopState r) fun s => ?_
  -- An item that has been looked at already is gone on with like one that is asked for.
  extract_lets index goOn
  have hgoOn (found : Option (Datum × Cursor)) : Within R kinds (goOn found) := by
    dsimp only [goOn]
    split
    · exact .bind (within_setLoop h r _) fun _ => .pure _
    · exact .bind (within_setLoop h r _) fun _ => .pure _
  clear_value goOn
  split
  · exact hgoOn _
  · exact .bind (Cursor.within_next hm _) hgoOn

@[grind .]
theorem within_peek (r : Ref) : Within R kinds (peek r) := by
  refine .assume fun hadm => ?_
  have hm : FailureKind.mutation ∈ kinds := hadm (h (by decide))
  unfold peek
  refine .bind (within_loopState r) fun s => ?_
  split
  · exact .pure _
  · refine .bind (Cursor.within_next hm _) fun found => ?_
    split
    · exact .bind (within_setLoop h r _) fun _ => .pure _
    · exact .bind (within_setLoop h r _) fun _ => .pure _

@[grind .]
theorem within_total (r : Ref) : Within R kinds (total r) := by
  refine .assume fun hadm => ?_
  have ho : FailureKind.overflow ∈ kinds := hadm (h (by decide))
  unfold total
  refine .bind (within_loopState r) fun s => ?_
  split
  · exact .pure _
  · refine .bind (Datum.within_size? ho _) fun size => ?_
    split
    · exact .bind (within_setLoop h r _) fun _ => .pure _
    -- Here the items to come are used up by counting them, so the loop is set to hold them.
    · refine .bind (Cursor.within_rest (List.Subset.trans h hadm) _) fun rest => ?_
      exact .bind (within_setLoop h r _) fun _ => .pure _

end LoopState

@[grind .]
theorem Datum.within_size (ht : FailureKind.type ∈ kinds) (ho : FailureKind.overflow ∈ kinds)
    (d : Datum) : Within R kinds d.size := by
  unfold Datum.size
  grind [noSize]

/-! ### Comparing -/

section Comparing

variable (hd : FailureKind.depth ∈ kinds)
include hd

theorem Datum.within_checkKeyWithin (ht : FailureKind.type ∈ kinds) (depth : Nat) (d : Datum) :
    Within R kinds (checkKeyWithin depth d) := by
  induction depth generalizing d with
  | zero => grind [checkKeyWithin, tooDeep]
  | succ depth ih =>
    unfold checkKeyWithin
    split <;> grind

@[grind .]
theorem Datum.within_checkKey (ht : FailureKind.type ∈ kinds) (d : Datum) :
    Within R kinds d.checkKey :=
  within_checkKeyWithin hd ht _ d

omit hd in
@[grind .]
theorem within_members? (d : Datum) : Within R kinds (members? d) := by
  unfold members?
  split <;> grind

/-- The four parts of a comparison fail only because the operands are nested too deeply. -/
theorem within_same (depth : Nat) :
    (∀ a b, Within R kinds (sameWithin depth a b)) ∧
      (∀ as bs, Within R kinds (allAmongWithin depth as bs)) ∧
      (∀ as bs, Within R kinds (sameAllWithin depth as bs)) ∧
      ∀ as bs, Within R kinds (sameEntriesWithin depth as bs) := by
  induction depth with
  | zero =>
    refine ⟨?_, ?_, ?_, ?_⟩
    · grind [sameWithin, tooDeep]
    · grind [allAmongWithin, tooDeep]
    · grind [sameAllWithin, tooDeep]
    · grind [sameEntriesWithin, tooDeep]
  | succ depth ih =>
    obtain ⟨hsame, hamong, hall, hentries⟩ := ih
    refine ⟨fun a b => ?_, fun as bs => ?_, fun as bs => ?_, fun as bs => ?_⟩
    · unfold sameWithin
      split <;> grind
    · grind [allAmongWithin]
    · grind [sameAllWithin]
    · grind [sameEntriesWithin]

@[grind .]
theorem Datum.within_same (a b : Datum) : Within R kinds (a.same b) :=
  (Template.within_same hd _).1 a b

@[grind .]
theorem within_allAmong (depth : Nat) (as bs : List Datum) :
    Within R kinds (allAmongWithin depth as bs) :=
  (within_same hd depth).2.1 as bs

@[grind .]
theorem Datum.within_equal (a b : Datum) : Within R kinds (a.equal b) := by
  unfold equal
  split <;> grind

omit hd in
@[grind .]
theorem within_refuseOrder (ht : FailureKind.type ∈ kinds) (rel : Relation) (a b : Datum) :
    Within R kinds (refuseOrder rel a b) := by
  grind [refuseOrder]

omit hd in
@[grind .]
theorem within_scalarHolds (ht : FailureKind.type ∈ kinds) (rel : Relation) (a b : Scalar) :
    Within R kinds (scalarHolds rel a b) := by
  unfold scalarHolds
  split
  · grind
  · grind
  · split <;> grind

@[grind .]
theorem within_setHolds (rel : Relation) (as bs : List Datum) :
    Within R kinds (setHolds rel as bs) := by
  cases rel <;> grind [setHolds]

theorem within_ordered (ht : FailureKind.type ∈ kinds) (hu : FailureKind.undefined ∈ kinds)
    (rel : Relation) (depth : Nat) :
    (∀ a b, Within R kinds (orderedWithin rel depth a b)) ∧
      ∀ as bs, Within R kinds (itemsOrderedWithin rel depth as bs) := by
  induction depth with
  | zero =>
    refine ⟨?_, ?_⟩
    · grind [orderedWithin, tooDeep]
    · grind [itemsOrderedWithin, tooDeep]
  | succ depth ih =>
    obtain ⟨hordered, hitems⟩ := ih
    refine ⟨fun a b => ?_, fun as bs => ?_⟩
    · unfold orderedWithin
      split <;> grind
    · unfold itemsOrderedWithin
      split <;> grind

@[grind .]
theorem within_orderedWithin (ht : FailureKind.type ∈ kinds) (hu : FailureKind.undefined ∈ kinds)
    (rel : Relation) (depth : Nat) (a b : Datum) : Within R kinds (orderedWithin rel depth a b) :=
  (within_ordered hd ht hu rel depth).1 a b

@[grind .]
theorem Datum.within_before (ht : FailureKind.type ∈ kinds) (hu : FailureKind.undefined ∈ kinds)
    (a b : Datum) : Within R kinds (a.before b) := by
  grind [Datum.before]

@[grind .]
theorem within_anySame (d : Datum) (ds : List Datum) : Within R kinds (anySame d ds) := by
  induction ds with
  | nil => exact .pure false
  | cons e rest ih => grind [anySame]

@[grind .]
theorem within_streamGives (hm : FailureKind.mutation ∈ kinds) (d : Datum) (fuel : Nat)
    (c : Cursor) : Within R kinds (streamGives d fuel c) := by
  induction fuel generalizing c with
  | zero => exact .pure false
  | succ fuel ih => grind [streamGives]

/-- What asking whether a datum is in another one fails with. -/
def partKinds : List FailureKind :=
  [FailureKind.type, .value, .mutation, .overflow, .memory, .depth]

omit hd in
@[grind .]
theorem Datum.within_isIn (h : partKinds ⊆ kinds) (d e : Datum) : Within R kinds (d.isIn e) := by
  have hc : Cursor.faultKinds ⊆ kinds := List.Subset.trans (by decide) h
  have ht : FailureKind.type ∈ kinds := h (by decide)
  have hv : FailureKind.value ∈ kinds := h (by decide)
  have hd : FailureKind.depth ∈ kinds := h (by decide)
  have hm : FailureKind.mutation ∈ kinds := h (by decide)
  unfold isIn
  split
  · split <;> grind
  · split <;> grind
  · grind
  · split <;> grind
  · grind
  · grind

/-- What asking whether a relation holds fails with. -/
def Relation.faultKinds : Relation → List FailureKind
  | .equal | .notEqual => [.depth]
  | .less | .lessEqual | .greater | .greaterEqual => [.type, .undefined, .depth]
  | .isIn | .isNotIn => partKinds

omit hd in
@[grind .]
theorem Datum.within_holds {rel : Relation} (h : rel.faultKinds ⊆ kinds) (a b : Datum) :
    Within R kinds (a.holds rel b) := by
  unfold holds
  cases rel with
  | equal => exact within_equal (h (by decide)) a b
  | notEqual => exact .map (within_equal (h (by decide)) a b)
  | less | lessEqual | greater | greaterEqual =>
    exact within_orderedWithin (h (by decide)) (h (by decide)) (h (by decide)) _ _ a b
  | isIn => exact within_isIn h a b
  | isNotIn => exact .map (within_isIn h a b)

/-- What going through items and comparing them fails with. -/
def orderKinds : List FailureKind := .undefined :: partKinds

omit hd in
theorem Relation.faultKinds_subset (rel : Relation) : rel.faultKinds ⊆ orderKinds := by
  cases rel <;> decide

end Comparing

/-! ### Sorting -/

section Sorting

variable (hd : FailureKind.depth ∈ kinds) (ht : FailureKind.type ∈ kinds)
  (hu : FailureKind.undefined ∈ kinds)
include hd ht hu

@[grind .]
theorem within_fallingFrom (last : Datum) (things : Keyed) :
    Within R kinds (fallingFrom last things) := by
  induction things generalizing last with
  | nil => exact .pure _
  | cons x rest ih => grind [fallingFrom]

@[grind .]
theorem within_risingFrom (last : Datum) (things : Keyed) :
    Within R kinds (risingFrom last things) := by
  induction things generalizing last with
  | nil => exact .pure _
  | cons x rest ih => grind [risingFrom]

@[grind .]
theorem within_placeIn (sorted : Array (Datum × Datum)) (key : Datum) (fuel low high : Nat) :
    Within R kinds (placeIn sorted key fuel low high) := by
  induction fuel generalizing low high with
  | zero => exact .pure _
  | succ fuel ih => grind [placeIn]

@[grind .]
theorem within_placeAll (sorted : Array (Datum × Datum)) (things : Keyed) :
    Within R kinds (placeAll sorted things) := by
  induction things generalizing sorted with
  | nil => exact .pure _
  | cons x rest ih => grind [placeAll]

@[grind .]
theorem within_sortKeyed (things : Keyed) : Within R kinds (sortKeyed things) := by
  unfold sortKeyed
  split <;> grind

@[grind .]
theorem within_sortBy (falling : Bool) (things : Keyed) :
    Within R kinds (sortBy falling things) := by
  unfold sortBy
  split <;> grind

end Sorting

/-! ### Taking values and giving them back -/

section Exchange

@[grind .]
theorem Eval.within_taken? (m : Nat) : Within R kinds (taken? m) := by
  grind [taken?]

theorem Eval.within_note {m : Nat} (hm : R.own m) (d : Datum) : Within R kinds (note m d) :=
  .modifyGet_of_good fun _ hs => R.note d hs hm

/-- What a container has become may be taken over if its mark may be noted. -/
theorem Eval.ensures_currentOf {m : Nat} (hm : R.own m) {v : Value} (hv : v.Confined R.own) :
    Ensures R kinds (Value.Confined R.own) (currentOf m v) := by
  refine Ensures.get.bind fun s hs => .pure ?_
  cases hlookup : s.current.lookup m with
  -- It is as it was, with the marks that it was found with.
  | none => exact hv
  | some w => exact R.current hs hm hlookup

variable (hd : FailureKind.depth ∈ kinds)
include hd

/-- **A value whose marks may be noted** is taken over, whatever it contains has become. -/
theorem Eval.within_takeWithin (depth : Nat) {v : Value} (hv : v.Confined R.own) :
    Within R kinds (takeWithin depth v) := by
  induction depth generalizing v with
  | zero => exact .throw hd
  | succ depth ih =>
    unfold takeWithin
    -- Items and pairs are taken one level deeper, and a container once for its mark.
    extract_lets all pairs once
    have hall {items : List Value} (h : ∀ m ∈ Value.containerMarksOfItems items, R.own m) :
        Within R kinds (all items) :=
      .mapM fun v hv => ih (Value.confined_items.1 h v hv)
    have hpairs {es : Entries} (h : ∀ m ∈ Value.containerMarksOfEntries es, R.own m) :
        Within R kinds (pairs es) := by
      refine .mapM fun e he => ?_
      obtain ⟨hkey, hvalue⟩ := Value.confined_entries.1 h e he
      exact .bind (ih hkey) fun k => .bind (ih hvalue) fun d => .pure _
    -- A container is noted before its items are taken, and they may contain it.
    have honce {mark : Nat} (hmark : R.own mark) {start : Cell}
        {content : Value → Eval (Option Cell)} (hstart : start.faultKinds ⊆ R.admitted)
        (hcontent : ∀ w : Value, w.Confined R.own →
          Ensures R kinds (fun c => ∀ d, c = some d → d.faultKinds ⊆ R.admitted) (content w)) :
        Within R kinds (once mark start content) := by
      refine .bind (within_taken? mark) fun found => ?_
      split
      · exact .pure _
      · refine .bind (within_alloc hstart) fun d => .bind (within_note hmark d) fun _ => ?_
        refine Ensures.bind (ensures_currentOf hmark hv) fun w hw =>
          (hcontent w hw).bind fun c hc => ?_
        split
        · exact Within.bind (within_setCell (R.free_of_own hmark) _ (hc _ rfl)) fun _ => .pure _
        · exact Within.pure _
    clear_value all pairs once
    split <;> simp only [Value.Confined, Value.containerMarks, Option.toList, List.nil_append,
      List.singleton_append, List.forall_mem_cons] at hv
    · grind
    · exact .bind (hall hv) fun ds => within_newTuple ds
    · refine .bind (within_taken? _) fun found => ?_
      split
      · exact .pure _
      · refine .bind (hall hv.2) fun ds => .bind (within_newTuple ds) fun d => ?_
        exact .bind (within_note hv.1 d) fun _ => .pure _
    · exact .bind (hall hv) fun ds => within_newList ds
    · refine honce hv.1 (by simp) fun w hw => ?_
      split
      · refine Ensures.bind (hall fun m hm => hw m (List.mem_append_right _ hm)) fun ds _ => ?_
        exact .pure (by simp)
      · exact .pure (by simp)
    · exact .bind (hpairs hv) fun es => within_newMap _
    · refine honce hv.1 (by simp) fun w hw => ?_
      split
      · refine Ensures.bind (hpairs fun m hm => hw m (List.mem_append_right _ hm)) fun es _ => ?_
        exact .pure (by simp)
      · exact .pure (by simp)
    · exact .bind (hall hv) fun ds => within_alloc (by simp)
    · refine honce hv.1 (by simp) fun w hw => ?_
      split
      · refine Ensures.bind (hall fun m hm => hw m (List.mem_append_right _ hm)) fun ds _ => ?_
        exact .pure (by simp)
      · exact .pure (by simp)
    · exact .bind (within_taken? _) fun found => .pure _
    · exact .pure _

theorem Eval.within_take {v : Value} (hv : v.Confined R.own) : Within R kinds (take v) :=
  within_takeWithin hd _ hv

omit hd in
@[grind .]
theorem within_countVisits (fuel : Nat) (d : Datum) (seen : Visits) :
    Within R kinds (countVisits fuel d seen) := by
  induction fuel generalizing d seen with
  | zero => grind [countVisits]
  | succ fuel ih =>
    unfold countVisits
    split <;> grind

omit hd in
@[grind .]
theorem within_marksOf (visits : Visits) : Within R kinds (marksOf visits) := by
  grind [marksOf]

theorem within_giveAt (marks : CellMarks) (depth : Nat) (path : List Ref) (d : Datum) :
    Within R kinds (giveAt marks depth path d) := by
  induction depth generalizing path d with
  | zero => grind [giveAt, tooDeep]
  | succ depth ih =>
    cases d with
    | cell r =>
      rw [giveAt]
      refine within_bind_cell r fun c hc => ?_
      cases c <;> grind
    | _ => grind [giveAt]

@[grind .]
theorem Datum.within_give (d : Datum) : Within R kinds d.give := by
  unfold give
  split
  · grind
  · refine .bind .getThe fun s => .bind (within_countVisits _ _ _) fun visits => ?_
    exact .bind (within_marksOf visits) fun marks => within_giveAt hd _ _ _ _

@[grind .]
theorem Datum.within_text (hv : FailureKind.value ∈ kinds) (d : Datum) : Within R kinds d.text :=
  .bind (within_give hd d) fun v => .ofExcept (Value.failsIn_text? hv v)

@[grind .]
theorem Datum.within_literal (hv : FailureKind.value ∈ kinds) (d : Datum) :
    Within R kinds d.literal :=
  .bind (within_give hd d) fun v => .ofExcept (Value.failsIn_literal? hv v)

end Exchange

end Playbook.Template
