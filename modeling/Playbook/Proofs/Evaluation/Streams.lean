import Playbook.Proofs.Evaluation.Words

/-!
# Asking streams

A stream that is asked for an item calls what it was made of, and it may be asked only where
everything is admitted. So what it fails with is of no concern here, and cells may be changed: what
is shown is that the store is kept as it is to be. A stream says in its cell how far it has come,
before a part of its work and after it.

Main definition: `Words.Within`, what streams may call keeps to a regime.

Main statement: `keeps_pullWith`.
-/

namespace Playbook.Template

open Eval

variable {R : Regime} {α : Type}

/-- What streams may call keeps to a regime. -/
structure Words.Within (R : Regime) (w : Words) : Prop where
  /-- Filters do. -/
  filter : ∀ name d i, Eval.Keeps R (w.filter name d i)
  /-- Tests do. -/
  test : ∀ name d i, Eval.Keeps R (w.test name d i)
  /-- Making a frame does. -/
  enter : ∀ b, Eval.Keeps R (w.enter b)
  /-- The tests of loops do. -/
  admits : ∀ b frame d, Eval.Keeps R (w.admits b frame d)

/-! ### Beginning -/

@[grind .]
theorem keeps_unknownWord (kind : String) (name : Datum) :
    Keeps R (unknownWord kind name : Eval α) := by
  grind [unknownWord]

@[grind .]
theorem keeps_changing (i : Inputs) : Keeps R (changing i) := by
  grind [changing]

@[grind .]
theorem keeps_choosing (keep byAttribute : Bool) (i : Inputs) :
    Keeps R (choosing keep byAttribute i) := by
  unfold choosing
  split <;> grind

@[grind .]
theorem keeps_sliced (source count fill : Datum) : Keeps R (sliced source count fill) := by
  unfold sliced
  refine .bind (Datum.within_items (by decide) (by decide) _) fun items => ?_
  refine .bind (.discard (Datum.within_arithmetic (by decide) _ _)) fun _ => ?_
  refine .bind (within_asIndex (by decide) _) fun n => ?_
  exact .mapM fun row _ => within_newList row

theorem Plan.keeps_start {w : Words} (hw : w.Within R) (source : Datum) (plan : Plan) :
    Keeps R (plan.start w source) := by
  have henter (b : LoopBody) : Keeps R (w.enter b) := hw.enter b
  unfold Plan.start
  split <;> grind

/-! ### Going on -/

@[grind .]
theorem keeps_filledRow (row : List Datum) (length fill : Datum) :
    Keeps R (filledRow row length fill) := by
  unfold filledRow
  split <;> grind

theorem Stage.keeps_take {w : Words} (hw : w.Within R) (d : Datum) (stage : Stage) :
    Keeps R (stage.take w d) := by
  obtain ⟨hfilter, htest, -, hadmits⟩ := hw
  unfold Stage.take
  split <;> grind

theorem Stage.keeps_ending (stage : Stage) : Keeps R stage.ending := by
  unfold Stage.ending
  split <;> grind

section
variable (hall : FailureKind.all ⊆ R.admitted)
include hall

theorem keeps_setFlow (r : Ref) (flow : Flow) : Keeps R (setFlow r flow) :=
  .bind (within_cell r) fun _ => within_setCell (R.free_of_all hall) r hall

/-- A part of the work of a stream. -/
theorem keeps_working (r : Ref) {work : Eval α} (hwork : Keeps R work) :
    Keeps R (working r work) := by
  refine .bind (keeps_setFlow hall r _) fun _ => ?_
  refine .bind_attempt hwork (fun a => .pure a) fun f hf => ?_
  exact .bind (keeps_setFlow hall r _) fun _ => .throw hf

/-- **The next item of a stream.** -/
theorem keeps_pullWithin {w : Words} (hw : w.Within R) (r : Ref) (fuel : Nat) :
    Keeps R (pullWithin w r fuel) := by
  induction fuel with
  | zero => exact .pure none
  | succ fuel ih =>
    have hset (flow : Flow) : Keeps R (setFlow r flow) :=
      keeps_setFlow hall r flow
    refine .bind (within_cell r) fun c => ?_
    -- The stream may not have begun, or be between two items, or it has nothing to give.
    split
    · refine .bind (keeps_working hall r (Plan.keeps_start hw _ _)) fun found => ?_
      split
      · exact .bind (hset _) fun _ => .pure _
      · exact .bind (hset _) fun _ => ih
    · refine .bind (keeps_working hall r (Cursor.within_next (by decide) _)) fun found => ?_
      split
      · refine .bind (keeps_working hall r (Stage.keeps_ending _)) fun found => ?_
        exact .bind (hset _) fun _ => .pure _
      · refine .bind (keeps_working hall r (Stage.keeps_take hw _ _)) fun found => ?_
        refine .bind (hset _) fun _ => ?_
        split
        · exact .pure _
        · exact ih
    · exact within_valueFault (by decide) _
    · exact .pure _

theorem keeps_pullWith {w : Words} (hw : w.Within R) (r : Ref) : Keeps R (pullWith w r) :=
  keeps_pullWithin hall hw r _

end

end Playbook.Template
