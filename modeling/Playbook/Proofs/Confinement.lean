import Playbook.Proofs.Evaluation.Nodes

/-!
# Runs stay among the containers that they find

A template comes upon containers only by way of the names around it and of what has become of the
containers found there. What it notes about a container it notes by the mark, and whatever it makes
itself gets a mark that nothing has borne. So if a set of marks holds those of all that is around
the template, and those that nothing bears yet, then a run notes marks of this set alone.

Main definitions:

- `Store.Confined`: what is kept true of the store;
- `Regime.confined`, the regime of keeping it true, in which everything else is allowed, and
  `Eval.Confines`, a computation that keeps to it and gives a result with a property.

Main statement: `keeps_runChecked`, which holds since evaluation takes over nothing but the values
of names, and constants, which bear no marks.
-/

namespace Playbook.Template

open Eval

variable {own : Nat → Prop}

/-- **A store is confined to a set of marks:** what has been taken over by mark bears marks of the
set, so do all containers that are to be taken over in place of others, and so will all that are
new. -/
structure Store.Confined (own : Nat → Prop) (s : Store) : Prop where
  /-- What has been taken over has marks of the set. -/
  noted : ∀ e ∈ s.marked, own e.1
  /-- What has become something else has a mark of the set, and so has what it has become. -/
  current : ∀ e ∈ s.current, own e.1 ∧ e.2.Confined own
  /-- Marks that nothing bears yet are of the set. -/
  unused : ∀ m, s.next ≤ m → own m

theorem mem_of_lookup {s : Store} {m : Nat} {v : Value} (h : s.current.lookup m = some v) :
    (m, v) ∈ s.current := by
  obtain ⟨before, rest, hcurrent, -⟩ := List.lookup_eq_some_iff.1 h
  rw [hcurrent]
  exact List.mem_append_right _ List.mem_cons_self

/-- **Confinement to a set of marks is a regime.** The cells are of no concern. -/
def Regime.confined (own : Nat → Prop) : Regime where
  Good := Store.Confined own
  admitted := FailureKind.all
  own := own
  free := True
  free_of_own _ := trivial
  free_of_all _ := trivial
  cells _ _ := FailureKind.subset_all _
  current hs _ hv := (hs.current _ (mem_of_lookup hv)).2
  push hs _ := ⟨hs.noted, hs.current, hs.unused⟩
  set _ hs _ _ := ⟨hs.noted, hs.current, hs.unused⟩
  setLoop _ hs _ _ := ⟨hs.noted, hs.current, hs.unused⟩
  note _ hs hm := ⟨List.forall_mem_cons.2 ⟨hm, hs.noted⟩, hs.current, hs.unused⟩
  other hs _ _ hmarked hcurrent hnext :=
    ⟨hmarked ▸ hs.noted, hcurrent ▸ hs.current, fun m hm => hs.unused m (Nat.le_trans hnext hm)⟩

/-- A computation keeps stores confined to a set of marks, whether it fails or not, and gives a
result with a property. -/
abbrev Eval.Confines {α : Type} (own : Nat → Prop) (post : α → Prop) (x : Eval α) : Prop :=
  Ensures (.confined own) FailureKind.all post x

/-- The values of names have marks of a set. -/
def Scope.Confined (own : Nat → Prop) (scope : Scope) : Prop :=
  ∀ name v, scope.find name = some v → v.Confined own

/-- Values with marks of the set may be taken over. -/
theorem Scope.Confined.knows {scope : Scope} (hscope : scope.Confined own) :
    (Regime.confined own).Knows scope := by
  intro name v hv
  refine .bind (within_take (FailureKind.mem_all _) (hscope name v hv)) fun d => ?_
  exact .bind (.modifyGet_of_good fun s hs => ⟨hs.noted, hs.current, hs.unused⟩) fun _ => .pure _

/-- **A run of a template that has been read** keeps to the marks of what is around it. -/
theorem keeps_runChecked {scope : Scope} (hscope : scope.Confined own) (nodes : List Node) :
    Keeps (Regime.confined own) (runChecked scope nodes) := by
  have hall : FailureKind.all ⊆ (Regime.confined own).admitted := List.Subset.refl _
  -- Whether the template can be run at all is found without looking at the store.
  refine .bind (.ofExcept (failsIn_all _)) fun t => ?_
  split
  · exact within_runNodes hscope.knows (FailureKind.mem_all _) (FailureKind.mem_all _)
      (Regime.allows_of_all hall _) fun b _ => Regime.allows_of_all hall _
  · exact within_typeFault (FailureKind.mem_all _) _

end Playbook.Template
