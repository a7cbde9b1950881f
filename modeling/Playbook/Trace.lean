import Playbook.Fault

/-!
# Runs

A run has an outcome and leaves a trace: the paths it opens and the messages it tells, in order. A
message has a level, and a listener hears the messages up to a level of his own. A run that fails
keeps the trace it has left so far.

Main definitions:

- `Event`, `Run`: steps of a trace, and outcomes with traces;
- `Run.andThen`: one run after another, which knows that the first has succeeded;
- `Run.heard`: the messages up to a level; `Run.openings`: the paths opened.
-/

namespace Playbook

/-- A step of a trace. -/
inductive Event where
  /-- A path was opened, with success or without. -/
  | opened (path : String)
  /-- A message was told. -/
  | told (level : Nat) (text : String)
deriving DecidableEq, Repr

/-- An outcome with the trace that led to it. -/
structure Run (α : Type) where
  /-- The trace. -/
  events : List Event
  /-- The outcome. -/
  outcome : Except Fault α

namespace Run

variable {α β : Type}

/-- A run without a trace that succeeds. -/
def done (a : α) : Run α := ⟨[], .ok a⟩

/-- A run without a trace that fails. -/
def fail (f : Fault) : Run α := ⟨[], .error f⟩

/-- A run without a trace. -/
def ofExcept (r : Except Fault α) : Run α := ⟨[], r⟩

/-- One run after another that has succeeded. -/
def andThen (x : Run α) (f : (a : α) → x.outcome = .ok a → Run β) : Run β :=
  match h : x.outcome with
  | .error e => ⟨x.events, .error e⟩
  | .ok a => ⟨x.events ++ (f a h).events, (f a h).outcome⟩

/-- Change the result of a run. -/
def map (f : α → β) (x : Run α) : Run β := ⟨x.events, x.outcome.map f⟩

/-- Change the fault of a run. -/
def mapFault (f : Fault → Fault) (x : Run α) : Run α := ⟨x.events, x.outcome.mapError f⟩

/-- Put a step in front of a run. -/
def after (e : Event) (x : Run α) : Run α := ⟨e :: x.events, x.outcome⟩

instance : Monad Run where
  pure := done
  bind x f := x.andThen fun a _ => f a
  map := map

/-- The messages up to a level. -/
def heard (verbosity : Nat) (x : Run α) : List (Nat × String) :=
  x.events.filterMap fun
    | .told level text => if level ≤ verbosity then some (level, text) else none
    | .opened _ => none

/-- The paths that were opened. -/
def openings (x : Run α) : List String :=
  x.events.filterMap fun
    | .opened path => some path
    | .told .. => none

@[simp] theorem done_events (a : α) : (done a).events = [] := rfl
@[simp] theorem done_outcome (a : α) : (done a).outcome = .ok a := rfl
@[simp] theorem fail_events (f : Fault) : (fail f : Run α).events = [] := rfl
@[simp] theorem fail_outcome (f : Fault) : (fail f : Run α).outcome = .error f := rfl
@[simp] theorem map_events (f : α → β) (x : Run α) : (x.map f).events = x.events := rfl
@[simp] theorem map_outcome (f : α → β) (x : Run α) : (x.map f).outcome = x.outcome.map f := rfl
@[simp] theorem mapFault_events (f : Fault → Fault) (x : Run α) :
    (x.mapFault f).events = x.events := rfl
@[simp] theorem mapFault_outcome (f : Fault → Fault) (x : Run α) :
    (x.mapFault f).outcome = x.outcome.mapError f := rfl
@[simp] theorem after_events (e : Event) (x : Run α) : (x.after e).events = e :: x.events := rfl
@[simp] theorem after_outcome (e : Event) (x : Run α) : (x.after e).outcome = x.outcome := rfl

/-- A run fails or succeeds. -/
theorem outcome_cases (x : Run α) : (∃ e, x.outcome = .error e) ∨ ∃ a, x.outcome = .ok a := by
  cases x.outcome <;> simp

/-- A changed run succeeds if the run itself does. -/
theorem map_outcome_eq_ok {f : α → β} {x : Run α} {b : β} :
    (x.map f).outcome = .ok b ↔ ∃ a, x.outcome = .ok a ∧ f a = b := by
  simp only [map_outcome]
  cases x.outcome <;> simp [Except.map]

theorem andThen_of_error {x : Run α} {f : (a : α) → x.outcome = .ok a → Run β} {e : Fault}
    (h : x.outcome = .error e) : x.andThen f = ⟨x.events, .error e⟩ := by
  simp only [andThen]
  split <;> simp_all

theorem andThen_of_ok {x : Run α} {f : (a : α) → x.outcome = .ok a → Run β} {a : α}
    (h : x.outcome = .ok a) : x.andThen f = ⟨x.events ++ (f a h).events, (f a h).outcome⟩ := by
  simp only [andThen]
  split
  · simp_all
  · next b hb =>
    obtain rfl : b = a := by simpa [hb] using h
    rfl

/-- A run after another succeeds if both do. -/
theorem andThen_outcome_eq_ok {x : Run α} {f : (a : α) → x.outcome = .ok a → Run β} {b : β} :
    (x.andThen f).outcome = .ok b ↔ ∃ a h, (f a h).outcome = .ok b := by
  obtain ⟨e, he⟩ | ⟨a, ha⟩ := x.outcome_cases
  · simp [andThen_of_error he, he]
  · rw [andThen_of_ok ha]
    constructor
    · exact fun h => ⟨a, ha, h⟩
    · rintro ⟨a', ha', h⟩
      obtain rfl : a = a' := by simpa [ha] using ha'
      exact h

end Run

end Playbook
