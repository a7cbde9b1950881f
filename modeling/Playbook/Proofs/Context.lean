import Playbook.Proofs.Faults

/-!
# What a pass is surrounded by

Both passes know what is being included around them, files by their normal names and roles by their
names as they are written. They ask only whether a name is among them, and then end with a cycle. So
more names around a pass can make it end earlier, and can do nothing else:

* `Run.SameUnless` — a run is the same as another, or it is cut off by a fault of a kind, and what
  it has left until then is the beginning of the other trace.
* `Run.OnlyCut` — all that follows for a pass from this: it succeeds with fewer names around it if
  it does with more, and wherever it succeeds it gives the same tasks.
* `Resolution.onlyCut_by_cycles` — both passes are only cut by cycles.

The names differ at every depth, as each inclusion adds its own one, so the comparison is made for
all pairs of lists of which one contains the other (`Inclusion.expand_sameUnless`,
`Role.inline_sameUnless`). It follows the recursion of the pass that has more names around it: what
that pass enters, the other one enters as well.
-/

namespace Playbook

/-! ### Runs that are cut off -/

namespace Run

variable {α β : Type} {cut : Fault → Prop} {x y : Run α}

/-- **A run is the same as another unless it is cut off:** then it ends with a fault of a kind, and
its trace is the beginning of the other one. -/
inductive SameUnless (cut : Fault → Prop) (x y : Run α) : Prop
  /-- Both are the same. -/
  | same (h : x = y)
  /-- The first is cut off. -/
  | cut {f : Fault} (hfault : x.outcome = .error f) (hcut : cut f) (htrace : x.events <+: y.events)

/-- A run that succeeds has not been cut off. -/
theorem SameUnless.eq_of_ok (h : SameUnless cut x y) {a : α} (hx : x.outcome = .ok a) : x = y := by
  -- A run that is cut off has failed.
  cases h with
  | same h => exact h
  | cut hfault =>
    rw [hx] at hfault
    cases hfault

/-- A change of the result does not matter. -/
theorem SameUnless.map (h : SameUnless cut x y) (f : α → β) :
    SameUnless cut (x.map f) (y.map f) := by
  cases h with
  | same h => exact .same (congrArg (Run.map f) h)
  | cut hfault hcut htrace => exact .cut (map_outcome_eq_error.2 hfault) hcut htrace

/-- A change of the fault does not matter, if it leaves faults of the kind in the kind. -/
theorem SameUnless.mapFault (h : SameUnless cut x y) {f : Fault → Fault}
    (hf : ∀ e, cut e → cut (f e)) : SameUnless cut (x.mapFault f) (y.mapFault f) := by
  cases h with
  | same h => exact .same (congrArg (Run.mapFault f) h)
  | cut hfault hcut htrace =>
    exact .cut (mapFault_outcome_eq_error.2 ⟨_, hfault, rfl⟩) (hf _ hcut) htrace

/-- **One run after another:** if the first is not cut off, the second may be. -/
theorem SameUnless.andThen (h : SameUnless cut x y)
    {f : (a : α) → x.outcome = .ok a → Run β} {g : (a : α) → y.outcome = .ok a → Run β}
    (hfg : ∀ a ha ha', SameUnless cut (f a ha) (g a ha')) :
    SameUnless cut (x.andThen f) (y.andThen g) := by
  cases h with
  -- The first run is cut off: what would have come after it in the other one only goes on with the
  -- trace.
  | cut hfault hcut htrace =>
    rw [andThen_of_error hfault]
    exact .cut rfl hcut (htrace.trans (events_prefix_andThen y g))
  | same h =>
    subst h
    obtain ⟨e, he⟩ | ⟨a, ha⟩ := x.outcome_cases
    · rw [andThen_of_error he, andThen_of_error he]
      exact .same rfl
    · rw [andThen_of_ok ha, andThen_of_ok ha]
      -- Both first runs leave the same, so what is cut off later is cut off behind it.
      cases hfg a ha ha with
      | same h =>
        rw [h]
        exact .same rfl
      | cut hfault hcut htrace =>
        exact .cut hfault hcut ((List.prefix_append_right_inj _).2 htrace)

/-- **The names around a pass only cut it off.** -/
structure OnlyCut (cut : Fault → Prop) (pass : List String → Run α) : Prop where
  /-- With more names around it, the pass is the same unless it is cut off. -/
  sameUnless : ∀ {active more : List String}, active ⊆ more →
    (pass more).SameUnless cut (pass active)
  /-- With more names around it, the pass has the same outcome, or a fault of the kind. -/
  outcome : ∀ {active more : List String}, active ⊆ more →
    (pass more).outcome = (pass active).outcome ∨ ∃ f, (pass more).outcome = .error f ∧ cut f
  /-- If the pass succeeds with more names around it, it does so with fewer, and gives the same. -/
  success : ∀ {active more : List String} {a : α}, active ⊆ more →
    (pass more).outcome = .ok a → (pass active).outcome = .ok a
  /-- What the pass gives does not depend on where it is made. -/
  unique : ∀ {active active' : List String} {a a' : α}, (pass active).outcome = .ok a →
    (pass active').outcome = .ok a' → a = a'

/-- It is enough to compare lists of which one contains the other: any two lists contain the empty
one. -/
theorem OnlyCut.of_sameUnless {pass : List String → Run α}
    (h : ∀ {active more : List String}, active ⊆ more →
      (pass more).SameUnless cut (pass active)) : OnlyCut cut pass := by
  -- With more names the pass is cut off, or else both are the same.
  have success : ∀ {active more : List String} {a : α}, active ⊆ more →
      (pass more).outcome = .ok a → (pass active).outcome = .ok a := by
    intro active more a hsubset ha
    rw [← (h hsubset).eq_of_ok ha]
    exact ha
  refine ⟨h, ?_, success, ?_⟩
  · intro active more hsubset
    cases h hsubset with
    | same h => exact .inl (congrArg Run.outcome h)
    | cut hfault hcut => exact .inr ⟨_, hfault, hcut⟩
  · intro active active' a a' ha ha'
    -- Both passes are the same as the one without any name.
    have halone := success (List.nil_subset active) ha
    have halone' := success (List.nil_subset active') ha'
    exact Except.ok.inj (halone.symm.trans halone')

end Run

/-- A name comes to both lists. -/
theorem Chain.append_subset_append {active more : List String} (h : active ⊆ more) (name : String) :
    active ++ [name] ⊆ more ++ [name] :=
  List.append_subset_of_subset_of_subset (List.subset_append_of_subset_left _ h)
    (List.subset_append_right _ _)

/-! ### Cycles -/

/-- A fault is a cycle. -/
def Fault.IsCycle (f : Fault) : Prop := ∃ chain file, f = .includeCycle chain file

/-- A fault is a cycle inside all wrappings of roles. -/
def Fault.EndsInCycle (f : Fault) : Prop := f.root.IsCycle

theorem Fault.EndsInCycle.isResolution {f : Fault} (h : f.EndsInCycle) :
    f.isResolution = true := by
  obtain ⟨chain, file, h⟩ := h
  cases f with
  | resolution | includeCycle | role => rfl
  | template | general | document | system | failure => cases h

/-- A role wraps a cycle inside it. -/
theorem Fault.EndsInCycle.wrap {f : Fault} (h : f.EndsInCycle) (name : String) :
    (Role.wrap name f).EndsInCycle := by
  rw [Role.wrap_of_isResolution h.isResolution, EndsInCycle, root_role]
  exact h

/-! ### The first pass -/

namespace Inclusion

variable {fs : FileSystem}

/-- **More files around the first pass** can only add cycles. -/
theorem expand_sameUnless {active more : List String} (h : active ⊆ more) (source : String)
    (records : List Record) :
    (expand fs more source records).SameUnless Fault.IsCycle
      (expand fs active source records) := by
  -- Along the recursion with more names, for all fewer ones: it has a cycle where the other may go
  -- on.
  induction more, source, records using expand.induct fs generalizing active with
  | case1 more source =>
    rw [expand_nil, expand_nil]
    exact .same rfl
  | case2 more source r rest f hrequest =>
    rw [expand_cons_fault hrequest, expand_cons_fault hrequest]
    exact .same rfl
  | case3 more source r rest t hrequest ih =>
    rw [expand_cons_task hrequest, expand_cons_task hrequest]
    exact (ih h).map _
  | case4 more source r rest path hrequest hmem =>
    -- nothing has been left by the list yet, whatever the other pass does here
    rw [expand_cons_cycle hrequest hmem]
    exact .cut rfl ⟨_, _, rfl⟩ (List.nil_prefix)
  | case5 more source r rest path hrequest hnew ihfile ihrest =>
    -- What is new among more names is so among fewer.
    have hnew' := fun hmem => hnew (h hmem)
    rw [expand_cons_inclusion hrequest hnew, expand_cons_inclusion hrequest hnew']
    refine Run.SameUnless.andThen (.same rfl) fun inner hinner _ => ?_
    have hinside := Chain.append_subset_append h (fs.nameOf path)
    exact (ihfile inner hinner hinside).andThen fun _ _ _ => (ihrest h).map _

/-- The source is among the names in both passes. -/
theorem onlyCut_resolve (records : List Record) (source : String) :
    Run.OnlyCut Fault.IsCycle fun active => resolve fs records source active :=
  .of_sameUnless fun h => expand_sameUnless (Chain.append_subset_append h _) source records

end Inclusion

/-! ### The second pass -/

namespace Role

variable {fs : FileSystem} {roles : String}

/-- **More roles around the second pass** can only add cycles, in the wrappings of the roles that
they are found in. -/
theorem inline_sameUnless {active more : List String} (h : active ⊆ more) (tasks : List Task) :
    (inline fs roles tasks more).SameUnless Fault.EndsInCycle (inline fs roles tasks active) := by
  -- Along the recursion with more names. A cycle inside of a role is wrapped and stays one.
  induction more, tasks using inline_induction fs roles generalizing active with
  | nil more =>
    rw [inline_nil, inline_nil]
    exact .same rfl
  | other more t rest hrole ih =>
    rw [inline_cons_none hrole, inline_cons_none hrole]
    exact (ih h).map _
  | nameless more t rest hrole =>
    rw [inline_cons_some hrole, inline_cons_some hrole, if_pos rfl, if_pos rfl]
    exact .same rfl
  | cycle more t rest name hrole hname hmem =>
    rw [inline_cons_some hrole, if_neg hname, if_pos hmem]
    exact .cut rfl ⟨_, _, rfl⟩ List.nil_prefix
  | role more t rest name hrole hname hnew ihrole ihrest =>
    rw [inline_cons_some hrole, if_neg hname, if_neg hnew, inline_cons_some hrole, if_neg hname,
      if_neg fun hmem => hnew (h hmem)]
    have hinside := Chain.append_subset_append h name
    have hincluded := Run.SameUnless.andThen (.same rfl) fun tasks htasks
        (_ : (resolve fs roles name).outcome = .ok tasks) => ihrole tasks htasks hinside
    refine (hincluded.mapFault fun f hf => hf.wrap name).andThen fun _ _ _ => (ihrest h).map _

theorem onlyCut_inline (tasks : List Task) :
    Run.OnlyCut Fault.EndsInCycle fun active => inline fs roles tasks active :=
  .of_sameUnless fun h => inline_sameUnless h tasks

end Role

/-- **What is active around them can only add cycles to the passes.** With more files around it, the
first pass has the same outcome or ends with a cycle. With more roles around it, the second pass has
the same outcome or ends with a cycle, which may be inside roles. So wherever the passes succeed,
they give the same tasks. -/
theorem Resolution.onlyCut_by_cycles (fs : FileSystem) (roles : String) :
    (∀ (records : List Record) (source : String),
      Run.OnlyCut Fault.IsCycle fun active => Inclusion.resolve fs records source active) ∧
    ∀ tasks : List Task,
      Run.OnlyCut Fault.EndsInCycle fun active => Role.inline fs roles tasks active :=
  ⟨Inclusion.onlyCut_resolve, Role.onlyCut_inline⟩

end Playbook
