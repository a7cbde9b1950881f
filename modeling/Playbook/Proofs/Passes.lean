import Playbook.Resolution

/-!
# The two passes, step by step

The first pass (`Inclusion.expand`) replaces inclusions of files, the second (`Role.inline`)
inclusions of roles. Both are recursions on a list whose inner calls go to other lists, read from
files, and both are defined with what makes them end: the first by a measure, the second by a list
of names that all roles met are in. This module forgets how they end and keeps what they do, one
element of the list at a time:

* `Inclusion.expand_cons_task`, `Inclusion.expand_cons_inclusion` and their like say what the first
  pass does with a record;
* `Role.inlineWithin_congr` says that the list of names does not matter, so that
  `Role.inline_cons_none` and `Role.inline_cons_some` can speak of `Role.inline` alone;
* `Role.inline_induction` is the recursion of the second pass as an induction rule: a role may be
  assumed for its own tasks when it is entered, and only then.

For runs that succeed the equations are turned into equivalences
(`Inclusion.expand_inclusion_eq_ok`, `Role.inline_role_eq_ok`, `Role.inline_append_eq_ok`), in which
every later proof about results is written.
-/

namespace Playbook

/-! ### Runs -/

namespace Run

variable {α β : Type}

/-- A run that goes on after another depends only on how it goes on from results of the other. -/
theorem andThen_congr {x : Run α} {f g : (a : α) → x.outcome = .ok a → Run β}
    (h : ∀ a ha, f a ha = g a ha) : x.andThen f = x.andThen g := by
  -- what comes next takes a proof of success, so a rewrite under the binder would not do
  have : f = g := by
    funext a ha
    exact h a ha
  rw [this]

/-- A changed run fails as the run itself does. -/
theorem map_outcome_eq_error {f : α → β} {x : Run α} {e : Fault} :
    (x.map f).outcome = .error e ↔ x.outcome = .error e := by
  rw [map_outcome]
  cases x.outcome <;> simp [Except.map]

/-- A run after another fails if the first fails, or if the second does after the first. -/
theorem andThen_outcome_eq_error {x : Run α} {f : (a : α) → x.outcome = .ok a → Run β}
    {e : Fault} :
    (x.andThen f).outcome = .error e ↔
      x.outcome = .error e ∨ ∃ a h, (f a h).outcome = .error e := by
  obtain ⟨e', he⟩ | ⟨a, ha⟩ := x.outcome_cases
  · simp [andThen_of_error he, he]
  · rw [andThen_of_ok ha]
    constructor
    · exact fun h => .inr ⟨a, ha, h⟩
    · rintro (h | ⟨b, hb, h⟩)
      · -- the first has succeeded, so it cannot also have failed
        rw [ha] at h
        cases h
      · obtain rfl : a = b := Except.ok.inj (ha.symm.trans hb)
        exact h

/-- A run that goes on leaves the trace of its first part first. -/
theorem events_prefix_andThen (x : Run α)
    (f : (a : α) → x.outcome = .ok a → Run β) : x.events <+: (x.andThen f).events := by
  obtain ⟨e, he⟩ | ⟨a, ha⟩ := x.outcome_cases
  · simp [andThen_of_error he]
  · simp [andThen_of_ok ha]

/-- A change of the fault leaves success as it is. -/
theorem mapFault_outcome_eq_ok {f : Fault → Fault} {x : Run α} {a : α} :
    (x.mapFault f).outcome = .ok a ↔ x.outcome = .ok a := by
  rw [mapFault_outcome]
  cases x.outcome with
  | ok b => exact Iff.rfl
  | error e => exact iff_of_false (fun h => by cases h) (fun h => by cases h)

/-- A run with a changed fault fails as the run itself does, with the change. -/
theorem mapFault_outcome_eq_error {f : Fault → Fault} {x : Run α} {e : Fault} :
    (x.mapFault f).outcome = .error e ↔ ∃ e', x.outcome = .error e' ∧ f e' = e := by
  rw [mapFault_outcome]
  cases x.outcome with
  | error e' =>
    constructor
    · intro h
      cases h
      exact ⟨e', rfl, rfl⟩
    · rintro ⟨_, h, rfl⟩
      cases h
      rfl
  | ok a =>
    constructor
    · intro h
      cases h
    · rintro ⟨_, h, -⟩
      cases h

end Run

/-! ### Files with records -/

/-- A file holds records: it can be opened, and its content is a document of these records. How a
fault would be worded plays no part in this. -/
def FileSystem.Holds (fs : FileSystem) (path : String) (records : List Record) : Prop :=
  ∃ content, fs.read path = .ok content ∧ (Document.bytes content).records "" none = .ok records

theorem FileSystem.recordsAt_eq_ok {fs : FileSystem} {path readHeadline parseHeadline : String}
    {file : Option String} {records : List Record} :
    (fs.recordsAt path readHeadline parseHeadline file).outcome = .ok records ↔
      fs.Holds path records := by
  constructor
  · intro h
    obtain ⟨content, hread, hdecode⟩ := FileSystem.read_of_recordsAt h
    exact ⟨content, hread, Role.records_headline hdecode⟩
  · rintro ⟨content, hread, hdecode⟩
    simp only [FileSystem.recordsAt, hread]
    exact Role.records_headline hdecode

/-- A file holds one list of records. -/
theorem FileSystem.Holds.unique {fs : FileSystem} {path : String} {records records' : List Record}
    (h : fs.Holds path records) (h' : fs.Holds path records') : records = records' := by
  obtain ⟨content, hread, hdecode⟩ := h
  obtain ⟨content', hread', hdecode'⟩ := h'
  obtain rfl := Except.ok.inj (hread.symm.trans hread')
  exact Except.ok.inj (hdecode.symm.trans hdecode')

/-! ### Faults of single steps -/

/-- A record without a path to include is at fault for its shape, in its own file, unless not even
the sentence of the fault can be made. -/
theorem Record.fault_of_inclusion? {r : Record} {source : String} {f : Fault}
    (h : r.inclusion? source = .error f) :
    (∃ headline, f = .shape headline source) ∨ ∃ e, f = .failure e := by
  unfold Record.inclusion? at h
  split at h
  · cases h
  · split at h
    · split at h
      · cases h
      · split at h
        · exact .inl ⟨_, (Except.error.inj h).symm⟩
        · exact .inr ⟨_, (Except.error.inj h).symm⟩
    · exact .inl ⟨_, (Except.error.inj h).symm⟩
  · split at h
    · exact .inl ⟨_, (Except.error.inj h).symm⟩
    · exact .inr ⟨_, (Except.error.inj h).symm⟩

/-- A record that builds no task is at fault for its shape, likewise. -/
theorem Record.fault_of_build {r : Record} {source : String} {f : Fault}
    (h : r.build source = .error f) :
    (∃ headline, f = .shape headline source) ∨ ∃ e, f = .failure e := by
  unfold Record.build at h
  split at h
  · cases h
  · cases h
  · split at h
    · exact .inl ⟨_, (Except.error.inj h).symm⟩
    · exact .inr ⟨_, (Except.error.inj h).symm⟩

/-- **Faults of records.** A malformed record is at fault for its shape, in its own file. -/
theorem Record.fault_of_request {r : Record} {source : String} {f : Fault}
    (h : r.request source = .error f) :
    (∃ headline, f = .shape headline source) ∨ ∃ e, f = .failure e := by
  simp only [Record.request, bind, Except.bind, pure, Except.pure] at h
  -- the path of a file is looked for first, and only without one a task is built
  split at h
  · next hinclusion => exact fault_of_inclusion? (Except.error.inj h ▸ hinclusion)
  · split at h
    · cases h
    · split at h
      · next hbuild => exact fault_of_build (Except.error.inj h ▸ hbuild)
      · cases h

/-- **Faults of files.** A file without records is refused by the system, or is no document of
records, or has a path that no file can have or a value without a text. -/
theorem FileSystem.fault_of_recordsAt {fs : FileSystem} {path readHeadline parseHeadline : String}
    {file : Option String} {f : Fault}
    (h : (fs.recordsAt path readHeadline parseHeadline file).outcome = .error f) :
    (∃ e, f = .resolution .taskFile readHeadline none (some (.system e))) ∨
      (∃ e, f = .resolution .decode parseHeadline file (some (.document e))) ∨
      ∃ e, f = .failure e := by
  simp only [FileSystem.recordsAt] at h
  split at h
  · exact .inl ⟨_, (Except.error.inj h).symm⟩
  · exact .inr (.inr ⟨_, (Except.error.inj h).symm⟩)
  · rw [Document.records] at h
    split at h
    · cases h
    · exact .inr (.inl ⟨_, (Except.error.inj h).symm⟩)
    · exact .inr (.inr ⟨_, (Except.error.inj h).symm⟩)

/-! ### The first pass -/

namespace Inclusion

variable {fs : FileSystem} {active : List String} {source : String} {r : Record}
  {rest : List Record}

@[simp] theorem expand_nil : expand fs active source [] = .done [] := by
  rw [expand]

/-- A malformed record ends the pass. -/
theorem expand_cons_fault {f : Fault} (h : r.request source = .error f) :
    expand fs active source (r :: rest) = .fail f := by
  rw [expand, h]

/-- A record that describes a task gives that task. -/
theorem expand_cons_task {t : Task} (h : r.request source = .ok (.task t)) :
    expand fs active source (r :: rest) = (expand fs active source rest).map (t :: ·) := by
  rw [expand, h]

/-- A record that includes an active file ends the pass. -/
theorem expand_cons_cycle {path : String} (h : r.request source = .ok (.inclusion path))
    (hactive : fs.nameOf path ∈ active) :
    expand fs active source (r :: rest) =
      .fail (.includeCycle (active ++ [fs.nameOf path]) (some source)) := by
  rw [expand, h]
  simp only [hactive, ↓reduceDIte]

/-- A record that includes a new file gives the tasks of the file. -/
theorem expand_cons_inclusion {path : String} (h : r.request source = .ok (.inclusion path))
    (hactive : fs.nameOf path ∉ active) :
    expand fs active source (r :: rest) =
      (recordsOf fs path).andThen fun records _ =>
        (expand fs (active ++ [fs.nameOf path]) path records).andThen fun included _ =>
          (expand fs active source rest).map (included ++ ·) := by
  rw [expand, h]
  simp only [hactive, ↓reduceDIte]

@[simp] theorem recordsOf_eq_ok {path : String} {records : List Record} :
    (recordsOf fs path).outcome = .ok records ↔ fs.Holds path records :=
  FileSystem.recordsAt_eq_ok

/-- **Success at a task.** -/
theorem expand_task_eq_ok {t : Task} (h : r.request source = .ok (.task t)) {tasks : List Task} :
    (expand fs active source (r :: rest)).outcome = .ok tasks ↔
      ∃ more, (expand fs active source rest).outcome = .ok more ∧ t :: more = tasks := by
  rw [expand_cons_task h, Run.map_outcome_eq_ok]

/-- **Success at an inclusion:** the file is new and has records, and both the records of the file
and those that are left succeed. -/
theorem expand_inclusion_eq_ok {path : String} (h : r.request source = .ok (.inclusion path))
    {tasks : List Task} :
    (expand fs active source (r :: rest)).outcome = .ok tasks ↔
      fs.nameOf path ∉ active ∧ ∃ records included more,
        fs.Holds path records ∧
        (expand fs (active ++ [fs.nameOf path]) path records).outcome = .ok included ∧
        (expand fs active source rest).outcome = .ok more ∧ included ++ more = tasks := by
  by_cases hactive : fs.nameOf path ∈ active
  · rw [expand_cons_cycle h hactive]
    simp [hactive]
  · rw [expand_cons_inclusion h hactive]
    simp only [Run.andThen_outcome_eq_ok, Run.map_outcome_eq_ok, recordsOf_eq_ok, exists_prop,
      hactive, not_false_eq_true, true_and]
    constructor
    · rintro ⟨records, hrecords, included, hincluded, more, hmore, htasks⟩
      exact ⟨records, included, more, hrecords, hincluded, hmore, htasks⟩
    · rintro ⟨records, included, more, hrecords, hincluded, hmore, htasks⟩
      exact ⟨records, hrecords, included, hincluded, more, hmore, htasks⟩

/-- The trace of a success at an inclusion: the file is announced and opened, then its records leave
their trace, then those that are left. -/
theorem expand_inclusion_events {path : String} {records : List Record} {included : List Task}
    (h : r.request source = .ok (.inclusion path)) (hactive : fs.nameOf path ∉ active)
    (hfile : fs.Holds path records)
    (hincluded : (expand fs (active ++ [fs.nameOf path]) path records).outcome = .ok included) :
    (expand fs active source (r :: rest)).events =
      [.told 3 ("including tasks from " ++ path), .opened path] ++
        ((expand fs (active ++ [fs.nameOf path]) path records).events ++
          (expand fs active source rest).events) := by
  rw [expand_cons_inclusion h hactive, Run.andThen_of_ok (recordsOf_eq_ok.2 hfile),
    Run.andThen_of_ok hincluded]
  rfl

/-- **Failure at an inclusion of a new file:** the file gives no records, or these fail, or those
that are left do. -/
theorem expand_inclusion_eq_error {path : String} (h : r.request source = .ok (.inclusion path))
    (hactive : fs.nameOf path ∉ active) {f : Fault} :
    (expand fs active source (r :: rest)).outcome = .error f ↔
      (recordsOf fs path).outcome = .error f ∨ ∃ records, fs.Holds path records ∧
        ((expand fs (active ++ [fs.nameOf path]) path records).outcome = .error f ∨
          (∃ included,
            (expand fs (active ++ [fs.nameOf path]) path records).outcome = .ok included) ∧
          (expand fs active source rest).outcome = .error f) := by
  rw [expand_cons_inclusion h hactive]
  simp only [Run.andThen_outcome_eq_error, Run.map_outcome_eq_error, recordsOf_eq_ok, exists_prop,
    exists_and_right]

/-- A run that succeeds has met no malformed record. -/
theorem request_of_expand_eq_ok {tasks : List Task}
    (h : (expand fs active source (r :: rest)).outcome = .ok tasks) :
    ∃ q, r.request source = .ok q := by
  cases hreq : r.request source with
  | ok q => exact ⟨q, rfl⟩
  | error f => simp [expand_cons_fault hreq] at h

end Inclusion

/-! ### The second pass -/

namespace Role

variable {fs : FileSystem} {roles : String}

/-- **The names do not matter.** The list of names that bounds the second pass has no influence on
what the pass does. -/
theorem inlineWithin_congr {names names' active : List String} {tasks : List Task} (h h' k k') :
    inlineWithin fs roles names active tasks h h' =
      inlineWithin fs roles names' active tasks k k' := by
  -- both sides call themselves in the same places, so the recursion of the left one is followed
  induction active, tasks, h, h' using inlineWithin.induct fs roles names with
  | case1 => rw [inlineWithin, inlineWithin]
  | case2 active _ t rest hnames hvocabulary hrest hrole _ ih =>
    rw [inlineWithin, inlineWithin]
    split
    · rw [ih (fun u hu => k u (List.mem_cons_of_mem _ hu))]
    · simp_all
  | case3 active _ t rest hnames hvocabulary _ _ hrole =>
    rw [inlineWithin, inlineWithin]
    split
    · simp_all
    · next hname =>
      obtain rfl := Option.some.inj (hrole.symm.trans hname)
      rfl
  | case4 active _ t rest hnames hvocabulary _ name hrole hne hactive =>
    rw [inlineWithin, inlineWithin]
    split
    · simp_all
    · next hname =>
      obtain rfl := Option.some.inj (hrole.symm.trans hname)
      simp only [hne, hactive, ↓reduceIte, ↓reduceDIte]
  | case5 active _ t rest hnames hvocabulary hrest name hrole hne hactive _ ihrole ihrest =>
    rw [inlineWithin, inlineWithin]
    split
    · simp_all
    · next hname =>
      obtain rfl := Option.some.inj (hrole.symm.trans hname)
      simp only [hne, hactive, ↓reduceIte, ↓reduceDIte]
      -- the rest bears its names in its tasks, the role finds its own in the files
      rw [ihrest (fun u hu => k u (List.mem_cons_of_mem _ hu))]
      have hinner := Run.andThen_congr fun tasks htasks =>
        ihrole tasks htasks fun u hu n hn => k' n (mem_vocabulary htasks hu hn)
      rw [hinner]

/-- **The recursion of the second pass as an induction rule.** The tasks of a role are a smaller
case only where the role is entered: it has a name, the name is new, and the role can be
resolved. -/
@[elab_as_elim]
theorem inline_induction (fs : FileSystem) (roles : String)
    {motive : List String → List Task → Prop}
    (nil : ∀ active, motive active [])
    (other : ∀ active t rest, t.roleName? = none → motive active rest → motive active (t :: rest))
    (nameless : ∀ active t rest, t.roleName? = some "" → motive active (t :: rest))
    (cycle : ∀ active t rest name, t.roleName? = some name → name ≠ "" → name ∈ active →
      motive active (t :: rest))
    (role : ∀ active t rest name, t.roleName? = some name → name ≠ "" → name ∉ active →
      (∀ tasks, (resolve fs roles name).outcome = .ok tasks → motive (active ++ [name]) tasks) →
      motive active rest → motive active (t :: rest))
    (active : List String) (tasks : List Task) : motive active tasks := by
  -- any list of names that is large enough will do
  have hnames : ∀ t ∈ tasks, ∀ name, t.roleName? = some name →
      name ∈ namesIn tasks ++ vocabulary fs := fun t ht _ h =>
    List.mem_append_left _ (List.mem_filterMap.2 ⟨t, ht, h⟩)
  have hvocabulary : ∀ name ∈ vocabulary fs, name ∈ namesIn tasks ++ vocabulary fs :=
    fun _ h => List.mem_append_right _ h
  revert hnames hvocabulary
  generalize namesIn tasks ++ vocabulary fs = names
  intro hnames hvocabulary
  induction active, tasks, hnames, hvocabulary using inlineWithin.induct fs roles names with
  | case1 active => exact nil active
  | case2 active _ t rest _ _ _ hrole _ ih => exact other active t rest hrole ih
  | case3 active _ t rest _ _ _ _ hrole => exact nameless active t rest hrole
  | case4 active _ t rest _ _ _ name hrole hne hactive =>
    exact cycle active t rest name hrole hne hactive
  | case5 active _ t rest _ _ _ name hrole hne hactive _ ihrole ihrest =>
    exact role active t rest name hrole hne hactive ihrole ihrest

section Equations

variable {active : List String} {t : Task} {rest : List Task} {name : String}

@[simp] theorem inline_nil : inline fs roles [] active = .done [] := by
  rw [inline, inlineWithin]

/-- The second pass on what is left of a list, under the names of the whole list. -/
private theorem inlineWithin_eq_inline {names : List String} {tasks : List Task} (h h') :
    inlineWithin fs roles names active tasks h h' = inline fs roles tasks active := by
  rw [inline, inlineWithin_congr]

/-- A task that includes no role stays. -/
theorem inline_cons_none (hrole : t.roleName? = none) :
    inline fs roles (t :: rest) active = (inline fs roles rest active).map (t :: ·) := by
  rw [inline, inlineWithin]
  split
  · rw [inlineWithin_eq_inline]
  · simp_all

/-- A task that includes a role gives way to the tasks of the role, in which roles are inlined
while this one is active. -/
theorem inline_cons_some (hrole : t.roleName? = some name) :
    inline fs roles (t :: rest) active =
      if name = "" then .fail (nameless t)
      else if name ∈ active then .fail (.includeCycle (active ++ [name]) (some t.source))
      else
        (((resolve fs roles name).andThen fun tasks _ =>
          inline fs roles tasks (active ++ [name])).mapFault (wrap name)).andThen fun included _ =>
            (inline fs roles rest active).map (included ++ ·) := by
  rw [inline, inlineWithin]
  split
  · simp_all
  · next hname =>
    obtain rfl := Option.some.inj (hrole.symm.trans hname)
    -- inside the role the pass still runs under the names of the outer list
    have hinner := Run.andThen_congr fun tasks (htasks : (resolve fs roles name).outcome = _) =>
      @inlineWithin_eq_inline fs roles (active ++ [name]) (namesIn (t :: rest) ++ vocabulary fs)
        tasks (fun _ hu _ hn => List.mem_append_right _ (mem_vocabulary htasks hu hn))
        (fun _ hn => List.mem_append_right _ hn)
    rw [hinner]
    simp only [inlineWithin_eq_inline, dite_eq_ite]

end Equations

/-! ### Success of the second pass -/

/-- **Success of a role:** its task file holds records, and these succeed in the first pass. -/
theorem resolve_eq_ok {name : String} {tasks : List Task} :
    (resolve fs roles name).outcome = .ok tasks ↔
      ∃ records, fs.Holds (tasksPath roles name) records ∧
        (Inclusion.resolve fs records (tasksPath roles name)).outcome = .ok tasks := by
  rw [resolve, Run.andThen_outcome_eq_ok]
  simp only [Run.after_outcome, FileSystem.recordsAt_eq_ok, exists_prop]

section Success

variable {active : List String} {t : Task} {rest out : List Task} {name : String}

/-- **Success at a task that stays.** -/
theorem inline_none_eq_ok (hrole : t.roleName? = none) :
    (inline fs roles (t :: rest) active).outcome = .ok out ↔
      ∃ more, (inline fs roles rest active).outcome = .ok more ∧ t :: more = out := by
  rw [inline_cons_none hrole, Run.map_outcome_eq_ok]

/-- **Success at a role:** it has a name, the name is new, and the role, its own tasks and those
that are left succeed. -/
theorem inline_role_eq_ok (hrole : t.roleName? = some name) :
    (inline fs roles (t :: rest) active).outcome = .ok out ↔
      name ≠ "" ∧ name ∉ active ∧ ∃ tasks included more,
        (resolve fs roles name).outcome = .ok tasks ∧
        (inline fs roles tasks (active ++ [name])).outcome = .ok included ∧
        (inline fs roles rest active).outcome = .ok more ∧ included ++ more = out := by
  rw [inline_cons_some hrole]
  by_cases hne : name = ""
  · simp [hne]
  · by_cases hactive : name ∈ active
    · simp [hne, hactive]
    · simp only [hne, hactive, ↓reduceIte, ne_eq, not_false_eq_true, true_and,
        Run.andThen_outcome_eq_ok, Run.mapFault_outcome_eq_ok, Run.map_outcome_eq_ok, exists_prop]
      constructor
      · rintro ⟨included, ⟨tasks, htasks, hincluded⟩, more, hmore, hout⟩
        exact ⟨tasks, included, more, htasks, hincluded, hmore, hout⟩
      · rintro ⟨tasks, included, more, htasks, hincluded, hmore, hout⟩
        exact ⟨included, ⟨tasks, htasks, hincluded⟩, more, hmore, hout⟩

/-- The trace of a success at a role: that of the role, that of the second pass on its tasks, and
that of the pass on the tasks that are left. -/
theorem inline_role_events {tasks included : List Task} (hrole : t.roleName? = some name)
    (hne : name ≠ "") (hactive : name ∉ active)
    (htasks : (resolve fs roles name).outcome = .ok tasks)
    (hincluded : (inline fs roles tasks (active ++ [name])).outcome = .ok included) :
    (inline fs roles (t :: rest) active).events =
      (resolve fs roles name).events ++ (inline fs roles tasks (active ++ [name])).events ++
        (inline fs roles rest active).events := by
  rw [inline_cons_some hrole, if_neg hne, if_neg hactive, Run.andThen_of_ok htasks]
  have hinner : (Run.mapFault (wrap name)
      ⟨(resolve fs roles name).events ++ (inline fs roles tasks (active ++ [name])).events,
        (inline fs roles tasks (active ++ [name])).outcome⟩).outcome = .ok included :=
    Run.mapFault_outcome_eq_ok.2 hincluded
  rw [Run.andThen_of_ok hinner]
  rfl

/-- The trace of a role whose file holds records: the file is announced and opened, and its records
leave the rest. -/
theorem resolve_events {records : List Record} (hfile : fs.Holds (tasksPath roles name) records) :
    (resolve fs roles name).events =
      [.told 3 ("loading role " ++ name ++ " from " ++ tasksPath roles name),
        .opened (tasksPath roles name)] ++
        (Inclusion.resolve fs records (tasksPath roles name)).events := by
  have hrecords : ∀ e readHeadline parseHeadline file,
      (Run.after e (fs.recordsAt (tasksPath roles name) readHeadline parseHeadline file)).outcome =
        .ok records :=
    fun _ _ _ _ => FileSystem.recordsAt_eq_ok.2 hfile
  rw [resolve, Run.andThen_of_ok (hrecords _ _ _ _)]
  rfl

/-- **Success at two lists:** the second pass takes one after the other. -/
theorem inline_append_eq_ok {a b : List Task} :
    (inline fs roles (a ++ b) active).outcome = .ok out ↔
      ∃ x y, (inline fs roles a active).outcome = .ok x ∧
        (inline fs roles b active).outcome = .ok y ∧ x ++ y = out := by
  induction a generalizing out with
  | nil => simp
  | cons t rest ih =>
    rw [List.cons_append]
    cases hrole : t.roleName? with
    | none =>
      simp only [inline_none_eq_ok hrole, ih]
      constructor
      · rintro ⟨_, ⟨x, y, hx, hy, rfl⟩, rfl⟩
        exact ⟨t :: x, y, ⟨x, hx, rfl⟩, hy, rfl⟩
      · rintro ⟨_, y, ⟨x, hx, rfl⟩, hy, rfl⟩
        exact ⟨x ++ y, ⟨x, y, hx, hy, rfl⟩, rfl⟩
    | some name =>
      -- the tasks of the role stand in front of either part, so only the brackets move
      simp only [inline_role_eq_ok hrole, ih]
      constructor
      · rintro ⟨hne, hnew, tasks, included, _, htasks, hincluded, ⟨x, y, hx, hy, rfl⟩, rfl⟩
        exact ⟨included ++ x, y, ⟨hne, hnew, tasks, included, x, htasks, hincluded, hx, rfl⟩, hy,
          List.append_assoc ..⟩
      · rintro ⟨_, y, ⟨hne, hnew, tasks, included, x, htasks, hincluded, hx, rfl⟩, hy, rfl⟩
        exact ⟨hne, hnew, tasks, included, x ++ y, htasks, hincluded, ⟨x, y, hx, hy, rfl⟩,
          (List.append_assoc ..).symm⟩

end Success

end Role

end Playbook
