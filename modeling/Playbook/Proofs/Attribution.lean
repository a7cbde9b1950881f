import Mathlib.Data.List.Forall2
import Playbook.Proofs.Passes

/-!
# Flat plays and where their tasks come from

What a playbook resolves to has no inclusions left in it, and every task in it says truthfully which
file it was written in.

* `Task.FromFile` — a task is what one record of a task file describes, the task names that file as
  its source, and the trace shows that the file was read as a task file: it was announced as an
  inclusion or as the file of a role, and then opened.
* `Resolution.Settled` — in a play, no task bears a directive as its module, so that the second pass
  has nothing more to do; and every task comes from a record at hand in the play itself, with the
  playbook as its source, or from a task file that was read on the way.
* `Resolution.load_flat_attributed` — in a playbook that loads, every play is settled.

Both facts go through the two passes as invariants of their results. After the first pass a task
comes from the records at hand or from a file (`Inclusion.origin_of_mem_expand`), which answers for
the tasks of a role, as the file of the role is itself announced and opened
(`Role.fromFile_of_resolve`). The second pass removes every inclusion of a role and adds only tasks
of roles (`Role.origin_of_mem_inline`). A trace only ever grows around what was read, so a file that
was read during a part of a run was read during the run (`Task.FromFile.mono`).
-/

namespace Playbook

/-! ### Modules of tasks -/

/-- The module of a task that a record describes is no directive, the inclusion of a role apart. -/
theorem Record.directive_of_build {r : Record} {source : String} {t : Task}
    (h : r.build source = .ok t) :
    Directive.ofKey? t.module = none ∨ Directive.ofKey? t.module = some .includeRole := by
  unfold Record.build at h
  -- Without a module the task has the default one, and with several of them the record is refused.
  split at h
  · cases h
    exact .inl rfl
  · next module hkeys =>
    cases h
    -- the module is one of the keys that name modules, which are chosen by their directive
    have hmem : module ∈ r.moduleKeys := by simp [hkeys]
    show Directive.ofKey? module = none ∨ Directive.ofKey? module = some .includeRole
    simpa [Record.moduleKeys] using (List.mem_filter.1 hmem).2
  · split at h <;> cases h

/-- A task that includes no role has no directive as its module. -/
theorem Task.ofKey?_of_roleName? {t : Task} {r : Record} (h : r.build t.source = .ok t)
    (hrole : t.roleName? = none) : Directive.ofKey? t.module = none := by
  rcases Record.directive_of_build h with hnone | hinclude
  · exact hnone
  · simp [Task.roleName?, Directive.isRoleInclusion, hinclude] at hrole

/-- A key without a meaning of its own is none of the directives' keys. -/
theorem Directive.ne_of_ofKey? {module : Value} (h : Directive.ofKey? module = none) :
    ∀ key ∈ Directive.table.map Prod.fst, module ≠ .str key := by
  intro key hkey heq
  rw [heq, Directive.ofKey?_str] at h
  have hall : ∀ key ∈ Directive.table.map Prod.fst, Directive.ofText? key ≠ none := by decide
  exact hall key hkey h

/-! ### Origins of tasks -/

/-- A trace shows that a path was read as a task file: it was announced as the file of an inclusion,
or as that of a role, and then opened. -/
def ReadAsTasks (roles : String) (events : List Event) (path : String) : Prop :=
  [.told 3 ("including tasks from " ++ path), .opened path] <:+: events ∨
    ∃ name, path = Role.tasksPath roles name ∧
      [.told 3 ("loading role " ++ name ++ " from " ++ path), .opened path] <:+: events

/-- **A task that comes from a file.** One record of the file that the task names as its source
describes the task, and a trace shows that the file was read as a task file. -/
def Task.FromFile (fs : FileSystem) (roles : String) (events : List Event) (t : Task) : Prop :=
  ReadAsTasks roles events t.source ∧ ∃ records r, fs.Holds t.source records ∧ r ∈ records ∧
    r.build t.source = .ok t

/-- **A task that comes from records at hand.** Their source is the source of the task. -/
def Task.FromRecords (source : String) (records : List Record) (t : Task) : Prop :=
  t.source = source ∧ ∃ r ∈ records, r.build t.source = .ok t

section Mono

variable {fs : FileSystem} {roles : String} {events events' : List Event} {t : Task}

/-- What a part of a trace shows, the trace shows. -/
theorem ReadAsTasks.mono {path : String} (h : ReadAsTasks roles events path)
    (hsub : events <:+: events') : ReadAsTasks roles events' path := by
  rcases h with h | ⟨name, hname, h⟩
  · exact .inl (h.trans hsub)
  · exact .inr ⟨name, hname, h.trans hsub⟩

theorem Task.FromFile.mono (h : t.FromFile fs roles events) (hsub : events <:+: events') :
    t.FromFile fs roles events' :=
  ⟨h.1.mono hsub, h.2⟩

theorem Task.FromRecords.cons {source : String} {r : Record} {rest : List Record}
    (h : t.FromRecords source rest) : t.FromRecords source (r :: rest) := by
  obtain ⟨hsource, r', hr', hbuild⟩ := h
  exact ⟨hsource, r', List.mem_cons_of_mem _ hr', hbuild⟩

/-- Some record describes a task that comes from records at hand or from a file. -/
theorem Task.exists_build {source : String} {records : List Record}
    (h : t.FromRecords source records ∨ t.FromFile fs roles events) :
    ∃ r : Record, r.build t.source = .ok t := by
  rcases h with ⟨_, r, _, hbuild⟩ | ⟨_, _, r, _, _, hbuild⟩ <;> exact ⟨r, hbuild⟩

end Mono

/-! ### The first pass -/

namespace Inclusion

variable {fs : FileSystem} {roles : String}

/-- **Tasks of the first pass** come from the records at hand or from a file that was read. -/
theorem origin_of_mem_expand {active : List String} {source : String} {records : List Record}
    {tasks : List Task} (h : (expand fs active source records).outcome = .ok tasks) {t : Task}
    (ht : t ∈ tasks) :
    t.FromRecords source records ∨
      t.FromFile fs roles (expand fs active source records).events := by
  -- Along the first pass: a task of the records at hand is described by one of them, and a task of
  -- a file by what the file holds.
  induction active, source, records using expand.induct fs generalizing tasks with
  | case1 active source =>
    rw [expand_nil, Run.done_outcome] at h
    cases h
    cases ht
  | case2 active source r rest f hrequest =>
    rw [expand_cons_fault hrequest] at h
    cases h
  | case3 active source r rest u hrequest ih =>
    obtain ⟨more, hmore, rfl⟩ := (expand_task_eq_ok hrequest).1 h
    rcases List.mem_cons.1 ht with rfl | hmem
    · have hbuild := Record.build_of_request hrequest
      have hsource := Record.source_of_build hbuild
      exact .inl ⟨hsource, r, List.mem_cons_self, hsource ▸ hbuild⟩
    · rw [expand_cons_task hrequest, Run.map_events]
      exact (ih hmore hmem).imp_left Task.FromRecords.cons
  | case4 active source r rest path hrequest hactive =>
    exact absurd hactive ((expand_inclusion_eq_ok hrequest).1 h).1
  | case5 active source r rest path hrequest hnew ihfile ihrest =>
    obtain ⟨-, inner, included, more, hfile, hincluded, hmore, rfl⟩ :=
      (expand_inclusion_eq_ok hrequest).1 h
    rw [expand_inclusion_events hrequest hnew hfile hincluded]
    rcases List.mem_append.1 ht with hmem | hmem
    · right
      rcases ihfile inner (recordsOf_eq_ok.2 hfile) hincluded hmem with
        ⟨hsource, r', hr', hbuild⟩ | hdeep
      · -- a record of the file itself: the pair in front announces and opens it
        refine ⟨.inl ?_, inner, r', hsource.symm ▸ hfile, hr', hbuild⟩
        rw [hsource]
        exact (List.prefix_append _ _).isInfix
      · -- a file further down: its trace is a part of the trace of this one
        refine hdeep.mono (List.IsInfix.trans ?_ (List.suffix_append _ _).isInfix)
        exact (List.prefix_append _ _).isInfix
    -- What comes behind the inclusion has the last part of the trace.
    · refine (ihrest hmore hmem).imp Task.FromRecords.cons fun hrest => hrest.mono ?_
      rw [← List.append_assoc]
      exact (List.suffix_append _ _).isInfix

end Inclusion

/-! ### The second pass -/

namespace Role

variable {fs : FileSystem} {roles : String}

/-- **Tasks of a role** come from a file that was read: that of the role, or one included in it. -/
theorem fromFile_of_resolve {name : String} {tasks : List Task}
    (h : (resolve fs roles name).outcome = .ok tasks) {t : Task} (ht : t ∈ tasks) :
    t.FromFile fs roles (resolve fs roles name).events := by
  obtain ⟨records, hfile, hexpand⟩ := resolve_eq_ok.1 h
  rw [resolve_events hfile]
  rcases Inclusion.origin_of_mem_expand hexpand ht with ⟨hsource, r, hr, hbuild⟩ | hdeep
  · refine ⟨.inr ⟨name, hsource, ?_⟩, records, r, hsource.symm ▸ hfile, hr, hbuild⟩
    rw [hsource]
    exact (List.prefix_append _ _).isInfix
  · exact hdeep.mono (List.suffix_append _ _).isInfix

/-- **Tasks of the second pass** include no role, and are those of the list at hand or come from a
file that was read. -/
theorem origin_of_mem_inline {active : List String} {tasks out : List Task}
    (h : (inline fs roles tasks active).outcome = .ok out) {t : Task} (ht : t ∈ out) :
    t.roleName? = none ∧
      (t ∈ tasks ∨ t.FromFile fs roles (inline fs roles tasks active).events) := by
  -- Along the second pass. What is told of the list at hand carries over to the list that a role
  -- gives.
  induction active, tasks using inline_induction fs roles generalizing out with
  | nil active =>
    rw [inline_nil, Run.done_outcome] at h
    cases h
    cases ht
  | other active u rest hrole ih =>
    obtain ⟨more, hmore, rfl⟩ := (inline_none_eq_ok hrole).1 h
    rw [inline_cons_none hrole, Run.map_events]
    rcases List.mem_cons.1 ht with rfl | hmem
    · exact ⟨hrole, .inl List.mem_cons_self⟩
    · exact (ih hmore hmem).imp_right (Or.imp_left (List.mem_cons_of_mem _))
  | nameless active u rest hrole => exact absurd rfl ((inline_role_eq_ok hrole).1 h).1
  | cycle active u rest name hrole _ hactive =>
    exact absurd hactive ((inline_role_eq_ok hrole).1 h).2.1
  | role active u rest name hrole hname hnew ihrole ihrest =>
    obtain ⟨-, -, inner, included, more, hresolve, hincluded, hmore, rfl⟩ :=
      (inline_role_eq_ok hrole).1 h
    rw [inline_role_events hrole hname hnew hresolve hincluded]
    rcases List.mem_append.1 ht with hmem | hmem
    · -- whether the task was the role's own or came in deeper, a file was read for it
      obtain ⟨hnone, horigin⟩ := ihrole inner hresolve hincluded hmem
      refine ⟨hnone, .inr ?_⟩
      rcases horigin with hown | hdeep
      · refine (fromFile_of_resolve hresolve hown).mono ?_
        rw [List.append_assoc]
        exact (List.prefix_append _ _).isInfix
      · exact hdeep.mono ⟨_, _, rfl⟩
    · obtain ⟨hnone, horigin⟩ := ihrest hmore hmem
      exact ⟨hnone, horigin.imp (List.mem_cons_of_mem _)
        fun hrest => hrest.mono (List.suffix_append _ _).isInfix⟩

/-- **The second pass has nothing to do** where no task includes a role. -/
theorem inline_eq_done {active : List String} {tasks : List Task}
    (h : ∀ t ∈ tasks, t.roleName? = none) : inline fs roles tasks active = .done tasks := by
  induction tasks with
  | nil => exact inline_nil
  | cons t rest ih =>
    rw [inline_cons_none (h t List.mem_cons_self),
      ih fun u hu => h u (List.mem_cons_of_mem _ hu)]
    rfl

end Role

/-! ### Plays and playbooks -/

namespace Resolution

variable {fs : FileSystem} {path roles : String}

/-- Where the tasks of a play come from, as a trace shows it: from the play's own records, with the
playbook as their source, or from a task file that was read. -/
def Attributed (fs : FileSystem) (path roles : String) (events : List Event) (r : Record)
    (p : Play) : Prop :=
  ∀ t ∈ p.tasks, t.roleName? = none ∧
    (t.FromRecords path (taskRecords r) ∨ t.FromFile fs roles events)

theorem Attributed.mono {events events' : List Event} {r : Record} {p : Play}
    (h : Attributed fs path roles events r p) (hsub : events <:+: events') :
    Attributed fs path roles events' r p := by
  intro t ht
  obtain ⟨hnone, horigin⟩ := h t ht
  exact ⟨hnone, horigin.imp_right fun hfile => hfile.mono hsub⟩

/-- **Tasks of a play.** The second pass works on what the first pass has found, so its own origins
and those of the first pass come together. -/
theorem attributed_of_play {r : Record} {p : Play} (h : (play fs path roles r).outcome = .ok p) :
    Attributed fs path roles (play fs path roles r).events r p := by
  rw [play, Run.after_outcome, Run.map_outcome_eq_ok] at h
  obtain ⟨out, h, rfl⟩ := h
  obtain ⟨tasks, hexpand, hinline⟩ := Run.andThen_outcome_eq_ok.1 h
  -- the trace of the play: one message, then the trace of either pass
  rw [play, Run.andThen_of_ok hexpand]
  intro t ht
  obtain ⟨hnone, horigin⟩ := Role.origin_of_mem_inline hinline ht
  refine ⟨hnone, ?_⟩
  -- A task that was at hand for the second pass has come out of the first one.
  rcases horigin with hmem | hfile
  · refine (Inclusion.origin_of_mem_expand hexpand hmem).imp_right fun hfile => hfile.mono ?_
    exact ⟨[_], _, rfl⟩
  · refine .inr (hfile.mono ?_)
    exact (List.suffix_append (_ :: _) _).isInfix

/-- **Tasks of plays,** each from its own record. -/
theorem attributed_of_plays {records : List Record} {ps : List Play}
    (h : (plays fs path roles records).outcome = .ok ps) :
    List.Forall₂ (Attributed fs path roles (plays fs path roles records).events) records ps := by
  induction records generalizing ps with
  | nil =>
    rw [plays, Run.done_outcome] at h
    cases h
    exact .nil
  | cons r rest ih =>
    rw [plays] at h ⊢
    -- The trace of the plays is that of the first one, and then that of the others.
    obtain ⟨p, hplay, h⟩ := Run.andThen_outcome_eq_ok.1 h
    obtain ⟨more, hmore, rfl⟩ := Run.map_outcome_eq_ok.1 h
    rw [Run.andThen_of_ok hplay]
    refine .cons ((attributed_of_play hplay).mono (List.prefix_append _ _).isInfix) ?_
    exact (ih hmore).imp fun _ _ hp => hp.mono (List.suffix_append _ _).isInfix

/-- **A play is flat, and its tasks are truthfully attributed,** as a trace shows it. -/
structure Settled (fs : FileSystem) (path roles : String) (events : List Event) (r : Record)
    (p : Play) : Prop where
  /-- No task has a directive as its module. -/
  plain : ∀ t ∈ p.tasks, ∀ key ∈ Directive.table.map Prod.fst, t.module ≠ .str key
  /-- The second pass leaves the tasks as they are and opens nothing. -/
  flat : ∀ active, Role.inline fs roles p.tasks active = .done p.tasks
  /-- Every task is what a record describes that stands in the file the task names as its source: an
  item of the play's own tasks in the playbook, or a record of a file read as a task file. -/
  attributed : ∀ t ∈ p.tasks, t.FromRecords path (taskRecords r) ∨ t.FromFile fs roles events

/-- **What a playbook loads to is settled.** The plays answer one by one to the records of the
playbook, and each of them is flat and truthfully attributed, as the trace of loading shows. -/
theorem load_flat_attributed {ps : List Play} (h : (load fs path roles).outcome = .ok ps) :
    ∃ records, fs.Holds path records ∧
      List.Forall₂ (Settled fs path roles (load fs path roles).events) records ps := by
  rw [load] at h ⊢
  obtain ⟨records, hrecords, h⟩ := Run.andThen_outcome_eq_ok.1 h
  refine ⟨records, FileSystem.recordsAt_eq_ok.1 hrecords, ?_⟩
  rw [Run.andThen_of_ok hrecords]
  refine (attributed_of_plays h).imp fun r p hp => ?_
  refine ⟨?_, ?_, ?_⟩
  -- The three parts rest on one fact: no task of the play includes a role.
  · intro t ht
    obtain ⟨r', hbuild⟩ := Task.exists_build (hp t ht).2
    exact Directive.ne_of_ofKey? (Task.ofKey?_of_roleName? hbuild (hp t ht).1)
  · intro active
    exact Role.inline_eq_done fun t ht => (hp t ht).1
  · intro t ht
    exact (hp t ht).2.imp_right fun hfile => hfile.mono (List.suffix_append _ _).isInfix

/-! ### A playbook that includes a file and a role -/

/-- A playbook with one play, `- {tasks: [{include_tasks: a}, {include_role: {name: web}}]}`. -/
def webSite : Bytes :=
  [45, 32, 123, 116, 97, 115, 107, 115, 58, 32, 91, 123, 105, 110, 99, 108, 117, 100, 101, 95, 116,
    97, 115, 107, 115, 58, 32, 97, 125, 44, 32, 123, 105, 110, 99, 108, 117, 100, 101, 95, 114, 111,
    108, 101, 58, 32, 123, 110, 97, 109, 101, 58, 32, 119, 101, 98, 125, 125, 93, 125]

/-- A task file with one task, `- {ping: x}`. -/
def webTask : Bytes := [45, 32, 123, 112, 105, 110, 103, 58, 32, 120, 125]

/-- The playbook, the file it includes, and the file of the role it includes. -/
def webFiles : FileSystem :=
  .ofAnswers "/w"
    [("site", .ok webSite), ("a", .ok webTask), ("roles/web/tasks/main.yml", .ok webTask)]

/-- Whether a record describes a task that includes no role. -/
def isPlain (source : String) (r : Record) : Bool :=
  match r.request source with
  | .ok (.task t) => t.roleName? == none
  | _ => false

/-- Whether two records include the file `a` and the role `web`. -/
def includesBoth (source : String) (u v : Record) : Bool :=
  match u.request source, v.request source with
  | .ok (.inclusion path), .ok (.task t) => path == "a" && t.roleName? == some "web"
  | _, _ => false

/-- Whether records are those of the playbook. -/
def isWebSite : List Record → Bool
  | [r] =>
    match taskRecords r with
    | [u, v] => includesBoth "site" u v
    | _ => false
  | _ => false

/-- Whether records are those of the task file, under either of its names. -/
def isWebTask : List Record → Bool
  | [r] => isPlain "a" r && isPlain "roles/web/tasks/main.yml" r
  | _ => false

/-- A document whose records pass a test has records. -/
theorem exists_records_of_any {d : Document} {p : List Record → Bool}
    (h : (d.records "" none).toOption.any p = true) :
    ∃ records, d.records "" none = .ok records ∧ p records = true := by
  cases hrecords : d.records "" none with
  | error f => simp [hrecords, Except.toOption] at h
  | ok records => exact ⟨records, rfl, by simpa [hrecords, Except.toOption] using h⟩

theorem exists_task_of_isPlain {source : String} {r : Record} (h : isPlain source r = true) :
    ∃ t, r.request source = .ok (.task t) ∧ t.roleName? = none := by
  unfold isPlain at h
  split at h
  · next t ht => exact ⟨t, ht, by simpa using h⟩
  · cases h

theorem webSite_records : ∃ r u v t, (Document.bytes webSite).records "" none = .ok [r] ∧
    taskRecords r = [u, v] ∧ u.request "site" = .ok (.inclusion "a") ∧
    v.request "site" = .ok (.task t) ∧ t.roleName? = some "web" := by
  obtain ⟨records, hrecords, h⟩ :=
    @exists_records_of_any (.bytes webSite) isWebSite (by decide +kernel)
  unfold isWebSite at h
  split at h
  · next r =>
    split at h
    · next u v htasks =>
      unfold includesBoth at h
      split at h
      · next path t hu hv =>
        obtain ⟨rfl, hrole⟩ : path = "a" ∧ t.roleName? = some "web" := by simpa using h
        exact ⟨r, u, v, t, hrecords, htasks, hu, hv, hrole⟩
      · cases h
    · cases h
  · cases h

theorem webTask_records : ∃ r t u, (Document.bytes webTask).records "" none = .ok [r] ∧
    (r.request "a" = .ok (.task t) ∧ t.roleName? = none) ∧
    r.request "roles/web/tasks/main.yml" = .ok (.task u) ∧ u.roleName? = none := by
  obtain ⟨records, hrecords, h⟩ :=
    @exists_records_of_any (.bytes webTask) isWebTask (by decide +kernel)
  unfold isWebTask at h
  split at h
  · next r =>
    obtain ⟨hfile, hmain⟩ := Bool.and_eq_true_iff.1 h
    obtain ⟨t, ht⟩ := exists_task_of_isPlain hfile
    obtain ⟨u, hu⟩ := exists_task_of_isPlain hmain
    exact ⟨r, t, u, hrecords, ht, hu⟩
  · cases h

/-- Loading it gives one play, with a task from the file and a task from the role. -/
theorem load_flat_attributed_webFiles : ∃ p : Play,
    (load webFiles "site" "roles").outcome = .ok [p] ∧
    p.tasks.map Task.source = ["a", "roles/web/tasks/main.yml"] ∧
    ∃ records, webFiles.Holds "site" records ∧
      List.Forall₂ (Settled webFiles "site" "roles" (load webFiles "site" "roles").events)
        records [p] := by
  obtain ⟨r, u, v, role, hsite, htasks, hu, hv, hrole⟩ := webSite_records
  obtain ⟨r', t, t', htask, ⟨ht, hnone⟩, ht', hnone'⟩ := webTask_records
  have hfile : webFiles.Holds "a" [r'] := ⟨webTask, rfl, htask⟩
  have hmain : webFiles.Holds (Role.tasksPath "roles" "web") [r'] := by
    rw [show Role.tasksPath "roles" "web" = "roles/web/tasks/main.yml" by decide +kernel]
    exact ⟨webTask, rfl, htask⟩
  -- the first pass finds the task of the file and keeps the inclusion of the role
  have hexpand : (Inclusion.resolve webFiles (taskRecords r) "site").outcome = .ok [t, role] := by
    rw [htasks]
    have hnew : webFiles.nameOf "a" ∉ [webFiles.nameOf "site"] := by decide +kernel
    refine (Inclusion.expand_inclusion_eq_ok hu).2 ⟨hnew, [r'], [t], [role], hfile, ?_, ?_, rfl⟩
    · exact (Inclusion.expand_task_eq_ok ht).2 ⟨[], by simp, rfl⟩
    · exact (Inclusion.expand_task_eq_ok hv).2 ⟨[], by simp, rfl⟩
  have hresolve : (Role.resolve webFiles "roles" "web").outcome = .ok [t'] := by
    refine Role.resolve_eq_ok.2 ⟨[r'], hmain, ?_⟩
    rw [show Role.tasksPath "roles" "web" = "roles/web/tasks/main.yml" by decide +kernel]
    exact (Inclusion.expand_task_eq_ok ht').2 ⟨[], by simp, rfl⟩
  -- the second pass puts the task of the role in its place
  have hinline : (Role.inline webFiles "roles" [t, role]).outcome = .ok [t, t'] := by
    refine (Role.inline_none_eq_ok hnone).2 ⟨[t'], ?_, rfl⟩
    refine (Role.inline_role_eq_ok hrole).2
      ⟨by decide, by simp, [t'], [t'], [], hresolve, ?_, by simp, rfl⟩
    exact (Role.inline_none_eq_ok hnone').2 ⟨[], by simp, rfl⟩
  have hload : (load webFiles "site" "roles").outcome =
      .ok [{ name := r.text (.str "name"), hosts := r.text (.str "hosts"), tasks := [t, t'] }] := by
    refine Run.andThen_outcome_eq_ok.2 ⟨[r], FileSystem.recordsAt_eq_ok.2 ⟨webSite, rfl, hsite⟩, ?_⟩
    refine Run.andThen_outcome_eq_ok.2 ⟨_, ?_, Run.map_outcome_eq_ok.2 ⟨[], rfl, rfl⟩⟩
    refine Run.map_outcome_eq_ok.2 ⟨[t, t'], ?_, rfl⟩
    exact Run.andThen_outcome_eq_ok.2 ⟨[t, role], hexpand, hinline⟩
  refine ⟨_, hload, ?_, load_flat_attributed hload⟩
  have hsource : t.source = "a" := Record.source_of_build (Record.build_of_request ht)
  have hsource' : t'.source = "roles/web/tasks/main.yml" :=
    Record.source_of_build (Record.build_of_request ht')
  simp [hsource, hsource']

end Resolution

end Playbook
