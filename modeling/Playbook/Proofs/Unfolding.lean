import Playbook.Proofs.Passes

/-!
# Two passes refine one unfolding

The tasks of a play are found in two passes: all files are included first, and only then are the
roles inlined, with further files and roles inside them. This module compares that with the reading
a person has in mind, in which every record is replaced on the spot:

* `Unfolds` — the one-pass, depth-first unfolding. A record that includes a file stands for the
  unfolding of the records of the file, a record that includes a role for the unfolding of the
  records of the role's task file, and any other record for its own task. The files being included
  and the roles being included are two chains: entering a file extends the first, entering a role
  extends the second and starts the first anew.
* `Resolution.play_eq_ok_iff_unfolds` — a play resolves in two passes to some tasks exactly if its
  records unfold to these tasks.

The two readings visit records in different orders, so on a faulty play they may meet different
faults first; they agree on which plays are faulty.

From the unfolding to the passes (`Unfolds.expand_inline`) one induction on the unfolding suffices.
The way back has to undo a reordering: the second pass sees a flat list of tasks and knows nothing
of the files they came from. `Inlines` is what it is told instead — the second pass on a flat list,
with the unfolding of each role in place of its two passes. A role run proves `Inlines` by the
recursion of the second pass (`Inlines.of_inline`), and `Inlines` on the tasks of the first pass is
cut along the files they came from by the recursion of the first (`Inlines.unfolds`).
-/

namespace Playbook

/-- **One-pass unfolding.** The tasks that records of a source stand for, while some roles and some
files, the source among them, are being included. -/
inductive Unfolds (fs : FileSystem) (roles : String) :
    (activeRoles activeFiles : List String) → (source : String) →
      List Record → List Task → Prop
  /-- No records stand for no tasks. -/
  | nil {activeRoles activeFiles : List String} {source : String} :
      Unfolds fs roles activeRoles activeFiles source [] []
  /-- A record that includes a file stands for the records of the file. -/
  | inclusion {activeRoles activeFiles : List String} {source path : String} {r : Record}
      {rest records : List Record} {included more : List Task}
      (hrequest : r.request source = .ok (.inclusion path))
      (hnew : fs.nameOf path ∉ activeFiles)
      (hfile : fs.Holds path records)
      (hincluded : Unfolds fs roles activeRoles (activeFiles ++ [fs.nameOf path]) path records
        included)
      (hmore : Unfolds fs roles activeRoles activeFiles source rest more) :
      Unfolds fs roles activeRoles activeFiles source (r :: rest) (included ++ more)
  /-- A record that includes a role stands for the records of the role's task file. -/
  | role {activeRoles activeFiles : List String} {source name : String} {r : Record} {t : Task}
      {rest records : List Record} {included more : List Task}
      (hrequest : r.request source = .ok (.task t))
      (hrole : t.roleName? = some name)
      (hname : name ≠ "")
      (hnew : name ∉ activeRoles)
      (hfile : fs.Holds (Role.tasksPath roles name) records)
      (hincluded : Unfolds fs roles (activeRoles ++ [name])
        [fs.nameOf (Role.tasksPath roles name)] (Role.tasksPath roles name) records included)
      (hmore : Unfolds fs roles activeRoles activeFiles source rest more) :
      Unfolds fs roles activeRoles activeFiles source (r :: rest) (included ++ more)
  /-- Any other record stands for its own task. -/
  | task {activeRoles activeFiles : List String} {source : String} {r : Record} {t : Task}
      {rest : List Record} {more : List Task}
      (hrequest : r.request source = .ok (.task t))
      (hrole : t.roleName? = none)
      (hmore : Unfolds fs roles activeRoles activeFiles source rest more) :
      Unfolds fs roles activeRoles activeFiles source (r :: rest) (t :: more)

variable {fs : FileSystem} {roles : String}

/-! ### From the unfolding to the passes -/

/-- **An unfolding succeeds in two passes.** The first pass gives the tasks of all files, and the
second turns these into the tasks of the unfolding. -/
theorem Unfolds.expand_inline {activeRoles activeFiles : List String} {source : String}
    {records : List Record} {out : List Task}
    (h : Unfolds fs roles activeRoles activeFiles source records out) :
    ∃ tasks, (Inclusion.expand fs activeFiles source records).outcome = .ok tasks ∧
      (Role.inline fs roles tasks activeRoles).outcome = .ok out := by
  induction h with
  | nil => exact ⟨[], by simp, by simp⟩
  | inclusion hrequest hnew hfile _ _ ihfile ihrest =>
    obtain ⟨inner, hinner, hincluded⟩ := ihfile
    obtain ⟨later, hlater, hmore⟩ := ihrest
    -- the first pass has put the tasks of the file in front of the rest
    refine ⟨inner ++ later, ?_, ?_⟩
    · exact (Inclusion.expand_inclusion_eq_ok hrequest).2
        ⟨hnew, _, inner, later, hfile, hinner, hlater, rfl⟩
    · exact Role.inline_append_eq_ok.2 ⟨_, _, hincluded, hmore, rfl⟩
  | @role _ _ _ name _ t _ _ _ _ hrequest hrole hname hnew hfile _ _ ihfile ihrest =>
    obtain ⟨inner, hinner, hincluded⟩ := ihfile
    obtain ⟨later, hlater, hmore⟩ := ihrest
    have hresolve : (Role.resolve fs roles name).outcome = .ok inner :=
      Role.resolve_eq_ok.2 ⟨_, hfile, hinner⟩
    -- the first pass has kept the inclusion of the role as one task
    refine ⟨t :: later, ?_, ?_⟩
    · exact (Inclusion.expand_task_eq_ok hrequest).2 ⟨later, hlater, rfl⟩
    · exact (Role.inline_role_eq_ok hrole).2
        ⟨hname, hnew, inner, _, _, hresolve, hincluded, hmore, rfl⟩
  | @task _ _ _ _ t _ _ hrequest hrole _ ihrest =>
    obtain ⟨later, hlater, hmore⟩ := ihrest
    refine ⟨t :: later, ?_, ?_⟩
    · exact (Inclusion.expand_task_eq_ok hrequest).2 ⟨later, hlater, rfl⟩
    · exact (Role.inline_none_eq_ok hrole).2 ⟨_, hmore, rfl⟩

/-! ### From the passes to the unfolding -/

/-- **The second pass over unfoldings.** What a flat list of tasks becomes when each task that
includes a role gives way to the unfolding of the role's task file. -/
inductive Inlines (fs : FileSystem) (roles : String) (activeRoles : List String) :
    List Task → List Task → Prop
  /-- No tasks become no tasks. -/
  | nil : Inlines fs roles activeRoles [] []
  /-- A task that includes no role stays. -/
  | other {t : Task} {rest more : List Task} (hrole : t.roleName? = none)
      (hmore : Inlines fs roles activeRoles rest more) :
      Inlines fs roles activeRoles (t :: rest) (t :: more)
  /-- A task that includes a role gives way to the unfolding of the role. -/
  | role {t : Task} {name : String} {records : List Record} {rest included more : List Task}
      (hrole : t.roleName? = some name)
      (hname : name ≠ "")
      (hnew : name ∉ activeRoles)
      (hfile : fs.Holds (Role.tasksPath roles name) records)
      (hincluded : Unfolds fs roles (activeRoles ++ [name])
        [fs.nameOf (Role.tasksPath roles name)] (Role.tasksPath roles name) records included)
      (hmore : Inlines fs roles activeRoles rest more) :
      Inlines fs roles activeRoles (t :: rest) (included ++ more)

namespace Inlines

variable {activeRoles : List String}

/-- What becomes of two lists is what becomes of the one before what becomes of the other. -/
theorem of_append {a b out : List Task} (h : Inlines fs roles activeRoles (a ++ b) out) :
    ∃ x y, Inlines fs roles activeRoles a x ∧ Inlines fs roles activeRoles b y ∧
      x ++ y = out := by
  induction a generalizing out with
  | nil => exact ⟨[], out, nil, h, rfl⟩
  | cons t rest ih =>
    cases h with
    | other hrole hmore =>
      obtain ⟨x, y, hx, hy, rfl⟩ := ih hmore
      exact ⟨t :: x, y, other hrole hx, hy, rfl⟩
    | @role _ _ _ _ included _ hrole hname hnew hfile hincluded hmore =>
      obtain ⟨x, y, hx, hy, rfl⟩ := ih hmore
      exact ⟨included ++ x, y, role hrole hname hnew hfile hincluded hx, hy,
        List.append_assoc ..⟩

/-- **Along the first pass.** If the first pass turns records into tasks, and these become others,
then the records unfold to the latter. -/
theorem unfolds {activeFiles : List String} {source : String} {records : List Record}
    {tasks out : List Task}
    (hexpand : (Inclusion.expand fs activeFiles source records).outcome = .ok tasks)
    (h : Inlines fs roles activeRoles tasks out) :
    Unfolds fs roles activeRoles activeFiles source records out := by
  induction activeFiles, source, records using Inclusion.expand.induct fs
    generalizing tasks out with
  | case1 activeFiles source =>
    rw [Inclusion.expand_nil, Run.done_outcome] at hexpand
    cases hexpand
    cases h
    exact .nil
  | case2 activeFiles source r rest f hrequest =>
    rw [Inclusion.expand_cons_fault hrequest] at hexpand
    cases hexpand
  | case3 activeFiles source r rest t hrequest ih =>
    obtain ⟨later, hlater, rfl⟩ := (Inclusion.expand_task_eq_ok hrequest).1 hexpand
    cases h with
    | other hrole hmore => exact .task hrequest hrole (ih hlater hmore)
    | role hrole hname hnew hfile hincluded hmore =>
      exact .role hrequest hrole hname hnew hfile hincluded (ih hlater hmore)
  | case4 activeFiles source r rest path hrequest hactive =>
    exact absurd hactive ((Inclusion.expand_inclusion_eq_ok hrequest).1 hexpand).1
  | case5 activeFiles source r rest path hrequest hnew ihfile ihrest =>
    obtain ⟨-, records, inner, later, hfile, hinner, hlater, rfl⟩ :=
      (Inclusion.expand_inclusion_eq_ok hrequest).1 hexpand
    -- the tasks of the file stand in front of those of the rest
    obtain ⟨x, y, hx, hy, rfl⟩ := h.of_append
    exact .inclusion hrequest hnew hfile
      (ihfile records (Inclusion.recordsOf_eq_ok.2 hfile) hinner hx) (ihrest hlater hy)

/-- **Along the second pass.** What the second pass turns tasks into, they become by unfoldings. -/
theorem of_inline {tasks out : List Task}
    (h : (Role.inline fs roles tasks activeRoles).outcome = .ok out) :
    Inlines fs roles activeRoles tasks out := by
  induction activeRoles, tasks using Role.inline_induction fs roles generalizing out with
  | nil activeRoles =>
    rw [Role.inline_nil, Run.done_outcome] at h
    cases h
    exact nil
  | other activeRoles t rest hrole ih =>
    obtain ⟨more, hmore, rfl⟩ := (Role.inline_none_eq_ok hrole).1 h
    exact other hrole (ih hmore)
  | nameless activeRoles t rest hrole =>
    exact absurd rfl ((Role.inline_role_eq_ok hrole).1 h).1
  | cycle activeRoles t rest name hrole _ hactive =>
    exact absurd hactive ((Role.inline_role_eq_ok hrole).1 h).2.1
  | role activeRoles t rest name hrole hname hnew ihrole ihrest =>
    obtain ⟨-, -, inner, included, more, hresolve, hincluded, hmore, rfl⟩ :=
      (Role.inline_role_eq_ok hrole).1 h
    obtain ⟨records, hfile, hinner⟩ := Role.resolve_eq_ok.1 hresolve
    -- the tasks of the role are a first pass of its own, along which its second pass is cut
    exact role hrole hname hnew hfile (unfolds hinner (ihrole inner hresolve hincluded))
      (ihrest hmore)

end Inlines

/-! ### Plays -/

/-- **Two passes refine one unfolding.** A play resolves exactly if its task records unfold, from
the playbook file and with no role active, and then its tasks are those they unfold to. -/
theorem Resolution.play_eq_ok_iff_unfolds (fs : FileSystem) (path roles : String) (r : Record)
    (p : Play) :
    (Resolution.play fs path roles r).outcome = .ok p ↔
      ∃ tasks, Unfolds fs roles [] [fs.nameOf path] path (Resolution.taskRecords r) tasks ∧
        p = { name := r.text (.str "name"), hosts := r.text (.str "hosts"), tasks := tasks } := by
  rw [Resolution.play, Run.after_outcome, Run.map_outcome_eq_ok]
  constructor
  · rintro ⟨out, h, rfl⟩
    obtain ⟨tasks, hexpand, hinline⟩ := Run.andThen_outcome_eq_ok.1 h
    exact ⟨out, Inlines.unfolds hexpand (Inlines.of_inline hinline), rfl⟩
  · rintro ⟨out, h, rfl⟩
    obtain ⟨tasks, hexpand, hinline⟩ := h.expand_inline
    exact ⟨out, Run.andThen_outcome_eq_ok.2 ⟨tasks, hexpand, hinline⟩, rfl⟩

end Playbook
