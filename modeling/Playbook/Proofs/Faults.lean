import Playbook.Proofs.Nesting

/-!
# Faults of the two passes

A fault inside a role is wrapped in one that names the role, once for each role around it. This
module says where the faults of the two passes come from, and what one in wrappings tells.

* `Inclusion.fault_of_expand` — the first pass fails at a single step: at a record, at a file, or at
  a cycle of files.
* `Role.Fails` — the account that the recursion of the second pass gives of a fault of resolution
  (`Role.fails_of_inline`). At each level the pass ends at a task of its own (`Role.Halts`), or at a
  role that cannot be resolved or that fails inside.
* `Fault.roles`, `Fault.root` — the names that the wrappings of a fault bear, from the outside in,
  and what is inside all of them. The text of a fault is the names in this order and then the text
  of its root (`Fault.message_eq_foldr`).
* `Role.Explained` — a fault tells the path through the roles exactly: the roles it names have been
  entered one inside the other, none of them twice, and its root is what went wrong in the last one.
* `Resolution.explained_of_play` — every fault of a role that a play ends with is explained in this
  sense, and a cycle that comes out of a play without any role around it is one of files.

The names of the wrappings are a descent through roles in the sense of `Role.Descent`, by induction
on the account of the fault (`Role.Fails.explained`). The active roles grow along it by the same
names, which is why a cycle shows exactly the names of the wrappings around it.
-/

namespace Playbook

/-! ### The first pass -/

/-- **Where the first pass fails:** at a record, at hand or in a file, or at a file, or at a file
that is being included already. -/
theorem Inclusion.fault_of_expand {fs : FileSystem} {active : List String} {source : String}
    {records : List Record} {f : Fault} (h : (expand fs active source records).outcome = .error f) :
    (∃ r place, ((r ∈ records ∧ place = source) ∨ IsFileRecord fs r) ∧
        r.request place = .error f) ∨
      (∃ path, (recordsOf fs path).outcome = .error f) ∨
      ∃ chain place, f = .includeCycle chain (some place) := by
  -- Along the recursion of the first pass: each record comes to an end of its own, or a later one
  -- fails.
  induction active, source, records using expand.induct fs with
  | case1 active source =>
    rw [expand_nil] at h
    cases h
  | case2 active source r rest f' hrequest =>
    rw [expand_cons_fault hrequest] at h
    cases h
    exact .inl ⟨r, source, .inl ⟨List.mem_cons_self, rfl⟩, hrequest⟩
  | case3 active source r rest t hrequest ih =>
    rw [expand_cons_task hrequest, Run.map_outcome_eq_error] at h
    refine (ih h).imp_left ?_
    rintro ⟨r', place, hr', hfault⟩
    exact ⟨r', place, hr'.imp_left (And.imp_left (List.mem_cons_of_mem _)), hfault⟩
  | case4 active source r rest path hrequest hmem =>
    rw [expand_cons_cycle hrequest hmem] at h
    cases h
    exact .inr (.inr ⟨_, _, rfl⟩)
  | case5 active source r rest path hrequest hnew ihfile ihrest =>
    obtain h | ⟨inner, hinner, h | ⟨-, h⟩⟩ := (expand_inclusion_eq_error hrequest hnew).1 h
    · exact .inr (.inl ⟨path, h⟩)
    · -- a record inside the file is one of a file
      have hread := recordsOf_eq_ok.2 hinner
      refine (ihfile inner hread h).imp_left ?_
      rintro ⟨r', place, hr', hfault⟩
      -- It is in this file, or in one that this file includes.
      have hfile : IsFileRecord fs r' := by
        rcases hr' with ⟨hmem, _⟩ | hfile
        · exact isFileRecord_of_recordsAt hread hmem
        · exact hfile
      exact ⟨r', place, .inr hfile, hfault⟩
    · refine (ihrest h).imp_left ?_
      rintro ⟨r', place, hr', hfault⟩
      exact ⟨r', place, hr'.imp_left (And.imp_left (List.mem_cons_of_mem _)), hfault⟩

/-- The first pass never fails with a fault of a role. -/
theorem Inclusion.ne_role_of_expand {fs : FileSystem} {active : List String} {source : String}
    {records : List Record} {f : Fault} (h : (expand fs active source records).outcome = .error f)
    (name : String) (cause : Option Fault) : f ≠ .role name cause := by
  rintro rfl
  obtain ⟨r, place, _, hrequest⟩ | ⟨path, hfile⟩ | ⟨_, _, hcycle⟩ := fault_of_expand h
  -- A record, a file and a cycle have faults of their own, and none is one of a role.
  · obtain ⟨_, h'⟩ | ⟨_, h'⟩ := Record.fault_of_request hrequest <;> cases h'
  · obtain ⟨_, h'⟩ | ⟨_, h'⟩ | ⟨_, h'⟩ := FileSystem.fault_of_recordsAt hfile <;> cases h'
  · cases hcycle

/-! ### The second pass -/

namespace Role

variable {fs : FileSystem} {roles : String}

/-- **Where a role cannot be resolved:** its file has no records, or these fail in the first
pass. -/
theorem fault_of_resolve {name : String} {f : Fault}
    (h : (resolve fs roles name).outcome = .error f) :
    (fs.recordsAt (tasksPath roles name) "failed to read role tasks" "failed to parse tasks YAML"
        (some (tasksPath roles name))).outcome = .error f ∨
      ∃ records, fs.Holds (tasksPath roles name) records ∧
        (Inclusion.resolve fs records (tasksPath roles name)).outcome = .error f := by
  rw [resolve, Run.andThen_outcome_eq_error] at h
  refine h.imp id ?_
  rintro ⟨records, hrecords, h⟩
  exact ⟨records, FileSystem.recordsAt_eq_ok.1 hrecords, h⟩

/-- A role that cannot be resolved is no fault of a role inside it. -/
theorem ne_role_of_resolve {name : String} {f : Fault}
    (h : (resolve fs roles name).outcome = .error f) (inner : String) (cause : Option Fault) :
    f ≠ .role inner cause := by
  obtain h | ⟨records, _, h⟩ := fault_of_resolve h
  · rintro rfl
    obtain ⟨_, h'⟩ | ⟨_, h'⟩ | ⟨_, h'⟩ := FileSystem.fault_of_recordsAt h <;> cases h'
  · exact Inclusion.ne_role_of_expand h inner cause

/-- **The second pass ends at a task of its own:** one that includes a role without a name, or a
role that is being included already. -/
def Halts (active : List String) (tasks : List Task) (f : Fault) : Prop :=
  ∃ t ∈ tasks, (t.roleName? = some "" ∧ f = nameless t) ∨
    ∃ back ∈ active, t.roleName? = some back ∧
      f = .includeCycle (active ++ [back]) (some t.source)

/-- **An account of a failure** of the second pass, level by level. What happens inside a role is
seen from outside in the wrapping of the role. -/
inductive Fails (fs : FileSystem) (roles : String) :
    (active : List String) → List Task → Fault → Prop
  /-- The pass ends at one of the tasks. -/
  | here {active : List String} {tasks : List Task} {f : Fault} (h : Halts active tasks f) :
      Fails fs roles active tasks f
  /-- A role that a task includes cannot be resolved. -/
  | unresolved {active : List String} {tasks : List Task} {t : Task} {name : String} {f : Fault}
      (ht : t ∈ tasks) (hrole : t.roleName? = some name) (hname : name ≠ "") (hnew : name ∉ active)
      (h : (resolve fs roles name).outcome = .error f) :
      Fails fs roles active tasks (wrap name f)
  /-- The pass fails at the tasks of a role that a task includes. -/
  | inside {active : List String} {tasks inner : List Task} {t : Task} {name : String} {f : Fault}
      (ht : t ∈ tasks) (hrole : t.roleName? = some name) (hname : name ≠ "") (hnew : name ∉ active)
      (hinner : (resolve fs roles name).outcome = .ok inner)
      (h : Fails fs roles (active ++ [name]) inner f) :
      Fails fs roles active tasks (wrap name f)

/-- More tasks fail in more ways. -/
theorem Fails.cons {active : List String} {tasks : List Task} {f : Fault}
    (h : Fails fs roles active tasks f) (t : Task) : Fails fs roles active (t :: tasks) f := by
  -- The task that the pass ends at is still one of them.
  cases h with
  | here h =>
    obtain ⟨u, hu, h⟩ := h
    exact .here ⟨u, List.mem_cons_of_mem _ hu, h⟩
  | unresolved ht hrole hname hnew h =>
    exact .unresolved (List.mem_cons_of_mem _ ht) hrole hname hnew h
  | inside ht hrole hname hnew hinner h =>
    exact .inside (List.mem_cons_of_mem _ ht) hrole hname hnew hinner h

/-- **Failure at a role** that is new: the role or its tasks fail, and the fault is wrapped on the
way out, or the role succeeds and the tasks that are left fail. -/
theorem inline_role_eq_error {active : List String} {t : Task} {rest : List Task} {name : String}
    {f : Fault} (hrole : t.roleName? = some name) (hname : name ≠ "") (hnew : name ∉ active) :
    (inline fs roles (t :: rest) active).outcome = .error f ↔
      (∃ g, ((resolve fs roles name).outcome = .error g ∨
          ∃ inner, (resolve fs roles name).outcome = .ok inner ∧
            (inline fs roles inner (active ++ [name])).outcome = .error g) ∧ wrap name g = f) ∨
        (∃ inner included, (resolve fs roles name).outcome = .ok inner ∧
            (inline fs roles inner (active ++ [name])).outcome = .ok included) ∧
          (inline fs roles rest active).outcome = .error f := by
  rw [inline_cons_some hrole, if_neg hname, if_neg hnew]
  simp only [Run.andThen_outcome_eq_error, Run.mapFault_outcome_eq_error, Run.map_outcome_eq_error,
    Run.mapFault_outcome_eq_ok, Run.andThen_outcome_eq_ok, exists_prop]
  -- What the role gives does not matter to the tasks after it.
  refine or_congr Iff.rfl ⟨?_, ?_⟩
  · rintro ⟨included, ⟨inner, hinner⟩, h⟩
    exact ⟨⟨inner, included, hinner⟩, h⟩
  · rintro ⟨⟨inner, included, hinner⟩, h⟩
    exact ⟨included, ⟨inner, hinner⟩, h⟩

/-- **Every failure of the second pass has an account.** -/
theorem fails_of_inline {active : List String} {tasks : List Task} {f : Fault}
    (h : (inline fs roles tasks active).outcome = .error f) : Fails fs roles active tasks f := by
  -- Along the recursion of the second pass. Only a new role has a level of its own below it.
  induction active, tasks using inline_induction fs roles generalizing f with
  | nil active =>
    rw [inline_nil] at h
    cases h
  | other active t rest hrole ih =>
    rw [inline_cons_none hrole, Run.map_outcome_eq_error] at h
    exact (ih h).cons t
  | nameless active t rest hrole =>
    rw [inline_cons_some hrole, if_pos rfl] at h
    exact .here ⟨t, List.mem_cons_self, .inl ⟨hrole, (Except.error.inj h).symm⟩⟩
  | cycle active t rest name hrole hname hactive =>
    rw [inline_cons_some hrole, if_neg hname, if_pos hactive] at h
    exact .here ⟨t, List.mem_cons_self, .inr ⟨name, hactive, hrole, (Except.error.inj h).symm⟩⟩
  | role active t rest name hrole hname hnew ihrole ihrest =>
    obtain ⟨g, hg | ⟨inner, hinner, hg⟩, rfl⟩ | ⟨_, h⟩ :=
      (inline_role_eq_error hrole hname hnew).1 h
    · exact .unresolved List.mem_cons_self hrole hname hnew hg
    · exact .inside List.mem_cons_self hrole hname hnew hinner (ihrole inner hinner hg)
    · exact (ihrest h).cons t

end Role

/-! ### What is inside wrappings -/

namespace Fault

/-- The names of the roles that a fault is wrapped in, from the outside in. -/
def roles : Fault → List String
  | role name (some cause) => name :: cause.roles
  | _ => []

/-- The fault inside all wrappings of roles. -/
def root : Fault → Fault
  | role _ (some cause) => cause.root
  | f => f

@[simp] theorem roles_role (name : String) (cause : Fault) :
    (role name (some cause)).roles = name :: cause.roles := by rw [roles]
@[simp] theorem root_role (name : String) (cause : Fault) :
    (role name (some cause)).root = cause.root := by rw [root]
@[simp] theorem message_role (name : String) (cause : Fault) :
    (role name (some cause)).message =
      (role name none).headline ++ (": " ++ cause.message) := by
  simp [message]

/-- A fault that wraps no other one names no role, and is its own root. -/
theorem roles_root_of_ne {f : Fault} (h : ∀ name cause, f ≠ .role name (some cause)) :
    f.roles = [] ∧ f.root = f := by
  cases f with
  | role name cause =>
    cases cause with
    | none => exact ⟨rfl, rfl⟩
    | some cause => exact absurd rfl (h name cause)
  | _ => exact ⟨rfl, rfl⟩

end Fault

/-- **The text of a fault** is the names of the roles around its root, from the outside in, and then
the text of the root. -/
theorem Fault.message_eq_foldr (f : Fault) :
    f.message =
      f.roles.foldr (fun name text => "failed to load role " ++ Literal.text name ++ ": " ++ text)
        f.root.message := by
  -- Along the wrappings, from the outside in.
  induction f using Fault.roles.induct with
  | case1 name cause ih =>
    rw [roles_role, root_role, List.foldr_cons, ← ih, message_role]
    exact (String.append_assoc ..).symm
  | case2 f h =>
    obtain ⟨hroles, hroot⟩ := roles_root_of_ne h
    rw [hroles, hroot, List.foldr_nil]

/-! ### The path through the roles -/

namespace Role

variable {fs : FileSystem} {roles : String}

/-- The tasks of a role that can be resolved. -/
theorem tasksOf_eq {name : String} {tasks : List Task}
    (h : (resolve fs roles name).outcome = .ok tasks) : tasksOf fs roles name = tasks := by
  rw [tasksOf, h]

/-- **A role is never entered twice** on the way down, nor is one that is active. -/
theorem Descent.nodup_append {active entered : List String} {tasks : List Task}
    (h : Descent fs roles active tasks entered) (hactive : active.Nodup) :
    (active ++ entered).Nodup := by
  -- Along the descent: the names that are active grow by each role that is entered, and it is a new
  -- one.
  induction h with
  | stop =>
    rw [List.append_nil]
    exact hactive
  | @enter active entered tasks t name ht hrole hname hnew hrest ih =>
    have hall := ih (Chain.nodup_append_singleton hactive hnew)
    rwa [List.append_assoc] at hall

/-- **What went wrong in a role** that has been entered after others. -/
inductive Ends (fs : FileSystem) (roles : String) (entered : List String) (name : String) :
    Fault → Prop
  /-- The role cannot be resolved. -/
  | unresolved {f : Fault} (h : (resolve fs roles name).outcome = .error f) :
      Ends fs roles entered name f
  /-- A task of the role includes a role without a name. -/
  | nameless {t : Task} (ht : t ∈ tasksOf fs roles name) (hrole : t.roleName? = some "") :
      Ends fs roles entered name
        (.shape ("include_role task is missing 'name': " ++ Value.entriesLiteral t.args) t.source)
  /-- A task of the role includes one of the roles that have been entered. -/
  | cycle {t : Task} {back : String} (ht : t ∈ tasksOf fs roles name)
      (hrole : t.roleName? = some back) (hback : back ∈ entered) :
      Ends fs roles entered name (.includeCycle (entered ++ [back]) (some t.source))

/-- **A fault is explained** by tasks that were at hand while some roles were active: the roles it
names have been entered one inside the other, and its root is what went wrong in the last one. -/
structure Explained (fs : FileSystem) (roles : String) (active : List String) (tasks : List Task)
    (f : Fault) : Prop where
  /-- The first role is included by a task at hand, every other one by a task of the one before. -/
  descent : Descent fs roles active tasks f.roles
  /-- The root is a fault of resolution. -/
  isResolution : f.root.isResolution = true
  /-- The root is none of a role. -/
  ne_role : ∀ name cause, f.root ≠ .role name cause
  /-- The last role is where the root comes from. -/
  ends : ∃ last, f.roles.getLast? = some last ∧ Ends fs roles (active ++ f.roles) last f.root

variable {active : List String} {tasks : List Task} {f : Fault}

/-- A halt at a task of a role is what went wrong in the role. -/
theorem Halts.ends {name : String} (h : Halts active (tasksOf fs roles name) f)
    (hf : f.isResolution = true) : Ends fs roles active name f := by
  obtain ⟨t, ht, ⟨hrole, rfl⟩ | ⟨back, hback, hrole, rfl⟩⟩ := h
  · -- a role without a name is a fault of resolution only if its arguments can be shown
    rw [Role.nameless] at hf ⊢
    split at hf
    · cases hf
    · next hshown =>
      rw [if_neg hshown]
      exact .nameless ht hrole
  · exact .cycle ht hrole hback

/-- A halt is no fault of a role. -/
theorem Halts.ne_role (h : Halts active tasks f) (name : String) (cause : Option Fault) :
    f ≠ .role name cause := by
  rintro rfl
  obtain ⟨t, _, ⟨_, h⟩ | ⟨_, _, _, h⟩⟩ := h
  -- What a nameless role is reported as depends on its arguments, but it is never a role.
  · rw [nameless] at h
    split at h <;> cases h
  · cases h

/-- A fault of resolution that comes out of a single role. -/
theorem Explained.of_ends {name : String} {t : Task} (ht : t ∈ tasks)
    (hrole : t.roleName? = some name) (hname : name ≠ "") (hnew : name ∉ active)
    (hf : f.isResolution = true) (hne : ∀ inner cause, f ≠ .role inner cause)
    (h : Ends fs roles (active ++ [name]) name f) :
    Explained fs roles active tasks (.role name (some f)) := by
  obtain ⟨hroles, hroot⟩ := Fault.roles_root_of_ne fun inner cause => hne inner (some cause)
  refine ⟨?_, ?_, ?_, name, ?_, ?_⟩
  -- The role is entered, and nothing after it.
  · rw [Fault.roles_role, hroles]
    exact .enter ht hrole hname hnew .stop
  · rwa [Fault.root_role, hroot]
  · rwa [Fault.root_role, hroot]
  · rw [Fault.roles_role, hroles]
    rfl
  · rwa [Fault.roles_role, Fault.root_role, hroles, hroot]

/-- A fault that is explained inside a role is explained by the task that includes the role. -/
theorem Explained.wrap {name : String} {t : Task} (ht : t ∈ tasks)
    (hrole : t.roleName? = some name) (hname : name ≠ "") (hnew : name ∉ active)
    (h : Explained fs roles (active ++ [name]) (tasksOf fs roles name) f) :
    Explained fs roles active tasks (.role name (some f)) := by
  obtain ⟨hdescent, hresolution, hne, last, hlast, hends⟩ := h
  refine ⟨?_, ?_, ?_, last, ?_, ?_⟩
  · rw [Fault.roles_role]
    exact .enter ht hrole hname hnew hdescent
  · rwa [Fault.root_role]
  · rwa [Fault.root_role]
  -- The last role is still the same, as there is one.
  · rw [Fault.roles_role, List.getLast?_cons, hlast]
    rfl
  · rwa [Fault.roles_role, Fault.root_role, List.append_cons]

theorem wrap_of_isResolution {name : String} (h : f.isResolution = true) :
    Role.wrap name f = .role name (some f) := if_pos h

theorem isResolution_of_wrap {name : String} (h : (Role.wrap name f).isResolution = true) :
    f.isResolution = true := by
  by_contra hf
  rw [Role.wrap, if_neg hf] at h
  exact hf h

/-- **An account explains the fault,** unless the pass halts at once. -/
theorem Fails.explained (h : Fails fs roles active tasks f) (hf : f.isResolution = true) :
    Halts active tasks f ∨ Explained fs roles active tasks f := by
  -- Along the account, from the outside in. What is inside a role is a halt of its own or
  -- explained, and the wrapping is explained either way.
  induction h with
  | here h => exact .inl h
  | @unresolved active tasks t name f ht hrole hname hnew h =>
    have hinner := isResolution_of_wrap hf
    rw [wrap_of_isResolution hinner]
    exact .inr (.of_ends ht hrole hname hnew hinner (ne_role_of_resolve h) (.unresolved h))
  | @inside active tasks inner t name f ht hrole hname hnew hinner h ih =>
    have hresolution := isResolution_of_wrap hf
    -- The tasks inside are those of the role.
    obtain rfl := tasksOf_eq hinner
    rw [wrap_of_isResolution hresolution]
    rcases ih hresolution with hhalts | hexplained
    · exact .inr (.of_ends ht hrole hname hnew hresolution hhalts.ne_role (hhalts.ends hresolution))
    · exact .inr (.wrap ht hrole hname hnew hexplained)

end Role

/-! ### Plays -/

namespace Resolution

variable {fs : FileSystem} {path roles : String} {r : Record} {f : Fault}

/-- **A play fails in one of the two passes.** -/
theorem play_outcome_eq_error :
    (play fs path roles r).outcome = .error f ↔
      (Inclusion.resolve fs (taskRecords r) path).outcome = .error f ∨
        ∃ tasks, (Inclusion.resolve fs (taskRecords r) path).outcome = .ok tasks ∧
          (Role.inline fs roles tasks).outcome = .error f := by
  rw [play, Run.after_outcome, Run.map_outcome_eq_error, Run.andThen_outcome_eq_error]
  simp only [exists_prop]

/-- **Role faults tell the path.** Let a play end with a fault of a role. Then the roles it names
are pairwise different and at least one; the first is included by a task that the first pass has
found in the play, every other one by a task of the role before it; and the fault inside all
wrappings is one of resolution, but of no role, which is what went wrong in the last role: it cannot
be resolved, or one of its tasks includes a role without a name, or one of the roles named, in which
case the chain of the fault is the roles named and that one. The text of the fault is that of the
wrappings, from the outside in, and then that of the fault inside. A cycle that comes out of a play
without a role around it comes from the first pass, so that it is one of files. -/
theorem explained_of_play (fs : FileSystem) (path roles : String) (r : Record) :
    (∀ name cause, (play fs path roles r).outcome = .error (.role name cause) →
      ∃ f tasks, f = .role name cause ∧ f.roles ≠ [] ∧ f.roles.Nodup ∧
        (Inclusion.resolve fs (taskRecords r) path).outcome = .ok tasks ∧
        Role.Explained fs roles [] tasks f ∧
        f.message =
          f.roles.foldr
            (fun name text => "failed to load role " ++ Literal.text name ++ ": " ++ text)
            f.root.message) ∧
    ∀ chain file, (play fs path roles r).outcome = .error (.includeCycle chain file) →
      (Inclusion.resolve fs (taskRecords r) path).outcome = .error (.includeCycle chain file) := by
  constructor
  · intro name cause h
    obtain h | ⟨tasks, htasks, h⟩ := play_outcome_eq_error.1 h
    · exact absurd rfl (Inclusion.ne_role_of_expand h name cause)
    · rcases (Role.fails_of_inline h).explained rfl with hhalts | hexplained
      · exact absurd rfl (hhalts.ne_role name cause)
      · obtain ⟨last, hlast, _⟩ := hexplained.ends
        refine ⟨_, tasks, rfl, ?_, ?_, htasks, hexplained, Fault.message_eq_foldr _⟩
        -- The last of the roles is one of them.
        · intro hnil
          rw [hnil] at hlast
          cases hlast
        · exact hexplained.descent.nodup_append List.nodup_nil
  · intro chain file h
    obtain h | ⟨tasks, _, h⟩ := play_outcome_eq_error.1 h
    · exact h
    · -- no role is active at first, so the second pass cannot come back to one without entering it
      rcases (Role.fails_of_inline h).explained rfl with hhalts | hexplained
      · obtain ⟨t, _, ⟨_, h⟩ | ⟨_, hback, _⟩⟩ := hhalts
        · rw [Role.nameless] at h
          split at h <;> cases h
        · cases hback
      · obtain ⟨last, hlast, _⟩ := hexplained.ends
        cases hlast

/-! ### Two roles that include each other -/

/-- A task file with one task, `- {include_role: {name: x}}`, for a name of one letter. -/
def roleTask (letter : UInt8) : Bytes :=
  [45, 32, 123, 105, 110, 99, 108, 117, 100, 101, 95, 114, 111, 108, 101, 58, 32, 123, 110, 97, 109,
    101, 58, 32, letter, 125, 125]

/-- The files of two roles, `a` and `b`, each of which includes the other. -/
def loopFiles : FileSystem :=
  .ofAnswers "/w"
    [("roles/a/tasks/main.yml", .ok (roleTask 98)), ("roles/b/tasks/main.yml", .ok (roleTask 97))]

/-- A play whose one task includes the role `a`. -/
def loopPlay : Record :=
  [(.str "tasks", .list none
    [.map none [(.str "include_role", .map none [(.str "name", .str "a")])]])]

/-- Whether records are one that includes a role. -/
def includesRole (source name : String) : List Record → Bool
  | [r] =>
    match r.request source with
    | .ok (.task t) => t.roleName? == some name
    | _ => false
  | _ => false

/-- A role whose file holds one record that includes another role has one task, which does. -/
theorem resolve_of_includesRole {fs : FileSystem} {roles name other : String} {content : Bytes}
    (hread : fs.read (Role.tasksPath roles name) = .ok content)
    (h : ((Document.bytes content).records "" none).toOption.any
      (includesRole (Role.tasksPath roles name) other) = true) :
    ∃ t, (Role.resolve fs roles name).outcome = .ok [t] ∧ t.roleName? = some other ∧
      t.source = Role.tasksPath roles name := by
  obtain ⟨records, hrecords, hall⟩ := exists_records_of_any h
  unfold includesRole at hall
  split at hall
  · next r =>
    split at hall
    · next t ht =>
      refine ⟨t, Role.resolve_eq_ok.2 ⟨[r], ⟨content, hread, hrecords⟩, ?_⟩, by simpa using hall,
        Record.source_of_build (Record.build_of_request ht)⟩
      exact (Inclusion.expand_task_eq_ok ht).2 ⟨[], by simp, rfl⟩
    · cases hall
  · cases hall

/-- The play ends with a fault of the role `a`, inside it one of the role `b`, and inside both the
cycle of the two; and it is explained. -/
theorem explained_of_play_loopFiles :
    ∃ cycle f tasks, cycle = Fault.includeCycle ["a", "b", "a"] (some "roles/b/tasks/main.yml") ∧
      f = .role "a" (some (.role "b" (some cycle))) ∧
      (play loopFiles "site" "roles" loopPlay).outcome = .error f ∧
      (Inclusion.resolve loopFiles (taskRecords loopPlay) "site").outcome = .ok tasks ∧
      Role.Explained loopFiles "roles" [] tasks f := by
  have hpathA : Role.tasksPath "roles" "a" = "roles/a/tasks/main.yml" := by decide +kernel
  have hpathB : Role.tasksPath "roles" "b" = "roles/b/tasks/main.yml" := by decide +kernel
  obtain ⟨t, hresolve, hrole, _⟩ :=
    @resolve_of_includesRole loopFiles "roles" "a" "b" (roleTask 98) (by rw [hpathA]; rfl)
      (by decide +kernel)
  obtain ⟨u, hresolve', hrole', hsource⟩ :=
    @resolve_of_includesRole loopFiles "roles" "b" "a" (roleTask 97) (by rw [hpathB]; rfl)
      (by decide +kernel)
  -- the play itself includes no file, so the first pass gives its one task
  obtain ⟨first, hfirst, hname⟩ : ∃ first,
      (Inclusion.resolve loopFiles (taskRecords loopPlay) "site").outcome = .ok [first] ∧
        first.roleName? = some "a" :=
    ⟨_, (Inclusion.expand_task_eq_ok rfl).2 ⟨[], by simp, rfl⟩, by decide⟩
  -- from the inside out: the role `b` comes back to `a`, which is active in it
  have hcycle : (Role.inline loopFiles "roles" [u] ["a", "b"]).outcome =
      .error (.includeCycle ["a", "b", "a"] (some "roles/b/tasks/main.yml")) := by
    rw [Role.inline_cons_some hrole', hsource, hpathB]
    rfl
  have hinner : (Role.inline loopFiles "roles" [t] ["a"]).outcome = .error (.role "b" _) :=
    (Role.inline_role_eq_error hrole (by decide) (by decide)).2
      (.inl ⟨_, .inr ⟨[u], hresolve', hcycle⟩, rfl⟩)
  have houter : (Role.inline loopFiles "roles" [first]).outcome = .error (.role "a" _) :=
    (Role.inline_role_eq_error hname (by decide) (by simp)).2
      (.inl ⟨_, .inr ⟨[t], hresolve, hinner⟩, rfl⟩)
  have hplay : (play loopFiles "site" "roles" loopPlay).outcome = .error (.role "a" _) :=
    play_outcome_eq_error.2 (.inr ⟨[first], hfirst, houter⟩)
  obtain ⟨f, tasks, rfl, _, _, htasks, hexplained, _⟩ :=
    (explained_of_play loopFiles "site" "roles" loopPlay).1 _ _ hplay
  exact ⟨_, _, tasks, rfl, rfl, hplay, htasks, hexplained⟩

end Resolution

end Playbook
