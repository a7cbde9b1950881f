import Playbook.Proofs.Faults
import Playbook.Proofs.Spelling

/-!
# Roles that are entered again

The second pass refuses a role that is being included already. What it compares are the names of
roles, as they are written, while the first pass compares normal names of files. So a role can be
entered again inside itself under another spelling of its name, such as `./web` inside `web`.

* `Role.SameFile` — two names spell one role: their task files have one normal name. They do exactly
  if they lead to one folder (`Role.sameFile_iff`), and plain names that do are equal
  (`Role.eq_of_sameFile`).
* `Resolution.SpeltOnce` — a playbook in which no role is spelt in two ways.
* `Resolution.reentry_of_play` — on the way down through roles no name comes twice, and no task file
  more often than there are spellings of it; a role is refused at once exactly if its name is
  active. Where no role is spelt in two ways, the task files on the way are pairwise different, and
  a role whose file is being expanded is refused at once.
* `Resolution.reenters_dottedFiles` — a role that includes itself with a dot in front of its name is
  expanded a second time before it is refused.
-/

namespace Playbook

/-! ### Spellings of a role -/

namespace Role

/-- **Two names spell one role:** their task files have one normal name. -/
def SameFile (fs : FileSystem) (roles n m : String) : Prop :=
  fs.nameOf (tasksPath roles n) = fs.nameOf (tasksPath roles m)

instance (fs : FileSystem) (roles n m : String) : Decidable (SameFile fs roles n m) :=
  inferInstanceAs (Decidable (_ = _))

variable {fs : FileSystem} {roles n m : String}

/-- The task file of a role, in the folder of the role as it is seen from the working directory. -/
theorem sameWay_tasksPath (directory roles name : String) :
    Path.SameWay (Path.join directory (tasksPath roles name))
      (Path.join (Path.join (Path.join directory (Path.join roles name)) "tasks") "main.yml") := by
  have hfile := Path.sameWay_join_assoc directory (Path.join (Path.join roles name) "tasks")
    "main.yml"
  have hfolder := Path.sameWay_join_assoc directory (Path.join roles name) "tasks"
  exact hfile.symm.trans (hfolder.symm.join_right "main.yml")

/-- **Two names spell one role** exactly if they lead to one folder. -/
theorem sameFile_iff :
    SameFile fs roles n m ↔ fs.nameOf (Path.join roles n) = fs.nameOf (Path.join roles m) := by
  rw [SameFile, FileSystem.nameOf, FileSystem.nameOf, FileSystem.nameOf, FileSystem.nameOf,
    Path.absolute_eq, Path.absolute_eq, Path.absolute_eq, Path.absolute_eq]
  have hn := sameWay_tasksPath fs.directory roles n
  have hm := sameWay_tasksPath fs.directory roles m
  constructor
  · intro h
    have hfile := (hn.symm.trans (Path.sameWay_of_normalize_eq h)).trans hm
    exact ((hfile.of_join (by decide)).of_join (by decide)).normalize_eq
  · intro h
    have hfolder := Path.sameWay_of_normalize_eq h
    exact ((hn.trans ((hfolder.join_right "tasks").join_right "main.yml")).trans
      hm.symm).normalize_eq

/-- **Plain names** spell one role only if they are equal. -/
theorem eq_of_sameFile (hn : Path.IsName n.toList) (hm : Path.IsName m.toList)
    (h : SameFile fs roles n m) : n = m := by
  rw [sameFile_iff, FileSystem.nameOf, FileSystem.nameOf, Path.absolute_eq, Path.absolute_eq] at h
  have hfolder := Path.sameWay_of_normalize_eq h
  -- seen from the working directory, both are in the folder of all roles
  have hin := Path.sameWay_join_assoc fs.directory roles n
  have him := Path.sameWay_join_assoc fs.directory roles m
  exact Path.eq_of_sameWay_join hn hm ((hin.trans hfolder).trans him.symm)

end Role

/-! ### The way down -/

namespace Role

variable {fs : FileSystem} {roles : String} {plays : List Record} {active entered : List String}
  {tasks : List Task}

/-- The tasks at hand after some roles have been entered one inside the other. -/
def tasksAt (fs : FileSystem) (roles : String) (tasks : List Task) (entered : List String) :
    List Task :=
  match entered.getLast? with
  | none => tasks
  | some name => tasksOf fs roles name

/-- Wherever the way down has led, the roles at hand have names from the playbook or its files. -/
theorem namedIn_tasksAt (hnames : NamedIn (Resolution.roleNames fs plays) tasks)
    (entered : List String) :
    NamedIn (Resolution.roleNames fs plays) (tasksAt fs roles tasks entered) := by
  unfold tasksAt
  split
  · exact hnames
  · exact namedIn_tasksOf

/-- **All roles that are entered** have names from the playbook or its files. -/
theorem Descent.mem_roleNames (h : Descent fs roles active tasks entered)
    (hnames : NamedIn (Resolution.roleNames fs plays) tasks) :
    ∀ name ∈ entered, name ∈ Resolution.roleNames fs plays := by
  induction h with
  | stop => simp
  | enter ht hrole hname _ _ ih =>
    exact List.forall_mem_cons.2 ⟨hnames _ ht _ hrole hname, ih namedIn_tasksOf⟩

/-- **A role that is not active is entered,** whichever file it leads to: the file is announced and
opened before anything else happens. -/
theorem exists_inline_events {t : Task} {name : String} (hrole : t.roleName? = some name)
    (hname : name ≠ "") (hnew : name ∉ active) (rest : List Task) :
    ∃ later, (inline fs roles (t :: rest) active).events =
      .told 3 ("loading role " ++ name ++ " from " ++ tasksPath roles name) ::
        .opened (tasksPath roles name) :: later := by
  rw [inline_cons_some hrole, if_neg hname, if_neg hnew]
  -- the role is resolved before anything else, and its file is opened before that
  have hfile : [.told 3 ("loading role " ++ name ++ " from " ++ tasksPath roles name),
      .opened (tasksPath roles name)] <+: (resolve fs roles name).events := by
    refine List.IsPrefix.trans ?_ (Run.events_prefix_andThen _ _)
    exact List.prefix_refl _
  have hinner : (resolve fs roles name).events <+:
      (((resolve fs roles name).andThen fun tasks _ =>
        inline fs roles tasks (active ++ [name])).mapFault (wrap name)).events :=
    Run.events_prefix_andThen _ _
  obtain ⟨later, hlater⟩ := (hfile.trans hinner).trans (Run.events_prefix_andThen _ _)
  exact ⟨later, hlater.symm⟩

end Role

/-! ### Plays -/

namespace Resolution

/-- **A playbook that spells no role in two ways.** -/
def SpeltOnce (fs : FileSystem) (roles : String) (records : List Record) : Prop :=
  ∀ n ∈ roleNames fs records, ∀ m ∈ roleNames fs records, Role.SameFile fs roles n m → n = m

variable {fs : FileSystem} {path roles : String} {records : List Record}

/-- Plain names are spelt in one way. -/
theorem speltOnce_of_isName (h : ∀ name ∈ roleNames fs records, Path.IsName name.toList) :
    SpeltOnce fs roles records :=
  fun n hn m hm => Role.eq_of_sameFile (h n hn) (h m hm)

/-- **Roles that are entered again.** Let roles be entered one inside the other on the way down from
the tasks of a play. Their names are pairwise different, and each task file is on the way at most as
often as it is spelt in the playbook and its files. Let a task at hand there include a role. If the
name is active, the role is refused at once, with the chain of the active names and this one. If it
is not, the role is entered, even if its file is on the way already. Where no role is spelt in two
ways, the task files on the way are pairwise different, and a role whose file is on the way is
refused at once. -/
theorem reentry_of_play {r : Record} (hr : r ∈ records) {tasks : List Task}
    (htasks : (Inclusion.resolve fs (taskRecords r) path).outcome = .ok tasks)
    {active : List String} (h : Role.Descent fs roles [] tasks active) :
    active.Nodup ∧
    (∀ file, active.countP (fun n => fs.nameOf (Role.tasksPath roles n) = file) ≤
      {n ∈ roleNames fs records | fs.nameOf (Role.tasksPath roles n) = file}.ncard) ∧
    (SpeltOnce fs roles records →
      (active.map fun n => fs.nameOf (Role.tasksPath roles n)).Nodup) ∧
    ∀ t ∈ Role.tasksAt fs roles tasks active, ∀ name, t.roleName? = some name → name ≠ "" →
      ∀ rest,
        (name ∈ active → Role.inline fs roles (t :: rest) active =
          .fail (.includeCycle (active ++ [name]) (some t.source))) ∧
        (name ∉ active → ∃ later, (Role.inline fs roles (t :: rest) active).events =
          .told 3 ("loading role " ++ name ++ " from " ++ Role.tasksPath roles name) ::
            .opened (Role.tasksPath roles name) :: later) ∧
        (SpeltOnce fs roles records → fs.nameOf (Role.tasksPath roles name) ∈
            active.map (fun n => fs.nameOf (Role.tasksPath roles n)) →
          Role.inline fs roles (t :: rest) active =
            .fail (.includeCycle (active ++ [name]) (some t.source))) := by
  have hnamed := Role.namedIn_of_play hr htasks
  have hnodup : active.Nodup := h.nodup_append List.nodup_nil
  have hnames := h.mem_roleNames hnamed
  refine ⟨hnodup, fun file => ?_, fun honce => ?_, fun t ht name hrole hname rest => ?_⟩
  · -- the names of one file on the way are different spellings of it
    set spellings := active.filter fun n => fs.nameOf (Role.tasksPath roles n) = file
    have hspellings : spellings.Nodup := hnodup.filter _
    rw [List.countP_eq_length_filter, ← List.toFinset_card_of_nodup hspellings,
      ← Set.ncard_coe_finset]
    have hfinite := (finite_roleNames fs records).subset
      (Set.sep_subset _ fun n => fs.nameOf (Role.tasksPath roles n) = file)
    refine Set.ncard_le_ncard (fun n hn => ?_) hfinite
    have hmem : n ∈ spellings := by simpa using hn
    obtain ⟨hactive, hfile⟩ := List.mem_filter.1 hmem
    exact ⟨hnames n hactive, by simpa using hfile⟩
  · exact hnodup.map_on fun n hn m hm => honce n (hnames n hn) m (hnames m hm)
  · have hcycle : name ∈ active → Role.inline fs roles (t :: rest) active =
        .fail (.includeCycle (active ++ [name]) (some t.source)) := by
      intro hactive
      rw [Role.inline_cons_some hrole, if_neg hname, if_pos hactive]
    refine ⟨hcycle, fun hnew => Role.exists_inline_events hrole hname hnew rest, ?_⟩
    intro honce hfile
    obtain ⟨n, hn, hsame⟩ := List.mem_map.1 hfile
    have hmem := Role.namedIn_tasksAt hnamed active t ht name hrole hname
    obtain rfl := honce n (hnames n hn) name hmem hsame
    exact hcycle hn

/-! ### A role that includes itself with a dot in front -/

/-- A task file with one task, `- {include_role: {name: ./a}}`. -/
def dottedTask : Bytes :=
  [45, 32, 123, 105, 110, 99, 108, 117, 100, 101, 95, 114, 111, 108, 101, 58, 32, 123, 110, 97, 109,
    101, 58, 32, 46, 47, 97, 125, 125]

/-- The role `a`, which includes itself under another spelling. -/
def dottedFiles : FileSystem := .ofNames [("/roles/a/tasks/main.yml", dottedTask)]

/-- The task of a play that includes the role, and the one task of the role under both spellings. -/
theorem exists_tasks_dottedFiles : ∃ first t u,
    (Inclusion.resolve dottedFiles (taskRecords loopPlay) "site").outcome = .ok [first] ∧
    first.roleName? = some "a" ∧
    ((Role.resolve dottedFiles "roles" "a").outcome = .ok [t] ∧ t.roleName? = some "./a") ∧
    (Role.resolve dottedFiles "roles" "./a").outcome = .ok [u] ∧ u.roleName? = some "./a" ∧
      u.source = "roles/./a/tasks/main.yml" := by
  obtain ⟨t, hresolve, hrole, -⟩ :=
    @resolve_of_includesRole dottedFiles "roles" "a" "./a" dottedTask (by decide +kernel)
      (by decide +kernel)
  obtain ⟨u, hresolve', hrole', hsource⟩ :=
    @resolve_of_includesRole dottedFiles "roles" "./a" "./a" dottedTask (by decide +kernel)
      (by decide +kernel)
  have hpath : Role.tasksPath "roles" "./a" = "roles/./a/tasks/main.yml" := by decide +kernel
  -- the play itself includes no file, so the first pass gives its one task
  obtain ⟨first, hfirst, hname⟩ : ∃ first,
      (Inclusion.resolve dottedFiles (taskRecords loopPlay) "site").outcome = .ok [first] ∧
        first.roleName? = some "a" :=
    ⟨_, (Inclusion.expand_task_eq_ok rfl).2 ⟨[], by simp, rfl⟩, by decide⟩
  exact ⟨first, t, u, hfirst, hname, ⟨hresolve, hrole⟩, hresolve', hrole', hsource.trans hpath⟩

/-- The way down enters the role under both spellings. -/
theorem descent_dottedFiles {first t : Task} (hname : first.roleName? = some "a")
    (hresolve : (Role.resolve dottedFiles "roles" "a").outcome = .ok [t])
    (hrole : t.roleName? = some "./a") :
    Role.Descent dottedFiles "roles" [] [first] ["a", "./a"] := by
  refine .enter List.mem_cons_self hname (by decide) (by simp) ?_
  rw [Role.tasksOf_eq hresolve]
  exact .enter List.mem_cons_self hrole (by decide) (by decide) .stop

/-- The task file is on the way twice, so it is spelt in two ways at least; and the next inclusion
of it is refused, under a name that is active by then. -/
theorem reentry_of_play_dottedFiles :
    2 ≤ {n ∈ roleNames dottedFiles [loopPlay] |
      dottedFiles.nameOf (Role.tasksPath "roles" n) = "/roles/a/tasks/main.yml"}.ncard ∧
    ∃ u, u.roleName? = some "./a" ∧ Role.inline dottedFiles "roles" [u] ["a", "./a"] =
      .fail (.includeCycle ["a", "./a", "./a"] (some "roles/./a/tasks/main.yml")) := by
  obtain ⟨first, t, u, hfirst, hname, ⟨hresolve, hrole⟩, hresolve', hrole', hsource⟩ :=
    exists_tasks_dottedFiles
  obtain ⟨-, hcount, -, hnext⟩ := reentry_of_play (List.mem_singleton_self loopPlay) hfirst
    (descent_dottedFiles hname hresolve hrole)
  have hat : u ∈ Role.tasksAt dottedFiles "roles" [first] ["a", "./a"] := by
    change u ∈ Role.tasksOf dottedFiles "roles" "./a"
    rw [Role.tasksOf_eq hresolve']
    exact List.mem_cons_self
  have hfiles : 2 = ["a", "./a"].countP fun n =>
      dottedFiles.nameOf (Role.tasksPath "roles" n) = "/roles/a/tasks/main.yml" := by
    decide +kernel
  refine ⟨hfiles.trans_le (hcount _), u, hrole', ?_⟩
  rw [(hnext u hat "./a" hrole' (by decide) []).1 (by decide), hsource]
  rfl

/-- **The role is entered again inside itself:** the play ends with a fault of the role, inside it
one of the role under its other spelling, and the cycle only inside both, although both spellings
have one task file. -/
theorem reenters_dottedFiles :
    Role.SameFile dottedFiles "roles" "a" "./a" ∧
    (∃ tasks, (Inclusion.resolve dottedFiles (taskRecords loopPlay) "site").outcome = .ok tasks ∧
      Role.Descent dottedFiles "roles" [] tasks ["a", "./a"]) ∧
    (play dottedFiles "site" "roles" loopPlay).outcome =
      .error (.role "a" (some (.role "./a" (some
        (.includeCycle ["a", "./a", "./a"] (some "roles/./a/tasks/main.yml")))))) := by
  obtain ⟨first, t, u, hfirst, hname, ⟨hresolve, hrole⟩, hresolve', hrole', hsource⟩ :=
    exists_tasks_dottedFiles
  refine ⟨by decide +kernel, ⟨[first], hfirst, descent_dottedFiles hname hresolve hrole⟩, ?_⟩
  -- from the inside out: only the third inclusion finds its name among the active ones
  have hcycle : (Role.inline dottedFiles "roles" [u] ["a", "./a"]).outcome =
      .error (.includeCycle ["a", "./a", "./a"] (some "roles/./a/tasks/main.yml")) := by
    rw [Role.inline_cons_some hrole', hsource]
    rfl
  have hinner : (Role.inline dottedFiles "roles" [t] ["a"]).outcome = .error (.role "./a" _) :=
    (Role.inline_role_eq_error hrole (by decide) (by decide)).2
      (.inl ⟨_, .inr ⟨[u], hresolve', hcycle⟩, rfl⟩)
  have houter : (Role.inline dottedFiles "roles" [first]).outcome = .error (.role "a" _) :=
    (Role.inline_role_eq_error hname (by decide) (by simp)).2
      (.inl ⟨_, .inr ⟨[t], hresolve, hinner⟩, rfl⟩)
  exact play_outcome_eq_error.2 (.inr ⟨[first], hfirst, houter⟩)

end Resolution

end Playbook
