import Mathlib.Data.Set.Card
import Playbook.Proofs.Attribution
import Playbook.Proofs.Cycle

/-!
# Nesting is bounded

Files include files and roles include roles as the data in them says, and nothing shrinks on the
way down. What bounds the nesting is that neither a file nor a role may be inside itself:

* `Inclusion.Descent` — a chain of inclusions entered one inside the other, as the first pass enters
  them. It is not longer than there are files that can be read (`Inclusion.Descent.length_le`).
* `Role.Descent` — a chain of roles entered one inside the other, as the second pass enters them. It
  is not longer than there are names of roles in the playbook and in the files
  (`Role.Descent.length_le`). The files are counted anew inside every role.
* `Inclusion.expandTo`, `Role.inlineTo` — the two passes with a limit on how deep they nest, defined
  by recursion on the limit and the list at hand. A pass that has to go deeper than that fails.
* `Resolution.nesting_bounded` — both bounds, and that with these bounds as its limits the
  resolution of a playbook is what it is without: it leaves the same trace and has the same outcome,
  whatever the fault may be that going too deep would have.

The bounds and the limits have one invariant, how many names are left to be entered
(`Chain.left`). Each step down takes one away, as the name entered is among them and was not active.
-/

namespace Playbook

/-! ### Names that are left -/

/-- The names of a set that are not on a chain. -/
def Chain.left (names : Set String) (chain : List String) : Set String :=
  {name ∈ names | name ∉ chain}

section Left

variable {names : Set String} {chain : List String}

theorem Chain.ncard_left_le (hfinite : names.Finite) : (left names chain).ncard ≤ names.ncard :=
  Set.ncard_le_ncard (Set.sep_subset _ _) hfinite

/-- **A step down leaves fewer names.** -/
theorem Chain.ncard_left_append_lt {name : String} (hfinite : names.Finite) (hname : name ∈ names)
    (hnew : name ∉ chain) : (left names (chain ++ [name])).ncard < (left names chain).ncard := by
  refine Set.ncard_lt_ncard ⟨?_, ?_⟩ (hfinite.subset (Set.sep_subset _ _))
  · rintro n ⟨hn, hchain⟩
    exact ⟨hn, fun h => hchain (List.mem_append_left _ h)⟩
  · intro hsub
    exact (hsub ⟨hname, hnew⟩).2 (List.mem_append_right _ (List.mem_singleton_self _))

end Left

/-- The normal names of the files that can be read. -/
def FileSystem.readable (fs : FileSystem) : Set String :=
  {name | ∃ path content, fs.read path = .ok content ∧ fs.nameOf path = name}

theorem FileSystem.finite_readable (fs : FileSystem) : fs.readable.Finite := by
  refine (List.finite_toSet fs.names).subset ?_
  rintro name ⟨path, content, hread, rfl⟩
  exact fs.nameOf_mem_names hread

/-- The names under which roles are included in the plays of a playbook and in the files that can be
read. -/
def Resolution.roleNames (fs : FileSystem) (plays : List Record) : Set String :=
  {name | name ≠ "" ∧ ∃ r : Record, r.roleName? = some name ∧
    ((∃ play ∈ plays, r ∈ taskRecords play) ∨ ∃ path records, fs.Holds path records ∧ r ∈ records)}

theorem Resolution.finite_roleNames (fs : FileSystem) (plays : List Record) :
    (roleNames fs plays).Finite := by
  have hlist := List.finite_toSet
    ((plays.flatMap taskRecords).filterMap Record.roleName? ++ Role.vocabulary fs)
  refine hlist.subset ?_
  rintro name ⟨-, r, hrole, ⟨play, hplay, hr⟩ | ⟨path, records, ⟨content, hread, hdecode⟩, hr⟩⟩
  · have hmem : r ∈ plays.flatMap taskRecords := List.mem_flatMap.2 ⟨play, hplay, hr⟩
    exact List.mem_append_left _ (List.mem_filterMap.2 ⟨r, hmem, hrole⟩)
  · have hfile : Inclusion.IsFileRecord fs r :=
      ⟨_, fs.mem_files hread, _, _, records, hdecode, hr⟩
    exact List.mem_append_right _ (Role.mem_vocabulary_of_isFileRecord hfile hrole)

/-! ### Files inside files -/

namespace Inclusion

/-- **Files entered one inside the other,** by their normal names, from records of a source while
some files are active. A file is entered when it can be read, whatever is in it. -/
inductive Descent (fs : FileSystem) :
    (active : List String) → (source : String) → List Record → List String → Prop
  /-- No file need be entered. -/
  | stop {active : List String} {source : String} {records : List Record} :
      Descent fs active source records []
  /-- A file that the records name and that is not active is entered. -/
  | enter {active entered : List String} {source path : String} {records : List Record}
      {content : Bytes} (hnames : Names source records path) (hnew : fs.nameOf path ∉ active)
      (hread : fs.read path = .ok content)
      (hrest : Descent fs (active ++ [fs.nameOf path]) path (Role.recordsIn content) entered) :
      Descent fs active source records (fs.nameOf path :: entered)

variable {fs : FileSystem} {active : List String} {source : String} {records : List Record}

/-- **A file that is entered** is one less that is left. -/
theorem ncard_left_lt {path : String} {content : Bytes} (hread : fs.read path = .ok content)
    (hnew : fs.nameOf path ∉ active) :
    (Chain.left fs.readable (active ++ [fs.nameOf path])).ncard <
      (Chain.left fs.readable active).ncard :=
  Chain.ncard_left_append_lt fs.finite_readable ⟨path, content, hread, rfl⟩ hnew

/-- **No descent is longer than files are left.** -/
theorem Descent.length_le {entered : List String} (h : Descent fs active source records entered) :
    entered.length ≤ (Chain.left fs.readable active).ncard := by
  induction h with
  | stop => exact Nat.zero_le _
  | @enter active entered source path records content hnames hnew hread hrest ih =>
    have hlt : entered.length < (Chain.left fs.readable active).ncard :=
      calc entered.length
          ≤ (Chain.left fs.readable (active ++ [fs.nameOf path])).ncard := ih
        _ < (Chain.left fs.readable active).ncard := ncard_left_lt hread hnew
    exact Nat.succ_le_of_lt hlt

/-- The first pass at one level: what it does with records, when another run does what there is to
do inside a file. -/
def expandStep (fs : FileSystem)
    (nested : List String → String → List Record → Run (List Task)) (active : List String)
    (source : String) : List Record → Run (List Task)
  | [] => .done []
  | r :: rest =>
    match r.request source with
    | .error f => .fail f
    | .ok (.task t) => (expandStep fs nested active source rest).map (t :: ·)
    | .ok (.inclusion path) =>
      if fs.nameOf path ∈ active then
        .fail (.includeCycle (active ++ [fs.nameOf path]) (some source))
      else
        (recordsOf fs path).andThen fun records _ =>
          (nested (active ++ [fs.nameOf path]) path records).andThen fun included _ =>
            (expandStep fs nested active source rest).map (included ++ ·)

/-- **The first pass with a limit.** So many files may be entered one inside the other; one more is
too deep. -/
def expandTo (fs : FileSystem) (tooDeep : Fault) :
    Nat → (active : List String) → (source : String) → List Record → Run (List Task)
  | 0 => expandStep fs fun _ _ _ => .fail tooDeep
  | limit + 1 => expandStep fs (expandTo fs tooDeep limit)

/-- Where the first pass is followed inside each file, one level of it is all of it. -/
theorem expandStep_eq_expand {nested : List String → String → List Record → Run (List Task)}
    (h : ∀ path inner, fs.nameOf path ∉ active → fs.Holds path inner →
      nested (active ++ [fs.nameOf path]) path inner =
        expand fs (active ++ [fs.nameOf path]) path inner) :
    expandStep fs nested active source records = expand fs active source records := by
  -- only the list at hand is followed here; what is inside a file is the hypothesis
  induction records with
  | nil => rw [expandStep, expand_nil]
  | cons r rest ih =>
    rw [expandStep, ih]
    cases hrequest : r.request source with
    | error f => rw [expand_cons_fault hrequest]
    | ok q =>
      cases q with
      | task t => rw [expand_cons_task hrequest]
      | inclusion path =>
        by_cases hactive : fs.nameOf path ∈ active
        · rw [expand_cons_cycle hrequest hactive]
          exact if_pos hactive
        · rw [expand_cons_inclusion hrequest hactive]
          refine (if_neg hactive).trans (Run.andThen_congr fun inner hinner => ?_)
          rw [h path inner hactive (recordsOf_eq_ok.1 hinner)]

/-- **A limit of the files that are left is never noticed.** -/
theorem expandTo_eq_expand {tooDeep : Fault} {limit : Nat}
    (h : (Chain.left fs.readable active).ncard ≤ limit) :
    expandTo fs tooDeep limit active source records = expand fs active source records := by
  induction limit generalizing active source records with
  | zero =>
    refine expandStep_eq_expand fun path inner hnew hfile => ?_
    -- no file is left, so none can be entered
    obtain ⟨content, hread, _⟩ := hfile
    exact absurd ((ncard_left_lt hread hnew).trans_le h) (Nat.not_lt_zero _)
  | succ limit ih =>
    -- entering a file costs one of the limit and takes one name away
    refine expandStep_eq_expand fun path inner hnew hfile => ih ?_
    obtain ⟨content, hread, _⟩ := hfile
    exact Nat.le_of_lt_succ ((ncard_left_lt hread hnew).trans_le h)

end Inclusion

/-! ### Roles inside roles -/

namespace Role

/-- The tasks of a role; none if the role cannot be resolved. -/
def tasksOf (fs : FileSystem) (roles name : String) : List Task :=
  match (resolve fs roles name).outcome with
  | .ok tasks => tasks
  | .error _ => []

/-- **Roles entered one inside the other,** by their names, from tasks while some roles are active.
A role is entered when it is about to be resolved, whatever comes of it. -/
inductive Descent (fs : FileSystem) (roles : String) :
    (active : List String) → List Task → List String → Prop
  /-- No role need be entered. -/
  | stop {active : List String} {tasks : List Task} : Descent fs roles active tasks []
  /-- A role that a task includes and that is not active is entered. -/
  | enter {active entered : List String} {tasks : List Task} {t : Task} {name : String}
      (ht : t ∈ tasks) (hrole : t.roleName? = some name) (hname : name ≠ "") (hnew : name ∉ active)
      (hrest : Descent fs roles (active ++ [name]) (tasksOf fs roles name) entered) :
      Descent fs roles active tasks (name :: entered)

/-- All roles that tasks include have names in a set. -/
def NamedIn (names : Set String) (tasks : List Task) : Prop :=
  ∀ t ∈ tasks, ∀ name, t.roleName? = some name → name ≠ "" → name ∈ names

variable {fs : FileSystem} {roles : String} {plays : List Record} {active : List String}
  {tasks : List Task}

/-- The name of a role that a task from a file includes stands in the file. -/
theorem mem_roleNames_of_fromFile {t : Task} {events : List Event} {name : String}
    (hfile : t.FromFile fs roles events) (hrole : t.roleName? = some name) (hname : name ≠ "") :
    name ∈ Resolution.roleNames fs plays := by
  obtain ⟨_, records, r, hholds, hr, hbuild⟩ := hfile
  have hrecord : r.roleName? = some name := (Record.roleName?_of_build hbuild).trans hrole
  exact ⟨hname, r, hrecord, .inr ⟨t.source, records, hholds, hr⟩⟩

/-- **Names inside roles** stand in files. -/
theorem namedIn_of_resolve {name : String} (h : (resolve fs roles name).outcome = .ok tasks) :
    NamedIn (Resolution.roleNames fs plays) tasks :=
  fun _ ht _ hrole hname => mem_roleNames_of_fromFile (fromFile_of_resolve h ht) hrole hname

/-- **Names in a play** stand in the play or in files. -/
theorem namedIn_of_play {play : Record} {path : String} (hplay : play ∈ plays)
    (h : (Inclusion.resolve fs (Resolution.taskRecords play) path).outcome = .ok tasks) :
    NamedIn (Resolution.roleNames fs plays) tasks := by
  intro t ht name hrole hname
  -- where the folder of roles is does not matter here
  have horigin := @Inclusion.origin_of_mem_expand fs "" _ _ _ _ h t ht
  rcases horigin with ⟨_, r, hr, hbuild⟩ | hfile
  · have hrecord : r.roleName? = some name := (Record.roleName?_of_build hbuild).trans hrole
    exact ⟨hname, r, hrecord, .inl ⟨play, hplay, hr⟩⟩
  · exact mem_roleNames_of_fromFile hfile hrole hname

theorem namedIn_tasksOf {name : String} :
    NamedIn (Resolution.roleNames fs plays) (tasksOf fs roles name) := by
  rw [tasksOf]
  split
  · next h => exact namedIn_of_resolve h
  · intro t ht
    cases ht

/-- **A role that is entered** has one of the names that are left. -/
theorem ncard_left_lt {t : Task} {name : String}
    (hnames : NamedIn (Resolution.roleNames fs plays) tasks) (ht : t ∈ tasks)
    (hrole : t.roleName? = some name) (hname : name ≠ "") (hnew : name ∉ active) :
    (Chain.left (Resolution.roleNames fs plays) (active ++ [name])).ncard <
      (Chain.left (Resolution.roleNames fs plays) active).ncard :=
  Chain.ncard_left_append_lt (Resolution.finite_roleNames fs plays) (hnames t ht name hrole hname)
    hnew

/-- **No descent is longer than names of roles are left.** -/
theorem Descent.length_le {entered : List String} (h : Descent fs roles active tasks entered)
    (hnames : NamedIn (Resolution.roleNames fs plays) tasks) :
    entered.length ≤ (Chain.left (Resolution.roleNames fs plays) active).ncard := by
  induction h with
  | stop => exact Nat.zero_le _
  | enter ht hrole hname hnew _ ih =>
    -- the names inside the role are taken from the same set
    have hinner := ih namedIn_tasksOf
    exact Nat.succ_le_of_lt (hinner.trans_lt (ncard_left_lt hnames ht hrole hname hnew))

/-- A role, in the first pass with a limit. -/
def resolveTo (fs : FileSystem) (tooDeep : Fault) (limit : Nat) (roles name : String) :
    Run (List Task) :=
  let path := tasksPath roles name
  ((fs.recordsAt path "failed to read role tasks" "failed to parse tasks YAML" (some path)).after
    (.told 3 ("loading role " ++ name ++ " from " ++ path))).andThen fun records _ =>
      Inclusion.expandTo fs tooDeep limit [fs.nameOf path] path records

/-- The second pass at one level: what it does with tasks, when other runs resolve a role and do
what there is to do inside it. -/
def inlineStep (enter : String → Run (List Task))
    (nested : List String → List Task → Run (List Task)) (active : List String) :
    List Task → Run (List Task)
  | [] => .done []
  | t :: rest =>
    match t.roleName? with
    | none => (inlineStep enter nested active rest).map (t :: ·)
    | some name =>
      if name = "" then .fail (nameless t)
      else if name ∈ active then .fail (.includeCycle (active ++ [name]) (some t.source))
      else
        (((enter name).andThen fun tasks _ =>
          nested (active ++ [name]) tasks).mapFault (wrap name)).andThen fun included _ =>
            (inlineStep enter nested active rest).map (included ++ ·)

/-- **The second pass with limits.** So many roles may be entered one inside the other, and inside
each of them so many files; one more is too deep. -/
def inlineTo (fs : FileSystem) (tooDeep : Fault) (files : Nat) (roles : String) :
    Nat → (active : List String) → List Task → Run (List Task)
  | 0 => inlineStep (resolveTo fs tooDeep files roles) fun _ _ => .fail tooDeep
  | limit + 1 =>
    inlineStep (resolveTo fs tooDeep files roles) (inlineTo fs tooDeep files roles limit)

theorem resolveTo_eq_resolve {tooDeep : Fault} {limit : Nat} (h : fs.readable.ncard ≤ limit) :
    resolveTo fs tooDeep limit roles = resolve fs roles := by
  funext name
  refine Run.andThen_congr fun records _ => Inclusion.expandTo_eq_expand ?_
  exact (Chain.ncard_left_le fs.finite_readable).trans h

/-- Where the second pass is followed inside each role, one level of it is all of it. -/
theorem inlineStep_eq_inline {nested : List String → List Task → Run (List Task)}
    (h : ∀ t ∈ tasks, ∀ name, t.roleName? = some name → name ≠ "" → name ∉ active →
      ∀ inner, (resolve fs roles name).outcome = .ok inner →
        nested (active ++ [name]) inner = inline fs roles inner (active ++ [name])) :
    inlineStep (resolve fs roles) nested active tasks = inline fs roles tasks active := by
  induction tasks with
  | nil => rw [inlineStep, inline_nil]
  | cons t rest ih =>
    rw [inlineStep, ih fun u hu => h u (List.mem_cons_of_mem _ hu)]
    cases hrole : t.roleName? with
    | none => rw [inline_cons_none hrole]
    | some name =>
      rw [inline_cons_some hrole]
      by_cases hne : name = ""
      · simp only [hne, ↓reduceIte]
      · by_cases hactive : name ∈ active
        · simp only [hne, hactive, ↓reduceIte]
        · simp only [hne, hactive, ↓reduceIte]
          rw [Run.andThen_congr (h t List.mem_cons_self name hrole hne hactive)]

/-- **A limit of the names of roles that are left is never noticed.** -/
theorem inlineTo_eq_inline {tooDeep : Fault} {files limit : Nat}
    (hfiles : fs.readable.ncard ≤ files) (hnames : NamedIn (Resolution.roleNames fs plays) tasks)
    (h : (Chain.left (Resolution.roleNames fs plays) active).ncard ≤ limit) :
    inlineTo fs tooDeep files roles limit active tasks = inline fs roles tasks active := by
  induction limit generalizing active tasks with
  | zero =>
    rw [inlineTo, resolveTo_eq_resolve hfiles]
    refine inlineStep_eq_inline fun t ht name hrole hne hnew inner hinner => ?_
    -- no name is left, so no role can be entered
    have hlt := ncard_left_lt hnames ht hrole hne hnew
    exact absurd (hlt.trans_le h) (Nat.not_lt_zero _)
  | succ limit ih =>
    rw [inlineTo, resolveTo_eq_resolve hfiles]
    refine inlineStep_eq_inline fun t ht name hrole hne hnew inner hinner => ?_
    have hlt := ncard_left_lt hnames ht hrole hne hnew
    exact ih (namedIn_of_resolve hinner) (Nat.le_of_lt_succ (hlt.trans_le h))

end Role

/-! ### Playbooks -/

namespace Resolution

/-- How deep files, and roles, may nest in each other. -/
structure Limits where
  /-- How many files may be entered one inside the other. -/
  files : Nat
  /-- How many roles may be entered one inside the other. -/
  roles : Nat

/-- The play of a record, within limits. -/
def playTo (fs : FileSystem) (tooDeep : Fault) (limits : Limits) (path roles : String)
    (r : Record) : Run Play :=
  let name := r.text (.str "name")
  (((Inclusion.expandTo fs tooDeep limits.files [fs.nameOf path] path (taskRecords r)).andThen
    fun tasks _ => Role.inlineTo fs tooDeep limits.files roles limits.roles [] tasks).map
      fun tasks => { name := name, hosts := r.text (.str "hosts"), tasks := tasks }).after
        (.told 2 ("resolving play " ++ Literal.text name))

/-- The plays of records, within limits. -/
def playsTo (fs : FileSystem) (tooDeep : Fault) (limits : Limits) (path roles : String) :
    List Record → Run (List Play)
  | [] => .done []
  | r :: rest =>
    (playTo fs tooDeep limits path roles r).andThen fun p _ =>
      (playsTo fs tooDeep limits path roles rest).map (p :: ·)

/-- The plays of a playbook whose source is at hand, within limits. -/
def playbookTo (fs : FileSystem) (tooDeep : Fault) (limits : Limits) (document : Document)
    (path roles : String) : Run (List Play) :=
  (Run.ofExcept (document.records "failed to parse YAML" (some path))).andThen fun records _ =>
    playsTo fs tooDeep limits path roles records

/-- The plays of a playbook file, within limits. -/
def loadTo (fs : FileSystem) (tooDeep : Fault) (limits : Limits) (path roles : String) :
    Run (List Play) :=
  (fs.recordsAt path "failed to read playbook" "failed to parse YAML" (some path)).andThen
    fun records _ => playsTo fs tooDeep limits path roles records

section Limited

variable {fs : FileSystem} {tooDeep : Fault} {limits : Limits} {path roles : String}
  {records : List Record}

/-- The limits of a playbook are not noticed in a play of it. -/
theorem playTo_eq_play {r : Record} (hfiles : fs.readable.ncard ≤ limits.files)
    (hroles : (roleNames fs records).ncard ≤ limits.roles) (hr : r ∈ records) :
    playTo fs tooDeep limits path roles r = play fs path roles r := by
  have hexpand : Inclusion.expandTo fs tooDeep limits.files [fs.nameOf path] path (taskRecords r) =
      Inclusion.resolve fs (taskRecords r) path :=
    Inclusion.expandTo_eq_expand ((Chain.ncard_left_le fs.finite_readable).trans hfiles)
  have hinline : ∀ tasks, (Inclusion.resolve fs (taskRecords r) path).outcome = .ok tasks →
      Role.inlineTo fs tooDeep limits.files roles limits.roles [] tasks =
        Role.inline fs roles tasks :=
    fun tasks htasks => Role.inlineTo_eq_inline hfiles (Role.namedIn_of_play hr htasks)
      ((Chain.ncard_left_le (finite_roleNames fs records)).trans hroles)
  -- the second pass is only reached with tasks that the first one has found
  rw [playTo, hexpand, Run.andThen_congr hinline]
  rfl

/-- Nor are they in any number of its plays. -/
theorem playsTo_eq_plays {part : List Record} (hfiles : fs.readable.ncard ≤ limits.files)
    (hroles : (roleNames fs records).ncard ≤ limits.roles) (hpart : ∀ r ∈ part, r ∈ records) :
    playsTo fs tooDeep limits path roles part = plays fs path roles part := by
  induction part with
  | nil => rw [playsTo, plays]
  | cons r rest ih =>
    rw [playsTo, plays, playTo_eq_play hfiles hroles (hpart r List.mem_cons_self),
      ih fun u hu => hpart u (List.mem_cons_of_mem _ hu)]

end Limited

/-- **Resolution nests only so deep.** In any resolution of task records, a chain of files entered
one inside the other is not longer than there are normal names of files that can be read. In any
play of a playbook, a chain of roles entered one inside the other is not longer than there are names
under which roles are included in the playbook and in the files that can be read. With limits at
least as large as these bounds, the resolution of a playbook, at hand or in a file, is what it is
without limits: no run has to be stopped for its depth. -/
theorem nesting_bounded (fs : FileSystem) (path roles : String) :
    (∀ source records entered, Inclusion.Descent fs [fs.nameOf source] source records entered →
      entered.length ≤ fs.readable.ncard) ∧
    (∀ records, ∀ r ∈ records, ∀ tasks,
      (Inclusion.resolve fs (taskRecords r) path).outcome = .ok tasks →
      ∀ entered, Role.Descent fs roles [] tasks entered →
        entered.length ≤ (roleNames fs records).ncard) ∧
    (∀ tooDeep limits, fs.readable.ncard ≤ limits.files →
      (∀ document : Document,
        (∀ records, document.records "" none = .ok records →
          (roleNames fs records).ncard ≤ limits.roles) →
        playbookTo fs tooDeep limits document path roles = playbook fs document path roles) ∧
      ((∀ records, fs.Holds path records → (roleNames fs records).ncard ≤ limits.roles) →
        loadTo fs tooDeep limits path roles = load fs path roles)) := by
  refine ⟨?_, ?_, ?_⟩
  · intro source records entered h
    calc entered.length
        ≤ (Chain.left fs.readable [fs.nameOf source]).ncard := h.length_le
      _ ≤ fs.readable.ncard := Chain.ncard_left_le fs.finite_readable
  · intro records r hr tasks htasks entered h
    calc entered.length
        ≤ (Chain.left (roleNames fs records) []).ncard :=
          h.length_le (Role.namedIn_of_play hr htasks)
      _ ≤ (roleNames fs records).ncard := Chain.ncard_left_le (finite_roleNames fs records)
  · intro tooDeep limits hfiles
    refine ⟨?_, ?_⟩
    · -- a document without records fails before any limit could matter
      intro document hroles
      refine Run.andThen_congr fun records hrecords => ?_
      exact playsTo_eq_plays hfiles (hroles records (Role.records_headline hrecords)) fun _ hr => hr
    · intro hroles
      refine Run.andThen_congr fun records hrecords => ?_
      exact playsTo_eq_plays hfiles (hroles records (FileSystem.recordsAt_eq_ok.1 hrecords))
        fun _ hr => hr

end Resolution

end Playbook
