import Playbook.Inclusion

/-!
# Roles

A role is a folder with a task file. A task whose module includes a role gives way to the tasks of
the role, in which further roles may be included; a role must not be included, under the same
name, while it is being included already.

Main definitions:

- `Task.roleName?`: the name of the role that a task includes;
- `Role.tasksPath`, `Role.resolve`: the task file of a role, and its tasks;
- `Role.inline`: tasks with the tasks of roles in place of their inclusions.

Main statement: `Role.mem_vocabulary`, every role named by a task of a role is named in a file.
-/

namespace Playbook

/-- The name of the role that a task includes; empty if the task does not say. -/
def Task.roleName? (t : Task) : Option String :=
  if Directive.isRoleInclusion t.module then some (Record.text t.args (.str "name")) else none

/-- The name of the role that a record includes. -/
def Record.roleName? (r : Record) : Option String :=
  match r.build "" with
  | .ok t => t.roleName?
  | .error _ => none

theorem Record.roleName?_of_build {r : Record} {source : String} {t : Task}
    (h : r.build source = .ok t) : r.roleName? = t.roleName? := by
  rw [Record.roleName?, Record.build_source h ""]
  rfl

namespace Role

/-- The task file of a role. -/
def tasksPath (roles name : String) : String :=
  Path.join (Path.join (Path.join roles name) "tasks") "main.yml"

/-- The tasks of a role, with inclusions of other roles in them as they are. -/
def resolve (fs : FileSystem) (roles name : String) : Run (List Task) :=
  let path := tasksPath roles name
  ((fs.recordsAt path "failed to read role tasks" "failed to parse tasks YAML" (some path)).after
    (.told 3 ("loading role " ++ name ++ " from " ++ path))).andThen fun records _ =>
      Inclusion.resolve fs records path

/-! ### Names of roles -/

/-- The records of a file; none if it is no document of records. -/
def recordsIn (content : Bytes) : List Record :=
  match (Document.bytes content).records "" none with
  | .ok records => records
  | .error _ => []

/-- The names of roles in the files of a file system. -/
def vocabulary (fs : FileSystem) : List String :=
  fs.files.flatMap fun (_, content) => (recordsIn content).filterMap Record.roleName?

/-- Whether a document holds records does not depend on how a fault would be worded. -/
theorem records_headline {d : Document} {h h' : String} {f f' : Option String}
    {records : List Record} (hd : d.records h f = .ok records) : d.records h' f' = .ok records := by
  simp only [Document.records] at hd ⊢
  split at hd <;> simp_all

theorem mem_vocabulary_of_isFileRecord {fs : FileSystem} {r : Record} {name : String}
    (hr : Inclusion.IsFileRecord fs r) (hname : r.roleName? = some name) :
    name ∈ vocabulary fs := by
  obtain ⟨file, hfile, h, f, records, hdecode, hmem⟩ := hr
  simp only [vocabulary, List.mem_flatMap]
  refine ⟨file, hfile, ?_⟩
  simp only [recordsIn, records_headline hdecode]
  exact List.mem_filterMap.2 ⟨r, hmem, hname⟩

/-- **Every role named by a task of a role is named in a file.** -/
theorem mem_vocabulary {fs : FileSystem} {roles role : String} {tasks : List Task}
    (h : (resolve fs roles role).outcome = .ok tasks) {t : Task} (ht : t ∈ tasks) {name : String}
    (hname : t.roleName? = some name) : name ∈ vocabulary fs := by
  simp only [resolve] at h
  obtain ⟨records, hrecords, h⟩ := Run.andThen_outcome_eq_ok.1 h
  obtain ⟨r, hbuild, hr⟩ := Inclusion.mem_expand h ht
  have hrole := (Record.roleName?_of_build hbuild).trans hname
  rcases hr with hr | hr
  · exact mem_vocabulary_of_isFileRecord (Inclusion.isFileRecord_of_recordsAt hrecords hr) hrole
  · exact mem_vocabulary_of_isFileRecord hr hrole

/-! ### Inlining -/

/-- The fault of a role: a fault of resolution is wrapped in one that names the role. -/
def wrap (name : String) (f : Fault) : Fault := if f.isResolution then .role name (some f) else f

/-- The fault of an inclusion that names no role. -/
def nameless (t : Task) : Fault :=
  if (Value.map none t.args).holdsLong then .failure Scalar.tooLongFailure
  else .shape ("include_role task is missing 'name': " ++ Value.entriesLiteral t.args) t.source

/-- The tasks of a list, with the tasks of roles in place of their inclusions. The active roles are
the ones being included. The names are those of all roles that may be met. -/
def inlineWithin (fs : FileSystem) (roles : String) (names active : List String) :
    (tasks : List Task) → (∀ t ∈ tasks, ∀ name, t.roleName? = some name → name ∈ names) →
      (∀ name ∈ vocabulary fs, name ∈ names) → Run (List Task)
  | [], _, _ => .done []
  | t :: rest, hnames, hvocabulary =>
    have hrest := fun u hu => hnames u (List.mem_cons_of_mem _ hu)
    match _hrole : t.roleName? with
    | none => (inlineWithin fs roles names active rest hrest hvocabulary).map (t :: ·)
    | some name =>
      if name = "" then .fail (nameless t)
      else if _hactive : name ∈ active then
        .fail (.includeCycle (active ++ [name]) (some t.source))
      else
        (((resolve fs roles name).andThen fun tasks htasks =>
          inlineWithin fs roles names (active ++ [name]) tasks
            (fun _ hu _ hname => hvocabulary _ (mem_vocabulary htasks hu hname))
            hvocabulary).mapFault (wrap name)).andThen fun included _ =>
              (inlineWithin fs roles names active rest hrest hvocabulary).map (included ++ ·)
termination_by tasks => (Chain.unvisited names active, tasks.length)
decreasing_by
  · exact Prod.Lex.right _ (by simp)
  · exact Prod.Lex.left _ _
      (Chain.unvisited_append_lt (hnames t List.mem_cons_self _ _hrole) _hactive)
  · exact Prod.Lex.right _ (by simp)

/-- The names of the roles that tasks include. -/
def namesIn (tasks : List Task) : List String := tasks.filterMap Task.roleName?

/-- The tasks of a list, with the tasks of roles in place of their inclusions, while some roles are
being included. -/
def inline (fs : FileSystem) (roles : String) (tasks : List Task) (active : List String := []) :
    Run (List Task) :=
  inlineWithin fs roles (namesIn tasks ++ vocabulary fs) active tasks
    (fun t ht _ h => List.mem_append_left _ (List.mem_filterMap.2 ⟨t, ht, h⟩))
    (fun _ h => List.mem_append_right _ h)

end Role

end Playbook
