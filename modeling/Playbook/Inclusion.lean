import Playbook.Chain
import Playbook.Task
import Playbook.Trace

/-!
# Inclusion of task files

Task records become tasks. A record that includes a file gives way to the tasks of that file, whose
path is seen from the folder of the file the record is written in. A file must not be included while
it is being included already.

Main definitions:

- `Record.request`: what a record asks for, or why it is malformed;
- `FileSystem.recordsAt`: open a file and read its records;
- `Inclusion.expand`, `Inclusion.resolve`: the tasks of records.

Main statement: `Inclusion.mem_expand`, every task is built from a record at hand or from a record
of a file.
-/

namespace Playbook

/-! ### Single records -/

/-- What a well-formed task record asks for. -/
inductive Request where
  /-- The tasks of a file. -/
  | inclusion (path : String)
  /-- A task. -/
  | task (t : Task)
deriving Repr

namespace Record

/-- The keys that include a file. -/
def inclusionKeys (r : Record) : List Value :=
  (Entries.keys r).filter fun k => Directive.ofKey? k = some .includeTasks

/-- The keys that name a module. The inclusion of a role counts as a module. -/
def moduleKeys (r : Record) : List Value :=
  (Entries.keys r).filter fun k =>
    Directive.ofKey? k = none ∨ Directive.ofKey? k = some .includeRole

/-- Keys with commas between them; all must be texts. -/
def joinKeys (keys : List Value) : Except Failure String :=
  let rec texts (i : Nat) : List Value → Except Failure (List String)
    | [] => .ok []
    | .scalar (.str s) :: rest => do return s :: (← texts (i + 1) rest)
    -- The first key that is no text is named by its number and its type.
    | k :: _ =>
      let name := match k with
        | .scalar s => s.qualifiedTypeName
        | k => k.typeName
      .error (.type ("sequence item " ++ toString i ++ ": expected str instance, " ++ name ++
        " found"))
  (texts 0 keys).map (String.intercalate ", ")

/-- The path of the file that a record includes; none if it includes no file. -/
def inclusion? (r : Record) (source : String) : Except Fault (Option String) :=
  match r.inclusionKeys with
  | [] => .ok none
  | [key] =>
    match field? r key with
    | some (.str path) =>
      match r.moduleKeys with
      -- The path is relative to the folder of the source.
      | [] => .ok (some (Path.normalize (Path.join (Path.parent source) path)))
      -- Only the first module beside the inclusion is named.
      | module :: _ =>
        match module.literal? with
        | .ok shown =>
          .error (.shape ("include_tasks cannot be combined with module " ++ shown) source)
        | .error f => .error (.failure f)
    | _ => .error (.shape "include_tasks path must be a string" source)
  | keys =>
    match joinKeys keys with
    | .ok list =>
      .error (.shape ("task has more than one include_tasks directive: " ++ list) source)
    | .error f => .error (.failure f)

/-- The arguments of the module of a record. A mapping holds them by name; any other value is the
short form, and the one argument. -/
def argsOf (v : Value) : Entries := v.entries?.getD [(.str "__value__", v)]

/-- The task with the fields of a record and some module and arguments. -/
def taskWith (r : Record) (module : Value) (args : Entries) (source : String) : Task where
  name := r.text (.str "name")
  module := module
  args := args
  vars := r.mapping (.str "vars")
  loop := r.text (.str "loop")
  source := source

/-- The task that a record describes. -/
def build (r : Record) (source : String) : Except Fault Task :=
  match r.moduleKeys with
  | [] => .ok (r.taskWith (.str "") [] source)
  | [module] => .ok (r.taskWith module (argsOf ((field? r module).getD .null)) source)
  | modules =>
    match joinKeys modules with
    | .ok list => .error (.shape ("task has more than one module: " ++ list) source)
    | .error f => .error (.failure f)

/-- What a record asks for. -/
def request (r : Record) (source : String) : Except Fault Request := do
  -- What the record includes is asked first. Only a record that includes no file is a task.
  match ← r.inclusion? source with
  | some path => return .inclusion path
  | none => return .task (← r.build source)

/-- Whether a record describes a task, and which up to the source, does not depend on the source. -/
theorem build_source {r : Record} {source : String} {t : Task} (h : r.build source = .ok t)
    (other : String) : r.build other = .ok { t with source := other } := by
  unfold build at h ⊢
  split at h
  · simp only [Except.ok.injEq] at h
    simp [← h, taskWith]
  · simp only [Except.ok.injEq] at h
    simp [← h, taskWith]
  · split at h <;> simp at h

theorem source_of_build {r : Record} {source : String} {t : Task} (h : r.build source = .ok t) :
    t.source = source := by
  have := build_source h source
  rw [h] at this
  simp only [Except.ok.injEq] at this
  rw [this]

theorem build_of_request {r : Record} {source : String} {t : Task}
    (h : r.request source = .ok (.task t)) : r.build source = .ok t := by
  simp only [request, bind, Except.bind, pure, Except.pure] at h
  split at h
  · simp at h
  · split at h
    · simp at h
    · split at h
      · simp at h
      · next t' ht =>
        simp only [Except.ok.injEq, Request.task.injEq] at h
        exact h ▸ ht

end Record

/-! ### Files -/

namespace FileSystem

/-- Open a file and read its records. -/
def recordsAt (fs : FileSystem) (path readHeadline parseHeadline : String) (file : Option String) :
    Run (List Record) :=
  ⟨[.opened path],
    match fs.read path with
    | .error (.system e) => .error (.resolution .taskFile readHeadline none (some (.system e)))
    -- A path that is none fails before any file is looked for, and this is no error of resolution.
    | .error .nullCharacter => .error (.failure (.value "embedded null byte"))
    | .ok content => (Document.bytes content).records parseHeadline file⟩

@[simp] theorem recordsAt_events (fs : FileSystem) (path r p : String) (file : Option String) :
    (fs.recordsAt path r p file).events = [.opened path] := rfl

/-- Records come from a file that can be opened. -/
theorem read_of_recordsAt {fs : FileSystem} {path r p : String} {file : Option String}
    {records : List Record} (h : (fs.recordsAt path r p file).outcome = .ok records) :
    ∃ content, fs.read path = .ok content ∧
      (Document.bytes content).records p file = .ok records := by
  simp only [recordsAt] at h
  split at h <;> simp_all

end FileSystem

/-! ### Lists of records -/

namespace Inclusion

/-- The records of an included file. -/
def recordsOf (fs : FileSystem) (path : String) : Run (List Record) :=
  (fs.recordsAt path ("failed to read included task file " ++ path)
    ("failed to parse included task file " ++ path) none).after
      (.told 3 ("including tasks from " ++ path))

/-- The tasks of records of a source. The active files are the ones being included, this source
among them. -/
def expand (fs : FileSystem) (active : List String) (source : String) :
    List Record → Run (List Task)
  | [] => .done []
  | r :: rest =>
    match r.request source with
    | .error f => .fail f
    | .ok (.task t) => (expand fs active source rest).map (t :: ·)
    | .ok (.inclusion path) =>
      if _hactive : fs.nameOf path ∈ active then
        -- The chain of the error is closed by the name that comes again.
        .fail (.includeCycle (active ++ [fs.nameOf path]) (some source))
      else
        (recordsOf fs path).andThen fun records _hrecords =>
          (expand fs (active ++ [fs.nameOf path]) path records).andThen fun included _ =>
            (expand fs active source rest).map (included ++ ·)
termination_by records => (Chain.unvisited fs.names active, records.length)
decreasing_by
  · exact Prod.Lex.right _ (by simp)
  -- A file that is read has one of the names, and it is a new one. So fewer names are left.
  · obtain ⟨content, hread, _⟩ := FileSystem.read_of_recordsAt _hrecords
    exact Prod.Lex.left _ _ (Chain.unvisited_append_lt (fs.nameOf_mem_names hread) _hactive)
  · exact Prod.Lex.right _ (by simp)

/-- The tasks of records of a source, while some files are being included. -/
def resolve (fs : FileSystem) (records : List Record) (source : String)
    (active : List String := []) : Run (List Task) :=
  expand fs (active ++ [fs.nameOf source]) source records

/-- What is wrong with an item that is no mapping. Its parts are taken for keys; there is always
something wrong, at the latest that it has no fields. -/
def strayFault (item : Value) (source : String) : Fault :=
  let verdict : Except Fault Unit := do
    let keys ← item.parts.mapError .failure
    if let some f := keys.findSome? Value.keyFailure? then throw (.failure f)
    -- The parts have no values, but the checks ask for keys only.
    let r : Record := keys.map fun k => (k, .null)
    match r.inclusionKeys with
    | [] =>
      match r.moduleKeys with
      | [] => return ()
      | [module] => let _ ← (item.partAt module).mapError .failure
      | _ => let _ ← r.build source
    | [key] => let _ ← (item.partAt key).mapError .failure
    | _ => let _ ← r.inclusion? source
  match verdict with
  | .error f => f
  | .ok () =>
    .failure (.noAttribute ("'" ++ item.qualifiedTypeName ++ "' object has no attribute 'get'"))

/-- The tasks of the items of a value, which should be mappings. -/
def resolveValue (fs : FileSystem) (v : Value) (source : String) (active : List String := []) :
    Run (List Task) :=
  (Run.ofExcept (v.parts.mapError .failure)).andThen fun items _ =>
    let isMapping (item : Value) : Bool := item.entries?.isSome
    let records := (items.takeWhile isMapping).filterMap Value.entries?
    match items.find? fun item => !isMapping item with
    | none => resolve fs records source active
    -- The mappings in front of it are resolved first, and a fault in them is the one that is met.
    | some stray =>
      (resolve fs records source active).andThen fun _ _ => .fail (strayFault stray source)

/-- A record of some file. -/
def IsFileRecord (fs : FileSystem) (r : Record) : Prop :=
  ∃ file ∈ fs.files, ∃ headline name records,
    (Document.bytes file.2).records headline name = .ok records ∧ r ∈ records

theorem isFileRecord_of_recordsAt {fs : FileSystem} {path readHeadline parseHeadline : String}
    {file : Option String} {records : List Record}
    (h : (fs.recordsAt path readHeadline parseHeadline file).outcome = .ok records) {r : Record}
    (hr : r ∈ records) : IsFileRecord fs r := by
  obtain ⟨content, hread, hdecode⟩ := FileSystem.read_of_recordsAt h
  exact ⟨_, fs.mem_files hread, _, _, _, hdecode, hr⟩

/-- **Every task is built from a record,** one of those at hand or one of a file. -/
theorem mem_expand {fs : FileSystem} {active : List String} {source : String}
    {records : List Record} {tasks : List Task}
    (h : (expand fs active source records).outcome = .ok tasks) {t : Task} (ht : t ∈ tasks) :
    ∃ r, r.build t.source = .ok t ∧ (r ∈ records ∨ IsFileRecord fs r) := by
  -- Along the recursion of the pass. A task from inside a file is built from a record of a file.
  fun_induction expand fs active source records generalizing tasks with
  | case1 =>
    simp only [Run.done_outcome, Except.ok.injEq] at h
    simp [← h] at ht
  | case2 => simp at h
  | case3 active source r rest t' hreq ih =>
    obtain ⟨more, hmore, rfl⟩ := Run.map_outcome_eq_ok.1 h
    rcases List.mem_cons.1 ht with rfl | hmem
    · have hbuild := Record.build_of_request hreq
      exact ⟨r, Record.source_of_build hbuild ▸ hbuild, .inl List.mem_cons_self⟩
    · obtain ⟨r', hr', hor⟩ := ih hmore hmem
      exact ⟨r', hr', hor.imp_left (List.mem_cons_of_mem _)⟩
  | case4 => simp at h
  | case5 active source r rest path hreq hactive ihfile ihrest =>
    obtain ⟨records, hrecords, h⟩ := Run.andThen_outcome_eq_ok.1 h
    obtain ⟨included, hincluded, h⟩ := Run.andThen_outcome_eq_ok.1 h
    obtain ⟨more, hmore, rfl⟩ := Run.map_outcome_eq_ok.1 h
    rcases List.mem_append.1 ht with hmem | hmem
    · obtain ⟨r', hr', hor⟩ := ihfile records hrecords hincluded hmem
      refine ⟨r', hr', .inr ?_⟩
      rcases hor with hr | hr
      · exact isFileRecord_of_recordsAt hrecords hr
      · exact hr
    · obtain ⟨r', hr', hor⟩ := ihrest hmore hmem
      exact ⟨r', hr', hor.imp_left (List.mem_cons_of_mem _)⟩

end Inclusion

end Playbook
