import Playbook.Display
import Playbook.Proofs.Dependence

/-!
# What a listener hears

A resolution tells what it is about to do, and each message is written or held back at that moment,
by how much the listener wants to hear. A run forgets the listener: it leaves a trace of all
messages, from which those that are heard are chosen afterwards. This module puts the listener back
and says that he makes no difference.

* `Hearing` — a run as its listener meets it: the messages that have been written, and the outcome.
* `Inclusion.expandFor`, `Role.inlineFor`, `Resolution.loadFor` — resolution for a listener, in
  which the listener is asked at each message (`Hearing.tell`).
* `Display.hearing` — what a listener hears of a run. Resolution for a listener is what he hears of
  resolution (`Resolution.loadFor_eq`), in its outcome, its messages and the text that is written.
* `Resolution.load_nested` — two listeners meet the same outcome, and the one who wants to hear less
  hears a part of what the other one hears, by the levels of the messages.

So the two runs that are compared are kept in step by the one run of which both are hearings. They
are in step up to a failure as well, since a failed run keeps the trace up to its failure.
-/

namespace Playbook

/-! ### Hearings -/

/-- **A run as its listener meets it:** the messages that have been written, with their levels, and
the outcome. -/
structure Hearing (α : Type) where
  /-- The messages that have been written, in order. -/
  messages : List (Nat × String)
  /-- The outcome. -/
  outcome : Except Fault α

namespace Hearing

variable {α β : Type}

/-- An outcome of which nothing is told. -/
def ofOutcome (r : Except Fault α) : Hearing α := ⟨[], r⟩

/-- A message before something else: it is written if the listener's verbosity reaches its level. -/
def tell (d : Display) (level : Nat) (text : String) (x : Hearing α) : Hearing α :=
  if level ≤ d.verbosity then ⟨(level, text) :: x.messages, x.outcome⟩ else x

/-- One hearing after another that has succeeded. -/
def andThen (x : Hearing α) (f : (a : α) → x.outcome = .ok a → Hearing β) : Hearing β :=
  match h : x.outcome with
  | .error e => ⟨x.messages, .error e⟩
  | .ok a => ⟨x.messages ++ (f a h).messages, (f a h).outcome⟩

/-- Change the result of a hearing. -/
def map (f : α → β) (x : Hearing α) : Hearing β := ⟨x.messages, x.outcome.map f⟩

/-- Change the fault of a hearing. -/
def mapFault (f : Fault → Fault) (x : Hearing α) : Hearing α := ⟨x.messages, x.outcome.mapError f⟩

@[simp] theorem tell_outcome (d : Display) (level : Nat) (text : String) (x : Hearing α) :
    (tell d level text x).outcome = x.outcome := by
  rw [tell]
  split <;> rfl

/-- Hearings in sequence are the same if their parts are. -/
theorem andThen_congr {x y : Hearing α} {f : (a : α) → x.outcome = .ok a → Hearing β}
    {g : (a : α) → y.outcome = .ok a → Hearing β} (hxy : x = y)
    (h : ∀ a hx hy, f a hx = g a hy) : x.andThen f = y.andThen g := by
  subst hxy
  have : f = g := by
    funext a ha
    exact h a ha ha
  rw [this]

end Hearing

/-! ### Resolution for a listener -/

namespace Inclusion

/-- The records of an included file, for a listener. The file is announced before it is opened. -/
def recordsFor (d : Display) (fs : FileSystem) (path : String) : Hearing (List Record) :=
  .tell d 3 ("including tasks from " ++ path) <|
    .ofOutcome (fs.recordsAt path ("failed to read included task file " ++ path)
      ("failed to parse included task file " ++ path) none).outcome

/-- Whether an included file has records does not depend on the listener. -/
theorem recordsFor_outcome (d : Display) (fs : FileSystem) (path : String) :
    (recordsFor d fs path).outcome = (recordsOf fs path).outcome :=
  Hearing.tell_outcome ..

/-- The tasks of records of a source, for a listener. -/
def expandFor (d : Display) (fs : FileSystem) (active : List String) (source : String) :
    List Record → Hearing (List Task)
  | [] => .ofOutcome (.ok [])
  | r :: rest =>
    match r.request source with
    | .error f => .ofOutcome (.error f)
    | .ok (.task t) => (expandFor d fs active source rest).map (t :: ·)
    | .ok (.inclusion path) =>
      if _hactive : fs.nameOf path ∈ active then
        .ofOutcome (.error (.includeCycle (active ++ [fs.nameOf path]) (some source)))
      else
        (recordsFor d fs path).andThen fun records _hrecords =>
          (expandFor d fs (active ++ [fs.nameOf path]) path records).andThen fun included _ =>
            (expandFor d fs active source rest).map (included ++ ·)
termination_by records => (Chain.unvisited fs.names active, records.length)
decreasing_by
  · exact Prod.Lex.right _ (by simp)
  -- An inclusion ends as the first pass does: a file that is opened for a listener has records
  -- whoever listens.
  · rw [recordsFor_outcome] at _hrecords
    obtain ⟨content, hread, _⟩ := FileSystem.read_of_recordsAt _hrecords
    exact Prod.Lex.left _ _ (Chain.unvisited_append_lt (fs.nameOf_mem_names hread) _hactive)
  · exact Prod.Lex.right _ (by simp)

/-- The tasks of records of a source, for a listener, while no file is being included. -/
def resolveFor (d : Display) (fs : FileSystem) (records : List Record) (source : String) :
    Hearing (List Task) :=
  expandFor d fs [fs.nameOf source] source records

end Inclusion

namespace Role

/-- The tasks of a role, for a listener. The role is announced before its file is opened. -/
def resolveFor (d : Display) (fs : FileSystem) (roles name : String) : Hearing (List Task) :=
  let path := tasksPath roles name
  (Hearing.tell d 3 ("loading role " ++ name ++ " from " ++ path) <|
    .ofOutcome (fs.recordsAt path "failed to read role tasks" "failed to parse tasks YAML"
      (some path)).outcome).andThen fun records _ => Inclusion.resolveFor d fs records path

end Role

/-! ### What is heard of a run -/

/-- What a listener hears of a step of a trace: a message whose level his verbosity reaches. -/
def Display.catches (d : Display) : Event → Option (Nat × String)
  | .opened _ => none
  | .told level text => if level ≤ d.verbosity then some (level, text) else none

/-- **What a listener hears of a run.** -/
def Display.hearing {α : Type} (d : Display) (x : Run α) : Hearing α :=
  ⟨x.events.filterMap d.catches, x.outcome⟩

section Hearings

variable {α β : Type} (d : Display)

@[simp] theorem Display.hearing_outcome (x : Run α) : (d.hearing x).outcome = x.outcome := rfl

@[simp] theorem Display.hearing_done (a : α) : d.hearing (.done a) = .ofOutcome (.ok a) := rfl

@[simp] theorem Display.hearing_fail (f : Fault) :
    d.hearing (.fail f : Run α) = .ofOutcome (.error f) := rfl

@[simp] theorem Display.hearing_map (f : α → β) (x : Run α) :
    d.hearing (x.map f) = (d.hearing x).map f := rfl

@[simp] theorem Display.hearing_mapFault (f : Fault → Fault) (x : Run α) :
    d.hearing (x.mapFault f) = (d.hearing x).mapFault f := rfl

/-- A message in front of a run is heard in front of it, or not at all. -/
theorem Display.hearing_after_told (level : Nat) (text : String) (x : Run α) :
    d.hearing (x.after (.told level text)) = .tell d level text (d.hearing x) := by
  -- By whether the listener wants to hear the level.
  rw [Hearing.tell]
  by_cases h : (level : Int) ≤ d.verbosity
  · simp [hearing, catches, h]
  · simp [hearing, catches, h]

/-- **One run after another** is heard as one after another. -/
theorem Display.hearing_andThen (x : Run α) (f : (a : α) → x.outcome = .ok a → Run β) :
    d.hearing (x.andThen f) = (d.hearing x).andThen fun a ha => d.hearing (f a ha) := by
  obtain ⟨xevents, xoutcome⟩ := x
  -- After a failure nothing is heard of what would come next, since it does not run.
  cases xoutcome with
  | error e => rfl
  | ok a => simp [hearing, Run.andThen, Hearing.andThen]

end Hearings

/-! ### The first pass -/

namespace Inclusion

variable {d : Display} {fs : FileSystem}

theorem recordsFor_eq {path : String} : recordsFor d fs path = d.hearing (recordsOf fs path) := by
  rw [recordsOf, Display.hearing_after_told]
  rfl

/-- **The first pass for a listener** is what he hears of the first pass. -/
theorem expandFor_eq {active : List String} {source : String} {records : List Record} :
    expandFor d fs active source records = d.hearing (expand fs active source records) := by
  -- Along the recursion of the first pass, which both have: a case for each way to go on with a
  -- record.
  induction active, source, records using expand.induct fs with
  | case1 active source => rw [expandFor, expand_nil, Display.hearing_done]
  | case2 active source r rest f hrequest =>
    rw [expandFor, expand_cons_fault hrequest, hrequest, Display.hearing_fail]
  | case3 active source r rest t hrequest ih =>
    rw [expandFor, expand_cons_task hrequest, hrequest, Display.hearing_map, ← ih]
  | case4 active source r rest path hrequest hactive =>
    rw [expandFor, expand_cons_cycle hrequest hactive, hrequest, Display.hearing_fail]
    exact dif_pos hactive
  | case5 active source r rest path hrequest hnew ihfile ihrest =>
    rw [expandFor, expand_cons_inclusion hrequest hnew, hrequest, Display.hearing_andThen]
    refine (dif_neg hnew).trans (Hearing.andThen_congr recordsFor_eq fun inner _ hinner => ?_)
    -- The messages of the file, of what it includes, and of the records after it.
    rw [Display.hearing_andThen]
    refine Hearing.andThen_congr (ihfile inner hinner) fun included _ _ => ?_
    rw [Display.hearing_map, ← ihrest]

theorem resolveFor_eq {records : List Record} {source : String} :
    resolveFor d fs records source = d.hearing (resolve fs records source) :=
  expandFor_eq

end Inclusion

/-! ### The second pass -/

namespace Role

variable {d : Display} {fs : FileSystem} {roles : String}

theorem resolveFor_eq {name : String} :
    resolveFor d fs roles name = d.hearing (resolve fs roles name) := by
  rw [resolveFor, resolve, Display.hearing_andThen]
  refine Hearing.andThen_congr ?_ fun records _ _ => Inclusion.resolveFor_eq
  rw [Display.hearing_after_told]
  rfl

/-- What a role resolves to does not depend on the listener. -/
theorem resolveFor_outcome {name : String} :
    (resolveFor d fs roles name).outcome = (resolve fs roles name).outcome := by
  rw [resolveFor_eq, Display.hearing_outcome]

/-- The tasks of a list with the tasks of roles in place of their inclusions, for a listener, while
some roles are being included. The names are those of all roles that may be met. -/
def inlineWithinFor (d : Display) (fs : FileSystem) (roles : String) (names active : List String) :
    (tasks : List Task) → (∀ t ∈ tasks, ∀ name, t.roleName? = some name → name ∈ names) →
      (∀ name ∈ vocabulary fs, name ∈ names) → Hearing (List Task)
  | [], _, _ => .ofOutcome (.ok [])
  | t :: rest, hnames, hvocabulary =>
    have hrest := fun u hu => hnames u (List.mem_cons_of_mem _ hu)
    match _hrole : t.roleName? with
    | none => (inlineWithinFor d fs roles names active rest hrest hvocabulary).map (t :: ·)
    | some name =>
      if name = "" then .ofOutcome (.error (nameless t))
      else if _hactive : name ∈ active then
        .ofOutcome (.error (.includeCycle (active ++ [name]) (some t.source)))
      else
        (((resolveFor d fs roles name).andThen fun tasks htasks =>
          -- What the role resolves to is the same without the listener, so its names are among all
          -- that may be met.
          inlineWithinFor d fs roles names (active ++ [name]) tasks
            (fun _ hu _ hname => hvocabulary _
              (mem_vocabulary (resolveFor_outcome.symm.trans htasks) hu hname))
            hvocabulary).mapFault (wrap name)).andThen fun included _ =>
              (inlineWithinFor d fs roles names active rest hrest hvocabulary).map (included ++ ·)
termination_by tasks => (Chain.unvisited names active, tasks.length)
decreasing_by
  · exact Prod.Lex.right _ (by simp)
  · exact Prod.Lex.left _ _
      (Chain.unvisited_append_lt (hnames t List.mem_cons_self _ _hrole) _hactive)
  · exact Prod.Lex.right _ (by simp)

/-- The roles that tasks include are among all that may be met. -/
theorem mem_names_of_mem (fs : FileSystem) (tasks : List Task) :
    ∀ t ∈ tasks, ∀ name, t.roleName? = some name → name ∈ namesIn tasks ++ vocabulary fs :=
  fun t ht _ h => List.mem_append_left _ (List.mem_filterMap.2 ⟨t, ht, h⟩)

/-- The names in the files are among all that may be met. -/
theorem mem_names_of_mem_vocabulary (fs : FileSystem) (tasks : List Task) :
    ∀ name ∈ vocabulary fs, name ∈ namesIn tasks ++ vocabulary fs :=
  fun _ h => List.mem_append_right _ h

/-- The tasks of a list with the tasks of roles in place of their inclusions, for a listener. -/
def inlineFor (d : Display) (fs : FileSystem) (roles : String) (tasks : List Task) :
    Hearing (List Task) :=
  inlineWithinFor d fs roles (namesIn tasks ++ vocabulary fs) [] tasks (mem_names_of_mem fs tasks)
    (mem_names_of_mem_vocabulary fs tasks)

/-- **The second pass for a listener** is what he hears of the second pass. -/
theorem inlineWithinFor_eq {names active : List String} {tasks : List Task} (h h') :
    inlineWithinFor d fs roles names active tasks h h' =
      d.hearing (inline fs roles tasks active) := by
  -- Along the recursion for a listener, which has a branch for each equation of the second pass.
  fun_induction inlineWithinFor d fs roles names active tasks h h' with
  | case1 => rw [inline_nil, Display.hearing_done]
  | case2 active _ t rest _ _ _ hrole _ ih =>
    rw [inline_cons_none hrole, Display.hearing_map, ih]
  | case3 active _ t rest _ _ _ _ hrole =>
    rw [inline_cons_some hrole, if_pos rfl, Display.hearing_fail]
  | case4 active _ t rest _ _ _ name hrole hname hactive =>
    rw [inline_cons_some hrole, if_neg hname, if_pos hactive, Display.hearing_fail]
  | case5 active _ t rest _ _ _ name hrole hname hnew _ ihrole ihrest =>
    rw [inline_cons_some hrole, if_neg hname, if_neg hnew, Display.hearing_andThen,
      Display.hearing_mapFault, Display.hearing_andThen]
    -- A fault is wrapped with the name of the role, but messages are not.
    have hinner := Hearing.andThen_congr resolveFor_eq fun tasks htasks _ => ihrole tasks htasks
    refine Hearing.andThen_congr (congrArg (Hearing.mapFault (wrap name)) hinner) ?_
    intro included _ _
    rw [Display.hearing_map, ihrest]

theorem inlineFor_eq {tasks : List Task} :
    inlineFor d fs roles tasks = d.hearing (inline fs roles tasks) :=
  inlineWithinFor_eq ..

end Role

/-! ### Plays -/

namespace Resolution

/-- The play of a record, for a listener. The play is announced before anything is resolved. -/
def playFor (d : Display) (fs : FileSystem) (path roles : String) (r : Record) : Hearing Play :=
  let name := r.text (.str "name")
  .tell d 2 ("resolving play " ++ Literal.text name) <|
    ((Inclusion.resolveFor d fs (taskRecords r) path).andThen fun tasks _ =>
      Role.inlineFor d fs roles tasks).map fun tasks =>
        { name := name, hosts := r.text (.str "hosts"), tasks := tasks }

/-- The plays of records, for a listener. -/
def playsFor (d : Display) (fs : FileSystem) (path roles : String) :
    List Record → Hearing (List Play)
  | [] => .ofOutcome (.ok [])
  | r :: rest =>
    (playFor d fs path roles r).andThen fun p _ => (playsFor d fs path roles rest).map (p :: ·)

/-- The plays of a playbook file, for a listener. Nothing is told before the file has been read. -/
def loadFor (d : Display) (fs : FileSystem) (path roles : String) : Hearing (List Play) :=
  (Hearing.ofOutcome (fs.recordsAt path "failed to read playbook" "failed to parse YAML"
    (some path)).outcome).andThen fun records _ => playsFor d fs path roles records

variable {d e : Display} {fs : FileSystem} {path roles : String}

theorem playFor_eq {r : Record} : playFor d fs path roles r = d.hearing (play fs path roles r) := by
  rw [playFor, play, Display.hearing_after_told, Display.hearing_map, Display.hearing_andThen]
  have hfirst : Inclusion.resolveFor d fs (taskRecords r) path =
      d.hearing (Inclusion.resolve fs (taskRecords r) path) := Inclusion.resolveFor_eq
  have hsecond : ∀ tasks, Role.inlineFor d fs roles tasks =
      d.hearing (Role.inline fs roles tasks) := fun _ => Role.inlineFor_eq
  rw [Hearing.andThen_congr hfirst fun tasks _ _ => hsecond tasks]

theorem playsFor_eq {records : List Record} :
    playsFor d fs path roles records = d.hearing (plays fs path roles records) := by
  induction records with
  | nil => rw [playsFor, plays, Display.hearing_done]
  | cons r rest ih =>
    rw [playsFor, plays, Display.hearing_andThen]
    refine Hearing.andThen_congr playFor_eq fun p _ _ => ?_
    rw [Display.hearing_map, ih]

/-- **Loading for a listener** is what he hears of loading. -/
theorem loadFor_eq : loadFor d fs path roles = d.hearing (load fs path roles) := by
  rw [loadFor, load, Display.hearing_andThen]
  exact Hearing.andThen_congr rfl fun records _ _ => playsFor_eq

end Resolution

/-! ### What there is to hear -/

/-- The text that a listener is shown for messages. -/
def Display.written (d : Display) (messages : List (Nat × String)) : String :=
  String.join (messages.map fun m => d.line (.told m.1 m.2))

/-- What a listener does not catch leaves no text. -/
theorem Display.line_of_catches_eq_none {d : Display} {event : Event}
    (h : d.catches event = none) : d.line event = "" := by
  cases event with
  | opened path => rfl
  | told level text =>
    have hlow : ¬(level : Int) ≤ d.verbosity := by
      intro hle
      rw [catches, if_pos hle] at h
      cases h
    rw [line]
    -- Messages of the third level are colored. Otherwise all levels are written alike.
    split
    · next hthree =>
      subst hthree
      exact if_neg hlow
    · rw [tell, if_neg hlow]

/-- What a listener catches is the message as it was told. -/
theorem Display.eq_told_of_catches {d : Display} {event : Event} {m : Nat × String}
    (h : d.catches event = some m) : event = .told m.1 m.2 ∧ (m.1 : Int) ≤ d.verbosity := by
  unfold catches at h
  split at h
  · cases h
  · split at h
    · next hle =>
      cases h
      exact ⟨rfl, hle⟩
    · cases h

/-- **The log of a run** is the text of what is heard of it. -/
theorem Display.written_hearing {α : Type} (d : Display) (x : Run α) :
    d.written (d.hearing x).messages = d.log x := by
  rw [written, hearing, log]
  generalize x.events = events
  -- One step after another, by whether it is caught.
  induction events with
  | nil => rfl
  | cons event rest ih =>
    rw [List.map_cons, String.join_cons, ← ih]
    cases hcatch : d.catches event with
    | none =>
      rw [List.filterMap_cons_none hcatch, line_of_catches_eq_none hcatch, String.empty_append]
    | some m =>
      rw [List.filterMap_cons_some hcatch, List.map_cons, String.join_cons,
        ← (eq_told_of_catches hcatch).1]

/-- **Who wants to hear less hears a part,** by the levels of the messages. -/
theorem Display.messages_hearing {α : Type} {d e : Display} (h : d.verbosity ≤ e.verbosity)
    (x : Run α) :
    (d.hearing x).messages =
      (e.hearing x).messages.filter fun m => decide ((m.1 : Int) ≤ d.verbosity) := by
  rw [hearing, hearing, List.filter_filterMap]
  refine congrArg (List.filterMap · x.events) (funext fun event => ?_)
  cases event with
  | opened path => rfl
  | told level text =>
    by_cases hd : (level : Int) ≤ d.verbosity
    -- Whom the first listener's verbosity is enough for, the second one's is as well.
    · have he : (level : Int) ≤ e.verbosity := Int.le_trans hd h
      simp [catches, hd, he, Option.filter]
    · by_cases he : (level : Int) ≤ e.verbosity <;> simp [catches, hd, he, Option.filter]

/-! ### Messages -/

/-- **The messages of a resolution:** plays are announced at the second level, included files and
roles at the third. -/
inductive Resolution.IsMessage (roles : String) : Nat × String → Prop
  /-- A play is about to be resolved. -/
  | play (name : String) : IsMessage roles (2, "resolving play " ++ Literal.text name)
  /-- A file is about to be opened. -/
  | reading (a : Announcement) : IsMessage roles (3, a.text roles)

/-- All messages of a run are of some kind. -/
def Run.Tells {α : Type} (kind : Nat × String → Prop) (x : Run α) : Prop :=
  ∀ level text, .told level text ∈ x.events → kind (level, text)

section Tells

variable {roles : String}

open Resolution (IsMessage)

/-- Whoever announces plays and files, and nothing else, tells messages of a resolution. -/
theorem Resolution.IsMessage.traceRule :
    TraceRule roles fun events => ∀ level text, .told level text ∈ events →
      IsMessage roles (level, text) where
  nil level text hmem := by cases hmem
  append hevents hevents' level text hmem := by
    obtain hmem | hmem := List.mem_append.1 hmem
    · exact hevents level text hmem
    · exact hevents' level text hmem
  play name level text hmem := by
    cases List.mem_singleton.1 hmem
    exact .play name
  read a level text hmem := by
    obtain ⟨rfl, rfl⟩ : level = 3 ∧ text = a.text roles := by simpa using hmem
    exact .reading a

namespace Resolution

variable {fs : FileSystem} {path : String}

theorem tells_load : (load fs path roles).Tells (IsMessage roles) := by
  rw [load]
  -- A playbook file is opened without a word.
  refine IsMessage.traceRule.andThen ?_ fun _ _ => IsMessage.traceRule.plays
  intro _ _ hmem
  simp at hmem

end Resolution

end Tells

/-! ### Two listeners -/

namespace Resolution

variable {fs : FileSystem} {path roles : String} {d e : Display}

/-- **The listener makes no difference.** Let a playbook be loaded for two listeners, the first of
whom does not want to hear more than the second. Both meet the same outcome, which is that of
loading, and the first hears exactly those messages of the second whose levels he wants to hear, in
the same order, whether loading succeeds or ends with a fault. What is heard are announcements of
plays at the second level, and of included files and roles at the third, and what is written for a
listener is the log of loading. -/
theorem load_nested (fs : FileSystem) (path roles : String) (h : d.verbosity ≤ e.verbosity) :
    (loadFor d fs path roles).outcome = (loadFor e fs path roles).outcome ∧
      (loadFor d fs path roles).messages =
        (loadFor e fs path roles).messages.filter (fun m => decide ((m.1 : Int) ≤ d.verbosity)) ∧
      (∀ m ∈ (loadFor e fs path roles).messages, IsMessage roles m) ∧
      (loadFor d fs path roles).outcome = (load fs path roles).outcome ∧
      d.written (loadFor d fs path roles).messages = d.log (load fs path roles) := by
  -- Both are hearings of the one run of loading.
  rw [loadFor_eq, loadFor_eq]
  refine ⟨rfl, d.messages_hearing h _, fun m hm => ?_, rfl, d.written_hearing _⟩
  obtain ⟨event, hevent, hcatch⟩ := List.mem_filterMap.1 hm
  obtain ⟨rfl, -⟩ := Display.eq_told_of_catches hcatch
  exact tells_load m.1 m.2 hevent

/-- Loading a playbook whose first file is missing tells of the play and of the file. -/
theorem load_lostFiles : ∃ name f, load lostFiles "site" "roles" =
    ⟨[.opened "site", .told 2 ("resolving play " ++ Literal.text name),
      .told 3 "including tasks from a", .opened "a"], .error f⟩ := by
  obtain ⟨r, u, v, role, hsite, htasks, hu, -, -⟩ := webSite_records
  have hrecords : (lostFiles.recordsAt "site" "failed to read playbook" "failed to parse YAML"
      (some "site")).outcome = .ok [r] := FileSystem.recordsAt_eq_ok.2 ⟨webSite, rfl, hsite⟩
  have hnew : lostFiles.nameOf "a" ∉ [lostFiles.nameOf "site"] := by decide +kernel
  refine ⟨r.text (.str "name"), .resolution .taskFile "failed to read included task file a" none
    (some (.system (FileSystem.notFound "a"))), ?_⟩
  rw [load, Run.andThen_of_ok hrecords, plays, play, htasks, Inclusion.resolve, List.nil_append,
    Inclusion.expand_cons_inclusion hu hnew]
  rfl

/-- Who wants to hear the second level hears of the play and not of the missing file; the fault is
the same. -/
theorem load_nested_lostFiles : ∃ name f, (2 : Int) ≤ 3 ∧
    (loadFor ⟨3, false⟩ lostFiles "site" "roles").outcome = .error f ∧
    (loadFor ⟨3, false⟩ lostFiles "site" "roles").messages =
      [(2, "resolving play " ++ Literal.text name), (3, "including tasks from a")] ∧
    (loadFor ⟨2, false⟩ lostFiles "site" "roles").outcome = .error f ∧
    (loadFor ⟨2, false⟩ lostFiles "site" "roles").messages =
      [(2, "resolving play " ++ Literal.text name)] := by
  obtain ⟨name, f, hload⟩ := load_lostFiles
  have hthree : loadFor ⟨3, false⟩ lostFiles "site" "roles" =
      ⟨[(2, "resolving play " ++ Literal.text name), (3, "including tasks from a")], .error f⟩ := by
    rw [loadFor_eq, hload]
    rfl
  have hle : (⟨2, false⟩ : Display).verbosity ≤ (⟨3, false⟩ : Display).verbosity := by decide
  obtain ⟨houtcome, hmessages, -⟩ := load_nested lostFiles "site" "roles" hle
  rw [hthree] at houtcome hmessages
  exact ⟨name, f, hle, by rw [hthree], by rw [hthree], houtcome, hmessages⟩

end Resolution

end Playbook
