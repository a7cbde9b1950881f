import Playbook.Proofs.Attribution

/-!
# What resolution depends on

A resolution learns of a file system only what opening files tells it. Which file is opened next
depends on what those before it held, so the files that matter are the ones in the trace.

* `FileSystem.AgreesOn` — another file system agrees on a trace: it has the same working directory
  and gives the same answer to every path that the trace opens.
* `Inclusion.expand_congr`, `Role.inline_congr`, `Resolution.plays_congr` — where another file
  system agrees on the trace of a run, the run is the same there, in its outcome and in its trace.
* `TraceRule` — what holds of a trace because it holds of its parts; resolution is gone through once
  for all that is said of traces in this way (`TraceRule.plays`).
* `Announcement`, `Accounted` — a trace is accounted for: its messages of the third level announce
  the files it opens, one by one and each just before it is opened.
* `Resolution.load_determined` — loading a playbook depends only on the files it opens, and all but
  the playbook are announced.

The first half compares two runs and needs no success: a run that fails has opened the files up to
its failure, and agreement on these is enough (`FileSystem.AgreesOn.of_andThen`).
-/

namespace Playbook

/-! ### Agreement on a trace -/

/-- **Another file system agrees on a trace:** paths mean the same files, and every path that the
trace opens is answered in the same way. -/
structure FileSystem.AgreesOn (fs fs' : FileSystem) (events : List Event) : Prop where
  /-- The working directories are the same. -/
  directory : fs'.directory = fs.directory
  /-- The answers are the same. -/
  read : ∀ path, .opened path ∈ events → fs'.read path = fs.read path

namespace FileSystem.AgreesOn

variable {fs fs' : FileSystem}

/-- Normal names are the same. -/
theorem nameOf {events : List Event} (h : fs.AgreesOn fs' events) (path : String) :
    fs'.nameOf path = fs.nameOf path := by
  rw [FileSystem.nameOf, FileSystem.nameOf, h.directory]

theorem mono {events events' : List Event} (h : fs.AgreesOn fs' events') (hsub : events ⊆ events') :
    fs.AgreesOn fs' events :=
  ⟨h.directory, fun path hpath => h.read path (hsub hpath)⟩

/-- **Agreement on a sequence of runs** is agreement on each of them that takes place. -/
theorem of_andThen {α β : Type} {x : Run α} {f : (a : α) → x.outcome = .ok a → Run β}
    (h : fs.AgreesOn fs' (x.andThen f).events) :
    fs.AgreesOn fs' x.events ∧ ∀ a ha, fs.AgreesOn fs' (f a ha).events := by
  -- If the first run fails there is no other one, and the second part is void.
  obtain ⟨e, hx⟩ | ⟨a, hx⟩ := x.outcome_cases
  · rw [Run.andThen_of_error hx] at h
    refine ⟨h, fun a ha => ?_⟩
    cases hx.symm.trans ha
  · rw [Run.andThen_of_ok hx] at h
    refine ⟨h.mono (List.subset_append_left _ _), fun b hb => ?_⟩
    obtain rfl : a = b := Except.ok.inj (hx.symm.trans hb)
    exact h.mono (List.subset_append_right _ _)

/-- A file that is opened is read in the same way. -/
theorem recordsAt {path : String} (h : fs.AgreesOn fs' [.opened path])
    (readHeadline parseHeadline : String) (file : Option String) :
    fs'.recordsAt path readHeadline parseHeadline file =
      fs.recordsAt path readHeadline parseHeadline file := by
  rw [FileSystem.recordsAt, FileSystem.recordsAt, h.read path (List.mem_singleton_self _)]

end FileSystem.AgreesOn

/-! ### The two passes -/

namespace Inclusion

variable {fs fs' : FileSystem}

theorem recordsOf_congr {path : String} (h : fs.AgreesOn fs' (recordsOf fs path).events) :
    recordsOf fs' path = recordsOf fs path := by
  have hopened : fs.AgreesOn fs' [.opened path] := h.mono (List.subset_cons_self _ _)
  rw [recordsOf, recordsOf, hopened.recordsAt]

/-- **The first pass** is the same where its trace is agreed on. -/
theorem expand_congr {active : List String} {source : String} {records : List Record}
    (h : fs.AgreesOn fs' (expand fs active source records).events) :
    expand fs' active source records = expand fs active source records := by
  -- Along the recursion in the one file system. Normal names are the same in both, so both take the
  -- same branch.
  induction active, source, records using expand.induct fs with
  | case1 active source => rw [expand_nil, expand_nil]
  | case2 active source r rest f hrequest =>
    rw [expand_cons_fault hrequest, expand_cons_fault hrequest]
  | case3 active source r rest t hrequest ih =>
    rw [expand_cons_task hrequest] at h
    rw [expand_cons_task hrequest, expand_cons_task hrequest, ih h]
  | case4 active source r rest path hrequest hactive =>
    have hactive' : fs'.nameOf path ∈ active := by rwa [h.nameOf]
    rw [expand_cons_cycle hrequest hactive, expand_cons_cycle hrequest hactive', h.nameOf]
  | case5 active source r rest path hrequest hnew ihfile ihrest =>
    have hnew' : fs'.nameOf path ∉ active := by rwa [h.nameOf]
    have hname := h.nameOf path
    rw [expand_cons_inclusion hrequest hnew] at h ⊢
    -- what is done with the file, and after it, is part of the trace only if it takes place
    obtain ⟨hfile, hinside⟩ := h.of_andThen
    rw [expand_cons_inclusion hrequest hnew', recordsOf_congr hfile, hname]
    refine Run.andThen_congr fun inner hinner => ?_
    obtain ⟨hincluded, hafter⟩ := (hinside inner hinner).of_andThen
    rw [ihfile inner hinner hincluded]
    refine Run.andThen_congr fun included hdone => ?_
    rw [ihrest (hafter included hdone)]

theorem resolve_congr {records : List Record} {source : String} {active : List String}
    (h : fs.AgreesOn fs' (resolve fs records source active).events) :
    resolve fs' records source active = resolve fs records source active := by
  have hname := h.nameOf source
  rw [resolve] at h ⊢
  rw [hname, expand_congr h, resolve]

end Inclusion

namespace Role

variable {fs fs' : FileSystem} {roles : String}

theorem resolve_congr {name : String} (h : fs.AgreesOn fs' (resolve fs roles name).events) :
    resolve fs' roles name = resolve fs roles name := by
  rw [resolve] at h ⊢
  -- A role opens its file before anything else.
  obtain ⟨hfile, hinside⟩ := h.of_andThen
  have hopened : fs.AgreesOn fs' [.opened (tasksPath roles name)] :=
    hfile.mono (List.subset_cons_self _ _)
  rw [resolve, hopened.recordsAt]
  exact Run.andThen_congr fun records hrecords =>
    Inclusion.resolve_congr (hinside records hrecords)

/-- **The second pass** is the same where its trace is agreed on. -/
theorem inline_congr {active : List String} {tasks : List Task}
    (h : fs.AgreesOn fs' (inline fs roles tasks active).events) :
    inline fs' roles tasks active = inline fs roles tasks active := by
  -- Along the recursion, as for the first pass. Names of roles do not depend on files.
  induction active, tasks using inline_induction fs roles with
  | nil active => rw [inline_nil, inline_nil]
  | other active t rest hrole ih =>
    rw [inline_cons_none hrole] at h
    rw [inline_cons_none hrole, inline_cons_none hrole, ih h]
  | nameless active t rest hrole =>
    rw [inline_cons_some hrole, inline_cons_some hrole, if_pos rfl, if_pos rfl]
  | cycle active t rest name hrole hname hactive =>
    rw [inline_cons_some hrole, inline_cons_some hrole, if_neg hname, if_neg hname, if_pos hactive,
      if_pos hactive]
  | role active t rest name hrole hname hnew ihrole ihrest =>
    rw [inline_cons_some hrole, if_neg hname, if_neg hnew] at h ⊢
    obtain ⟨hinside, hafter⟩ := h.of_andThen
    obtain ⟨hresolve, htasks⟩ := FileSystem.AgreesOn.of_andThen hinside
    have hinner := Run.andThen_congr fun inner hinner => ihrole inner hinner (htasks inner hinner)
    rw [inline_cons_some hrole, if_neg hname, if_neg hnew, resolve_congr hresolve, hinner]
    refine Run.andThen_congr fun included hdone => ?_
    rw [ihrest (hafter included hdone)]

end Role

namespace Resolution

variable {fs fs' : FileSystem} {path roles : String}

theorem play_congr {r : Record} (h : fs.AgreesOn fs' (play fs path roles r).events) :
    play fs' path roles r = play fs path roles r := by
  -- The trace of a play is an announcement and then that of the two passes.
  have hpasses : fs.AgreesOn fs' ((Inclusion.resolve fs (taskRecords r) path).andThen
      fun tasks _ => Role.inline fs roles tasks).events := h.mono (List.subset_cons_self _ _)
  obtain ⟨hfirst, hsecond⟩ := hpasses.of_andThen
  have hinline := Run.andThen_congr fun tasks htasks => Role.inline_congr (hsecond tasks htasks)
  rw [play, play, Inclusion.resolve_congr hfirst, hinline]

/-- **Plays** are the same where their trace is agreed on. -/
theorem plays_congr {records : List Record}
    (h : fs.AgreesOn fs' (plays fs path roles records).events) :
    plays fs' path roles records = plays fs path roles records := by
  induction records with
  | nil => rw [plays, plays]
  | cons r rest ih =>
    rw [plays] at h ⊢
    obtain ⟨hplay, hrest⟩ := h.of_andThen
    rw [plays, play_congr hplay]
    refine Run.andThen_congr fun p hp => ?_
    rw [ih (hrest p hp)]

theorem load_congr (h : fs.AgreesOn fs' (load fs path roles).events) :
    load fs' path roles = load fs path roles := by
  rw [load] at h ⊢
  obtain ⟨hfile, hinside⟩ := h.of_andThen
  rw [load, hfile.recordsAt]
  exact Run.andThen_congr fun records hrecords => plays_congr (hinside records hrecords)

end Resolution

/-! ### Announcements -/

/-- What a message of the third level announces: a file that is about to be opened. -/
inductive Announcement where
  /-- A file that is included. -/
  | inclusion (path : String)
  /-- The task file of a role. -/
  | role (name : String)

namespace Announcement

/-- The path of the file that is announced. -/
def path (roles : String) : Announcement → String
  | inclusion path => path
  | role name => Role.tasksPath roles name

/-- The text of the message. -/
def text (roles : String) : Announcement → String
  | inclusion path => "including tasks from " ++ path
  | role name => "loading role " ++ name ++ " from " ++ Role.tasksPath roles name

end Announcement

/-- **What holds of a trace because it holds of its parts:** of the announcement of a play, and of a
file that is announced and opened. -/
structure TraceRule (roles : String) (P : List Event → Prop) : Prop where
  /-- Nothing may have happened. -/
  nil : P []
  /-- One thing may have happened after another. -/
  append : ∀ {events events'}, P events → P events' → P (events ++ events')
  /-- A play may have been announced. -/
  play : ∀ name, P [.told 2 ("resolving play " ++ Literal.text name)]
  /-- A file may have been announced and opened. -/
  read : ∀ a : Announcement, P [.told 3 (a.text roles), .opened (a.path roles)]

namespace TraceRule

variable {roles : String} {P : List Event → Prop} (hP : TraceRule roles P) {fs : FileSystem}
include hP

theorem andThen {α β : Type} {x : Run α} {f : (a : α) → x.outcome = .ok a → Run β}
    (hx : P x.events) (hf : ∀ a ha, P (f a ha).events) : P (x.andThen f).events := by
  obtain ⟨e, he⟩ | ⟨a, ha⟩ := x.outcome_cases
  -- A failed run is followed by nothing.
  · rw [Run.andThen_of_error he]
    exact hx
  · rw [Run.andThen_of_ok ha]
    exact hP.append hx (hf a ha)

/-- **Files of the first pass** are announced as included. -/
theorem expand {active : List String} {source : String} {records : List Record} :
    P (Inclusion.expand fs active source records).events := by
  -- Only an inclusion opens a file, right after it has told so.
  induction active, source, records using Inclusion.expand.induct fs with
  | case1 active source =>
    rw [Inclusion.expand_nil]
    exact hP.nil
  | case2 active source r rest f hrequest =>
    rw [Inclusion.expand_cons_fault hrequest]
    exact hP.nil
  | case3 active source r rest t hrequest ih =>
    rw [Inclusion.expand_cons_task hrequest]
    exact ih
  | case4 active source r rest path hrequest hactive =>
    rw [Inclusion.expand_cons_cycle hrequest hactive]
    exact hP.nil
  | case5 active source r rest path hrequest hnew ihfile ihrest =>
    rw [Inclusion.expand_cons_inclusion hrequest hnew]
    have hfile : P (Inclusion.recordsOf fs path).events := hP.read (.inclusion path)
    exact hP.andThen hfile fun inner hinner => hP.andThen (ihfile inner hinner) fun _ _ => ihrest

theorem resolve {name : String} : P (Role.resolve fs roles name).events := by
  rw [Role.resolve]
  exact hP.andThen (hP.read (.role name)) fun _ _ => hP.expand

/-- **Files of the second pass** are announced as those of roles, or as included in one. -/
theorem inline {active : List String} {tasks : List Task} :
    P (Role.inline fs roles tasks active).events := by
  induction active, tasks using Role.inline_induction fs roles with
  | nil active =>
    rw [Role.inline_nil]
    exact hP.nil
  | other active t rest hrole ih =>
    rw [Role.inline_cons_none hrole]
    exact ih
  | nameless active t rest hrole =>
    rw [Role.inline_cons_some hrole, if_pos rfl]
    exact hP.nil
  | cycle active t rest name hrole hname hactive =>
    rw [Role.inline_cons_some hrole, if_neg hname, if_pos hactive]
    exact hP.nil
  | role active t rest name hrole hname hnew ihrole ihrest =>
    rw [Role.inline_cons_some hrole, if_neg hname, if_neg hnew]
    -- the wrapping of a fault leaves the trace as it is
    have hinside : P ((Role.resolve fs roles name).andThen fun tasks _ =>
        Role.inline fs roles tasks (active ++ [name])).events :=
      hP.andThen hP.resolve ihrole
    exact hP.andThen hinside fun _ _ => ihrest

/-- **Plays** are announced one by one, before the files of their passes. -/
theorem plays {path : String} {records : List Record} :
    P (Resolution.plays fs path roles records).events := by
  induction records with
  | nil =>
    rw [Resolution.plays]
    exact hP.nil
  | cons r rest ih =>
    rw [Resolution.plays]
    have hpasses : P ((Inclusion.resolve fs (Resolution.taskRecords r) path).andThen fun tasks _ =>
        Role.inline fs roles tasks).events := hP.andThen hP.expand fun _ _ => hP.inline
    have hplay : P (Resolution.play fs path roles r).events :=
      hP.append (hP.play (r.text (.str "name"))) hpasses
    exact hP.andThen hplay fun _ _ => ih

end TraceRule

/-- **A trace is accounted for** by announcements: it consists of messages of the second level and
of files that are opened, each directly after the one message of the third level that announces
it. -/
inductive Accounted (roles : String) : List Event → List Announcement → Prop
  /-- Nothing has happened. -/
  | nil : Accounted roles [] []
  /-- A play is announced, for which no file is opened. -/
  | play {text : String} {events : List Event} {as : List Announcement}
      (h : Accounted roles events as) : Accounted roles (.told 2 text :: events) as
  /-- A file is announced and opened. -/
  | read (a : Announcement) {events : List Event} {as : List Announcement}
      (h : Accounted roles events as) :
      Accounted roles (.told 3 (a.text roles) :: .opened (a.path roles) :: events) (a :: as)

section Accounts

variable {roles : String}

theorem Accounted.append {events events' : List Event} {as as' : List Announcement}
    (h : Accounted roles events as) (h' : Accounted roles events' as') :
    -- Along the account of the first trace.
    Accounted roles (events ++ events') (as ++ as') := by
  induction h with
  | nil => exact h'
  | play _ ih => exact .play ih
  | read a _ ih => exact .read a ih

/-- The announcements of a trace name the files it opens, in order. -/
theorem Accounted.openings {α : Type} {x : Run α} {as : List Announcement}
    (h : Accounted roles x.events as) : x.openings = as.map (Announcement.path roles) := by
  rw [Run.openings]
  -- What is said depends on the trace alone, and this is what the account goes through.
  generalize x.events = events at h
  induction h with
  | nil => rfl
  | play _ ih => exact ih
  | read a _ ih => exact congrArg (a.path roles :: ·) ih

/-- Who hears the third level hears all announcements, in order. -/
theorem Accounted.heard {α : Type} {x : Run α} {as : List Announcement}
    (h : Accounted roles x.events as) {verbosity : Nat} (hall : 3 ≤ verbosity) :
    (x.heard verbosity).filter (fun m => m.1 = 3) = as.map fun a => (3, a.text roles) := by
  -- Plays are told at the second level: they are heard too, and left out by the filter.
  have htwo : 2 ≤ verbosity := Nat.le_of_succ_le hall
  rw [Run.heard]
  generalize x.events = events at h
  induction h with
  | nil => rfl
  | play _ ih => simpa [htwo] using ih
  | read a _ ih => simpa [hall] using ih

/-- The trace of a run is accounted for. -/
def Run.IsAccounted {α : Type} (roles : String) (x : Run α) : Prop :=
  ∃ as, Accounted roles x.events as

/-- To be accounted for is to be accounted for part by part. -/
theorem Accounted.traceRule : TraceRule roles fun events => ∃ as, Accounted roles events as where
  nil := ⟨[], .nil⟩
  append := fun ⟨as, has⟩ ⟨bs, hbs⟩ => ⟨as ++ bs, has.append hbs⟩
  play _ := ⟨[], .play .nil⟩
  read a := ⟨[a], .read a .nil⟩

/-- **Plays** open no file that is not announced. -/
theorem Resolution.isAccounted_plays {fs : FileSystem} {path : String} {records : List Record} :
    (plays fs path roles records).IsAccounted roles :=
  Accounted.traceRule.plays

end Accounts

/-! ### Loading -/

namespace Resolution

/-- **Loading depends only on the files it opens.** Let another file system have the same working
directory and give the same answers to the paths that loading a playbook opens, whether it succeeds
or fails. Then loading it there has the same outcome and leaves the same trace, so that the same
messages are told and the same paths are opened, in the same order. The first of these paths is the
playbook. Every other one is opened directly after the one message that announces it, so that who
hears the third level can tell from the announcements which files were opened. -/
theorem load_determined {fs fs' : FileSystem} {path roles : String}
    (hdirectory : fs'.directory = fs.directory)
    (hread : ∀ p ∈ (load fs path roles).openings, fs'.read p = fs.read p) :
    load fs' path roles = load fs path roles ∧
      ∃ events as, (load fs path roles).events = .opened path :: events ∧
        Accounted roles events as ∧
        (load fs path roles).openings = path :: as.map (Announcement.path roles) ∧
        ∀ verbosity ≥ 3, ((load fs path roles).heard verbosity).filter (fun m => m.1 = 3) =
          as.map fun a => (3, a.text roles) := by
  constructor
  · refine load_congr ⟨hdirectory, fun p hp => hread p ?_⟩
    -- To agree on a trace is to agree on the files it opens.
    exact List.mem_filterMap.2 ⟨_, hp, rfl⟩
  -- The playbook is opened before anything is told. What comes after it is the trace of a run of
  -- its own.
  · obtain ⟨y, hload, as, has⟩ : ∃ y : Run (List Play),
        (load fs path roles).events = .opened path :: y.events ∧ y.IsAccounted roles := by
      rw [load]
      obtain ⟨e, he⟩ | ⟨records, hrecords⟩ := (fs.recordsAt path "failed to read playbook"
        "failed to parse YAML" (some path)).outcome_cases
      · rw [Run.andThen_of_error he]
        exact ⟨.fail e, rfl, [], .nil⟩
      · rw [Run.andThen_of_ok hrecords]
        exact ⟨_, rfl, isAccounted_plays⟩
    refine ⟨y.events, as, hload, has, ?_, fun verbosity hall => ?_⟩
    · rw [Run.openings, hload]
      exact congrArg (path :: ·) has.openings
    · rw [Run.heard, hload]
      exact has.heard hall

/-! ### A playbook whose first file is missing -/

/-- The playbook alone; the file it includes first is missing. -/
def lostFiles : FileSystem := .ofAnswers "/w" [("site", .ok webSite)]

/-- The playbook and the file of the role it includes last. -/
def lostFilesWithRole : FileSystem :=
  .ofAnswers "/w" [("site", .ok webSite), ("roles/web/tasks/main.yml", .ok webTask)]

/-- Loading fails at the missing file, so whether the role has a file makes no difference. -/
theorem load_determined_lostFiles :
    (load lostFiles "site" "roles").openings = ["site", "a"] ∧
      lostFilesWithRole.read "roles/web/tasks/main.yml" ≠
        lostFiles.read "roles/web/tasks/main.yml" ∧
      load lostFilesWithRole "site" "roles" = load lostFiles "site" "roles" := by
  obtain ⟨r, u, v, role, hsite, htasks, hu, hv, hrole⟩ := webSite_records
  have hrecords : (lostFiles.recordsAt "site" "failed to read playbook" "failed to parse YAML"
      (some "site")).outcome = .ok [r] := FileSystem.recordsAt_eq_ok.2 ⟨webSite, rfl, hsite⟩
  have hresolve : Inclusion.resolve lostFiles (taskRecords r) "site" =
      ⟨[.told 3 "including tasks from a", .opened "a"],
        .error (.resolution .taskFile "failed to read included task file a" none
          (some (.system (FileSystem.notFound "a"))))⟩ := by
    have hnew : lostFiles.nameOf "a" ∉ [lostFiles.nameOf "site"] := by decide +kernel
    rw [htasks, Inclusion.resolve, List.nil_append, Inclusion.expand_cons_inclusion hu hnew,
      Run.andThen_of_error rfl]
    rfl
  have hopenings : (load lostFiles "site" "roles").openings = ["site", "a"] := by
    rw [load, Run.andThen_of_ok hrecords, plays, play, hresolve]
    rfl
  have hread : ∀ p ∈ (load lostFiles "site" "roles").openings,
      lostFilesWithRole.read p = lostFiles.read p := by
    intro p hp
    rw [hopenings] at hp
    obtain rfl | rfl : p = "site" ∨ p = "a" := by simpa using hp
    · rfl
    · rfl
  have hdirectory : lostFilesWithRole.directory = lostFiles.directory := rfl
  exact ⟨hopenings, by decide, (load_determined hdirectory hread).1⟩

end Resolution

end Playbook
