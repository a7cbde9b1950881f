import Playbook.Reading
import Playbook.Rendering
import Playbook.Value.Json

/-!
# Reports

A report shows plays and their tasks, one line after the other or as one JSON document. If the
arguments of tasks are rendered, rendering a task can change the values of its variables, those of
the extra variables that all tasks share, and the containers that other tasks hold as well, so what
is left of all this goes on to the next task.

Lines are shown as soon as they are known: if a task cannot be shown, those before it have been. A
JSON document is shown as a whole or not at all, with everything in it as it is at the end.

Main definitions:

- `Report.Options`: what is asked for;
- `Report.args`: the arguments of a task as they are shown;
- `Report.Shared`, `Report.Progress`: what tasks share; what has been shown, what went wrong, and
  what is left;
- `Report.ofPlays`: the report of plays.
-/

namespace Playbook.Report

/-- What a report is asked for. -/
structure Options where
  /-- How much to tell; from one on, tasks tell where they come from. -/
  verbosity : Int
  /-- Whether the report is a JSON document. -/
  asJson : Bool
  /-- Whether arguments are rendered. -/
  rendered : Bool
deriving DecidableEq, Repr

/-- What the tasks of a report share. -/
structure Shared where
  /-- The extra variables. -/
  extra : Entries
  /-- What has become of containers, by their marks. -/
  changes : Value.Changes
  /-- The least number that is no mark. -/
  next : Nat

/-- What tasks share before anything is reported. -/
def Shared.start (extra : Entries) (ts : List Task) : Shared :=
  ⟨extra, [], ts.foldl (fun n t => max n t.endMark) (max 2 extra.endMark)⟩

/-- How far the report of something has come. -/
structure Progress (α : Type) where
  /-- The text that has been shown. -/
  text : String
  /-- What stopped it. -/
  fault : Option Fault
  /-- What was reported, as it is afterwards. -/
  left : α
  /-- What tasks share, as it is afterwards. -/
  shared : Shared

namespace Progress

/-- Report things in order until one of them cannot be reported. -/
def each {α : Type} (f : Shared → α → Progress α) (shared : Shared) : List α → Progress (List α)
  | [] => ⟨"", none, [], shared⟩
  | x :: rest =>
    let one := f shared x
    match one.fault with
    | some _ => ⟨one.text, one.fault, one.left :: rest, one.shared⟩
    | none =>
      let more := each f one.shared rest
      ⟨one.text ++ more.text, more.fault, one.left :: more.left, more.shared⟩

@[simp] theorem each_nil {α : Type} (f : Shared → α → Progress α) (shared : Shared) :
    each f shared [] = ⟨"", none, [], shared⟩ := rfl

end Progress

/-! ### Arguments -/

/-- What is around the arguments of a task: its own variables hide the extra ones. -/
def surroundings (s : Shared) (t : Task) : Surroundings :=
  ⟨s.extra.update t.vars, s.changes, s.next⟩

/-- The rendered arguments of a task, and what rendering them leaves behind. -/
def rendered (s : Shared) (t : Task) : Except Fault Entries × Surroundings :=
  (Rendering.ofEntries t.args).runIn (surroundings s t)

/-- The arguments of a task as they are shown, beside what tasks share. -/
def argsIn (o : Options) (s : Shared) (t : Task) : Except Fault Entries :=
  if o.rendered then (rendered s t).1 else .ok t.args

/-- The arguments of a task as they are shown, with extra variables and nothing else around it. -/
def args (o : Options) (extra : Entries) (t : Task) : Except Fault Entries :=
  argsIn o ⟨extra, [], (Surroundings.beside (extra.update t.vars) t.args).next⟩ t

/-- Entries with the values that a mapping has for their keys. -/
def refresh (es after : Entries) : Entries := es.map fun (k, v) => (k, (after.find? k).getD v)

/-- A task and what tasks share after its arguments have been shown. -/
def settle (o : Options) (s : Shared) (t : Task) : Task × Shared :=
  if o.rendered then
    let after := (rendered s t).2
    let hidden (k : Value) : Bool := (t.vars.find? k).isSome
    let extra := s.extra.map fun (k, v) =>
      if hidden k then (k, v) else (k, (after.names.find? k).getD v)
    ({ t with vars := refresh t.vars after.names }, ⟨extra, after.changes, after.next⟩)
  else (t, s)

/-- A task in which every container is as it is now. -/
def renewTask (changes : Value.Changes) (t : Task) : Task :=
  { t with
    module := t.module.renew changes
    args := t.args.renew changes
    vars := t.vars.renew changes }

/-- A play in which every container is as it is now. -/
def renewPlay (changes : Value.Changes) (p : Play) : Play :=
  { p with tasks := p.tasks.map (renewTask changes) }

/-! ### Lines -/

/-- A line, unless a value in it has no text. -/
def line (label : String) (text : Except Failure String) : Except Fault String :=
  match text with
  | .ok s => .ok (label ++ s ++ "\n")
  | .error f => .error (.failure f)

/-- The text of entries as one mapping. -/
def entriesText (es : Entries) : Except Failure String := (Value.map none es).text?

/-- The lines of a task after that with its arguments. -/
def lastLines (o : Options) (t : Task) : String :=
  (if t.loop = "" then "" else "    Loop: " ++ t.loop ++ "\n") ++
    if 1 ≤ o.verbosity then "    Source: " ++ t.source ++ "\n" else ""

/-- Lines that are shown one after the other until one of them fails. -/
def showLines : List (Except Fault String) → String × Option Fault
  | [] => ("", none)
  | .error f :: _ => ("", some f)
  | .ok s :: rest =>
    let (text, fault) := showLines rest
    (s ++ text, fault)

/-- The report of a task in lines. -/
def ofTask (o : Options) (s : Shared) (t : Task) : Progress Task :=
  let name := "  ▸ Task: " ++ t.name ++ "\n"
  match line "    Module: " t.module.text? with
  | .error f => ⟨name, some f, t, s⟩
  | .ok moduleLine =>
    let (task, after) := settle o s t
    let shown (es : Entries) : Except Failure String := entriesText (es.renew after.changes)
    let (text, fault) := showLines
      [ (argsIn o s t).bind fun es => line "    Args: " (shown es),
        line "    Vars: " (shown task.vars),
        .ok (lastLines o task) ]
    ⟨name ++ moduleLine ++ text, fault, task, after⟩

/-- The first line of a play. -/
def headline (p : Play) : String := "▶ Play: " ++ p.name ++ " (hosts: " ++ p.hosts ++ ")\n"

/-- The report of a play in lines. -/
def ofPlay (o : Options) (s : Shared) (p : Play) : Progress Play :=
  let tasks := Progress.each (ofTask o) s p.tasks
  ⟨headline p ++ tasks.text, tasks.fault, { p with tasks := tasks.left }, tasks.shared⟩

/-- The report of plays in lines. -/
def lines (o : Options) (s : Shared) (ps : List Play) : Progress (List Play) :=
  Progress.each (ofPlay o) s ps

/-! ### Documents -/

/-- A task with its arguments as they are shown. -/
structure Shown where
  /-- The task. -/
  task : Task
  /-- The arguments as they are shown. -/
  args : Entries

/-- A task with the arguments that are shown. -/
def shownTask (o : Options) (s : Shared) (x : Shown) : Progress Shown :=
  let (task, after) := settle o s x.task
  match argsIn o s x.task with
  | .ok shown => ⟨"", none, ⟨task, shown⟩, after⟩
  | .error f => ⟨"", some f, ⟨task, x.args⟩, after⟩

/-- A task and the arguments that are shown, in which every container is as it is now. -/
def Shown.renew (changes : Value.Changes) (x : Shown) : Shown :=
  ⟨renewTask changes x.task, x.args.renew changes⟩

/-- The document of plays. -/
def document (ps : List (Play × List Shown)) : Value :=
  .list none <| ps.map fun (p, tasks) =>
    .map none
      [(.str "name", .str p.name), (.str "hosts", .str p.hosts),
        (.str "tasks", .list none (tasks.map fun s =>
          .map none { s.task with args := s.args }.entries))]

/-- A play as it is after its tasks have been shown. -/
def afterwards (p : Play × List Shown) : Play := { p.1 with tasks := p.2.map (·.task) }

/-- The report of plays as a JSON document. -/
def json (o : Options) (s : Shared) (ps : List Play) : Progress (List Play) :=
  let start := ps.map fun p => (p, p.tasks.map fun t => Shown.mk t t.args)
  let shown := Progress.each (fun s (p, tasks) =>
    let r := Progress.each (shownTask o) s tasks
    ⟨"", r.fault, (p, r.left), r.shared⟩) s start
  let left := shown.left.map afterwards
  match shown.fault with
  | some f => ⟨"", some f, left, shown.shared⟩
  | none =>
    let final := shown.left.map fun (p, tasks) => (p, tasks.map (Shown.renew shown.shared.changes))
    match (document final).json Json.report with
    | .ok text => ⟨text ++ "\n", none, left, shown.shared⟩
    | .error f => ⟨"", some (.failure f), left, shown.shared⟩

/-- The report of plays. -/
def ofPlays (o : Options) (extra : Entries) (ps : List Play) : Progress (List Play) :=
  let s := Shared.start extra (ps.flatMap Play.tasks)
  let p := if o.asJson then json o s ps else lines o s ps
  { p with left := p.left.map (renewPlay p.shared.changes) }

end Playbook.Report
