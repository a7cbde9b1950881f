import Playbook.Record

/-!
# Plays and tasks

What a playbook resolves to: plays, each a flat list of tasks for some hosts.

Main definitions: `Task`, `Play`, `Task.entries`, `Play.entries`, `Task.literal`, `Play.literal`.
-/

namespace Playbook

/-- A resolved task. -/
structure Task where
  /-- Its name. -/
  name : String
  /-- The key that names its module; a record can have a key that is no text. -/
  module : Value
  /-- The arguments of the module. -/
  args : Entries
  /-- The variables of the task. -/
  vars : Entries
  /-- The expression the task loops over, as it is written. -/
  loop : String
  /-- The file the task is written in. -/
  source : String
deriving Repr, Inhabited

/-- A named list of tasks for some hosts. -/
structure Play where
  /-- Its name. -/
  name : String
  /-- The hosts. -/
  hosts : String
  /-- The tasks in order. -/
  tasks : List Task
deriving Repr, Inhabited

/-- A task as a mapping; a loop stands in it only if there is one. -/
def Task.entries (t : Task) : Entries :=
  [(.str "name", .str t.name),
    (.str "module", t.module),
    (.str "args", .map none t.args),
    (.str "vars", .map none t.vars),
    (.str "source", .str t.source)] ++
  if t.loop = "" then [] else [(.str "loop", .str t.loop)]

/-- A play as a mapping. -/
def Play.entries (p : Play) : Entries :=
  [(.str "name", .str p.name),
    (.str "hosts", .str p.hosts),
    (.str "tasks", .list none (p.tasks.map fun t => .map none t.entries))]

/-- The short form of a task. -/
def Task.literal (t : Task) : String :=
  "Task(name=" ++ Literal.text t.name ++ ", module=" ++ t.module.literal ++ ", source=" ++
    Literal.text t.source ++ ")"

/-- The short form of a play. -/
def Play.literal (p : Play) : String :=
  "Play(name=" ++ Literal.text p.name ++ ", hosts=" ++ Literal.text p.hosts ++ ", tasks=" ++
    toString p.tasks.length ++ ")"

end Playbook
