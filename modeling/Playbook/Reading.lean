import Playbook.Task
import Playbook.Value.Mark

/-!
# Readings

A file that is included several times is read several times. What is one thing within a reading is
not the same thing in another one, nor in another file, nor on the command line. The tasks of a
resolution are told apart by their readings: all readings of a file contribute the same number of
tasks, and never one inside another.

Main definitions:

- `Reading.readings`: in which reading each task has been made;
- `Reading.apart`: plays in which each reading has marks of its own;
- `Reading.besides`: entries with marks that no such play has.
-/

namespace Playbook

/-- A task with other marks. -/
def Task.relabel (f : Nat → Nat) (t : Task) : Task :=
  { t with
    module := t.module.relabel f
    args := Entries.relabel f t.args
    vars := Entries.relabel f t.vars }

/-- The least number above all marks in a task. -/
def Task.endMark (t : Task) : Nat :=
  max t.module.endMark (max (Entries.endMark t.args) (Entries.endMark t.vars))

namespace Reading

/-- Where a reading of a file stands. -/
structure Place where
  /-- The file. -/
  source : String
  /-- The number of the reading. -/
  reading : Nat
  /-- How many tasks are still to come from it. -/
  left : Nat

/-- The number of the reading of a file that contributes the next task, which is a new reading with
a number and a length if none is under way, and where the readings stand after it. -/
def advance (source : String) (fresh length : Nat) : List Place → Nat × List Place
  | [] => (fresh, [⟨source, fresh, length - 1⟩])
  | p :: rest =>
    if p.source = source then
      if p.left = 0 then (fresh, ⟨source, fresh, length - 1⟩ :: rest)
      else (p.reading, { p with left := p.left - 1 } :: rest)
    else
      let (n, rest) := advance source fresh length rest
      (n, p :: rest)

/-- The readings of tasks from some sources, numbered from a number on. -/
def readingsFrom (lengthOf : String → Nat) : Nat → List Place → List String → List Nat
  | _, _, [] => []
  | fresh, places, source :: rest =>
    let (n, places) := advance source fresh (lengthOf source) places
    n :: readingsFrom lengthOf (fresh + 1) places rest

/-- The readings of tasks from some sources, when some files have been opened. -/
def readings (openings sources : List String) : List Nat :=
  let lengthOf source := sources.count source / max 1 (openings.count source)
  readingsFrom lengthOf 1 [] sources

/-- Tasks with the marks of their readings, and the readings that are left over. -/
def relabelTasks (groups : Nat) : List Task → List Nat → List Task × List Nat
  | t :: ts, n :: ns =>
    let (rest, left) := relabelTasks groups ts ns
    (t.relabel (markIn groups n) :: rest, left)
  | ts, ns => (ts, ns)

/-- Plays with the marks of their readings. -/
def relabelPlays (groups : Nat) : List Play → List Nat → List Play
  | [], _ => []
  | p :: ps, ns =>
    let (tasks, left) := relabelTasks groups p.tasks ns
    { p with tasks } :: relabelPlays groups ps left

/-- The number of groups of marks that plays have. -/
def groups (ps : List Play) : Nat := (ps.flatMap Play.tasks).length + 1

/-- Plays in which each reading has marks of its own, when some files have been opened. -/
def apart (openings : List String) (ps : List Play) : List Play :=
  relabelPlays (groups ps) ps (readings openings ((ps.flatMap Play.tasks).map Task.source))

/-- Entries with marks that plays whose readings are told apart do not have. -/
def besides (ps : List Play) (es : Entries) : Entries := es.relabel (markIn (groups ps) 0)

end Reading

end Playbook
