import Playbook.Role

/-!
# Resolution of playbooks

The records of a playbook become plays. The tasks of a play are found in two passes: first all files
are included, then all roles. A field `tasks` that is no list counts as empty; any other fault ends
the resolution.

Main definitions: `Resolution.play`, `Resolution.playbook`, `Resolution.load`.
-/

namespace Playbook

namespace Resolution

/-- The task records of a play; none if the field holds no list. -/
def taskRecords (r : Record) : List Record :=
  ((r.field? (.str "tasks")).bind Value.records?).getD []

/-- The play of a record. -/
def play (fs : FileSystem) (path roles : String) (r : Record) : Run Play :=
  let name := r.text (.str "name")
  (((Inclusion.resolve fs (taskRecords r) path).andThen fun tasks _ =>
    Role.inline fs roles tasks).map fun tasks =>
      { name := name, hosts := r.text (.str "hosts"), tasks := tasks }).after
        (.told 2 ("resolving play " ++ Literal.text name))

/-- The plays of records, one by one. -/
def plays (fs : FileSystem) (path roles : String) : List Record → Run (List Play)
  | [] => .done []
  | r :: rest =>
    (play fs path roles r).andThen fun p _ => (plays fs path roles rest).map (p :: ·)

/-- The plays of a playbook whose source is at hand. -/
def playbook (fs : FileSystem) (document : Document) (path roles : String) : Run (List Play) :=
  (Run.ofExcept (document.records "failed to parse YAML" (some path))).andThen fun records _ =>
    plays fs path roles records

/-- The plays of a playbook file. -/
def load (fs : FileSystem) (path roles : String) : Run (List Play) :=
  (fs.recordsAt path "failed to read playbook" "failed to parse YAML" (some path)).andThen
    fun records _ => plays fs path roles records

end Resolution

end Playbook
