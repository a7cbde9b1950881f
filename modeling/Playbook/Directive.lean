import Playbook.Value

/-!
# Directives

The keys of a task record with a meaning of their own. All other keys name modules.

Main definitions: `Directive`, `Directive.ofKey?`, `Directive.isRoleInclusion`.
-/

namespace Playbook

/-- A key with a meaning of its own. -/
inductive Directive where
  /-- The name of the task. -/
  | name
  /-- Its variables. -/
  | vars
  /-- The expression it loops over. -/
  | loop
  /-- A file whose tasks take its place. -/
  | includeTasks
  /-- A role whose tasks take its place. -/
  | includeRole
deriving DecidableEq, Repr

namespace Directive

/-- The keys that stand for directives. -/
def table : List (String × Directive) := [
  ("name", .name),
  ("vars", .vars),
  ("loop", .loop),
  ("include_tasks", .includeTasks),
  ("ansible.builtin.include_tasks", .includeTasks),
  ("include_role", .includeRole),
  ("ansible.builtin.include_role", .includeRole)]

/-- The directive a text stands for. -/
def ofText? (s : String) : Option Directive := table.lookup s

/-- The directive a key stands for. Only texts stand for directives. -/
def ofKey? : Value → Option Directive
  | .scalar (.str s) => ofText? s
  | _ => none

/-- The name of a directive. -/
def label : Directive → String
  | name => "name"
  | vars => "vars"
  | loop => "loop"
  | includeTasks => "include_tasks"
  | includeRole => "include_role"

/-- Whether a module stands for the inclusion of a role. -/
def isRoleInclusion (module : Value) : Bool := ofKey? module == some .includeRole

@[simp] theorem ofKey?_str (s : String) : ofKey? (.str s) = ofText? s := rfl

/-- Every directive is the meaning of its own name. -/
theorem ofText?_label (d : Directive) : ofText? d.label = some d := by cases d <;> rfl

end Directive

end Playbook
