import Playbook.Display
import Playbook.Value.Print

/-!
# Settings

The settings of a program run. They start from the environment and are overridden one by one; what
is nothing overrides nothing. The values are those that were given, whatever their types.

Main definitions: `Settings`, `Settings.ofEnvironment`, `Settings.merge`, `Settings.missing`.
-/

namespace Playbook

/-- The settings of a run. -/
structure Settings where
  /-- The path of the playbook. -/
  playbook : Value := .null
  /-- The folder of the roles. -/
  rolesPath : Value := .null
  /-- How much to tell. -/
  verbosity : Value := .int 0
  /-- Whether the report is a JSON document. -/
  jsonOutput : Value := .bool false
  /-- Whether arguments are rendered. -/
  render : Value := .bool false
  /-- Variables for rendering. -/
  extraVars : Value := .map none []
deriving Repr

namespace Settings

/-- The environment variable with the path of the playbook. -/
def playbookVariable : String := "VOIDSPAN_PLAYBOOK"

/-- The environment variable with the folder of the roles. -/
def rolesPathVariable : String := "VOIDSPAN_ROLES_PATH"

/-- The value of an environment variable; nothing if it is empty or not set. -/
def fromVariable (env : Environment) (name : String) : Value :=
  if env.get name = "" then .null else .str (env.get name)

/-- The settings that the environment gives. -/
def ofEnvironment (env : Environment) : Settings where
  playbook := fromVariable env playbookVariable
  rolesPath := fromVariable env rolesPathVariable

/-- Override one setting by name. -/
def override (s : Settings) (name : String) (v : Value) : Except Failure Settings :=
  match name with
  | "playbook" => .ok { s with playbook := v }
  | "roles_path" => .ok { s with rolesPath := v }
  | "verbosity" => .ok { s with verbosity := v }
  | "json_output" => .ok { s with jsonOutput := v }
  | "render" => .ok { s with render := v }
  | "extra_vars" => .ok { s with extraVars := v }
  | _ =>
    .error (.type ("RunConfig.__init__() got an unexpected keyword argument '" ++ name ++ "'"))

/-- Override settings by name, except by nothing. -/
def merge (s : Settings) (overrides : List (String × Value)) : Except Failure Settings :=
  overrides.foldlM (fun s (name, v) => if v.kind = .null then .ok s else s.override name v) s

/-- The names of the settings that a run needs and that are not set. -/
def missing (s : Settings) : List String :=
  (if s.playbook.isTrue then [] else ["playbook"]) ++
    (if s.rolesPath.isTrue then [] else ["roles-path"])

end Settings

end Playbook
