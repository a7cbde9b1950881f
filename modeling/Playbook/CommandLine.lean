import Playbook.CommandLine.Word
import Playbook.ExtraVars
import Playbook.Release
import Playbook.Report
import Playbook.Resolution
import Playbook.Settings

/-!
# The command line of the program

The program resolves a playbook and reports its plays. The settings of a run come from the
environment, and flags override them. A fault of the playbook or of a template ends a run with a
message; any other failure is not caught.

Main definitions:

- `CommandLine.program`, `CommandLine.runCommand`: the commands;
- `CommandLine.Request`, `CommandLine.request`: what a command line asks for;
- `CommandLine.Output`, `CommandLine.perform`: what the program shows, and how it ends;
- `CommandLine.opened`: the files that this depends on.
-/

namespace Playbook.CommandLine

/-! ### Commands -/

/-- What flags stand for. -/
inductive Meaning where
  /-- The help is shown. -/
  | help
  /-- The release is shown. -/
  | version
  /-- The value is the path of the playbook. -/
  | playbook
  /-- The value is the folder of the roles. -/
  | rolesPath
  /-- More is told. -/
  | verbose
  /-- The report is a JSON document. -/
  | json
  /-- Arguments are rendered. -/
  | render
  /-- The value gives extra variables. -/
  | extraVars
deriving DecidableEq, Repr

/-- The flag for help. -/
def helpFlag : Flag Meaning := ⟨["-h", "--help"], none, "show this help message and exit", .help⟩

/-- The program as a command. -/
def program : Command Meaning where
  name := "voidspan"
  description := "Resolve Ansible-style playbooks into flat task lists"
  flags :=
    [ helpFlag,
      ⟨["--version"], none, "show program's version number and exit", .version⟩ ]
  choices := [("run", "Resolve a playbook and print its tasks")]
  epilog :=
    "Examples:\n" ++
    "  voidspan run -p site.yml -r roles\n" ++
    "  voidspan run -p site.yml -r roles --json\n" ++
    "  voidspan run -p site.yml -r roles --render -e env=prod\n" ++
    "        "

/-- The command that resolves a playbook. -/
def runCommand : Command Meaning where
  name := "voidspan run"
  description := "Resolve an Ansible-style playbook and print each play and its tasks"
  flags :=
    [ helpFlag,
      ⟨["-p", "--playbook"], some "PLAYBOOK",
        "Path to the playbook file (env: " ++ Settings.playbookVariable ++ ")", .playbook⟩,
      ⟨["-r", "--roles-path"], some "ROLES_PATH",
        "Directory containing roles (env: " ++ Settings.rolesPathVariable ++ ")", .rolesPath⟩,
      ⟨["-v", "--verbose"], none, "Increase verbosity (-v, -vv, -vvv)", .verbose⟩,
      ⟨["--json"], none, "Output resolved plays as JSON", .json⟩,
      ⟨["--render"], none, "Render task args with Jinja2 using the task's vars", .render⟩,
      ⟨["-e", "--extra-vars"], some "EXTRA_VARS",
        "Extra variables for --render (key=value, YAML/JSON or @file.yml)", .extraVars⟩ ]
  choices := []
  epilog := ""

/-! ### Requests -/

/-- What the flags of a run choose. -/
structure Choices where
  /-- The path of the playbook, if it is given. -/
  playbook : Option String
  /-- The folder of the roles, if it is given. -/
  rolesPath : Option String
  /-- How much to tell. -/
  verbosity : Nat
  /-- Whether the report is a JSON document. -/
  asJson : Bool
  /-- Whether arguments are rendered. -/
  rendered : Bool
  /-- The items that give extra variables. -/
  extraVars : List String
deriving DecidableEq, Repr

namespace Choices

/-- Nothing is chosen. -/
def none : Choices := ⟨.none, .none, 0, false, false, []⟩

/-- What a flag with a value chooses. -/
def set (c : Choices) : Meaning × String → Choices
  | (.playbook, s) => { c with playbook := some s }
  | (.rolesPath, s) => { c with rolesPath := some s }
  | (.verbose, _) => { c with verbosity := c.verbosity + 1 }
  | (.json, _) => { c with asJson := true }
  | (.render, _) => { c with rendered := true }
  | (.extraVars, s) => { c with extraVars := c.extraVars ++ [s] }
  | (.help, _) | (.version, _) => c

/-- What flags choose, one after the other. -/
def ofFlags (fs : List (Meaning × String)) : Choices := fs.foldl set .none

end Choices

/-- What a command line asks for. -/
inductive Request where
  /-- The help of a command, asked for by a flag. -/
  | help (c : Command Meaning)
  /-- The release. -/
  | release
  /-- Nothing: no command is named. -/
  | nothing
  /-- Something that the command does not take. -/
  | wrong (c : Command Meaning) (problem : String)
  /-- A run. -/
  | run (choices : Choices)

/-- What the first flag that ends the program asks for. -/
def early? (c : Command Meaning) : List (Meaning × String) → Option Request
  | [] => none
  | (.help, _) :: _ => some (.help c)
  | (.version, _) :: _ => some .release
  | _ :: rest => early? c rest

/-- What the words that are left over ask for, or else a request. -/
def orExtras (extras : List String) (r : Request) : Request :=
  if extras.isEmpty then r
  else .wrong program ("unrecognized arguments: " ++ String.intercalate " " extras)

/-- What the words after the name of the run command ask for, when some words before it are left
over. -/
def runRequest (extras : List String) (args : List String) : Request :=
  match runCommand.words args with
  | .error problem => .wrong runCommand problem
  | .ok words =>
    let r := runCommand.read words
    -- Help ends the program even if a word after it is wrong.
    match early? runCommand r.flags, r.problem with
    | some request, _ => request
    | none, some problem => .wrong runCommand problem
    -- Words that no command takes are complained about last, those before the name of the command
    -- first.
    | none, none => orExtras (extras ++ r.extras) (.run (.ofFlags r.flags))

/-- What a command line asks for. -/
def request (args : List String) : Request :=
  match program.words args with
  | .error problem => .wrong program problem
  | .ok words =>
    let r := program.read words
    match early? program r.flags, r.problem, r.rest with
    | some request, _, _ => request
    | none, some problem, _ => .wrong program problem
    -- Without the name of a command the help is shown, and this is no error.
    | none, none, [] => orExtras r.extras .nothing
    | none, none, name :: rest =>
      if name = "run" then runRequest r.extras rest
      else .wrong program ("argument command: invalid choice: " ++ Literal.text name ++
        " (choose from 'run')")

/-! ### Performing requests -/

/-- How the program ends. -/
inductive Ending where
  /-- It returns a code. -/
  | returned (code : Nat)
  /-- It is left with a code while the command line is read. -/
  | left (code : Nat)
  /-- It fails. -/
  | failed (f : Fault)

/-- What the program shows, and how it ends. -/
structure Output where
  /-- The text on the standard output. -/
  out : String
  /-- The text on the standard error output. -/
  err : String
  /-- How it ends. -/
  ending : Ending

/-- The code of a run that succeeds. -/
def success : Nat := 0

/-- The code of a command line that is wrong. -/
def usageError : Nat := 2

/-- The output of a run that ends with a fault after it has shown something. -/
def Output.ofFault (d : Display) (out err : String) (f : Fault) : Output :=
  match f.exitCode? with
  -- A fault with a code is written as a line of its own. Any other one leaves the program as it is.
  | some code => ⟨out, err ++ d.complain f.message, .returned code⟩
  | none => ⟨out, err, .failed f⟩

/-- The settings of a run: those of the environment, overridden by what is chosen. -/
def settings (env : Environment) (c : Choices) (extra : Entries) : Except Failure Settings :=
  -- What is not chosen is null, and leaves the setting as it is.
  let given (s : Option String) : Value := (s.map Value.str).getD .null
  (Settings.ofEnvironment env).merge
    [ ("playbook", given c.playbook), ("roles_path", given c.rolesPath),
      ("verbosity", .int c.verbosity), ("json_output", .bool c.asJson),
      ("render", .bool c.rendered), ("extra_vars", .map none extra) ]

/-- What the settings ask a report for. -/
def options (s : Settings) : Report.Options where
  verbosity := match s.verbosity with
    | .int n => n
    | _ => 0
  asJson := s.jsonOutput.isTrue
  rendered := s.render.isTrue

/-- The text of a setting. -/
def settingText : Value → String
  | .str s => s
  | _ => ""

/-- The resolution that the settings ask for. -/
def resolution (fs : FileSystem) (s : Settings) : Run (List Play) :=
  Resolution.load fs (settingText s.playbook) (settingText s.rolesPath)

/-- Resolve and report a playbook. -/
def report (fs : FileSystem) (color : Bool) (s : Settings) : Output :=
  let o := options s
  let d : Display := ⟨o.verbosity, color⟩
  let resolved := resolution fs s
  let log := d.log resolved
  match resolved.outcome with
  | .error f => .ofFault d "" log f
  | .ok plays =>
    -- What different readings give is told apart by marks, and so are the extra variables.
    let extra := Reading.besides plays (s.extraVars.entries?.getD [])
    let p := Report.ofPlays o extra (Reading.apart resolved.openings plays)
    match p.fault with
    | some f => .ofFault d p.text log f
    | none => ⟨p.text, log, .returned success⟩

/-- The output of a run with settings, of which some may be missing. -/
def runWith (fs : FileSystem) (color : Bool) (s : Settings) : Output :=
  match s.missing with
  | [] => report fs color s
  | missing =>
    ⟨"", "ERROR: required setting(s) not provided: " ++ String.intercalate ", " missing ++ "\n",
      .returned usageError⟩

/-- The output of a run. -/
def run (fs : FileSystem) (env : Environment) (color : Bool) (c : Choices) : Output :=
  -- Items are read in order, and the first that is wrong ends the run without a line of its own.
  match ExtraVars.ofItems fs c.extraVars with
  | .error f => ⟨"", "", .failed f⟩
  | .ok extra =>
    match settings env c (ExtraVars.apart fs c.extraVars extra) with
    | .error f => ⟨"", "", .failed (.failure f)⟩
    | .ok s => runWith fs color s

/-- What the program shows for a command line, and how it ends. -/
def perform (fs : FileSystem) (env : Environment) (stderr : Stream) (args : List String) : Output :=
  match request args with
  | .help c => ⟨c.help, "", .left success⟩
  | .release => ⟨"voidspan " ++ Release.version ++ "\n", "", .left success⟩
  | .nothing => ⟨program.help, "", .returned success⟩
  | .wrong c problem => ⟨"", c.refusal problem, .left usageError⟩
  | .run choices => run fs env (stderr.supportsColor env) choices

/-! ### Opened files -/

/-- The paths that a run with settings opens. -/
def openedWith (fs : FileSystem) (s : Settings) : List String :=
  -- Nothing is opened if a setting is missing.
  if s.missing.isEmpty then (resolution fs s).openings else []

/-- The paths of the files that items take variables from. -/
def variableFiles (items : List String) : List String :=
  items.filterMap fun item => match ExtraVars.Item.ofText item with
    | .file path => some (Path.tidy path)
    | _ => none

/-- The paths that the output for a command line depends on. -/
def opened (fs : FileSystem) (env : Environment) (args : List String) : List String :=
  match request args with
  | .run choices =>
    variableFiles choices.extraVars ++
      -- Which playbook is opened does not depend on the extra variables.
      match settings env choices [] with
      | .ok s => openedWith fs s
      | .error _ => []
  | _ => []

end Playbook.CommandLine
