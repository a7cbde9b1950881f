import Playbook.CommandLine

/-!
# Flags and variables of the environment

The playbook and the folder of the roles can be given by flags in front of all others, or by two
variables of the environment. The two ways are followed through the program side by side: through
the words of the command line, which are told apart one by one; through the readings of these words,
in which the two flags are done with before the others are looked at; and through the settings, in
which whatever comes later wins.

* `CommandLine.sources_of_words` — a command line is given back by its words. The commands above the
  run command see the flags too, and hand them on as they are.
* `CommandLine.request_flags` — a command line with the two flags asks for what it asks for without
  them, but for a run with these values beneath what is chosen.
* `CommandLine.settings_flags` — a run with these values beneath what is chosen has the settings of
  a run in an environment that gives them.
* `CommandLine.perform_flags` — so both ways lead to the same output, whatever else stands on the
  command line: more flags of the kind, a request for help, or something that no command takes.
-/

namespace Playbook

/-- **An environment gives two settings:** the two variables of a run have these values, and all
other variables are as in another environment. -/
structure Environment.Gives (given env : Environment) (playbook rolesPath : String) : Prop where
  /-- The variable of the playbook. -/
  playbook : given.get Settings.playbookVariable = playbook
  /-- The variable of the folder of the roles. -/
  rolesPath : given.get Settings.rolesPathVariable = rolesPath
  /-- All other variables. -/
  others : ∀ name, name ≠ Settings.playbookVariable → name ≠ Settings.rolesPathVariable →
    given.get name = env.get name

namespace CommandLine

/-- A text that can stand for a setting in both ways: a variable that is empty counts as not set,
and a word that starts with a dash counts as a flag. -/
def IsArgument (s : String) : Prop := s ≠ "" ∧ s.toList.head? ≠ some '-'

/-! ### Words -/

section Words

variable {α : Type} {c : Command α} {s : String} {args : List String} {w : Word α}
  {ws : List (Word α)}

theorem word_of_isArgument (h : IsArgument s) : c.word s = .ok (.plain s) := by
  -- A word is looked at only if it starts with a dash, and this one does not.
  rw [Command.word]
  split
  · rfl
  · next hs => exact absurd (by rw [hs]; rfl) h.2
  · rfl

theorem ne_separator_of_isArgument (h : IsArgument s) : s ≠ "--" := by
  rintro rfl
  exact h.2 rfl

theorem source_of_dashed (h : c.dashed s = .ok w) : w.source = s := by
  rw [Command.dashed] at h
  -- Whatever a word with a dash is taken for, it keeps its own text.
  generalize splitValue s.toList = value at h
  obtain ⟨stem, attached⟩ := value
  dsimp only at h
  split at h
  · cases h
    rfl
  · cases h
    rfl
  · split at h
    · cases h
      rfl
    · cases h
      split <;> rfl
    · cases h

theorem source_of_word (h : c.word s = .ok w) : w.source = s := by
  rw [Command.word] at h
  split at h
  · cases h
    rfl
  · exact source_of_dashed h
  · cases h
    rfl

/-- The words of a command line that starts with some text, other than the one after which there are
no flags. -/
theorem words_cons (hs : s ≠ "--") (hw : c.word s = .ok w) :
    c.words (s :: args) = (c.words args).map (w :: ·) := by
  rw [Command.words, if_neg hs, hw]
  cases c.words args <;> rfl

/-- **A command line is given back by its words.** -/
theorem sources_of_words (h : c.words args = .ok ws) : ws.map Word.source = args := by
  -- Along the words. The separator is one itself, and what stands behind it is not looked at.
  induction args generalizing ws with
  | nil =>
    cases h
    rfl
  | cons s rest ih =>
    by_cases hs : s = "--"
    · rw [Command.words, if_pos hs] at h
      cases h
      -- all words after this one are arguments
      have hplain : (rest.map (Word.plain (α := α))).map Word.source = rest := by
        rw [List.map_map]
        exact List.map_id rest
      rw [List.map_cons, hplain, hs]
      rfl
    · cases hw : c.word s with
      | error problem =>
        rw [Command.words, if_neg hs, hw] at h
        cases h
      | ok w =>
        rw [words_cons hs hw] at h
        cases hrest : c.words rest with
        | error problem =>
          rw [hrest] at h
          cases h
        | ok more =>
          rw [hrest] at h
          cases h
          rw [List.map_cons, source_of_word hw, ih hrest]

end Words

/-! ### Requests -/

/-- The two flags in front of other words. -/
def withFlags (playbook rolesPath : String) (args : List String) : List String :=
  "-p" :: playbook :: "-r" :: rolesPath :: args

/-- What is chosen if two values have been chosen before. -/
def Choices.after (c : Choices) (playbook rolesPath : String) : Choices :=
  { c with
    playbook := some (c.playbook.getD playbook)
    rolesPath := some (c.rolesPath.getD rolesPath) }

/-- What is asked for if two values have been chosen before. -/
def Request.after (q : Request) (playbook rolesPath : String) : Request :=
  match q with
  | .run choices => .run (choices.after playbook rolesPath)
  | q => q

section Requests

/-- The flag of the playbook. -/
def playbookFlag : Flag Meaning := runCommand.flags[1]

/-- The flag of the folder of the roles. -/
def rolesPathFlag : Flag Meaning := runCommand.flags[2]

variable {p r : String} {args : List String}

/-- What a flag chooses does not depend on what has been chosen before. -/
theorem set_after (c : Choices) (x : Meaning × String) :
    (c.after p r).set x = (c.set x).after p r := by
  obtain ⟨m, s⟩ := x
  -- By the flag: a later choice goes over an earlier one, wherever it is made.
  cases m <;> rfl

theorem foldl_set_after (c : Choices) (fs : List (Meaning × String)) :
    fs.foldl Choices.set (c.after p r) = (fs.foldl Choices.set c).after p r := by
  induction fs generalizing c with
  | nil => rfl
  | cons x rest ih => rw [List.foldl_cons, List.foldl_cons, set_after, ih]

theorem ofFlags_after (fs : List (Meaning × String)) :
    Choices.ofFlags ((.playbook, p) :: (.rolesPath, r) :: fs) = (Choices.ofFlags fs).after p r := by
  have hstart : Choices.after .none p r = (Choices.none.set (.playbook, p)).set (.rolesPath, r) :=
    rfl
  rw [Choices.ofFlags, List.foldl_cons, List.foldl_cons, ← hstart, foldl_set_after]
  rfl

theorem orExtras_after (extras : List String) (q : Request) :
    orExtras extras (q.after p r) = (orExtras extras q).after p r := by
  rw [orExtras, orExtras]
  split <;> rfl

/-- A request of an early flag is not for a run. -/
theorem after_of_early? {c : Command Meaning} {fs : List (Meaning × String)} {q : Request}
    (h : early? c fs = some q) : q.after p r = q := by
  induction fs with
  | nil => cases h
  | cons x rest ih =>
    obtain ⟨m, s⟩ := x
    -- Help and the release are the only flags that end the program.
    cases m with
    | help | version =>
      cases h
      rfl
    | playbook | rolesPath | verbose | json | render | extraVars => exact ih h

theorem word_playbookFlag :
    runCommand.word "-p" = .ok (.flag "-p" playbookFlag true none) := rfl

theorem word_rolesPathFlag :
    runCommand.word "-r" = .ok (.flag "-r" rolesPathFlag true none) := rfl

theorem read_playbookFlag (ws : List (Word Meaning)) :
    runCommand.read (.flag "-p" playbookFlag true none :: .plain p :: ws) =
      (runCommand.read ws).withFlags [(.playbook, p)] := rfl

theorem read_rolesPathFlag (ws : List (Word Meaning)) :
    runCommand.read (.flag "-r" rolesPathFlag true none :: .plain r :: ws) =
      (runCommand.read ws).withFlags [(.rolesPath, r)] := rfl

/-- The words of the two flags with the texts behind them, and what they are read as. -/
theorem runRequest_withFlags (hp : IsArgument p) (hr : IsArgument r) (extras : List String) :
    runRequest extras (withFlags p r args) = (runRequest extras args).after p r := by
  -- The two flags are known to the run command, and take the words behind them as their values.
  have hwords : runCommand.words (withFlags p r args) = (runCommand.words args).map fun ws =>
      .flag "-p" playbookFlag true none :: .plain p ::
        .flag "-r" rolesPathFlag true none :: .plain r :: ws := by
    rw [withFlags, words_cons (by decide) word_playbookFlag,
      words_cons (ne_separator_of_isArgument hp) (word_of_isArgument hp),
      words_cons (by decide) word_rolesPathFlag,
      words_cons (ne_separator_of_isArgument hr) (word_of_isArgument hr)]
    cases runCommand.words args <;> rfl
  rw [runRequest, runRequest, hwords]
  cases runCommand.words args with
  | error problem => rfl
  | ok ws =>
    dsimp only [Except.map]
    rw [read_playbookFlag, read_rolesPathFlag]
    dsimp only [Reading.withFlags, List.cons_append, List.nil_append]
    -- neither of the two flags ends the program
    have hearly (fs : List (Meaning × String)) :
        early? runCommand ((.playbook, p) :: (.rolesPath, r) :: fs) = early? runCommand fs := rfl
    rw [hearly]
    -- The words are read in the same way behind the two flags, so the outcomes are compared one by
    -- one.
    cases h : early? runCommand (runCommand.read ws).flags with
    | some q => exact (after_of_early? h).symm
    | none =>
      cases (runCommand.read ws).problem with
      | some problem => rfl
      | none =>
        dsimp only
        rw [ofFlags_after, ← orExtras_after]
        rfl

/-- **The flags of a command line are a choice beneath the others.** A command line with the two
flags behind the name of the command asks for what it asks for without them, with these values where
nothing else is chosen. -/
theorem request_flags (hp : IsArgument p) (hr : IsArgument r) :
    request ("run" :: withFlags p r args) = (request ("run" :: args)).after p r := by
  -- above the run command the flags are words that nobody knows
  have hwords : program.words (withFlags p r args) = (program.words args).map fun ws =>
      .unknown "-p" :: .plain p :: .unknown "-r" :: .plain r :: ws := by
    rw [withFlags, words_cons (by decide) (w := .unknown "-p") rfl,
      words_cons (ne_separator_of_isArgument hp) (word_of_isArgument hp),
      words_cons (by decide) (w := .unknown "-r") rfl,
      words_cons (ne_separator_of_isArgument hr) (word_of_isArgument hr)]
    cases program.words args <;> rfl
  have hrun (args : List String) :
      program.words ("run" :: args) = (program.words args).map (.plain "run" :: ·) :=
    words_cons (by decide) rfl
  rw [request, request, hrun, hrun, hwords]
  cases h : program.words args with
  | error problem => rfl
  | ok ws =>
    -- The program only looks for the name of the command, and leaves all that stands behind it.
    have hread (ws : List (Word Meaning)) :
        program.read (.plain "run" :: ws) = ⟨[], [], "run" :: ws.map Word.source, none⟩ := rfl
    dsimp only [Except.map]
    rw [hread, hread]
    show runRequest [] (withFlags p r (ws.map Word.source)) =
      (runRequest [] (ws.map Word.source)).after p r
    rw [sources_of_words h, runRequest_withFlags hp hr]

end Requests

/-! ### Settings -/

section Settings

variable {fs : FileSystem} {given env : Environment} {p r : String}

/-- The value of a setting: what is chosen, or else what a variable of the environment says. -/
def chosenOr (env : Environment) (name : String) (choice : Option String) : Value :=
  match choice with
  | some s => .str s
  | none => Settings.fromVariable env name

/-- The settings of a run. -/
theorem settings_eq (env : Environment) (c : Choices) (extra : Entries) :
    settings env c extra = .ok
      { playbook := chosenOr env Settings.playbookVariable c.playbook
        rolesPath := chosenOr env Settings.rolesPathVariable c.rolesPath
        verbosity := .int c.verbosity
        jsonOutput := .bool c.asJson
        render := .bool c.rendered
        extraVars := .map none extra } := by
  obtain ⟨playbook, rolesPath, verbosity, asJson, rendered, extraVars⟩ := c
  -- What is not chosen is null, and then the environment counts.
  cases playbook <;> cases rolesPath <;> rfl

/-- A variable with a text says the same as this text chosen beneath all else. -/
theorem chosenOr_getD {s name : String} (hs : s ≠ "") (h : given.get name = s)
    (choice : Option String) :
    chosenOr env name (some (choice.getD s)) = chosenOr given name choice := by
  cases choice with
  | some t => rfl
  | none => rw [chosenOr, chosenOr, Settings.fromVariable, h, if_neg hs, Option.getD_none]

/-- **The settings are those of the environment that gives them.** -/
theorem settings_flags (h : given.Gives env p r) (hp : p ≠ "") (hr : r ≠ "") (c : Choices)
    (extra : Entries) : settings env (c.after p r) extra = settings given c extra := by
  rw [settings_eq, settings_eq, Choices.after, chosenOr_getD hp h.playbook,
    chosenOr_getD hr h.rolesPath]

theorem supportsColor_eq (h : given.Gives env p r) (stderr : Stream) :
    stderr.supportsColor given = stderr.supportsColor env := by
  -- Whether there are colors is decided by other variables.
  rw [Stream.supportsColor, Stream.supportsColor, h.others "NO_COLOR" (by decide) (by decide),
    h.others "FORCE_COLOR" (by decide) (by decide), h.others "TERM" (by decide) (by decide)]

theorem run_flags (h : given.Gives env p r) (hp : p ≠ "") (hr : r ≠ "") (color : Bool)
    (c : Choices) : run fs env color (c.after p r) = run fs given color c := by
  have hextra : (c.after p r).extraVars = c.extraVars := rfl
  rw [run, run, hextra]
  cases ExtraVars.ofItems fs c.extraVars with
  | error f => rfl
  | ok extra =>
    dsimp only
    rw [settings_flags h hp hr]

/-- **Settings by flags and settings by the environment are interchangeable.** A run whose playbook
and whose folder of roles are given by flags in front shows what it shows, and ends as it ends, in
an environment that gives them in their place. This holds whatever else stands on the command line,
and whatever the two variables say where the flags are given. -/
theorem perform_flags {playbook rolesPath : String} (hp : IsArgument playbook)
    (hr : IsArgument rolesPath) (h : given.Gives env playbook rolesPath) (fs : FileSystem)
    (stderr : Stream) (rest : List String) :
    perform fs env stderr ("run" :: withFlags playbook rolesPath rest) =
      perform fs given stderr ("run" :: rest) := by
  rw [perform, perform, request_flags hp hr]
  -- Only for a run it matters which environment there is.
  cases request ("run" :: rest) with
  | help c | release | nothing | wrong c problem => rfl
  | run choices =>
    show run fs env (stderr.supportsColor env) (choices.after playbook rolesPath) =
      run fs given (stderr.supportsColor given) choices
    rw [run_flags h hp.1 hr.1, supportsColor_eq h]

/-- An environment with a terminal and an old playbook. -/
def oldEnvironment : Environment := [("TERM", "dumb"), (Settings.playbookVariable, "old.yml")]

/-- The same environment with other settings. -/
def newEnvironment : Environment :=
  [("TERM", "dumb"), (Settings.playbookVariable, "site.yml"), (Settings.rolesPathVariable, "roles")]

theorem gives_newEnvironment : newEnvironment.Gives oldEnvironment "site.yml" "roles" where
  playbook := rfl
  rolesPath := rfl
  others name hplaybook hroles := by
    have hplaybook : (name == Settings.playbookVariable) = false := beq_false_of_ne hplaybook
    have hroles : (name == Settings.rolesPathVariable) = false := beq_false_of_ne hroles
    simp [Environment.get, newEnvironment, oldEnvironment, List.lookup_cons, hplaybook, hroles]

theorem perform_flags_newEnvironment :
    IsArgument "site.yml" ∧ IsArgument "roles" ∧
      newEnvironment.Gives oldEnvironment "site.yml" "roles" ∧
      perform (.ofAnswers "/work" []) oldEnvironment .pipe
          ("run" :: withFlags "site.yml" "roles" ["-vp", "late.yml", "--he"]) =
        perform (.ofAnswers "/work" []) newEnvironment .pipe ["run", "-vp", "late.yml", "--he"] :=
  have hplaybook : IsArgument "site.yml" := ⟨by decide, by decide⟩
  have hroles : IsArgument "roles" := ⟨by decide, by decide⟩
  ⟨hplaybook, hroles, gives_newEnvironment,
    perform_flags hplaybook hroles gives_newEnvironment _ _ _⟩

end Settings

end CommandLine

end Playbook
