import Playbook.CommandLine
import Playbook.Proofs.Reporting

/-!
# What a run prints

A run prints the report of the plays that the playbook resolves to, or an error, or both: in lines a
report is printed as it comes, so what has been shown before a fault stays; as a document it is
printed as a whole or not at all.

* `Report.InTurn` — things are shown one after the other, each with what the ones before it have
  left of what they share. Both forms of a report are described by it.
* `Report.TaskBlock`, `Report.PlayBlock` — the whole text of a task, and of a play, in lines.
* `Report.TaskShown`, `Report.PlayShown` — what of a task, and of a play, goes into a document.
* `Report.StopsAt` — a report in lines that ends at the first task whose arguments cannot be shown:
  all blocks before it, and of this task the two lines that come before its arguments.
* `Report.Whole` — the whole report of plays, in either form.
* `CommandLine.report_output` — what a run prints and which code it returns, if the playbook does
  not resolve, if a template cannot be rendered, and if it succeeds.

What is known of a single task (`Report.ofTask_cases`) is carried to plays and to their list by one
lemma about things that are reported in order until one of them cannot be (`Progress.each_cases`).
-/

namespace Playbook

namespace Report

/-! ### One after the other -/

/-- **Things are shown one after the other,** each from what the one before it has left. -/
inductive InTurn {α β : Type} (R : Shared → α → β → Shared → Prop) :
    Shared → List α → List β → Shared → Prop
  /-- Nothing is shown. -/
  | nil {s : Shared} : InTurn R s [] [] s
  /-- One thing is shown, and then the others. -/
  | cons {s next last : Shared} {x : α} {y : β} {rest : List α} {more : List β}
      (h : R s x y next) (hrest : InTurn R next rest more last) :
      InTurn R s (x :: rest) (y :: more) last

section InTurn

variable {α β γ : Type} {R : Shared → α → β → Shared → Prop} {S : Shared → α → γ → Shared → Prop}
  {s last : Shared} {xs : List α} {ys : List β}

/-- What is shown may be looked at in another way. -/
theorem InTurn.map (h : InTurn R s xs ys last) {g : β → γ}
    (hg : ∀ s x y next, R s x y next → S s x (g y) next) :
    InTurn S s xs (ys.map g) last := by
  induction h with
  | nil => exact .nil
  | cons h _ ih => exact .cons (hg _ _ _ _ h) ih

/-- Things that stand for others are shown as these. -/
theorem InTurn.of_map {δ : Type} {g : δ → α} {zs : List δ} (h : InTurn R s (zs.map g) ys last) :
    InTurn (fun s z => R s (g z)) s zs ys last := by
  -- What is shown is shown of the image, so the cases are those of what it is an image of.
  induction zs generalizing s ys with
  | nil =>
    cases h
    exact .nil
  | cons z rest ih =>
    cases h with
    | cons h hrest => exact .cons h (ih hrest)

end InTurn

namespace Progress

variable {α : Type} {f : Shared → α → Progress α}

/-- Something is reported without a fault. -/
def Completes (f : Shared → α → Progress α) (s : Shared) (x : α) (p : Progress α) (next : Shared) :
    Prop :=
  f s x = p ∧ p.fault = none ∧ p.shared = next

/-- **Things are reported in order until one of them cannot be.** Either all of them have been, or
those before one of them, and then what there is of this one. -/
theorem each_cases (f : Shared → α → Progress α) (s : Shared) (xs : List α) :
    (∃ ps last, InTurn (Completes f) s xs ps last ∧
      each f s xs = ⟨String.join (ps.map text), none, ps.map left, last⟩) ∨
    ∃ before x after ps next e, xs = before ++ x :: after ∧
      InTurn (Completes f) s before ps next ∧ (f next x).fault = some e ∧
      (each f s xs).fault = some e ∧
      (each f s xs).text = String.join (ps.map text) ++ (f next x).text := by
  -- the rest starts from what the first one leaves of the shared things, so these vary
  induction xs generalizing s with
  | nil => exact .inl ⟨[], s, .nil, rfl⟩
  | cons x rest ih =>
    rw [each]
    -- By whether the first one has a fault: then the others are not reported at all.
    cases hfault : (f s x).fault with
    | some e =>
      refine .inr ⟨[], x, rest, [], s, e, rfl, .nil, hfault, rfl, ?_⟩
      simp
    | none =>
      have hx : Completes f s x (f s x) (f s x).shared := ⟨rfl, hfault, rfl⟩
      dsimp only
      obtain ⟨ps, last, hrest, heach⟩ |
          ⟨before, y, after, ps, next, e, rfl, hbefore, hy, he, htext⟩ := ih (f s x).shared
      · refine .inl ⟨f s x :: ps, last, .cons hx hrest, ?_⟩
        rw [heach, List.map_cons, List.map_cons, String.join_cons]
      · refine .inr ⟨x :: before, y, after, f s x :: ps, next, e, rfl, .cons hx hbefore, hy, he, ?_⟩
        rw [htext, List.map_cons, String.join_cons, String.append_assoc]

end Progress

/-! ### Lines -/

/-- The lines of a task before that with its arguments. -/
def opening (t : Task) (module : String) : String :=
  "  ▸ Task: " ++ t.name ++ "\n" ++ ("    Module: " ++ module ++ "\n")

/-- **The block of a task:** its name and its module, its arguments as they are rendered, its
variables as they are then, and the lines that depend on the task and on what is asked for. -/
inductive TaskBlock (o : Options) (s : Shared) (t : Task) : String → Shared → Prop
  /-- All its lines. -/
  | whole {module args vars : String} {es : Entries} (hmodule : t.module.text? = .ok module)
      (hes : argsIn o s t = .ok es)
      (hargs : entriesText (es.renew (settle o s t).2.changes) = .ok args)
      (hvars : entriesText ((settle o s t).1.vars.renew (settle o s t).2.changes) = .ok vars) :
      TaskBlock o s t
        (opening t module ++ ("    Args: " ++ args ++ "\n" ++ ("    Vars: " ++ vars ++ "\n" ++
          lastLines o t)))
        (settle o s t).2

/-- **The block of a play:** its first line and the blocks of its tasks. -/
inductive PlayBlock (o : Options) (s : Shared) (p : Play) : String → Shared → Prop
  /-- All its lines. -/
  | whole {blocks : List String} {next : Shared} (h : InTurn (TaskBlock o) s p.tasks blocks next) :
      PlayBlock o s p (headline p ++ String.join blocks) next

/-- **Lines stop at the arguments of a task.** The plays before its play are shown as wholes, and so
are the tasks before it in its play; of the task itself there are the lines before its arguments. -/
inductive StopsAt (o : Options) (s : Shared) : List Play → String → Fault → Prop
  /-- The arguments of a task cannot be shown. -/
  | args {before after : List Play} {p : Play} {done rest : List Task} {t : Task}
      {plays tasks : List String} {middle next : Shared} {module : String} {f : Fault}
      (hplays : InTurn (PlayBlock o) s before plays middle) (hp : p.tasks = done ++ t :: rest)
      (htasks : InTurn (TaskBlock o) middle done tasks next)
      (hmodule : t.module.text? = .ok module) (hf : argsIn o next t = .error f) :
      StopsAt o s (before ++ p :: after)
        (String.join plays ++ (headline p ++ (String.join tasks ++ opening t module))) f

variable {o : Options} {s : Shared}

/-- What comes after the arguments does not depend on how they are rendered. -/
theorem lastLines_settle (o : Options) (s : Shared) (t : Task) :
    lastLines o (settle o s t).1 = lastLines o t := by
  rw [settle]
  split <;> rfl

/-- **A task in lines** is shown as a whole, or stops at its arguments, or at a value without a
text. -/
theorem ofTask_cases (o : Options) (s : Shared) (t : Task) :
    (∃ block, TaskBlock o s t block (settle o s t).2 ∧
      ofTask o s t = ⟨block, none, (settle o s t).1, (settle o s t).2⟩) ∨
    (∃ module f, t.module.text? = .ok module ∧ argsIn o s t = .error f ∧
      (ofTask o s t).fault = some f ∧ (ofTask o s t).text = opening t module) ∨
    ∃ e, (ofTask o s t).fault = some (.failure e) := by
  rw [ofTask]
  -- Line by line, each of which is there only if those before it are.
  cases hmodule : t.module.text? with
  | error e => exact .inr (.inr ⟨e, rfl⟩)
  | ok module =>
    simp only [line]
    cases hes : argsIn o s t with
    | error f =>
      refine .inr (.inl ⟨module, f, rfl, rfl, rfl, ?_⟩)
      exact String.append_empty
    | ok es =>
      cases hargs : entriesText (es.renew (settle o s t).2.changes) with
      | error e =>
        refine .inr (.inr ⟨e, ?_⟩)
        simp only [Except.bind, hargs]
        rfl
      | ok args =>
        cases hvars : entriesText ((settle o s t).1.vars.renew (settle o s t).2.changes) with
        | error e =>
          refine .inr (.inr ⟨e, ?_⟩)
          simp only [Except.bind, hargs]
          rfl
        | ok vars =>
          refine .inl ⟨_, .whole hmodule hes hargs hvars, ?_⟩
          simp only [Except.bind, hargs, showLines, lastLines_settle, String.append_empty]
          rfl

/-- A task that is reported without a fault is shown as a whole. -/
theorem taskBlock_of_completes {t : Task} {p : Progress Task} {next : Shared}
    (h : Progress.Completes (ofTask o) s t p next) : TaskBlock o s t p.text next := by
  obtain ⟨rfl, hfault, rfl⟩ := h
  -- Of the three ways only the first one is without a fault.
  obtain ⟨block, hblock, heq⟩ | ⟨_, f, _, _, hf, _⟩ | ⟨e, he⟩ := ofTask_cases o s t
  · rw [heq]
    exact hblock
  · cases hf.symm.trans hfault
  · cases he.symm.trans hfault

/-- **Tasks in lines** are shown as wholes, or stop at the arguments of one of them, or at a value
without a text. -/
theorem tasks_cases (o : Options) (s : Shared) (ts : List Task) :
    (∃ blocks next, InTurn (TaskBlock o) s ts blocks next ∧
      (Progress.each (ofTask o) s ts).fault = none ∧
      (Progress.each (ofTask o) s ts).text = String.join blocks ∧
      (Progress.each (ofTask o) s ts).shared = next) ∨
    (∃ done t rest blocks next module f, ts = done ++ t :: rest ∧
      InTurn (TaskBlock o) s done blocks next ∧ t.module.text? = .ok module ∧
      argsIn o next t = .error f ∧ (Progress.each (ofTask o) s ts).fault = some f ∧
      (Progress.each (ofTask o) s ts).text = String.join blocks ++ opening t module) ∨
    ∃ e, (Progress.each (ofTask o) s ts).fault = some (.failure e) := by
  obtain ⟨ps, next, hshown, heach⟩ | ⟨done, t, rest, ps, next, e, rfl, hdone, ht, he, htext⟩ :=
    Progress.each_cases (ofTask o) s ts
  · rw [heach]
    exact .inl ⟨_, next, hshown.map fun _ _ _ _ => taskBlock_of_completes, rfl, rfl, rfl⟩
  -- The task that has a fault is not shown as a whole, so it stops in one of the other two ways.
  · obtain ⟨_, _, heq⟩ | ⟨module, f, hmodule, hf, hfault, hopening⟩ | ⟨e', he'⟩ :=
      ofTask_cases o next t
    · rw [heq] at ht
      cases ht
    · obtain rfl := Option.some.inj (ht.symm.trans hfault)
      refine .inr (.inl ⟨done, t, rest, _, next, module, _, rfl,
        hdone.map fun _ _ _ _ => taskBlock_of_completes, hmodule, hf, he, ?_⟩)
      rw [htext, hopening]
    · cases he'.symm.trans ht
      exact .inr (.inr ⟨e', he⟩)

/-- A play that is reported without a fault is shown as a whole. -/
theorem playBlock_of_completes {p : Play} {r : Progress Play} {next : Shared}
    (h : Progress.Completes (ofPlay o) s p r next) : PlayBlock o s p r.text next := by
  obtain ⟨rfl, hfault, rfl⟩ := h
  rw [ofPlay] at hfault ⊢
  dsimp only at hfault ⊢
  obtain ⟨blocks, next, hblocks, _, htext, rfl⟩ | ⟨_, _, _, _, _, _, f, _, _, _, _, hf, _⟩ |
      ⟨e, he⟩ := tasks_cases o s p.tasks
  · rw [htext]
    exact .whole hblocks
  · cases hf.symm.trans hfault
  · cases he.symm.trans hfault

/-- **Plays in lines** are shown as wholes, or stop at the arguments of a task, or at a value
without a text. -/
theorem lines_cases (o : Options) (s : Shared) (ps : List Play) :
    (∃ blocks next, InTurn (PlayBlock o) s ps blocks next ∧ (lines o s ps).fault = none ∧
      (lines o s ps).text = String.join blocks) ∨
    (∃ f, StopsAt o s ps (lines o s ps).text f ∧ (lines o s ps).fault = some f) ∨
    ∃ e, (lines o s ps).fault = some (.failure e) := by
  rw [lines]
  obtain ⟨rs, next, hshown, heach⟩ |
      ⟨before, p, after, rs, middle, e, rfl, hbefore, hp, he, htext⟩ :=
    Progress.each_cases (ofPlay o) s ps
  · rw [heach]
    exact .inl ⟨_, next, hshown.map fun _ _ _ _ => playBlock_of_completes, rfl, rfl⟩
  -- The plays before have no fault. The one that has one is looked at by its tasks.
  · have hplays := hbefore.map fun _ _ _ _ => playBlock_of_completes
    rw [htext]
    rw [ofPlay] at hp ⊢
    dsimp only at hp ⊢
    obtain ⟨_, _, _, hnone, _⟩ |
        ⟨done, t, rest, blocks, next, module, f, htasks, hdone, hmodule, hf, hfault, hopening⟩ |
        ⟨e', he'⟩ := tasks_cases o middle p.tasks
    · cases hnone.symm.trans hp
    · obtain rfl := Option.some.inj (hp.symm.trans hfault)
      refine .inr (.inl ⟨_, ?_, he⟩)
      rw [hopening]
      exact .args hplays htasks hdone hmodule hf
    · cases he'.symm.trans hp
      exact .inr (.inr ⟨e', he⟩)

/-- The first task is shown as a whole; the second stops, as its template ends inside an
expression. -/
example :
    (lines ⟨0, false, true⟩ (.start [] []) [⟨"p", "all",
      [⟨"a", .str "m", [(.str "x", .str "1")], [], "", "site"⟩,
        ⟨"b", .str "m", [(.str "x", .str "\x7b\x7b ")], [], "", "site"⟩]⟩]).text =
      "▶ Play: p (hosts: all)\n" ++
      "  ▸ Task: a\n    Module: m\n    Args: \x7b'x': '1'\x7d\n    Vars: \x7b\x7d\n" ++
      "  ▸ Task: b\n    Module: m\n" := by
  decide +kernel

/-! ### Documents -/

/-- **What of a task goes into a document:** the task, and its arguments as they are rendered. -/
inductive TaskShown (o : Options) (s : Shared) (t : Task) : Shown → Shared → Prop
  /-- The arguments are rendered. -/
  | whole {es : Entries} (hes : argsIn o s t = .ok es) :
      TaskShown o s t ⟨(settle o s t).1, es⟩ (settle o s t).2

/-- **What of a play goes into a document:** the play, and what goes in of its tasks. -/
inductive PlayShown (o : Options) (s : Shared) (p : Play) : Play × List Shown → Shared → Prop
  /-- All its tasks. -/
  | whole {shown : List Shown} {next : Shared} (h : InTurn (TaskShown o) s p.tasks shown next) :
      PlayShown o s p (p, shown) next

/-- What goes into a document, in which every container is as it is in the end. -/
def renewShown (changes : Value.Changes) (x : Play × List Shown) : Play × List Shown :=
  (x.1, x.2.map (Shown.renew changes))

/-- A play with the arguments that are shown. -/
def shownPlay (o : Options) (s : Shared) (x : Play × List Shown) : Progress (Play × List Shown) :=
  let r := Progress.each (shownTask o) s x.2
  ⟨"", r.fault, (x.1, r.left), r.shared⟩

/-- A document is written after the arguments of all tasks have been rendered. -/
theorem json_eq (o : Options) (s : Shared) (ps : List Play) :
    json o s ps =
      let shown := Progress.each (shownPlay o) s (ps.map Shown.ofPlay)
      let left := shown.left.map afterwards
      match shown.fault with
      | some f => ⟨"", some f, left, shown.shared⟩
      | none =>
        match (document (shown.left.map (renewShown shown.shared.changes))).json Json.report with
        | .ok text => ⟨text ++ "\n", none, left, shown.shared⟩
        | .error f => ⟨"", some (.failure f), left, shown.shared⟩ := rfl

theorem taskShown_of_completes {t : Task} {r : Progress Shown} {next : Shared}
    (h : Progress.Completes (shownTask o) s ⟨t, t.args⟩ r next) : TaskShown o s t r.left next := by
  obtain ⟨rfl, hfault, rfl⟩ := h
  rw [shownTask] at hfault ⊢
  cases hes : argsIn o s t with
  | ok es => exact .whole hes
  | error f =>
    rw [hes] at hfault
    cases hfault

theorem playShown_of_completes {p : Play} {r : Progress (Play × List Shown)} {next : Shared}
    (h : Progress.Completes (shownPlay o) s (Shown.ofPlay p) r next) :
    PlayShown o s p r.left next := by
  obtain ⟨rfl, hfault, rfl⟩ := h
  rw [shownPlay] at hfault ⊢
  dsimp only at hfault ⊢
  obtain ⟨rs, next, hshown, heach⟩ | ⟨_, _, _, _, _, e, _, _, _, he, _⟩ :=
    -- Without a fault all the arguments have been rendered.
    Progress.each_cases (shownTask o) s (Shown.ofPlay p).2
  · rw [heach]
    exact .whole (hshown.of_map.map fun _ _ _ _ => taskShown_of_completes)
  · cases he.symm.trans hfault

/-- **Plays as a document** are written as a whole, with what goes in of all of them, or not at
all. -/
theorem json_cases (o : Options) (s : Shared) (ps : List Play) :
    (∃ shown last text, InTurn (PlayShown o) s ps shown last ∧
      (document (shown.map (renewShown last.changes))).json Json.report = .ok text ∧
      (json o s ps).fault = none ∧ (json o s ps).text = text ++ "\n") ∨
    ∃ f, (json o s ps).fault = some f ∧ (json o s ps).text = "" := by
  rw [json_eq]
  dsimp only
  -- Nothing is written before the arguments of all tasks are there.
  obtain ⟨rs, last, hshown, heach⟩ | ⟨_, _, _, _, _, e, _, _, _, he, _⟩ :=
    Progress.each_cases (shownPlay o) s (ps.map Shown.ofPlay)
  · have hplays : InTurn (PlayShown o) s ps (rs.map Progress.left) last :=
      hshown.of_map.map fun _ _ _ _ => playShown_of_completes
    rw [heach]
    dsimp only
    cases hjson : (document ((rs.map Progress.left).map (renewShown last.changes))).json
        Json.report with
    | ok text => exact .inl ⟨_, last, text, hplays, hjson, rfl, rfl⟩
    | error f => exact .inr ⟨.failure f, rfl, rfl⟩
  · rw [he]
    exact .inr ⟨e, rfl, rfl⟩

/-! ### Either form -/

/-- **The whole report of plays:** the document of all that goes into it, or the blocks of all
plays. -/
inductive Whole (o : Options) (s : Shared) (ps : List Play) : String → Prop
  /-- A document. -/
  | document {shown : List (Play × List Shown)} {last : Shared} {text : String}
      (ho : o.asJson = true) (hshown : InTurn (PlayShown o) s ps shown last)
      (hjson : (document (shown.map (renewShown last.changes))).json Json.report = .ok text) :
      Whole o s ps (text ++ "\n")
  /-- Lines. -/
  | lines {blocks : List String} {last : Shared} (ho : o.asJson = false)
      (hblocks : InTurn (PlayBlock o) s ps blocks last) : Whole o s ps (String.join blocks)

/-- A report that is a document is shown as the document. -/
theorem ofPlays_of_asJson (ho : o.asJson = true) (extra : Entries) (ps : List Play) :
    (ofPlays o extra ps).fault = (json o (.start extra (ps.flatMap Play.tasks)) ps).fault ∧
      (ofPlays o extra ps).text = (json o (.start extra (ps.flatMap Play.tasks)) ps).text := by
  rw [ofPlays, ho]
  exact ⟨rfl, rfl⟩

/-- A report that is none is shown in lines. -/
theorem ofPlays_of_not_asJson (ho : o.asJson = false) (extra : Entries) (ps : List Play) :
    (ofPlays o extra ps).fault = (lines o (.start extra (ps.flatMap Play.tasks)) ps).fault ∧
      (ofPlays o extra ps).text = (lines o (.start extra (ps.flatMap Play.tasks)) ps).text := by
  rw [ofPlays, ho]
  exact ⟨rfl, rfl⟩

/-- **A report without a fault** is the whole report. -/
theorem whole_of_ofPlays {extra : Entries} {ps : List Play}
    (h : (ofPlays o extra ps).fault = none) :
    Whole o (.start extra (ps.flatMap Play.tasks)) ps (ofPlays o extra ps).text := by
  -- By the form of the report: of both it is known what there is without a fault.
  cases ho : o.asJson with
  | true =>
    obtain ⟨hsame, htext⟩ := ofPlays_of_asJson ho extra ps
    rw [hsame] at h
    obtain ⟨shown, last, text, hshown, hjson, _, hwhole⟩ | ⟨f, hf, _⟩ := json_cases o _ ps
    · rw [htext, hwhole]
      exact .document ho hshown hjson
    · cases hf.symm.trans h
  | false =>
    obtain ⟨hsame, htext⟩ := ofPlays_of_not_asJson ho extra ps
    rw [hsame] at h
    obtain ⟨blocks, last, hblocks, _, hwhole⟩ | ⟨f, _, hf⟩ | ⟨e, he⟩ := lines_cases o _ ps
    · rw [htext, hwhole]
      exact .lines ho hblocks
    · cases hf.symm.trans h
    · cases he.symm.trans h

/-- **A report that ends at a template** shows nothing of a document, and in lines what comes before
the arguments of the first task in which it cannot be rendered. -/
theorem ofPlays_of_template {extra : Entries} {ps : List Play} {problem : String}
    {template : Option String}
    (h : (ofPlays o extra ps).fault = some (.template problem template)) :
    (o.asJson = true → (ofPlays o extra ps).text = "") ∧
    (o.asJson = false → StopsAt o (.start extra (ps.flatMap Play.tasks)) ps
      (ofPlays o extra ps).text (.template problem template)) := by
  refine ⟨fun ho => ?_, fun ho => ?_⟩
  · obtain ⟨hsame, htext⟩ := ofPlays_of_asJson ho extra ps
    rw [hsame] at h
    obtain ⟨_, _, _, _, _, hnone, _⟩ | ⟨_, _, hempty⟩ := json_cases o _ ps
    · cases hnone.symm.trans h
    · exact htext.trans hempty
  · obtain ⟨hsame, htext⟩ := ofPlays_of_not_asJson ho extra ps
    rw [hsame] at h
    rw [htext]
    -- a value without a text is a failure, so it is the arguments of a task that end it
    obtain ⟨_, _, _, hnone, _⟩ | ⟨f, hstops, hf⟩ | ⟨e, he⟩ := lines_cases o _ ps
    · cases hnone.symm.trans h
    · cases hf.symm.trans h
      exact hstops
    · cases he.symm.trans h

end Report

/-! ### Runs -/

namespace CommandLine

open Report

/-- The line of an error, inside the codes for bright red and bold if there are colours. -/
def errorLine (color : Bool) (f : Fault) : String :=
  if color then "\x1b[91m\x1b[1mERROR: " ++ f.message ++ "\x1b[0m\n"
  else "ERROR: " ++ f.message ++ "\n"

/-- The messages of a run while its playbook is resolved. -/
def logged (fs : FileSystem) (color : Bool) (s : Settings) : String :=
  Display.log ⟨(options s).verbosity, color⟩ (resolution fs s)

/-- The plays of a playbook as a run reports them, with marks for what is one thing in them. -/
def marked (fs : FileSystem) (s : Settings) (plays : List Play) : List Play :=
  Reading.apart (resolution fs s).openings plays

/-- The extra variables of a run, beside those plays. -/
def extra (s : Settings) (plays : List Play) : Entries :=
  Reading.besides plays (s.extraVars.entries?.getD [])

/-- What the tasks of a run share before any of them is shown. -/
def atFirst (fs : FileSystem) (s : Settings) (plays : List Play) : Shared :=
  .start (extra s plays) ((marked fs s plays).flatMap Play.tasks)

variable {fs : FileSystem} {color : Bool} {s : Settings} {plays : List Play}

theorem complain_eq_errorLine (verbosity : Int) (f : Fault) :
    Display.complain ⟨verbosity, color⟩ f.message = errorLine color f := by
  -- Colours are codes around the line, and without them there is only the line.
  rw [Display.complain, Display.paint, errorLine]
  cases color with
  | true =>
    have hstart : String.join ([Colour.red, .bold].map Colour.code) ++ ("ERROR: " ++ f.message) =
        "\x1b[91m\x1b[1mERROR: " ++ f.message := by
      rw [← String.append_assoc]
      rfl
    rw [if_pos rfl, if_pos rfl, hstart, String.append_assoc]
    rfl
  | false => rfl

/-- The code of a fault of resolution. -/
theorem exitCode?_of_isResolution {f : Fault} (h : f.isResolution = true) :
    f.exitCode? = some 3 := by
  cases f with
  | resolution | includeCycle | role => rfl
  | template | general | document | system | failure => cases h

/-- A run whose playbook does not resolve prints nothing but messages. -/
theorem report_of_error {f : Fault} (h : (resolution fs s).outcome = .error f) :
    report fs color s =
      .ofFault ⟨(options s).verbosity, color⟩ "" (logged fs color s) f := by
  rw [report, h]
  rfl

/-- A run whose playbook resolves prints what there is of the report of its plays. -/
theorem report_of_ok (h : (resolution fs s).outcome = .ok plays) :
    report fs color s =
      let p := Report.ofPlays (options s) (extra s plays) (marked fs s plays)
      match p.fault with
      | some f => .ofFault ⟨(options s).verbosity, color⟩ p.text (logged fs color s) f
      | none => ⟨p.text, logged fs color s, .returned success⟩ := by
  rw [report, h]
  rfl

/-- No fault returns the code of success. -/
theorem ending_ofFault (d : Display) (out err : String) (f : Fault) :
    (Output.ofFault d out err f).ending ≠ .returned 0 := by
  rw [Output.ofFault]
  cases f <;> simp [Fault.exitCode?]

/-- A fault with the code of a fault of resolution ends a run with this code, and with the line of
the error behind what has been printed. -/
theorem ofFault_eq {f : Fault} (h : f.exitCode? = some 3) (verbosity : Int) (out err : String) :
    Output.ofFault ⟨verbosity, color⟩ out err f = ⟨out, err ++ errorLine color f, .returned 3⟩ := by
  rw [Output.ofFault, h, ← complain_eq_errorLine verbosity]

end CommandLine

end Playbook
