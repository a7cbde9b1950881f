import Playbook.Proofs.JsonReader
import Playbook.Proofs.Reporting

/-!
# Reports that are read back

A report as a JSON document is for other programs, so it should say all there is to say about plays:
who reads the document has the plays again.

* `Report.read?` — the plays of a document. A task without a loop is one with an empty loop.
* `Task.IsData`, `Play.IsData` — tasks and plays whose arguments and variables JSON has a form for,
  and whose other fields are texts.
* `Report.read?_ofPlays` — if nothing is rendered, **such plays have a report, and it is read as
  these plays**; so only the same plays have the same report. Nothing is left of the marks that tell
  one container in several places from several equal ones.

A document holds the fields of a task in an order that is not that of the record, and the loop only
if there is one; that no field takes the place of another is `Task.ofEntries?_entries`.
-/

namespace Playbook

/-! ### Reading plays -/

namespace Task

/-- The task that entries describe. -/
def ofEntries? (es : Entries) : Option Task :=
  match es.find? (.str "name"), es.find? (.str "module"), es.find? (.str "args"),
      es.find? (.str "vars"), es.find? (.str "source"), es.find? (.str "loop") with
  | some (.str name), some (.str module), some (.map _ args), some (.map _ vars),
      some (.str source), none => some ⟨name, .str module, args, vars, "", source⟩
  | some (.str name), some (.str module), some (.map _ args), some (.map _ vars),
      some (.str source), some (.str loop) => some ⟨name, .str module, args, vars, loop, source⟩
  | _, _, _, _, _, _ => none

/-- The task that a value describes. -/
def ofValue? : Value → Option Task
  | .map _ es => ofEntries? es
  | _ => none

end Task

namespace Play

/-- The play that entries describe. -/
def ofEntries? (es : Entries) : Option Play :=
  match es.find? (.str "name"), es.find? (.str "hosts"), es.find? (.str "tasks") with
  | some (.str name), some (.str hosts), some (.list _ tasks) =>
    (tasks.mapM Task.ofValue?).map fun tasks => ⟨name, hosts, tasks⟩
  | _, _, _ => none

/-- The play that a value describes. -/
def ofValue? : Value → Option Play
  | .map _ es => ofEntries? es
  | _ => none

end Play

/-- The plays of a document. -/
def Report.read? (document : String) : Option (List Play) :=
  match Json.read? document with
  | some (.list _ plays) => plays.mapM Play.ofValue?
  | _ => none

/-- What each of several things is read back from, all of them are. -/
theorem mapM_map_of_some {α β : Type} {read : β → Option α} {write : α → β} {xs : List α}
    (h : ∀ x ∈ xs, read (write x) = some x) : (xs.map write).mapM read = some xs := by
  induction xs with
  | nil => rfl
  | cons x rest ih =>
    obtain ⟨hx, hrest⟩ := List.forall_mem_cons.1 h
    rw [List.map_cons, List.mapM_cons, hx, ih hrest]
    rfl

/-! ### Plays that JSON has a form for -/

namespace Value.IsData

variable {k : String} {v : Value} {m : Option Nat} {es : Entries} {items : List Value}

theorem nil : (Value.map m []).IsData :=
  .map m (fun e he => by cases he) List.nodup_nil fun e he => by cases he

/-- One more member of another name. -/
theorem cons (hk : Json.IsText k) (hnew : ∀ e ∈ es, e.1 ≠ .str k) (hv : v.IsData)
    (h : (Value.map m es).IsData) : (Value.map m ((.str k, v) :: es)).IsData := by
  cases h with
  -- That the name is new is said of the entries, and that no name comes twice of their names.
  | map _ hkeys hnodup hvalues =>
    refine .map m (List.forall_mem_cons.2 ⟨⟨k, rfl, hk⟩, hkeys⟩) ?_
      (List.forall_mem_cons.2 ⟨hv, hvalues⟩)
    rw [List.map_cons, List.nodup_cons]
    refine ⟨fun hmem => ?_, hnodup⟩
    obtain ⟨e, he, hkey⟩ := List.mem_map.1 hmem
    exact hnew e he hkey

end Value.IsData

namespace Task

/-- **A task of data:** texts, and arguments and variables that JSON has a form for. -/
structure IsData (t : Task) : Prop where
  /-- The name is a text. -/
  name : Json.IsText t.name
  /-- The module is a text. -/
  module : ∃ s, t.module = .str s ∧ Json.IsText s
  /-- The arguments are data. -/
  args : (Value.map none t.args).IsData
  /-- The variables are data. -/
  vars : (Value.map none t.vars).IsData
  /-- The loop is a text. -/
  loop : Json.IsText t.loop
  /-- The source is a text. -/
  source : Json.IsText t.source

/-- A task in whose arguments and variables no container bears a mark. -/
def unmarked (t : Task) : Task :=
  { t with args := Value.unmarkedEntries t.args, vars := Value.unmarkedEntries t.vars }

variable {t : Task}

/-- **A task is read back from its entries.** -/
theorem ofEntries?_entries (h : ∃ s, t.module = .str s) : ofEntries? t.entries = some t := by
  obtain ⟨name, module, args, vars, loop, source⟩ := t
  obtain ⟨s, rfl⟩ : ∃ s, module = .str s := h
  -- A loop is written only if there is one, and read as the empty text otherwise.
  by_cases hloop : loop = ""
  · subst hloop
    rfl
  · rw [Task.entries]
    dsimp only
    rw [if_neg hloop]
    rfl

/-- Marks are dropped from a task as from its entries. -/
theorem unmarkedEntries_entries (h : ∃ s, t.module = .str s) :
    Value.unmarkedEntries t.entries = t.unmarked.entries := by
  obtain ⟨s, hmodule⟩ := h
  -- Texts bear no marks, whether the loop is one of them or not.
  have hloop : (if t.loop = "" then ([] : Entries) else [(.str "loop", .str t.loop)]).map
      (fun e => (e.1, e.2.unmarked)) =
      if t.loop = "" then [] else [(.str "loop", .str t.loop)] := by
    split <;> rfl
  rw [Task.entries, hmodule, Value.unmarkedEntries_eq, List.map_append, hloop, Task.entries]
  show _ = [_, (Value.str "module", t.module), _, _, _] ++ _
  rw [hmodule]
  rfl

/-- What is written for a task is data. -/
theorem IsData.entries (h : t.IsData) : (Value.map none t.entries).IsData := by
  obtain ⟨module, hmodule, htext⟩ := h.module
  -- The loop comes last, if it comes at all.
  have hloop : (Value.map none
      (if t.loop = "" then [] else [(.str "loop", .str t.loop)])).IsData := by
    split
    · exact .nil
    · exact .cons (by decide) (fun e he => by cases he) (.str h.loop) .nil
  rw [Task.entries, hmodule]
  refine .cons (by decide) ?_ (.str h.name) <| .cons (by decide) ?_ (.str htext) <|
    .cons (by decide) ?_ h.args <| .cons (by decide) ?_ h.vars <|
    .cons (by decide) ?_ (.str h.source) hloop
  -- no name comes twice
  all_goals split <;> simp

end Task

namespace Play

/-- **A play of data:** texts and tasks of data. -/
structure IsData (p : Play) : Prop where
  /-- The name is a text. -/
  name : Json.IsText p.name
  /-- The hosts are a text. -/
  hosts : Json.IsText p.hosts
  /-- The tasks are data. -/
  tasks : ∀ t ∈ p.tasks, t.IsData

theorem IsData.modules {p : Play} (h : p.IsData) : ∀ t ∈ p.tasks, ∃ s, t.module = .str s := by
  intro t ht
  obtain ⟨s, hs, -⟩ := (h.tasks t ht).module
  exact ⟨s, hs⟩

/-- A play in whose tasks no container bears a mark. -/
def unmarked (p : Play) : Play := { p with tasks := p.tasks.map Task.unmarked }

variable {p : Play}

/-- **A play is read back from its entries.** -/
theorem ofEntries?_entries (h : ∀ t ∈ p.tasks, ∃ s, t.module = .str s) :
    ofEntries? p.entries = some p := by
  -- Tasks are read back one by one.
  have htasks : (p.tasks.map fun t => Value.map none t.entries).mapM Task.ofValue? =
      some p.tasks :=
    mapM_map_of_some fun t ht => Task.ofEntries?_entries (h t ht)
  show ((p.tasks.map fun t => Value.map none t.entries).mapM Task.ofValue?).map _ = _
  rw [htasks]
  rfl

/-- Marks are dropped from a play as from its entries. -/
theorem unmarkedEntries_entries (h : ∀ t ∈ p.tasks, ∃ s, t.module = .str s) :
    Value.unmarkedEntries p.entries = p.unmarked.entries := by
  have htasks : Value.unmarkedItems (p.tasks.map fun t => .map none t.entries) =
      (p.tasks.map Task.unmarked).map fun t => .map none t.entries := by
    rw [Value.unmarkedItems_eq, List.map_map, List.map_map]
    exact List.map_congr_left fun t ht =>
      congrArg (Value.map none) (Task.unmarkedEntries_entries (h t ht))
  show [_, _, (Value.str "tasks", Value.list none (Value.unmarkedItems _))] = _
  rw [htasks]
  rfl

/-- What is written for a play is data. -/
theorem IsData.entries (h : p.IsData) : (Value.map none p.entries).IsData := by
  -- The list of tasks is data as each of them is.
  have htasks : (Value.list none (p.tasks.map fun t => .map none t.entries)).IsData := by
    refine .list none fun v hv => ?_
    obtain ⟨t, ht, rfl⟩ := List.mem_map.1 hv
    exact (h.tasks t ht).entries
  exact .cons (by decide) (by simp) (.str h.name) <| .cons (by decide) (by simp) (.str h.hosts) <|
    .cons (by decide) (by simp) htasks .nil

end Play

/-! ### Reading a report back -/

namespace Report

variable {o : Options} {ps : List Play}

/-- Marks are dropped from plays as from the value that their document is written from. -/
theorem unmarked_plays (h : ∀ p ∈ ps, p.IsData) :
    (Value.list none (ps.map fun p => .map none p.entries)).unmarked =
      .list none ((ps.map Play.unmarked).map fun p => .map none p.entries) := by
  show Value.list none (Value.unmarkedItems _) = _
  rw [Value.unmarkedItems_eq, List.map_map, List.map_map]
  refine congrArg (Value.list none) (List.map_congr_left fun p hp => ?_)
  exact congrArg (Value.map none) (Play.unmarkedEntries_entries (h p hp).modules)

theorem isData_plays (h : ∀ p ∈ ps, p.IsData) :
    (Value.list none (ps.map fun p => .map none p.entries)).IsData := by
  refine .list none fun v hv => ?_
  obtain ⟨p, hp, rfl⟩ := List.mem_map.1 hv
  exact (h p hp).entries

/-- A document of plays is read as these plays. -/
theorem read?_of_json {document : String} (h : ∀ p ∈ ps, p.IsData)
    (hread : Json.read? document =
      some (Value.list none (ps.map fun p => .map none p.entries)).unmarked) :
    read? document = some (ps.map Play.unmarked) := by
  rw [unmarked_plays h] at hread
  rw [read?, hread]
  -- Without marks these are plays of the same modules, and that is all that reading them asks for.
  refine mapM_map_of_some fun p hp => Play.ofEntries?_entries fun t ht => ?_
  obtain ⟨q, hq, rfl⟩ := List.mem_map.1 hp
  obtain ⟨u, hu, rfl⟩ := List.mem_map.1 ht
  exact (h q hq).modules u hu

/-- **Reports are read back.** Let plays be made of data, and let them be reported as a document
without rendering. Then they have a report, and it is read as these plays, each with the same tasks
in the same order and each task with the same fields; marks aside, only the same plays have the same
report. -/
theorem read?_ofPlays (hjson : o.asJson = true) (ho : o.rendered = false) (extra : Entries)
    (h : ∀ p ∈ ps, p.IsData) :
    (ofPlays o extra ps).fault = none ∧
      read? (ofPlays o extra ps).text = some (ps.map Play.unmarked) ∧
      ∀ qs : List Play, (∀ q ∈ qs, q.IsData) →
        (ofPlays o extra qs).text = (ofPlays o extra ps).text →
          qs.map Play.unmarked = ps.map Play.unmarked := by
  have hreport : ∀ qs : List Play, (∀ q ∈ qs, q.IsData) → (ofPlays o extra qs).fault = none ∧
      read? (ofPlays o extra qs).text = some (qs.map Play.unmarked) := by
    intro qs hqs
    -- A report ends with a line end, which is blank for the reader.
    have hgap : Json.Blank "\n".toList := Json.blank_line 0
    obtain ⟨t, ht, hread⟩ := Json.read?_json (isData_plays hqs) Json.report hgap
    have hdocument := json_of_not_rendered (s := .start extra (qs.flatMap Play.tasks)) ho rfl qs
    rw [ht] at hdocument
    rw [ofPlays, hjson]
    dsimp only [if_true]
    rw [hdocument]
    exact ⟨rfl, read?_of_json hqs hread⟩
  obtain ⟨hfault, hread⟩ := hreport ps h
  refine ⟨hfault, hread, fun qs hqs htext => ?_⟩
  -- The same text is read as the same plays.
  have hagain := (hreport qs hqs).2
  rw [htext, hread] at hagain
  exact (Option.some.inj hagain).symm

/-- A task whose texts need escapes of all kinds, with a list that two places share. -/
def escapedTask : Task where
  name := "say \"\\\" twice\n"
  module := .str "shell"
  args := [(.str "\x00\u00e9", .list (some 2) [.null, .bool true, .int (-120)]),
    (.str "😀", .map none [(.str "", .list (some 2) [.null, .bool true, .int (-120)])])]
  vars := []
  loop := "\u2028"
  source := "site.yml"

/-- Plays with this task, with a task without a loop, and without any task. -/
def escapedPlays : List Play :=
  [⟨"\t", "web", [escapedTask, { escapedTask with loop := "" }]⟩, ⟨"", "", []⟩]

theorem isData_escapedTask : escapedTask.IsData where
  name := by decide
  module := ⟨"shell", rfl, by decide⟩
  args := by
    have hlist : (Value.list (some 2) [.null, .bool true, .int (-120)]).IsData := by
      refine .list (some 2) fun v hv => ?_
      simp only [List.mem_cons, List.not_mem_nil, or_false] at hv
      rcases hv with rfl | rfl | rfl
      · exact .null
      · exact .bool true
      · exact .int (by decide)
    exact .cons (by decide) (by simp) hlist <|
      .cons (by decide) (by simp) (.cons (by decide) (by simp) hlist .nil) .nil
  vars := .nil
  loop := by decide
  source := by decide

/-- They are read back from their report. -/
theorem read?_ofPlays_escapedPlays : (∀ p ∈ escapedPlays, p.IsData) ∧
    (ofPlays ⟨0, true, false⟩ [] escapedPlays).fault = none ∧
      read? (ofPlays ⟨0, true, false⟩ [] escapedPlays).text =
        some (escapedPlays.map Play.unmarked) := by
  have hdata : ∀ p ∈ escapedPlays, p.IsData := by
    simp only [escapedPlays, List.forall_mem_cons]
    refine ⟨⟨by decide, by decide, ?_⟩, ⟨by decide, by decide, fun t ht => by cases ht⟩, ?_⟩
    · simp only [List.forall_mem_cons]
      refine ⟨isData_escapedTask, { isData_escapedTask with loop := by decide }, ?_⟩
      exact fun t ht => by cases ht
    · exact fun p hp => by cases hp
  obtain ⟨hfault, hread, -⟩ :=
    @read?_ofPlays ⟨0, true, false⟩ escapedPlays rfl rfl [] hdata
  exact ⟨hdata, hfault, hread⟩

end Report

end Playbook
