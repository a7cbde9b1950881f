import Mathlib.Data.List.Nodup
import Playbook.Proofs.Passes

/-!
# Cycles of inclusions

The first pass refuses an inclusion of a file that is being included already. Here this is compared
with the graph of inclusions, in which paths that name the same file have the same normal name:

* `Inclusion.Names` — records of a source name a path if a well-formed record among them includes
  it;
* `Inclusion.Trail` — a chain of inclusions, from records at hand through the records of the file
  each of them names;
* `Inclusion.resolve_cycle_sound_complete` — a cycle that is reported is a trail that comes back to
  one of its own files, for the first time with its last step; a resolution that succeeds has no
  trail that comes back; and so without a trail that comes back no cycle is reported, however often
  trails that part from each other meet again.

The active files are the invariant of both directions. For soundness (`Inclusion.trail_of_cycle`)
they are a trail without repetition that has led to the source at hand, so a name found among them
closes a cycle. For completeness (`Inclusion.nodup_of_trail`) success at a list of records means
success at every file that the records name, with this file active (`Inclusion.expand_of_names`).
-/

namespace Playbook

/-- A chain goes on to what is not in it without a repetition. -/
theorem Chain.nodup_append_singleton {α : Type} {chain : List α} {next : α} (h : chain.Nodup)
    (hnew : next ∉ chain) : (chain ++ [next]).Nodup := by
  rw [← List.concat_eq_append]
  exact h.concat hnew

namespace Inclusion

/-! ### The graph of inclusions -/

/-- Records of a source name a path: a well-formed record among them includes it. -/
def Names (source : String) (records : List Record) (path : String) : Prop :=
  ∃ r ∈ records, r.request source = .ok (.inclusion path)

/-- **A chain of inclusions** that starts from records of a source, as the list of the paths it
visits, the source first. Each path is named by the records of the path before it; the last one need
not lead to a file. -/
inductive Trail (fs : FileSystem) : String → List Record → List String → Prop
  /-- The records at hand name a path, and the chain ends there. -/
  | last {source path : String} {records : List Record} (h : Names source records path) :
      Trail fs source records [source, path]
  /-- The records at hand name a path, and the chain goes on from the records of that file. -/
  | cons {source path : String} {records inner : List Record} {paths : List String}
      (h : Names source records path) (hfile : fs.Holds path inner)
      (rest : Trail fs path inner paths) : Trail fs source records (source :: paths)

variable {fs : FileSystem}

theorem Names.mono {source path : String} {r : Record} {rest : List Record}
    (h : Names source rest path) : Names source (r :: rest) path := by
  obtain ⟨r', hr', hrequest⟩ := h
  exact ⟨r', List.mem_cons_of_mem _ hr', hrequest⟩

theorem Names.head {source path : String} {r : Record} {rest : List Record}
    (h : r.request source = .ok (.inclusion path)) : Names source (r :: rest) path :=
  ⟨r, List.mem_cons_self, h⟩

/-- More records have more trails. -/
theorem Trail.mono {source : String} {r : Record} {rest : List Record} {paths : List String}
    (h : Trail fs source rest paths) : Trail fs source (r :: rest) paths := by
  cases h with
  | last h => exact .last h.mono
  | cons h hfile hrest => exact .cons h.mono hfile hrest

/-- A trail starts at its source and goes on from there. -/
theorem Trail.eq_cons {source : String} {records : List Record} {paths : List String}
    (h : Trail fs source records paths) :
    ∃ next more, paths = source :: next :: more := by
  induction h with
  | last h => exact ⟨_, [], rfl⟩
  | cons h hfile hrest ih =>
    obtain ⟨next, more, rfl⟩ := ih
    exact ⟨_, next :: more, rfl⟩

/-! ### Soundness -/

/-- **A cycle that is reported is a trail.** The chain of the fault consists of the files that were
active before the source at hand and of the names of a trail from there. It is without repetition
but for its last element, which is one of the others. -/
theorem trail_of_cycle {front chain : List String} {file : Option String} {source : String}
    {records : List Record}
    (h : (expand fs (front ++ [fs.nameOf source]) source records).outcome =
      .error (.includeCycle chain file))
    (hnodup : (front ++ [fs.nameOf source]).Nodup) :
    ∃ paths visited back, Trail fs source records paths ∧ front ++ paths.map fs.nameOf = chain ∧
      chain = visited ++ [back] ∧ visited.Nodup ∧ back ∈ visited := by
  generalize hactive : front ++ [fs.nameOf source] = active at h hnodup
  induction active, source, records using expand.induct fs generalizing front with
  | case1 active source =>
    rw [expand_nil] at h
    cases h
  | case2 active source r rest f hrequest =>
    -- a malformed record is no cycle
    rw [expand_cons_fault hrequest, Run.fail_outcome] at h
    obtain ⟨_, rfl⟩ | ⟨_, rfl⟩ := Record.fault_of_request hrequest <;> cases h
  | case3 active source r rest t hrequest ih =>
    rw [expand_cons_task hrequest, Run.map_outcome_eq_error] at h
    obtain ⟨paths, visited, back, htrail, hrest⟩ := ih hactive h hnodup
    exact ⟨paths, visited, back, htrail.mono, hrest⟩
  | case4 active source r rest path hrequest hmem =>
    -- the cycle closes here
    rw [expand_cons_cycle hrequest hmem] at h
    cases h
    refine ⟨[source, path], active, fs.nameOf path, .last (.head hrequest), ?_, rfl, hnodup, hmem⟩
    rw [← hactive]
    simp
  | case5 active source r rest path hrequest hnew ihfile ihrest =>
    obtain h | ⟨inner, hinner, h | ⟨-, h⟩⟩ := (expand_inclusion_eq_error hrequest hnew).1 h
    · -- a file that cannot be read is no cycle
      obtain ⟨_, h'⟩ | ⟨_, h'⟩ | ⟨_, h'⟩ := FileSystem.fault_of_recordsAt h <;> cases h'
    · -- a cycle below the file: the step to the file leads to it
      have hnodup' := Chain.nodup_append_singleton hnodup hnew
      obtain ⟨paths, visited, back, htrail, hchain, hrest⟩ :=
        ihfile inner (recordsOf_eq_ok.2 hinner) rfl h hnodup'
      refine ⟨source :: paths, visited, back, .cons (.head hrequest) hinner htrail, ?_, hrest⟩
      rw [← hchain, ← hactive]
      simp
    · -- a cycle below the records that are left
      obtain ⟨paths, visited, back, htrail, hrest⟩ := ihrest hactive h hnodup
      exact ⟨paths, visited, back, htrail.mono, hrest⟩

/-! ### Completeness -/

/-- **Success goes down every edge.** Where records succeed, every path they name is new and leads
to records that succeed while it is active. -/
theorem expand_of_names {active : List String} {source path : String} {records : List Record}
    {tasks : List Task} (h : (expand fs active source records).outcome = .ok tasks)
    (hnames : Names source records path) :
    fs.nameOf path ∉ active ∧ ∃ inner included, fs.Holds path inner ∧
      (expand fs (active ++ [fs.nameOf path]) path inner).outcome = .ok included := by
  induction records generalizing tasks with
  | nil =>
    obtain ⟨r, hr, _⟩ := hnames
    cases hr
  | cons r rest ih =>
    obtain ⟨r', hr', hrequest⟩ := hnames
    rcases List.mem_cons.1 hr' with rfl | hmem
    · obtain ⟨hnew, inner, included, _, hfile, hincluded, _⟩ :=
        (expand_inclusion_eq_ok hrequest).1 h
      exact ⟨hnew, inner, included, hfile, hincluded⟩
    · -- the record is further on, so what is left of the records succeeds too
      have hrest : ∃ more, (expand fs active source rest).outcome = .ok more := by
        obtain ⟨q, hq⟩ := request_of_expand_eq_ok h
        cases q with
        | task t =>
          obtain ⟨more, hmore, _⟩ := (expand_task_eq_ok hq).1 h
          exact ⟨more, hmore⟩
        | inclusion other =>
          obtain ⟨_, _, _, more, _, _, hmore, _⟩ := (expand_inclusion_eq_ok hq).1 h
          exact ⟨more, hmore⟩
      obtain ⟨more, hmore⟩ := hrest
      exact ih hmore ⟨r', hmem, hrequest⟩

/-- **Where records succeed, no trail comes back,** neither to itself nor to an active file. -/
theorem nodup_of_trail {front : List String} {source : String} {records : List Record}
    {tasks : List Task} {paths : List String} (htrail : Trail fs source records paths)
    (h : (expand fs (front ++ [fs.nameOf source]) source records).outcome = .ok tasks)
    (hnodup : (front ++ [fs.nameOf source]).Nodup) :
    (front ++ paths.map fs.nameOf).Nodup := by
  induction htrail generalizing front tasks with
  | @last source path records hnames =>
    obtain ⟨hnew, _⟩ := expand_of_names h hnames
    have hnext := Chain.nodup_append_singleton hnodup hnew
    rwa [List.append_assoc] at hnext
  | @cons source path records inner paths hnames hfile hrest ih =>
    -- the trail and the run go on from the same records, as a file holds one list of them
    obtain ⟨hnew, inner', included, hfile', hincluded⟩ := expand_of_names h hnames
    obtain rfl := hfile.unique hfile'
    have hall := ih hincluded (Chain.nodup_append_singleton hnodup hnew)
    rwa [List.append_assoc] at hall

/-! ### Both directions -/

/-- **Cycles are found, and only cycles are.** Let records of a source be resolved while no file is
active. A chain that is reported as a cycle consists of the normal names along a trail from these
records; it starts at the source and has no repetition but for its last name, which is one of the
others. If the records resolve, then no trail from them visits a file twice. So if no trail visits a
file twice then no cycle is reported. -/
theorem resolve_cycle_sound_complete (fs : FileSystem) (records : List Record) (source : String) :
    (∀ chain file, (resolve fs records source).outcome = .error (.includeCycle chain file) →
      ∃ paths visited back, Trail fs source records paths ∧ paths.map fs.nameOf = chain ∧
        chain = visited ++ [back] ∧ visited.head? = some (fs.nameOf source) ∧ visited.Nodup ∧
        back ∈ visited) ∧
    (∀ tasks, (resolve fs records source).outcome = .ok tasks →
      ∀ paths, Trail fs source records paths → (paths.map fs.nameOf).Nodup) ∧
    ((∀ paths, Trail fs source records paths → (paths.map fs.nameOf).Nodup) →
      ∀ chain file, (resolve fs records source).outcome ≠ .error (.includeCycle chain file)) := by
  have hsound : ∀ chain file,
      (resolve fs records source).outcome = .error (.includeCycle chain file) →
      ∃ paths visited back, Trail fs source records paths ∧ paths.map fs.nameOf = chain ∧
        chain = visited ++ [back] ∧ visited.head? = some (fs.nameOf source) ∧ visited.Nodup ∧
        back ∈ visited := by
    intro chain file h
    obtain ⟨paths, visited, back, htrail, rfl, hchain, hnodup, hback⟩ :=
      @trail_of_cycle fs [] chain file source records h (List.nodup_singleton _)
    refine ⟨paths, visited, back, htrail, rfl, hchain, ?_, hnodup, hback⟩
    obtain ⟨next, more, rfl⟩ := htrail.eq_cons
    cases visited with
    | nil => cases hback
    | cons first others =>
      obtain ⟨rfl, _⟩ := List.cons.inj hchain
      rfl
  refine ⟨hsound, ?_, ?_⟩
  · intro tasks h paths htrail
    exact @nodup_of_trail fs [] source records tasks paths htrail h (List.nodup_singleton _)
  · intro hnodup chain file h
    -- a reported chain has its last name twice, so its trail would visit a file twice
    obtain ⟨paths, visited, back, htrail, rfl, hchain, _, _, hback⟩ := hsound _ _ h
    have hall := hnodup paths htrail
    rw [hchain, List.nodup_append] at hall
    exact hall.2.2 back hback back (List.mem_singleton_self _) rfl

end Inclusion

end Playbook
