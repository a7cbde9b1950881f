import Mathlib.Data.Finset.Card
import Playbook.Proofs.Mappings
import Playbook.Proofs.Walk

/-!
# How records are classified

A task record is malformed, includes a file, or describes a task. Which of these it is depends on
the set of its names and on a few of its values, and not on the order in which they stand.

* `Record.inclusions`, `Record.modules` — the names by which a record includes files, and those that
  name modules, as sets.
* `Record.IsMalformed`, `Record.Describes` — when a record is malformed, and which task it
  describes. Both are said with these sets and with what is a member of the record.
* `Record.Asks` — what a record asks for, up to the sentence about a malformed one. It says the same
  of all orders of a record (`Record.Asks.perm`) and allows one answer (`Record.Asks.unique`).
* `Inclusion.Classifies` — what the first pass does with a record, alone and in front of others.
* `Inclusion.resolve_classified` — the first pass treats every record so, and another order in the
  records leaves the pass as it is, but for the sentence about a malformed record.

Sentences list names in the order of the record, so they are all that can differ. What the request
of a record is, is read off the lists of its keys (`Entries.AreNames.asks`); from there on only the
relation is used.
-/

namespace Playbook

/-! ### Names of a mapping -/

namespace Entries

variable {es es' : Entries}

theorem AreNames.hasTextKeys (h : AreNames es) : Record.HasTextKeys es := by
  intro k hk
  obtain ⟨e, he, rfl⟩ := List.mem_map.1 hk
  exact h.texts e he

/-- Names stay names in another order. -/
theorem AreNames.perm (h : AreNames es) (hperm : es.Perm es') : AreNames es' where
  texts e he := h.texts e (hperm.mem_iff.2 he)
  distinct := (hperm.map _).nodup_iff.1 h.distinct

/-- A name has the value that it stands with. -/
theorem AreNames.find?_eq_some (h : AreNames es) {k : String} {v : Value} :
    find? es (.str k) = some v ↔ (.str k, v) ∈ es := by
  refine ⟨fun hfind => ?_, fun hmem => h.find?_of_mem hmem⟩
  -- If no key is the name then nothing is found, and otherwise the first key with the name is the
  -- only one.
  by_cases hkey : ∃ e ∈ es, e.1 = .str k
  · obtain ⟨⟨key, w⟩, he, rfl : key = .str k⟩ := hkey
    obtain rfl : w = v := Option.some.inj ((h.find?_of_mem he).symm.trans hfind)
    exact he
  · rw [find?_of_forall_ne fun e he hk => hkey ⟨e, he, hk⟩] at hfind
    cases hfind

/-- A name stands with one value. -/
theorem AreNames.value_unique (h : AreNames es) {k : String} {v w : Value}
    (hv : (.str k, v) ∈ es) (hw : (.str k, w) ∈ es) : v = w :=
  Option.some.inj ((h.find?_eq_some.2 hv).symm.trans (h.find?_eq_some.2 hw))

end Entries

namespace Record

/-- The names in a record: its keys that are texts. -/
def names (r : Record) : Finset String :=
  ((Entries.keys r).filterMap fun k =>
    match k with
    | .str s => some s
    | _ => none).toFinset

/-- The names by which a record includes files. -/
def inclusions (r : Record) : Finset String :=
  r.names.filter fun s => Directive.ofText? s = some .includeTasks

/-- The names of a record that name modules, the inclusion of a role among them. -/
def modules (r : Record) : Finset String :=
  r.names.filter fun s =>
    Directive.ofText? s = none ∨ Directive.ofText? s = some .includeRole

variable {r r' : Record} {source : String}

theorem mem_names {s : String} : s ∈ r.names ↔ .str s ∈ Entries.keys r := by
  rw [names, List.mem_toFinset, List.mem_filterMap]
  constructor
  · rintro ⟨k, hk, hs⟩
    split at hs
    · cases hs
      exact hk
    · cases hs
  · exact fun h => ⟨.str s, h, rfl⟩

/-- The keys of a kind are the names of the kind, each of them once. -/
theorem exists_names (h : Entries.AreNames r) {p : Value → Bool} {q : String → Prop}
    [DecidablePred q] (hkind : ∀ s, p (.str s) = true ↔ q s) :
    ∃ list : List String, (Entries.keys r).filter p = list.map (fun s => .str s) ∧
      list.Nodup ∧ list.toFinset = r.names.filter q := by
  obtain ⟨list, hlist⟩ := h.hasTextKeys.exists_names p
  have hkeys : (list.map fun s => Value.str s).Nodup := hlist ▸ h.distinct.filter p
  refine ⟨list, hlist, hkeys.of_map, ?_⟩
  ext s
  have hmem : s ∈ list ↔ Value.str s ∈ (Entries.keys r).filter p := by
    rw [hlist]
    simp
  rw [List.mem_toFinset, hmem, List.mem_filter, hkind, Finset.mem_filter, mem_names]

theorem exists_inclusions (h : Entries.AreNames r) :
    ∃ list : List String, r.inclusionKeys = list.map (fun s => .str s) ∧
      list.Nodup ∧ list.toFinset = r.inclusions :=
  exists_names h fun s => by rw [decide_eq_true_iff, Directive.ofKey?_str]

theorem exists_modules (h : Entries.AreNames r) :
    ∃ list : List String, r.moduleKeys = list.map (fun s => .str s) ∧
      list.Nodup ∧ list.toFinset = r.modules :=
  exists_names h fun s => by rw [decide_eq_true_iff, Directive.ofKey?_str]

/-! ### What a record asks for -/

/-- A name of a record stands with a text. -/
def HasText (r : Record) (key s : String) : Prop := (.str key, .str s) ∈ r

/-- **A record is malformed:** it includes more than one file; or it includes one and does not say
which, or names a module besides; or it includes none and names more than one module. -/
def IsMalformed (r : Record) : Prop :=
  2 ≤ r.inclusions.card ∨
    (r.inclusions.card = 1 ∧ ((∀ key ∈ r.inclusions, ∀ path, ¬r.HasText key path) ∨
      r.modules.Nonempty)) ∨
    (r.inclusions.card = 0 ∧ 2 ≤ r.modules.card)

/-- A record that includes no file is malformed if it names two modules. -/
theorem isMalformed_of_inclusions_empty (h : r.inclusions = ∅) :
    r.IsMalformed ↔ 2 ≤ r.modules.card := by
  simp [IsMalformed, h]

/-- A record that includes one file is malformed if it does not say which, or names a module. -/
theorem isMalformed_of_inclusions_singleton {key : String} (h : r.inclusions = {key}) :
    r.IsMalformed ↔ (∀ path, ¬r.HasText key path) ∨ r.modules.Nonempty := by
  simp [IsMalformed, h]

/-- The text of a field: the one it holds, or an empty one if it holds no text. -/
def IsTextOf (r : Record) (key s : String) : Prop :=
  r.HasText key s ∨ (∀ t, ¬r.HasText key t) ∧ s = ""

/-- The mapping of a field: the one it holds, or an empty one if it holds no mapping. -/
def IsMappingOf (r : Record) (key : String) (es : Entries) : Prop :=
  (∃ v, (.str key, v) ∈ r ∧ v.entries? = some es) ∨
    (∀ v, (.str key, v) ∈ r → v.entries? = none) ∧ es = []

/-- The arguments that a value gives to a module: a mapping gives its entries, and what is no
mapping is the one argument itself. -/
def AreArgsOf (v : Value) (args : Entries) : Prop :=
  v.entries? = some args ∨ v.entries? = none ∧ args = [(.str "__value__", v)]

/-- **A record describes a task.** The module is the one that it names. If it names none, the module
is empty and has no arguments. -/
structure Describes (r : Record) (t : Task) : Prop where
  /-- The name is a field. -/
  name : r.IsTextOf "name" t.name
  /-- The variables are a field. -/
  vars : r.IsMappingOf "vars" t.vars
  /-- The loop is a field. -/
  loop : r.IsTextOf "loop" t.loop
  /-- The module is the one name of a module, and its value gives the arguments. -/
  module : (r.modules = ∅ ∧ t.module = .str "" ∧ t.args = []) ∨
    ∃ m v, r.modules = {m} ∧ t.module = .str m ∧ (.str m, v) ∈ r ∧ AreArgsOf v t.args

/-- **What a record asks for.** What the sentence about a malformed record is, is left open. -/
inductive Asks (r : Record) (source : String) : Except Fault Request → Prop
  /-- It is malformed. -/
  | malformed {headline : String} (h : r.IsMalformed) :
      Asks r source (.error (.shape headline source))
  /-- It includes a file, whose path is seen from the folder of the source. -/
  | inclusion {key path : String} (h : ¬r.IsMalformed) (hkey : r.inclusions = {key})
      (hpath : r.HasText key path) :
      Asks r source (.ok (.inclusion (Path.normalize (Path.join (Path.parent source) path))))
  /-- It describes a task of the source. -/
  | task {t : Task} (h : ¬r.IsMalformed) (hno : r.inclusions = ∅) (ht : r.Describes t)
      (hsource : t.source = source) : Asks r source (.ok (.task t))

theorem isTextOf_text (h : Entries.AreNames r) (key : String) :
    r.IsTextOf key (r.text (.str key)) := by
  rw [text, field?]
  split
  · next s hfind => exact .inl (h.find?_eq_some.1 hfind)
  · next hno => exact .inr ⟨fun t ht => hno t (h.find?_eq_some.2 ht), rfl⟩

theorem isMappingOf_mapping (h : Entries.AreNames r) (key : String) :
    r.IsMappingOf key (r.mapping (.str key)) := by
  rw [mapping, field?]
  -- A name that is found stands with a value, and no other value of the name can be a mapping.
  cases hfind : Entries.find? r (.str key) with
  | none =>
    refine .inr ⟨fun v hv => ?_, rfl⟩
    cases hfind.symm.trans (h.find?_eq_some.2 hv)
  | some v =>
    have hmem := h.find?_eq_some.1 hfind
    rw [Option.bind_some]
    cases hv : v.entries? with
    | none => exact .inr ⟨fun w hw => h.value_unique hmem hw ▸ hv, rfl⟩
    | some es => exact .inl ⟨v, hmem, hv⟩

theorem areArgsOf_argsOf (v : Value) : AreArgsOf v (argsOf v) := by
  rw [AreArgsOf, argsOf]
  cases v.entries? with
  | none => exact .inr ⟨rfl, rfl⟩
  | some es => exact .inl rfl

/-- The task with the fields of a record is described by it, if its module and arguments are. -/
theorem describes_taskWith (h : Entries.AreNames r) {module : Value} {args : Entries}
    (hmodule : (r.modules = ∅ ∧ module = .str "" ∧ args = []) ∨
      ∃ m v, r.modules = {m} ∧ module = .str m ∧ (.str m, v) ∈ r ∧ AreArgsOf v args) :
    r.Describes (r.taskWith module args source) where
  name := isTextOf_text h "name"
  vars := isMappingOf_mapping h "vars"
  loop := isTextOf_text h "loop"
  module := hmodule

/-- A record that includes one file asks for it, unless it is malformed. -/
theorem asks_of_inclusions_singleton (h : Entries.AreNames r) {key : String}
    (hkeys : r.inclusionKeys = [.str key]) (hinclusions : r.inclusions = {key}) :
    r.Asks source (r.request source) := by
  obtain ⟨names, hnames, -, hmodules⟩ := exists_modules h
  have hbad := isMalformed_of_inclusions_singleton hinclusions
  have hvalue : ∀ path, r.HasText key path ↔ r.field? (.str key) = some (.str path) :=
    fun path => h.find?_eq_some.symm
  by_cases hpath : ∃ path, r.HasText key path
  · obtain ⟨path, hpath⟩ := hpath
    match names with
    | [] =>
      have hfile : r.NamesFile path := ⟨_, hkeys, (hvalue path).1 hpath, hnames⟩
      rw [hfile.request_eq]
      refine .inclusion (fun hmalformed => ?_) hinclusions hpath
      obtain hno | hsome := hbad.1 hmalformed
      · exact hno path hpath
      · simp [← hmodules] at hsome
    | m :: others =>
      rw [(Rejected.combined hkeys ((hvalue path).1 hpath) hnames).request_eq]
      exact .malformed (hbad.2 (.inr (by simp [← hmodules])))
  · have hno : ∀ path, ¬r.HasText key path := fun path hp => hpath ⟨path, hp⟩
    have hvalues : ∀ path, r.field? (.str key) ≠ some (.str path) :=
      fun path hp => hno path ((hvalue path).2 hp)
    rw [(Rejected.noPath hkeys hvalues).request_eq]
    exact .malformed (hbad.2 (.inl hno))

/-- A record that includes no file asks for the task that it describes, unless it is malformed. -/
theorem asks_of_inclusions_empty (h : Entries.AreNames r) (hkeys : r.inclusionKeys = [])
    (hinclusions : r.inclusions = ∅) : r.Asks source (r.request source) := by
  obtain ⟨names, hnames, hnodup, hmodules⟩ := exists_modules h
  have hbad := isMalformed_of_inclusions_empty hinclusions
  have hcard : r.modules.card = names.length := hmodules ▸ List.toFinset_card_of_nodup hnodup
  match names with
  | a :: b :: more =>
    rw [(Rejected.modules hkeys hnames).request_eq]
    exact .malformed (hbad.2 (by simp [hcard]))
  | [] =>
    rw [request_of_inclusionKeys hkeys, build, hnames]
    refine .task (fun hmalformed => ?_) hinclusions
      (describes_taskWith h (.inl ⟨hmodules.symm, rfl, rfl⟩)) rfl
    have htwo := hbad.1 hmalformed
    simp [hcard] at htwo
  | [m] =>
    -- the one module stands with a value, which gives the arguments
    obtain ⟨v, hv⟩ : ∃ v, (.str m, v) ∈ r := by
      have hm : m ∈ r.modules := by simp [← hmodules]
      obtain ⟨⟨k, v⟩, hv, rfl : k = .str m⟩ :=
        List.mem_map.1 (mem_names.1 (Finset.mem_filter.1 hm).1)
      exact ⟨v, hv⟩
    rw [request_of_inclusionKeys hkeys, build, hnames]
    refine .task (fun hmalformed => ?_) hinclusions
      (describes_taskWith h (.inr ⟨m, v, hmodules.symm, rfl, hv, ?_⟩)) rfl
    · have htwo := hbad.1 hmalformed
      simp [hcard] at htwo
    · rw [field?, h.find?_eq_some.2 hv]
      exact areArgsOf_argsOf v

end Record

/-- **A record whose keys are names** asks for what stands in it. -/
theorem Entries.AreNames.asks {r : Record} (h : AreNames r) (source : String) :
    r.Asks source (r.request source) := by
  obtain ⟨includes, hincludes, hnodup, hinclusions⟩ := Record.exists_inclusions h
  match includes with
  | [] => exact Record.asks_of_inclusions_empty h hincludes hinclusions.symm
  | [key] => exact Record.asks_of_inclusions_singleton h hincludes hinclusions.symm
  | a :: b :: more =>
    have hcard : r.inclusions.card = (a :: b :: more).length :=
      hinclusions ▸ List.toFinset_card_of_nodup hnodup
    rw [(Record.Rejected.twice hincludes).request_eq]
    exact .malformed (.inl (by simp [hcard]))

/-! ### Records in another order -/

namespace Record

variable {r r' : Record} {source : String} {q q' : Except Fault Request}

theorem names_perm (h : r.Perm r') : r'.names = r.names := by
  ext s
  rw [mem_names, mem_names]
  exact (h.map _).mem_iff.symm

theorem inclusions_perm (h : r.Perm r') : r'.inclusions = r.inclusions := by
  rw [inclusions, inclusions, names_perm h]

theorem modules_perm (h : r.Perm r') : r'.modules = r.modules := by
  rw [modules, modules, names_perm h]

theorem isMalformed_perm (h : r.Perm r') : r'.IsMalformed ↔ r.IsMalformed := by
  simp only [IsMalformed, HasText, inclusions_perm h, modules_perm h, h.mem_iff]

theorem Describes.perm {t : Task} (ht : r.Describes t) (h : r.Perm r') : r'.Describes t where
  name := by simpa only [IsTextOf, HasText, h.mem_iff] using ht.name
  vars := by simpa only [IsMappingOf, h.mem_iff] using ht.vars
  loop := by simpa only [IsTextOf, HasText, h.mem_iff] using ht.loop
  module := by simpa only [modules_perm h, h.mem_iff] using ht.module

/-- **In another order, a record asks for the same.** -/
theorem Asks.perm (hq : r.Asks source q) (h : r.Perm r') : r'.Asks source q := by
  cases hq with
  | malformed hbad => exact .malformed ((isMalformed_perm h).2 hbad)
  | inclusion hgood hkey hpath =>
    refine .inclusion (fun hbad => hgood ((isMalformed_perm h).1 hbad)) ?_ (h.mem_iff.1 hpath)
    rw [inclusions_perm h, hkey]
  | task hgood hno ht hsource =>
    refine .task (fun hbad => hgood ((isMalformed_perm h).1 hbad)) ?_ (ht.perm h) hsource
    rw [inclusions_perm h, hno]

/-! ### One answer -/

theorem IsTextOf.unique (h : Entries.AreNames r) {key s s' : String} (hs : r.IsTextOf key s)
    (hs' : r.IsTextOf key s') : s = s' := by
  -- A text that is held is the only one, and where none is held both are empty.
  obtain hs | ⟨hno, rfl⟩ := hs
  · obtain hs' | ⟨hno, rfl⟩ := hs'
    · cases h.value_unique hs hs'
      rfl
    · exact absurd hs (hno s)
  · obtain hs' | ⟨-, rfl⟩ := hs'
    · exact absurd hs' (hno s')
    · rfl

theorem IsMappingOf.unique (h : Entries.AreNames r) {key : String} {es es' : Entries}
    (hes : r.IsMappingOf key es) (hes' : r.IsMappingOf key es') : es = es' := by
  obtain ⟨v, hv, hes⟩ | ⟨hno, rfl⟩ := hes
  · obtain ⟨v', hv', hes'⟩ | ⟨hno, rfl⟩ := hes'
    · obtain rfl := h.value_unique hv hv'
      exact Option.some.inj (hes.symm.trans hes')
    · cases (hno v hv).symm.trans hes
  · obtain ⟨v', hv', hes'⟩ | ⟨-, rfl⟩ := hes'
    · cases (hno v' hv').symm.trans hes'
    · rfl

theorem AreArgsOf.unique {v : Value} {args args' : Entries} (h : AreArgsOf v args)
    (h' : AreArgsOf v args') : args = args' := by
  obtain h | ⟨h, rfl⟩ := h <;> obtain h' | ⟨h', rfl⟩ := h'
  · exact Option.some.inj (h.symm.trans h')
  · cases h.symm.trans h'
  · cases h.symm.trans h'
  · rfl

/-- A record describes one task of a source. -/
theorem Describes.unique (h : Entries.AreNames r) {t t' : Task} (ht : r.Describes t)
    (ht' : r.Describes t') (hsource : t.source = t'.source) : t = t' := by
  have hmodule : t.module = t'.module ∧ t.args = t'.args := by
    -- Whether a module is named is said of one set of names, so both say the same of it.
    obtain ⟨hno, hm, hargs⟩ | ⟨m, v, hone, hm, hv, hargs⟩ := ht.module <;>
      obtain ⟨hno', hm', hargs'⟩ | ⟨m', v', hone', hm', hv', hargs'⟩ := ht'.module
    · exact ⟨hm.trans hm'.symm, hargs.trans hargs'.symm⟩
    · exact absurd (hno.symm.trans hone').symm (Finset.singleton_ne_empty m')
    · exact absurd (hno'.symm.trans hone).symm (Finset.singleton_ne_empty m)
    · obtain rfl := Finset.singleton_injective (hone.symm.trans hone')
      obtain rfl := h.value_unique hv hv'
      exact ⟨hm.trans hm'.symm, hargs.unique hargs'⟩
  obtain ⟨name, module, args, vars, loop, source⟩ := t
  obtain rfl : _ = vars := ht'.vars.unique h ht.vars
  obtain rfl : _ = name := ht'.name.unique h ht.name
  obtain rfl : _ = loop := ht'.loop.unique h ht.loop
  obtain ⟨rfl, rfl⟩ := hmodule
  obtain rfl : source = _ := hsource
  rfl

/-- **A record asks for one thing,** up to the sentence about a malformed record. -/
theorem Asks.unique (h : Entries.AreNames r) (hq : r.Asks source q) (hq' : r.Asks source q') :
    q = q' ∨ ∃ headline headline', q = .error (.shape headline source) ∧
      q' = .error (.shape headline' source) := by
  -- By both answers: an answer to a malformed record is none to one that is not, and a file is not
  -- included by no name.
  cases hq with
  | malformed hbad =>
    cases hq' with
    | malformed => exact .inr ⟨_, _, rfl, rfl⟩
    | inclusion hgood | task hgood => exact absurd hbad hgood
  | inclusion hgood hkey hpath =>
    cases hq' with
    | malformed hbad => exact absurd hbad hgood
    | inclusion _ hkey' hpath' =>
      obtain rfl := Finset.singleton_injective (hkey.symm.trans hkey')
      cases h.value_unique hpath hpath'
      exact .inl rfl
    | task _ hno => exact absurd (hkey.symm.trans hno) (Finset.singleton_ne_empty _)
  | task hgood hno ht hsource =>
    cases hq' with
    | malformed hbad => exact absurd hbad hgood
    | inclusion _ hkey => exact absurd (hkey.symm.trans hno) (Finset.singleton_ne_empty _)
    | task _ _ ht' hsource' =>
      rw [ht.unique h ht' (hsource.trans hsource'.symm)]
      exact .inl rfl

end Record

/-! ### Runs -/

namespace Run

variable {α β : Type} {x y : Run α}

/-- **Two runs are the same but for a sentence:** they are the same, or they leave the same trace
and end with a malformed record of the same file. -/
inductive SameButSentence (x y : Run α) : Prop
  /-- They are the same. -/
  | same (h : x = y)
  /-- They end with malformed records of one file. -/
  | shape {headline headline' source : String} (hevents : x.events = y.events)
      (hx : x.outcome = .error (.shape headline source))
      (hy : y.outcome = .error (.shape headline' source))

/-- A change of the result does not matter. -/
theorem SameButSentence.map (h : SameButSentence x y) (f : α → β) :
    SameButSentence (x.map f) (y.map f) := by
  cases h with
  | same h => exact .same (congrArg (Run.map f) h)
  | shape hevents hx hy =>
    exact .shape hevents (map_outcome_eq_error.2 hx) (map_outcome_eq_error.2 hy)

/-- After the same run, runs may differ in a sentence. -/
theorem SameButSentence.andThen (x : Run α) {f g : (a : α) → x.outcome = .ok a → Run β}
    (h : ∀ a ha, SameButSentence (f a ha) (g a ha)) :
    SameButSentence (x.andThen f) (x.andThen g) := by
  obtain ⟨e, he⟩ | ⟨a, ha⟩ := x.outcome_cases
  · rw [andThen_of_error he, andThen_of_error he]
    exact .same rfl
  · rw [andThen_of_ok ha, andThen_of_ok ha]
    cases h a ha with
    | same h =>
      rw [h]
      exact .same rfl
    | shape hevents hx hy => exact .shape (congrArg (x.events ++ ·) hevents) hx hy

/-- Brackets do not matter. -/
theorem andThen_assoc {γ : Type} (x : Run α) (f : α → Run β) (g : β → Run γ) :
    (x.andThen fun a _ => f a).andThen (fun b _ => g b) =
      x.andThen fun a _ => (f a).andThen fun b _ => g b := by
  obtain ⟨e, he⟩ | ⟨a, ha⟩ := x.outcome_cases
  · rw [andThen_of_error he, andThen_of_error he]
    exact andThen_of_error rfl
  · rw [andThen_of_ok ha, andThen_of_ok ha]
    obtain ⟨e, he⟩ | ⟨b, hb⟩ := (f a).outcome_cases
    · rw [andThen_of_error he]
      exact andThen_of_error he
    · rw [andThen_of_ok hb, ← List.append_assoc]
      exact andThen_of_ok (x := ⟨x.events ++ (f a).events, (f a).outcome⟩) hb

/-- To go on with nothing changes nothing. -/
theorem andThen_done {f : α → α} (x : Run α) (hf : ∀ a, f a = a) :
    (x.andThen fun a _ => done (f a)) = x := by
  obtain ⟨e, he⟩ | ⟨a, ha⟩ := x.outcome_cases
  · rw [andThen_of_error he, ← he]
  · rw [andThen_of_ok ha, done_events, List.append_nil, done_outcome, hf, ← ha]

end Run

/-! ### The first pass -/

namespace Inclusion

/-- The tasks of a file that a record of a source includes, while some files are being included. -/
def includeFile (fs : FileSystem) (active : List String) (source path : String) : Run (List Task) :=
  if fs.nameOf path ∈ active then
    .fail (.includeCycle (active ++ [fs.nameOf path]) (some source))
  else (recordsOf fs path).andThen fun records _ => resolve fs records path active

/-- How the first pass goes on with what a record asks for, and then with the records behind it. -/
def proceed (fs : FileSystem) (active : List String) (source : String)
    (rest : Run (List Task)) : Except Fault Request → Run (List Task)
  | .error f => .fail f
  | .ok (.task t) => rest.map (t :: ·)
  | .ok (.inclusion path) =>
    (includeFile fs active source path).andThen fun included _ => rest.map (included ++ ·)

variable {fs : FileSystem} {active : List String} {source : String} {r : Record}
  {rest : List Record}

theorem expand_cons : expand fs active source (r :: rest) =
    proceed fs active source (expand fs active source rest) (r.request source) := by
  cases hrequest : r.request source with
  | error f => exact expand_cons_fault hrequest
  | ok q =>
    cases q with
    | task t => exact expand_cons_task hrequest
    | inclusion path =>
      -- The file is asked for before its records, and a file that is being included ends there.
      rw [proceed, includeFile]
      by_cases hactive : fs.nameOf path ∈ active
      · rw [expand_cons_cycle hrequest hactive, if_pos hactive]
        rfl
      · rw [expand_cons_inclusion hrequest hactive, if_neg hactive, Run.andThen_assoc]
        rfl

/-- A file that is included leaves a trace, or ends with a cycle. -/
theorem includeFile_cases (fs : FileSystem) (active : List String) (source path : String) :
    (∃ chain, includeFile fs active source path = .fail (.includeCycle chain (some source))) ∨
      (includeFile fs active source path).events ≠ [] := by
  rw [includeFile]
  split
  · exact .inl ⟨_, rfl⟩
  -- The records of a file are read with a trace, and what follows only adds to it.
  · refine .inr fun hempty => ?_
    have hprefix := Run.events_prefix_andThen (recordsOf fs path)
      fun records _ => resolve fs records path active
    rw [hempty] at hprefix
    cases List.prefix_nil.1 hprefix

/-- **What the first pass does with a record,** alone and in front of others. Alone, a malformed
record is a fault without a trace, and a record that describes a task gives that task without a
trace. -/
structure Classifies (fs : FileSystem) (active : List String) (source : String) (r : Record) :
    Prop where
  /-- The record ends the pass with a fault of its shape if it is malformed, and only then. -/
  malformed : (∃ headline, resolve fs [r] source active = .fail (.shape headline source)) ↔
    r.IsMalformed
  /-- The record is an inclusion if it includes one file and is not malformed, and only then. -/
  inclusion : (∃ path, resolve fs [r] source active =
    includeFile fs (active ++ [fs.nameOf source]) source path) ↔
      r.inclusions.card = 1 ∧ ¬r.IsMalformed
  /-- The record is a task otherwise. -/
  task : (∃ t, resolve fs [r] source active = .done [t]) ↔
    r.inclusions.card = 0 ∧ ¬r.IsMalformed
  /-- The pass does what the record asks for, and goes on with the records behind it. -/
  proceeds : ∃ q, r.Asks source q ∧ ∀ rest, resolve fs (r :: rest) source active =
    proceed fs (active ++ [fs.nameOf source]) source (resolve fs rest source active) q

/-- An inclusion is told from what leaves no trace, unless it closes a cycle. -/
theorem includeFile_ne {path : String} {x : Run (List Task)} (htrace : x.events = [])
    (hcycle : ∀ chain, x ≠ .fail (.includeCycle chain (some source))) :
    includeFile fs active source path ≠ x := by
  rintro rfl
  obtain ⟨chain, h⟩ | h := includeFile_cases fs active source path
  · exact hcycle chain h
  · exact h htrace

/-- **The first pass classifies every record** whose keys are names. -/
theorem classifies (h : Entries.AreNames r) (fs : FileSystem) (active : List String)
    (source : String) : Classifies fs active source r := by
  have hproceeds : ∀ rest, resolve fs (r :: rest) source active =
      proceed fs (active ++ [fs.nameOf source]) source (resolve fs rest source active)
        (r.request source) := fun rest => expand_cons
  have halone := hproceeds []
  rw [resolve, resolve, expand_nil] at halone
  have hasks := h.asks source
  generalize hq : r.request source = q at hproceeds halone hasks
  -- what is asked for settles which of the three runs this is, and the runs can be told apart
  cases hasks with
  | @malformed headline hbad =>
    have halone : resolve fs [r] source active = .fail (.shape headline source) := halone
    have hnot : ∀ {n}, ¬(r.inclusions.card = n ∧ ¬r.IsMalformed) := fun h => h.2 hbad
    refine ⟨iff_of_true ⟨_, halone⟩ hbad, iff_of_false ?_ hnot, iff_of_false ?_ hnot,
      _, .malformed hbad, hproceeds⟩
    · rintro ⟨path, hpath⟩
      exact includeFile_ne rfl (fun _ h => by cases h) (hpath.symm.trans halone)
    · rintro ⟨t, ht⟩
      cases ht.symm.trans halone
  | @inclusion key path hgood hkey hpath =>
    have halone : resolve fs [r] source active = includeFile fs _ source _ :=
      halone.trans (Run.andThen_done _ List.append_nil)
    have hcard : r.inclusions.card = 1 := hkey ▸ Finset.card_singleton key
    refine ⟨iff_of_false ?_ hgood, iff_of_true ⟨_, halone⟩ ⟨hcard, hgood⟩, iff_of_false ?_ ?_,
      _, .inclusion hgood hkey hpath, hproceeds⟩
    · rintro ⟨headline, hfault⟩
      exact includeFile_ne rfl (fun _ h => by cases h) (halone.symm.trans hfault)
    · rintro ⟨t, ht⟩
      exact includeFile_ne rfl (fun _ h => by cases h) (halone.symm.trans ht)
    · rw [hcard]
      exact fun h => absurd h.1 Nat.one_ne_zero
  | @task t hgood hno ht hsource =>
    have halone : resolve fs [r] source active = .done [t] := halone
    have hcard : r.inclusions.card = 0 := hno ▸ Finset.card_empty
    refine ⟨iff_of_false ?_ hgood, iff_of_false ?_ ?_, iff_of_true ⟨t, halone⟩ ⟨hcard, hgood⟩,
      _, .task hgood hno ht hsource, hproceeds⟩
    · rintro ⟨headline, hfault⟩
      cases hfault.symm.trans halone
    · rintro ⟨path, hpath⟩
      exact includeFile_ne rfl (fun _ h => by cases h) (hpath.symm.trans halone)
    · rw [hcard]
      exact fun h => absurd h.1 Nat.zero_ne_one

/-- The pass goes on alike with requests that differ in a sentence and lists that do. -/
theorem sameButSentence_proceed {x y : Run (List Task)} (h : x.SameButSentence y)
    {q q' : Except Fault Request} (hq : q = q' ∨ ∃ headline headline',
      q = .error (.shape headline source) ∧ q' = .error (.shape headline' source)) :
    (proceed fs active source x q).SameButSentence (proceed fs active source y q') := by
  obtain rfl | ⟨headline, headline', rfl, rfl⟩ := hq
  · cases q with
    | error f => exact .same rfl
    | ok request =>
      cases request with
      | task t => exact h.map _
      | inclusion path => exact .andThen _ fun _ _ => h.map _
  · exact .shape rfl rfl rfl

/-- Records in another order resolve alike. -/
theorem sameButSentence_expand {records records' : List Record}
    (hperm : List.Forall₂ List.Perm records records')
    (h : ∀ r ∈ records, Entries.AreNames r) :
    (expand fs active source records).SameButSentence (expand fs active source records') := by
  -- Along the two lists. The records at the front ask for the same, up to the sentence.
  induction hperm with
  | nil => exact .same rfl
  | @cons r r' rest rest' hr _ ih =>
    obtain ⟨hnames, hrest⟩ := List.forall_mem_cons.1 h
    rw [expand_cons, expand_cons]
    -- what the other record asks for is also what this one asks for
    have hasks := ((hnames.perm hr).asks source).perm hr.symm
    exact sameButSentence_proceed (ih hrest) ((hnames.asks source).unique hnames hasks)

/-- **Records are classified by their names, in whatever order these stand.** The first pass treats
each record whose keys are names as malformed, as an inclusion or as a task, as `Classifies` says.
Lists of such records that differ in the orders of their keys give the same tasks, or end with the
same fault, or end with malformed records of one file. -/
theorem resolve_classified (fs : FileSystem) (source : String) (active : List String) :
    (∀ r : Record, Entries.AreNames r → Classifies fs active source r) ∧
    ∀ records records' : List Record, List.Forall₂ List.Perm records records' →
      (∀ r ∈ records, Entries.AreNames r) →
      (resolve fs records source active).SameButSentence
        (resolve fs records' source active) :=
  ⟨fun _ h => classifies h fs active source,
    fun _ _ hperm h => sameButSentence_expand hperm h⟩

/-- A command with a name. -/
def namedCommand : Record := [(.str "name", .str "list"), (.str "shell", .str "ls")]

theorem areNames_namedCommand : Entries.AreNames namedCommand where
  texts e he := by
    obtain rfl | rfl : e = _ ∨ e = _ := by simpa [namedCommand] using he
    · exact ⟨"name", rfl⟩
    · exact ⟨"shell", rfl⟩
  distinct := by simp [namedCommand]

theorem areNames_twoModules : Entries.AreNames twoModules where
  texts e he := by
    obtain rfl | rfl : e = _ ∨ e = _ := by simpa [twoModules] using he
    · exact ⟨"m", rfl⟩
    · exact ⟨"n", rfl⟩
  distinct := by simp [twoModules]

/-- Behind a command, two modules are malformed in both orders, each with its own sentence. -/
theorem resolve_classified_twoModules :
    Classifies (.ofAnswers "/" []) [] "site" namedCommand ∧
      Classifies (.ofAnswers "/" []) [] "site" twoModules ∧
      (resolve (.ofAnswers "/" []) [namedCommand, twoModules] "site").SameButSentence
        (resolve (.ofAnswers "/" []) [namedCommand.reverse, twoModules.reverse] "site") ∧
      (resolve (.ofAnswers "/" []) [namedCommand, twoModules] "site").outcome =
        .error (.shape "task has more than one module: m, n" "site") ∧
      (resolve (.ofAnswers "/" []) [namedCommand.reverse, twoModules.reverse] "site").outcome =
        .error (.shape "task has more than one module: n, m" "site") := by
  obtain ⟨hclassifies, hperm⟩ := resolve_classified (.ofAnswers "/" []) "site" []
  refine ⟨hclassifies _ areNames_namedCommand, hclassifies _ areNames_twoModules,
    hperm _ _ (.cons (List.reverse_perm _).symm (.cons (List.reverse_perm _).symm .nil)) ?_, ?_, ?_⟩
  · simp [areNames_namedCommand, areNames_twoModules]
  · rw [resolve, expand_cons_task rfl, expand_cons_fault rfl]
    rfl
  · rw [resolve, expand_cons_task rfl, expand_cons_fault rfl]
    rfl

end Inclusion

end Playbook
