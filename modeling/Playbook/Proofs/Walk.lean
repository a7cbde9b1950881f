import Playbook.Proofs.Reports

/-!
# The first fault of a walk

The first pass stops at the first thing that is wrong. To say which one that is, without the pass,
the records at hand and those of the files they include are walked through in the order in which
they are written, and the walk does not stop at anything.

* `Inclusion.walk` — the visits of this walk: each is a record, with the file it is written in and
  the files that are being included there. Below a visit are those to the records of the file that
  it includes, unless that file is being included already or holds no records.
* `Inclusion.Visit.Faulty` — what is wrong at a visit by itself: its record is rejected
  (`Record.Rejected`), it includes a file that is being included already, or a file that cannot be
  opened or decoded. The fault is part of the account: a malformed record and a cycle bear the file
  of the record, a file bears its path and its cause.
* `Inclusion.resolve_first_fault` — records resolve if no visit is faulty, and otherwise end with
  the fault of the first visit that is.

A pass and a walk are compared by the faults they end with and find, `Run.fault?` and
`Visit.fault?`: the two agree (`Inclusion.fault?_expand`), by the recursion of the pass. That the
computed fault of a visit is the declared one (`Visit.fault?_eq_some`) is a matter of single records
and files.

Where every path is opened or refused by the system and the value of every document can be made, one
fault is left that is none of resolution: a key of a record that is too long to be written
(`Document.Overlong`).
-/

namespace Playbook

/-! ### Documents -/

namespace Value

variable {v : Value}

theorem kind_of_entries? {es : Entries} (h : v.entries? = some es) : v.kind = .mapping := by
  unfold entries? at h
  split at h
  · rfl
  · rfl
  · cases h

theorem kind_of_items? {items : List Value} (h : v.items? = some items) : v.kind = .sequence := by
  unfold items? at h
  split at h
  · rfl
  · rfl
  · cases h

/-- What is no mapping by its kind has no entries. -/
theorem entries?_eq_none (h : v.kind ≠ .mapping) : v.entries? = none :=
  Option.eq_none_iff_forall_ne_some.2 fun _ hes => h (kind_of_entries? hes)

/-- What is no list by its kind has no items. -/
theorem items?_eq_none (h : v.kind ≠ .sequence) : v.items? = none :=
  Option.eq_none_iff_forall_ne_some.2 fun _ hitems => h (kind_of_items? hitems)

end Value

namespace Document

variable {d : Document} {v : Value} {item : Value}

/-- A list of mappings has a key that is too long to be written, and what stands before its mapping
are records. -/
def Overlong (v : Value) : Prop :=
  ∃ before item after rs es, v.items? = some (before ++ item :: after) ∧
    List.Forall₂ IsRecordOf before rs ∧ item.entries? = some es ∧ HasLongKey es

/-- An item that is a mapping is taken by its entries. -/
theorem recordsFrom_cons_mapping {es : Entries} (h : item.entries? = some es) (i : Nat)
    (rest : List Value) :
    recordsFrom i (item :: rest) =
      (textKeys es).mapError .failure >>= fun r => (r :: ·) <$> recordsFrom (i + 1) rest := by
  have hkind : item.kind ≠ .null := by
    rw [Value.kind_of_entries? h]
    exact Value.Kind.noConfusion
  rw [recordsFrom, if_neg hkind, h]
  rfl

/-- An item that is a record is taken as this record. -/
theorem IsRecordOf.recordsFrom_cons {r : Record} (h : IsRecordOf item r) (i : Nat)
    (rest : List Value) :
    recordsFrom i (item :: rest) = (r :: ·) <$> recordsFrom (i + 1) rest := by
  cases h with
  | nothing hnull =>
    rw [recordsFrom, if_pos hnull]
    rfl
  | mapping hentries hkeys =>
    rw [recordsFrom_cons_mapping hentries, textKeys_of_not_hasLongKey hkeys]
    rfl

/-- Items that are records are taken one by one, and the walk goes on behind them. -/
theorem recordsFrom_append {before : List Value} {rs : List Record}
    (h : List.Forall₂ IsRecordOf before rs) (i : Nat) (rest : List Value) :
    recordsFrom i (before ++ rest) = (rs ++ ·) <$> recordsFrom (i + before.length) rest := by
  -- Induction on the records, which count the items before the walk goes on.
  induction h generalizing i with
  | nil =>
    change recordsFrom i rest = id <$> recordsFrom i rest
    rw [id_map]
  | @cons item r before rs hr _ ih =>
    rw [List.cons_append, hr.recordsFrom_cons, ih, List.length_cons, ← Nat.add_assoc,
      Nat.add_right_comm, Functor.map_map]
    rfl

theorem recordsOf_of_items {items : List Value} (h : v.items? = some items) :
    recordsOf v = recordsFrom 0 items := by
  have hkind : v.kind ≠ .null := by
    rw [Value.kind_of_items? h]
    exact Value.Kind.noConfusion
  rw [recordsOf, if_neg hkind, h]

/-- A value of another shape holds no records, for the reason it is of another shape. -/
theorem Misshapen.recordsOf_eq {e : Yaml.Error} (h : Misshapen v e) :
    recordsOf v = .error (.document e) := by
  cases h with
  | top hnull hkind => rw [recordsOf, if_neg hnull, Value.items?_eq_none hkind]
  | @item before after item rs hitems hbefore hnull hkind =>
    rw [recordsOf_of_items hitems, recordsFrom_append hbefore, Nat.zero_add, recordsFrom,
      if_neg hnull, Value.entries?_eq_none hkind]
    rfl

theorem Overlong.recordsOf_eq (h : Overlong v) :
    recordsOf v = .error (.failure Scalar.tooLongFailure) := by
  obtain ⟨before, item, after, rs, es, hitems, hbefore, hes, hlong⟩ := h
  rw [recordsOf_of_items hitems, recordsFrom_append hbefore, recordsFrom_cons_mapping hes,
    textKeys_of_hasLongKey hlong]
  rfl

/-- The only failure on the way from a value to its records is a key that is too long. -/
theorem overlong_of_recordsOf {f : Failure} (h : recordsOf v = .error (.failure f)) :
    Overlong v ∧ f = Scalar.tooLongFailure := by
  rw [recordsOf] at h
  split at h
  · cases h
  · split at h
    -- The walk over the items ends at the first misfit, and of the two kinds one is a failure.
    · next items hitems =>
      obtain ⟨_, _, hrun⟩ | ⟨before, item, after, rs, e, rfl, hbefore, he, hrun⟩ :=
        recordsFrom_cases 0 items
      · cases hrun.symm.trans h
      · cases he with
        | other => cases hrun.symm.trans h
        | key hes hlong =>
          cases hrun.symm.trans h
          exact ⟨⟨before, item, after, rs, _, hitems, hbefore, hes, hlong⟩, rfl⟩
    · cases h

/-- **Why a document gives no records:** it is rejected, or its value cannot be made, or one of the
keys is too long to be written. -/
theorem records_eq_error {headline : String} {file : Option String} {f : Fault} :
    d.records headline file = .error f ↔
      (∃ e, d.Rejects e ∧ f = .resolution .decode headline file (some (.document e))) ∨
      (∃ e, d.value = .error (.failure e) ∧ f = .failure e) ∨
      (∃ v, d.value = .ok v ∧ Overlong v) ∧ f = .failure Scalar.tooLongFailure := by
  constructor
  · intro h
    rw [records] at h
    -- By the value of the document: there is none for two reasons, or there is one without records.
    cases hvalue : d.value with
    | error l =>
      rw [hvalue] at h
      cases l with
      | document e =>
        cases h
        exact .inl ⟨e, .malformed hvalue, rfl⟩
      | failure e =>
        cases h
        exact .inr (.inl ⟨e, rfl, rfl⟩)
    | ok v =>
      rw [hvalue, Except.bind] at h
      obtain ⟨g, hg⟩ := exists_graph_of_value hvalue
      obtain ⟨_, _, hrun⟩ | ⟨e, he, hrun⟩ | ⟨_, _, _, _, _, _, _, hrun⟩ := recordsOf_cases hg
      · rw [hrun] at h
        cases h
      · rw [hrun] at h
        cases h
        exact .inl ⟨e, .misshapen hvalue he, rfl⟩
      · rw [hrun] at h
        cases h
        exact .inr (.inr ⟨⟨v, rfl, (overlong_of_recordsOf hrun).1⟩, rfl⟩)
  -- Each of the reasons leads back to the fault, by what decoding does with it.
  · rintro (⟨e, he, rfl⟩ | ⟨e, he, rfl⟩ | ⟨⟨v, hvalue, hlong⟩, rfl⟩)
    · cases he with
      | malformed hvalue =>
        rw [records, hvalue]
        rfl
      | misshapen hvalue hshape => rw [records, hvalue, Except.bind, hshape.recordsOf_eq]
    · rw [records, he]
      rfl
    · rw [records, hvalue, Except.bind, hlong.recordsOf_eq]

end Document

/-! ### Records -/

namespace Record

/-- **Why a record is rejected,** in the order in which it is looked at, with the sentence that says
so. -/
inductive Rejected (r : Record) : String → Prop
  /-- It includes more than one file. -/
  | twice {a b : String} {more : List String}
      (hkeys : r.inclusionKeys = (a :: b :: more).map fun s => .str s) :
      Rejected r ("task has more than one include_tasks directive: " ++
        String.intercalate ", " (a :: b :: more))
  /-- It includes something else than a path. -/
  | noPath {key : Value} (hkeys : r.inclusionKeys = [key])
      (hvalue : ∀ path, r.field? key ≠ some (.str path)) :
      Rejected r "include_tasks path must be a string"
  /-- It includes a file and names a module. -/
  | combined {key : Value} {path module : String} {others : List Value}
      (hkeys : r.inclusionKeys = [key]) (hvalue : r.field? key = some (.str path))
      (hmodules : r.moduleKeys = .str module :: others) :
      Rejected r ("include_tasks cannot be combined with module " ++ Literal.text module)
  /-- It includes no file and names more than one module. -/
  | modules {a b : String} {more : List String} (hkeys : r.inclusionKeys = [])
      (hmodules : r.moduleKeys = (a :: b :: more).map fun s => .str s) :
      Rejected r ("task has more than one module: " ++ String.intercalate ", " (a :: b :: more))

/-- A record includes a file and names no module. -/
def NamesFile (r : Record) (path : String) : Prop :=
  ∃ key, r.inclusionKeys = [key] ∧ r.field? key = some (.str path) ∧ r.moduleKeys = []

variable {r : Record} {source : String}

theorem joinKeys_texts (names : List String) (i : Nat) :
    joinKeys.texts i (names.map fun s => .str s) = .ok names := by
  induction names generalizing i with
  | nil => rfl
  | cons name rest ih =>
    rw [List.map_cons, joinKeys.texts, ih]
    rfl

/-- Keys that are texts can be listed. -/
theorem joinKeys_map_str (names : List String) :
    joinKeys (names.map fun s => .str s) = .ok (String.intercalate ", " names) := by
  rw [joinKeys, joinKeys_texts]
  rfl

/-- The keys of some kind of a record whose keys are texts, as these texts. -/
theorem HasTextKeys.exists_names (h : r.HasTextKeys) (p : Value → Bool) :
    ∃ names : List String, (Entries.keys r).filter p = names.map fun s => .str s := by
  have hall : ∀ k ∈ (Entries.keys r).filter p, ∃ s, k = .str s :=
    fun k hk => h k (List.mem_filter.1 hk).1
  generalize (Entries.keys r).filter p = keys at hall
  induction keys with
  | nil => exact ⟨[], rfl⟩
  | cons k rest ih =>
    obtain ⟨⟨s, rfl⟩, hrest⟩ := List.forall_mem_cons.1 hall
    obtain ⟨names, rfl⟩ := ih hrest
    exact ⟨s :: names, rfl⟩

/-- Without a file to include, a record asks for the task it describes. -/
theorem request_of_inclusionKeys (h : r.inclusionKeys = []) :
    r.request source = Request.task <$> r.build source := by
  have hinclusion : r.inclusion? source = .ok none := by
    rw [inclusion?, h]
  rw [request, hinclusion]
  rfl

theorem request_of_inclusion?_eq_error {f : Fault} (h : r.inclusion? source = .error f) :
    r.request source = .error f := by
  rw [request, h]
  rfl

/-- A record that includes a file asks for it by its path, which is seen from the folder of the
file that the record is written in. -/
theorem NamesFile.request_eq {path : String} (h : r.NamesFile path) :
    r.request source =
      .ok (.inclusion (Path.normalize (Path.join (Path.parent source) path))) := by
  obtain ⟨key, hkeys, hvalue, hmodules⟩ := h
  have hinclusion : r.inclusion? source =
      .ok (some (Path.normalize (Path.join (Path.parent source) path))) := by
    rw [inclusion?, hkeys]
    dsimp only
    rw [hvalue, hmodules]
  rw [request, hinclusion]
  rfl

/-- A record that is rejected is at fault for its shape, in its own file. -/
theorem Rejected.request_eq {headline : String} (h : r.Rejected headline) :
    r.request source = .error (.shape headline source) := by
  cases h with
  | @twice a b more hkeys =>
    refine request_of_inclusion?_eq_error ?_
    have hjoin := joinKeys_map_str (a :: b :: more)
    rw [List.map_cons, List.map_cons] at hkeys hjoin
    rw [inclusion?, hkeys]
    dsimp only
    rw [hjoin]
  | noPath hkeys hvalue =>
    refine request_of_inclusion?_eq_error ?_
    rw [inclusion?, hkeys]
    dsimp only
    split
    · next path hpath => exact absurd hpath (hvalue path)
    · rfl
  | combined hkeys hvalue hmodules =>
    refine request_of_inclusion?_eq_error ?_
    rw [inclusion?, hkeys]
    dsimp only
    rw [hvalue, hmodules]
    rfl
  | @modules a b more hkeys hmodules =>
    have hjoin := joinKeys_map_str (a :: b :: more)
    rw [List.map_cons, List.map_cons] at hmodules hjoin
    rw [request_of_inclusionKeys hkeys, build, hmodules]
    dsimp only
    rw [hjoin]
    rfl

/-- A record whose keys are texts and that asks for nothing is rejected. -/
theorem HasTextKeys.rejected_of_request (h : r.HasTextKeys) {f : Fault}
    (hrequest : r.request source = .error f) :
    ∃ headline, r.Rejected headline ∧ f = .shape headline source := by
  obtain ⟨inclusions, hinclusions⟩ :
      ∃ names : List String, r.inclusionKeys = names.map fun s => .str s := h.exists_names _
  obtain ⟨modules, hmodules⟩ :
      ∃ names : List String, r.moduleKeys = names.map fun s => .str s := h.exists_names _
  -- Both kinds of keys are texts, so they can be told apart by how many there are.
  -- what is found wrong is what the request fails with
  have hrejected : ∀ {headline}, r.Rejected headline →
      ∃ headline, r.Rejected headline ∧ f = .shape headline source :=
    fun hr => ⟨_, hr, Except.error.inj (hrequest.symm.trans hr.request_eq)⟩
  match inclusions, modules with
  | [], [] =>
    rw [request_of_inclusionKeys hinclusions, build, hmodules] at hrequest
    cases hrequest
  | [], [module] =>
    rw [request_of_inclusionKeys hinclusions, build, hmodules] at hrequest
    cases hrequest
  | [], a :: b :: more => exact hrejected (.modules hinclusions hmodules)
  | [key], modules =>
    by_cases hvalue : ∃ path, r.field? (.str key) = some (.str path)
    · obtain ⟨path, hpath⟩ := hvalue
      match modules with
      | [] =>
        have hnames : r.NamesFile path := ⟨.str key, hinclusions, hpath, hmodules⟩
        rw [hnames.request_eq] at hrequest
        cases hrequest
      | module :: others => exact hrejected (.combined hinclusions hpath hmodules)
    · exact hrejected (.noPath hinclusions fun path hpath => hvalue ⟨path, hpath⟩)
  | a :: b :: more, _ => exact hrejected (.twice hinclusions)

/-- **Records are rejected for a reason:** with texts as keys, there is no other fault. -/
theorem HasTextKeys.request_eq_error (h : r.HasTextKeys) {f : Fault} :
    r.request source = .error f ↔ ∃ headline, r.Rejected headline ∧ f = .shape headline source := by
  refine ⟨h.rejected_of_request, ?_⟩
  rintro ⟨headline, hrejected, rfl⟩
  exact hrejected.request_eq

/-- What a record includes is the path it names, seen from the folder of its file. -/
theorem namesFile_of_request {path : String} (h : r.request source = .ok (.inclusion path)) :
    ∃ name, r.NamesFile name ∧ path = Path.normalize (Path.join (Path.parent source) name) := by
  have hinclusion : r.inclusion? source = .ok (some path) := by
    -- A request for a file comes from the keys that include files, and from nothing else.
    simp only [request, bind, Except.bind, pure, Except.pure] at h
    split at h
    · cases h
    · split at h
      · next hsome =>
        cases h
        exact hsome
      · split at h <;> cases h
  unfold inclusion? at hinclusion
  split at hinclusion
  · cases hinclusion
  · next key hkeys =>
    split at hinclusion
    · next name hvalue =>
      split at hinclusion
      · next hmodules =>
        cases hinclusion
        exact ⟨name, ⟨key, hkeys, hvalue, hmodules⟩, rfl⟩
      · split at hinclusion <;> cases hinclusion
    · cases hinclusion
  · split at hinclusion <;> cases hinclusion

end Record

/-! ### Files -/

namespace Inclusion

/-- **What is wrong with a file that is included.** A file that the system refuses and a document
that is rejected are faults of resolution, with the path in the sentence and with a cause. The
others are failures. -/
inductive Unusable (fs : FileSystem) (path : String) : Fault → Prop
  /-- The system does not open the file. -/
  | refused {e : SystemError} (hread : fs.read path = .error (.system e)) :
      Unusable fs path (.resolution .taskFile ("failed to read included task file " ++ path) none
        (some (.system e)))
  /-- The content is no document of records. -/
  | rejected {content : Bytes} {e : Yaml.Error} (hread : fs.read path = .ok content)
      (h : (Document.bytes content).Rejects e) :
      Unusable fs path (.resolution .decode ("failed to parse included task file " ++ path) none
        (some (.document e)))
  /-- The path holds a character that no path has. -/
  | noPath (hread : fs.read path = .error .nullCharacter) :
      Unusable fs path (.failure (.value "embedded null byte"))
  /-- The value of the document cannot be made. -/
  | noValue {content : Bytes} {e : Failure} (hread : fs.read path = .ok content)
      (h : (Document.bytes content).value = .error (.failure e)) : Unusable fs path (.failure e)
  /-- A key of a record is too long to be written. -/
  | overlong {content : Bytes} {v : Value} (hread : fs.read path = .ok content)
      (hvalue : (Document.bytes content).value = .ok v) (h : Document.Overlong v) :
      Unusable fs path (.failure Scalar.tooLongFailure)

variable {fs : FileSystem}

/-- An included file gives no records exactly if something is wrong with it. -/
theorem recordsOf_eq_error {path : String} {f : Fault} :
    (recordsOf fs path).outcome = .error f ↔ Unusable fs path f := by
  rw [recordsOf, Run.after_outcome, FileSystem.recordsAt]
  cases hread : fs.read path with
  | error e =>
    constructor
    · intro h
      cases e with
      | system e =>
        cases h
        exact .refused hread
      | nullCharacter =>
        cases h
        exact .noPath hread
    -- What is wrong with the file says how it has been read, and it has been read in one way.
    · rintro (h | ⟨h, _⟩ | h | ⟨h, _⟩ | ⟨h, _⟩) <;> cases hread.symm.trans h <;> rfl
  | ok content =>
    dsimp only
    rw [Document.records_eq_error]
    constructor
    · rintro (⟨e, he, rfl⟩ | ⟨e, he, rfl⟩ | ⟨⟨v, hvalue, hlong⟩, rfl⟩)
      · exact .rejected hread he
      · exact .noValue hread he
      · exact .overlong hread hvalue hlong
    · rintro (h | ⟨h, he⟩ | h | ⟨h, he⟩ | ⟨h, hvalue, hlong⟩) <;> cases hread.symm.trans h
      · exact .inl ⟨_, he, rfl⟩
      · exact .inr (.inl ⟨_, he, rfl⟩)
      · exact .inr (.inr ⟨⟨_, hvalue, hlong⟩, rfl⟩)

/-! ### The walk -/

/-- A record on the walk, with the file it is written in and the files that are being included
there. -/
structure Visit where
  /-- The files that are being included, the one of the record last. -/
  active : List String
  /-- The file the record is written in. -/
  source : String
  /-- The record. -/
  record : Record

/-- A visit includes a path: its record names a file, which is seen from the folder of its own. -/
def Visit.Includes (v : Visit) (path : String) : Prop :=
  ∃ name, v.record.NamesFile name ∧ path = Path.normalize (Path.join (Path.parent v.source) name)

/-- **What is wrong at a visit.** -/
inductive Visit.Faulty (fs : FileSystem) (v : Visit) : Fault → Prop
  /-- Its record is rejected. -/
  | rejected {headline : String} (h : v.record.Rejected headline) :
      Faulty fs v (.shape headline v.source)
  /-- It includes a file that is being included already. -/
  | cycle {path : String} (h : v.Includes path) (hactive : fs.nameOf path ∈ v.active) :
      Faulty fs v (.includeCycle (v.active ++ [fs.nameOf path]) (some v.source))
  /-- It includes a file that something is wrong with. -/
  | file {path : String} {f : Fault} (h : v.Includes path) (hnew : fs.nameOf path ∉ v.active)
      (hfile : Unusable fs path f) : Faulty fs v f

/-- **The walk through records of a source** and all that they include, in the order in which it is
written. Nothing that is wrong on the way ends it. -/
def walk (fs : FileSystem) (active : List String) (source : String) : List Record → List Visit
  | [] => []
  | r :: rest =>
    -- The pass would stop at a cycle or at a file without records; the walk has nothing below them.
    let below : List Visit :=
      match r.request source with
      | .ok (.inclusion path) =>
        if _hnew : fs.nameOf path ∈ active then []
        else
          match _hfile : (recordsOf fs path).outcome with
          | .ok inner => walk fs (active ++ [fs.nameOf path]) path inner
          | .error _ => []
      | _ => []
    ⟨active, source, r⟩ :: (below ++ walk fs active source rest)
termination_by records => (Chain.unvisited fs.names active, records.length)
decreasing_by
  · obtain ⟨content, hread, _⟩ := FileSystem.read_of_recordsAt _hfile
    exact Prod.Lex.left _ _ (Chain.unvisited_append_lt (fs.nameOf_mem_names hread) _hnew)
  · exact Prod.Lex.right _ (by simp)

variable {active : List String} {source : String} {r : Record} {rest : List Record}

@[simp] theorem walk_nil : walk fs active source [] = [] := by
  rw [walk]

/-- The walk starts at the first record. -/
theorem exists_walk_cons (fs : FileSystem) (active : List String) (source : String) (r : Record)
    (rest : List Record) :
    ∃ later, walk fs active source (r :: rest) = ⟨active, source, r⟩ :: later := by
  rw [walk]
  exact ⟨_, rfl⟩

/-- Below a record that includes a file, which is new and holds records, the walk goes through
these. -/
theorem walk_cons_inclusion {path : String} {inner : List Record}
    (h : r.request source = .ok (.inclusion path)) (hnew : fs.nameOf path ∉ active)
    (hfile : fs.Holds path inner) :
    walk fs active source (r :: rest) =
      ⟨active, source, r⟩ ::
        (walk fs (active ++ [fs.nameOf path]) path inner ++ walk fs active source rest) := by
  rw [walk, h]
  simp only [hnew, ↓reduceDIte]
  split
  · next inner' hinner =>
    rw [(recordsOf_eq_ok.1 hinner).unique hfile]
  · next hfault =>
    cases hfault.symm.trans (recordsOf_eq_ok.2 hfile)

/-- Below any other record there is nothing. -/
theorem walk_cons_leaf
    (h : ∀ path inner, r.request source = .ok (.inclusion path) → fs.nameOf path ∉ active →
      ¬fs.Holds path inner) :
    walk fs active source (r :: rest) = ⟨active, source, r⟩ :: walk fs active source rest := by
  rw [walk]
  split
  · next path hrequest =>
    split
    · rfl
    · next hnew =>
      split
      · next inner hinner => exact absurd (recordsOf_eq_ok.1 hinner) (h path inner hrequest hnew)
      · rfl
  · rfl

/-- A visit that includes a path is to a record that asks for it. -/
theorem Visit.includes_iff {v : Visit} {path : String} :
    v.Includes path ↔ v.record.request v.source = .ok (.inclusion path) := by
  constructor
  · rintro ⟨name, hnames, rfl⟩
    exact hnames.request_eq
  · exact Record.namesFile_of_request

/-- **Every visit is to a record at hand, or to one of a file that another visit includes.** -/
theorem source_of_mem_walk {records : List Record} {v : Visit}
    (h : v ∈ walk fs active source records) :
    (v.active = active ∧ v.source = source ∧ v.record ∈ records) ∨
      ∃ u ∈ walk fs active source records, u.Includes v.source ∧ fs.nameOf v.source ∉ u.active ∧
        v.active = u.active ++ [fs.nameOf v.source] ∧
        ∃ inner, fs.Holds v.source inner ∧ v.record ∈ inner := by
  -- Induction on the walk: below a record, and behind it.
  induction active, source, records using walk.induct fs with
  | case1 active source =>
    rw [walk_nil] at h
    cases h
  | case2 active source r rest ihfile ihrest =>
    by_cases hinside : ∃ path inner, r.request source = .ok (.inclusion path) ∧
        fs.nameOf path ∉ active ∧ fs.Holds path inner
    · obtain ⟨path, inner, hrequest, hnew, hfile⟩ := hinside
      rw [walk_cons_inclusion hrequest hnew hfile] at h ⊢
      obtain rfl | h := List.mem_cons.1 h
      · exact .inl ⟨rfl, rfl, List.mem_cons_self⟩
      · rcases List.mem_append.1 h with h | h
        · -- the records of the file are below this record
          obtain ⟨hactive, hsource, hmem⟩ | ⟨u, hu, hbelow⟩ :=
            ihfile path hnew inner (recordsOf_eq_ok.2 hfile) h
          · refine .inr ⟨⟨active, source, r⟩, List.mem_cons_self, ?_⟩
            rw [hsource]
            exact ⟨Visit.includes_iff.2 hrequest, hnew, hactive, inner, hfile, hmem⟩
          · exact .inr ⟨u, List.mem_cons_of_mem _ (List.mem_append_left _ hu), hbelow⟩
        · obtain ⟨hactive, hsource, hmem⟩ | ⟨u, hu, hbelow⟩ := ihrest h
          · exact .inl ⟨hactive, hsource, List.mem_cons_of_mem _ hmem⟩
          · exact .inr ⟨u, List.mem_cons_of_mem _ (List.mem_append_right _ hu), hbelow⟩
    · -- there is nothing below this record
      have hleaf : walk fs active source (r :: rest) =
          ⟨active, source, r⟩ :: walk fs active source rest :=
        walk_cons_leaf fun path inner hrequest hnew hfile =>
          hinside ⟨path, inner, hrequest, hnew, hfile⟩
      rw [hleaf] at h ⊢
      obtain rfl | h := List.mem_cons.1 h
      · exact .inl ⟨rfl, rfl, List.mem_cons_self⟩
      · obtain ⟨hactive, hsource, hmem⟩ | ⟨u, hu, hbelow⟩ := ihrest h
        · exact .inl ⟨hactive, hsource, List.mem_cons_of_mem _ hmem⟩
        · exact .inr ⟨u, List.mem_cons_of_mem _ hu, hbelow⟩

end Inclusion

/-! ### Faults that are found and faults that are met -/

/-- The fault a run ends with. -/
def Run.fault? {α : Type} (x : Run α) : Option Fault :=
  match x.outcome with
  | .error f => some f
  | .ok _ => none

section Runs

variable {α β : Type}

theorem Run.fault?_eq_some {x : Run α} {f : Fault} : x.fault? = some f ↔ x.outcome = .error f := by
  rw [fault?]
  cases x.outcome <;> simp

theorem Run.fault?_eq_none {x : Run α} : x.fault? = none ↔ ∃ a, x.outcome = .ok a := by
  rw [fault?]
  cases x.outcome <;> simp

@[simp] theorem Run.fault?_map (g : α → β) (x : Run α) : (x.map g).fault? = x.fault? := by
  rw [fault?, fault?, map_outcome]
  cases x.outcome <;> rfl

/-- A run after another that has succeeded ends with a fault of its own. -/
theorem Run.fault?_andThen {x : Run α} {g : (a : α) → x.outcome = .ok a → Run β} {a : α}
    (h : x.outcome = .ok a) : (x.andThen g).fault? = (g a h).fault? := by
  rw [andThen_of_ok h]
  rfl

/-- Of two runs that do not depend on each other, the first that fails gives the fault. -/
theorem Run.fault?_andThen_map {γ : Type} (x : Run α) (y : Run β) (g : α → β → γ) :
    (x.andThen fun a _ => y.map (g a)).fault? = x.fault?.or y.fault? := by
  obtain ⟨e, he⟩ | ⟨a, ha⟩ := x.outcome_cases
  · rw [andThen_of_error he, fault?_eq_some.2 he]
    rfl
  · rw [fault?_andThen ha, fault?_map, fault?_eq_none.2 ⟨a, ha⟩]
    rfl

end Runs

namespace Inclusion

variable {fs : FileSystem} {active : List String} {source : String}

/-- What is found wrong at a visit. -/
def Visit.fault? (fs : FileSystem) (v : Visit) : Option Fault :=
  match v.record.request v.source with
  | .error f => some f
  | .ok (.task _) => none
  | .ok (.inclusion path) =>
    if fs.nameOf path ∈ v.active then
      some (.includeCycle (v.active ++ [fs.nameOf path]) (some v.source))
    else (recordsOf fs path).fault?

/-- What is found wrong at a visit is what is wrong at it. -/
theorem Visit.fault?_eq_some {v : Visit} (h : v.record.HasTextKeys) {f : Fault} :
    v.fault? fs = some f ↔ v.Faulty fs f := by
  rw [fault?]
  constructor
  · intro hfound
    split at hfound
    · next hrequest =>
      cases hfound
      obtain ⟨headline, hrejected, rfl⟩ := h.request_eq_error.1 hrequest
      exact .rejected hrejected
    · cases hfound
    · next path hrequest =>
      have hpath : v.Includes path := includes_iff.2 hrequest
      split at hfound
      · next hactive =>
        cases hfound
        exact .cycle hpath hactive
      · next hnew => exact .file hpath hnew (recordsOf_eq_error.1 (Run.fault?_eq_some.1 hfound))
  · rintro (hrejected | ⟨hpath, hactive⟩ | ⟨hpath, hnew, hfile⟩)
    · rw [hrejected.request_eq]
    · rw [includes_iff.1 hpath]
      exact if_pos hactive
    · rw [includes_iff.1 hpath]
      dsimp only
      rw [if_neg hnew]
      exact Run.fault?_eq_some.2 (recordsOf_eq_error.2 hfile)

/-- **The pass ends with the first fault that the walk finds.** -/
theorem fault?_expand (fs : FileSystem) (active : List String) (source : String)
    (records : List Record) :
    (expand fs active source records).fault? =
      (walk fs active source records).findSome? (Visit.fault? fs) := by
  induction active, source, records using expand.induct fs with
  | case1 active source =>
    -- Nothing is left to read: neither finds anything.
    rw [expand_nil, walk_nil]
    rfl
  | case2 active source r rest f hrequest =>
    -- A rejected record is the first fault, and the walk begins with it.
    have hfound : Visit.fault? fs ⟨active, source, r⟩ = some f := by
      rw [Visit.fault?, hrequest]
    obtain ⟨later, hwalk⟩ := exists_walk_cons fs active source r rest
    rw [expand_cons_fault hrequest, hwalk, List.findSome?_cons, hfound]
    rfl
  | case3 active source r rest t hrequest ih =>
    -- A task is no fault, and what follows decides.
    have hfound : Visit.fault? fs ⟨active, source, r⟩ = none := by
      rw [Visit.fault?, hrequest]
    have hleaf : walk fs active source (r :: rest) = _ :: walk fs active source rest :=
      walk_cons_leaf fun _ _ hinclusion => by cases hrequest.symm.trans hinclusion
    rw [expand_cons_task hrequest, Run.fault?_map, ih, hleaf, List.findSome?_cons, hfound]
  | case4 active source r rest path hrequest hactive =>
    -- A cycle is the fault of the record that closes it.
    have hfound : Visit.fault? fs ⟨active, source, r⟩ =
        some (.includeCycle (active ++ [fs.nameOf path]) (some source)) := by
      rw [Visit.fault?, hrequest]
      exact if_pos hactive
    obtain ⟨later, hwalk⟩ := exists_walk_cons fs active source r rest
    rw [expand_cons_cycle hrequest hactive, hwalk, List.findSome?_cons, hfound]
    rfl
  | case5 active source r rest path hrequest hnew ihfile ihrest =>
    -- What is wrong with a new file is the fault of the record that includes it.
    have hfound : Visit.fault? fs ⟨active, source, r⟩ = (recordsOf fs path).fault? := by
      rw [Visit.fault?, hrequest]
      exact if_neg hnew
    rw [expand_cons_inclusion hrequest hnew]
    obtain ⟨f, hfile⟩ | ⟨inner, hfile⟩ := (recordsOf fs path).outcome_cases
    · -- the file gives no records, and that is the first fault
      obtain ⟨later, hwalk⟩ := exists_walk_cons fs active source r rest
      rw [Run.andThen_of_error hfile, hwalk, List.findSome?_cons, hfound,
        Run.fault?_eq_some.2 hfile]
      rfl
    · -- the walk goes on below the file, and then behind it
      rw [Run.fault?_andThen hfile, Run.fault?_andThen_map, ihfile inner hfile, ihrest,
        walk_cons_inclusion hrequest hnew (recordsOf_eq_ok.1 hfile), List.findSome?_cons, hfound,
        Run.fault?_eq_none.2 ⟨inner, hfile⟩, List.findSome?_append]

/-- The records of all visits have texts as keys if those at hand do. -/
theorem hasTextKeys_of_mem_walk {records : List Record} (h : ∀ r ∈ records, r.HasTextKeys)
    {v : Visit} (hv : v ∈ walk fs active source records) : v.record.HasTextKeys := by
  -- Its record is at hand or from a document, and documents are decoded to records with such keys.
  obtain ⟨_, _, hmem⟩ | ⟨_, _, _, _, _, inner, ⟨content, _, hinner⟩, hmem⟩ := source_of_mem_walk hv
  · exact h _ hmem
  · exact Document.hasTextKeys_of_records hinner _ hmem

/-- **The first fault.** Let records with texts as keys be resolved. They resolve if nothing is
wrong at any visit of the walk through them, and end with a fault exactly if it is what is wrong at
a visit and nothing is wrong at those before it, whatever comes behind. Each visit is to one of the
records, in their source, or to a record of a file that another visit includes, by the path it is
included by. -/
theorem resolve_first_fault (fs : FileSystem) (records : List Record) (source : String)
    (active : List String) (htexts : ∀ r ∈ records, r.HasTextKeys) :
    ((∃ tasks, (resolve fs records source active).outcome = .ok tasks) ↔
      ∀ v ∈ walk fs (active ++ [fs.nameOf source]) source records, ∀ f, ¬v.Faulty fs f) ∧
    (∀ f, (resolve fs records source active).outcome = .error f ↔
      ∃ before v after,
        walk fs (active ++ [fs.nameOf source]) source records = before ++ v :: after ∧
        (∀ u ∈ before, ∀ g, ¬u.Faulty fs g) ∧ v.Faulty fs f) ∧
    ∀ v ∈ walk fs (active ++ [fs.nameOf source]) source records,
      (v.source = source ∧ v.record ∈ records) ∨
        ∃ u ∈ walk fs (active ++ [fs.nameOf source]) source records, u.Includes v.source ∧
          ∃ inner, fs.Holds v.source inner ∧ v.record ∈ inner := by
  have hpass := fault?_expand fs (active ++ [fs.nameOf source]) source records
  generalize hwalk : walk fs (active ++ [fs.nameOf source]) source records = visits at hpass
  have hfault : ∀ v ∈ visits, ∀ f, v.fault? fs = some f ↔ v.Faulty fs f := fun v hv f =>
    Visit.fault?_eq_some (hasTextKeys_of_mem_walk htexts (hwalk ▸ hv))
  -- Nothing is found at a visit exactly if nothing is wrong at it.
  have hsound : ∀ v ∈ visits, v.fault? fs = none ↔ ∀ f, ¬v.Faulty fs f := by
    intro v hv
    simp only [Option.eq_none_iff_forall_ne_some, ne_eq, hfault v hv]
  refine ⟨?_, fun f => ?_, fun v hv => ?_⟩
  · rw [resolve, ← Run.fault?_eq_none, hpass, List.findSome?_eq_none_iff]
    exact forall₂_congr hsound
  · rw [resolve, ← Run.fault?_eq_some, hpass, List.findSome?_eq_some_iff]
    constructor
    · rintro ⟨before, v, after, rfl, hv, hbefore⟩
      refine ⟨before, v, after, rfl, fun u hu => ?_, (hfault v (by simp) f).1 hv⟩
      exact (hsound u (List.mem_append_left _ hu)).1 (hbefore u hu)
    · rintro ⟨before, v, after, rfl, hbefore, hv⟩
      refine ⟨before, v, after, rfl, (hfault v (by simp) f).2 hv, fun u hu => ?_⟩
      exact (hsound u (List.mem_append_left _ hu)).2 (hbefore u hu)
  · rw [← hwalk] at hv
    obtain ⟨_, hsource, hmem⟩ | ⟨u, hu, hincludes, _, _, hinner⟩ := source_of_mem_walk hv
    · exact .inl ⟨hsource, hmem⟩
    · exact .inr ⟨u, hwalk ▸ hu, hincludes, hinner⟩

/-! ### A file with a missing one inside -/

/-- The task file `- include_tasks: b`. -/
def outerTask : Bytes :=
  [45, 32, 105, 110, 99, 108, 117, 100, 101, 95, 116, 97, 115, 107, 115, 58, 32, 98]

/-- The task file in a folder; the file it includes is missing. -/
def outerFiles : FileSystem := .ofAnswers "/w" [("sub/a", .ok outerTask)]

/-- A record that includes a path. -/
def including (path : String) : Record := [(.str "include_tasks", .str path)]

theorem namesFile_including (path : String) : (including path).NamesFile path :=
  ⟨.str "include_tasks", rfl, rfl, rfl⟩

theorem hasTextKeys_including (path : String) : (including path).HasTextKeys := by
  intro k hk
  exact ⟨"include_tasks", List.mem_singleton.1 hk⟩

/-- Whether records are the one that includes the path. -/
def isOuterTask : List Record → Bool
  | [[(.scalar (.str key), .scalar (.str path))]] => key == "include_tasks" && path == "b"
  | _ => false

theorem outerTask_records : (Document.bytes outerTask).records "" none = .ok [including "b"] := by
  obtain ⟨records, hrecords, h⟩ :=
    @Resolution.exists_records_of_any (.bytes outerTask) isOuterTask (by decide +kernel)
  unfold isOuterTask at h
  split at h
  · obtain ⟨rfl, rfl⟩ : _ ∧ _ := by simpa using h
    exact hrecords
  · cases h

/-- A record with two modules. -/
def twoModules : Record := [(.str "m", .null), (.str "n", .null)]

/-- The missing file is the first fault, although the record behind it is malformed. -/
theorem resolve_first_fault_outerFiles :
    (resolve outerFiles [including "sub/a", twoModules] "site").outcome =
      .error (.resolution .taskFile "failed to read included task file sub/b" none
        (some (.system (FileSystem.notFound "sub/b")))) := by
  have htexts : ∀ r ∈ [including "sub/a", twoModules], r.HasTextKeys := by
    intro r hr
    obtain rfl | rfl : r = including "sub/a" ∨ r = twoModules := by simpa using hr
    · exact hasTextKeys_including _
    · intro k hk
      obtain rfl | rfl : k = .str "m" ∨ k = .str "n" := by simpa [twoModules, Entries.keys] using hk
      · exact ⟨_, rfl⟩
      · exact ⟨_, rfl⟩
  have houter : (including "sub/a").request "site" = .ok (.inclusion "sub/a") :=
    (namesFile_including "sub/a").request_eq
  have hinner : (including "b").request "sub/a" = .ok (.inclusion "sub/b") := by
    rw [(namesFile_including "b").request_eq]
    exact congrArg (fun p => Except.ok (Request.inclusion p)) (by decide +kernel)
  have hnew : outerFiles.nameOf "sub/a" ∉ [outerFiles.nameOf "site"] := by decide +kernel
  have hfile : outerFiles.Holds "sub/a" [including "b"] := ⟨outerTask, rfl, outerTask_records⟩
  let first : Visit := ⟨[outerFiles.nameOf "site"], "site", including "sub/a"⟩
  let second : Visit :=
    ⟨[outerFiles.nameOf "site", outerFiles.nameOf "sub/a"], "sub/a", including "b"⟩
  -- Two visits come first: that to the record at hand, and that to the one in its file.
  have hwalk : walk outerFiles [outerFiles.nameOf "site"] "site" [including "sub/a", twoModules] =
      [first] ++ second :: walk outerFiles [outerFiles.nameOf "site"] "site" [twoModules] := by
    have hleaf : walk outerFiles second.active "sub/a" [including "b"] = [second] := by
      rw [walk_cons_leaf, walk_nil]
      rintro path inner hrequest - ⟨content, hread, -⟩
      cases hinner.symm.trans hrequest
      cases hread
    rw [walk_cons_inclusion houter hnew hfile]
    exact congrArg (fun visits => first :: (visits ++ _)) hleaf
  refine ((resolve_first_fault outerFiles _ "site" [] htexts).2.1 _).2
    ⟨[first], second, _, hwalk, fun u hu g hg => ?_, ?_⟩
  · -- the file in the folder is sound
    obtain rfl := List.mem_singleton.1 hu
    have hfound := (Visit.fault?_eq_some (hasTextKeys_including _)).2 hg
    rw [Visit.fault?, houter] at hfound
    dsimp only at hfound
    rw [if_neg hnew, Run.fault?_eq_none.2 ⟨_, recordsOf_eq_ok.2 hfile⟩] at hfound
    cases hfound
  · exact .file (Visit.includes_iff.2 hinner) (by decide +kernel) (.refused rfl)

end Inclusion

end Playbook
