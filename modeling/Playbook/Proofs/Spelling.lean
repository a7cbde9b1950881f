import Playbook.Proofs.Likeness
import Playbook.Proofs.Paths

/-!
# The spelling of a source

Records are resolved from the path of their source, and paths of one normal name are one source. How
the path is spelt can be told from the tasks and the faults, which bear it, and from nothing else.

* `FileSystem.OpensByName` — the file systems this is said of: those in which opening a normal path
  depends on its normal name only. Links can break it, and so can a limit on the length of a path.
* `Paired` — two outcomes are both results or both faults, and related as such. What runs are put
  together from takes pairs to pairs (`Paired.map`, `Run.paired_andThen`).
* `Task.Respelt`, `Fault.Respelt` — the same task, or the same fault, but for the spelling of the
  files in it.
* `Inclusion.resolve_respelt` — under two spellings of the source, records resolve to the same tasks
  or end with the same fault, up to spelling.

Two runs from one list of records are compared, step by step. Their paths differ at every depth, as
a record names a file as it is seen from its own one. What carries the comparison is that the normal
name of what is beside a file is told from the normal name of the file (`Path.absolute_beside_eq`),
for files that are spelt with their own name at the end. A path that opens has a name at its end, so
the condition, which is asked for the source, comes for free for every file below it.
-/

namespace Playbook

/-! ### Paths that end in a name -/

namespace Path

/-- **A path ends in a plain name:** what comes last is no step to the folder itself or above. -/
def EndsInName (p : String) : Prop := IsName (name p).toList

instance (p : String) : Decidable (EndsInName p) := inferInstanceAs (Decidable (IsName _))

/-- A path that ends in a name is, from a working directory, in the folder that it is cut from. -/
theorem EndsInName.sameWay_parent_absolute {p : String} (h : EndsInName p) (directory : String) :
    SameWay (parent (absolute directory p)) (join directory (parent p)) := by
  -- seen from the directory the path is its folder there, and its name in it
  have hparts : absolute directory p = normalize (join (join directory (parent p)) (name p)) := by
    rw [absolute_eq]
    exact (((sameWay_parent_name p).symm.join_left directory).trans
      (sameWay_join_assoc directory (parent p) (name p)).symm).normalize_eq
  rw [hparts]
  exact sameWay_parent_normalize_join h _

/-- **What is beside a file** has a normal name that is told from the one of the file. -/
theorem EndsInName.absolute_beside_eq {p : String} (h : EndsInName p) (directory v : String) :
    absolute directory (beside p v) = beside (absolute directory p) v := by
  rw [absolute_beside, beside]
  exact ((h.sameWay_parent_absolute directory).symm.join_right v).normalize_eq

/-! ### Normal paths that end in no name -/

/-- **Steps up come first:** in a normal place, which is listed from its end, what lies before a
step up are steps up. -/
def UpFirst (place : List (List Char)) : Prop := place.Pairwise fun a b => a = up → b = up

theorem UpFirst.push {place : List (List Char)} (h : UpFirst place) (rooted : Bool)
    (part : List Char) : UpFirst (push rooted place part) := by
  unfold Path.push
  split
  · exact h
  · split
    · -- a step up is kept only where there is nothing but steps up
      split
      · split
        · exact .nil
        · exact List.pairwise_singleton _ _
      · next top rest =>
        obtain ⟨hrest, hpairs⟩ := List.pairwise_cons.1 h
        split
        · next htop =>
          refine List.pairwise_cons.2 ⟨fun b hb _ => ?_, h⟩
          rcases List.mem_cons.1 hb with rfl | hmem
          · exact htop
          · exact hrest b hmem htop
        · exact hpairs
    · next hup => exact List.pairwise_cons.2 ⟨fun _ _ hpart => absurd hpart hup, h⟩

theorem upFirst_follow (rooted : Bool) (p : List Char) : UpFirst (follow rooted [] p) := by
  have hfold : ∀ (parts : List (List Char)) place, UpFirst place →
      UpFirst (parts.foldl (Path.push rooted) place) := by
    intro parts
    induction parts with
    | nil => exact fun _ h => h
    | cons part rest ih => exact fun place h => ih _ (h.push rooted part)
  exact hfold _ [] .nil

/-- The name of a normal form is its last component. -/
theorem name_normalize {p : String} {before : List (List Char)} {part : List Char}
    (h : normalComponents p.toList = before ++ [part]) : (name (normalize p)).toList = part := by
  have hpart : IsPart part := isPart_of_mem_normalComponents (h ▸ List.mem_append_right _ (by simp))
  obtain ⟨folder, hfolder, -, htext⟩ := exists_folder_spell h
  have hne : spell p.toList ≠ [] := by
    rw [htext]
    simp [hpart.ne_nil]
  rw [normalize_eq, if_neg hne, name, String.toList_ofList, String.toList_ofList, htext,
    split_of_append hfolder hpart.notMem]

/-- The root has no name. -/
theorem name_normalize_nil {p : String} (h : normalComponents p.toList = [])
    (hroot : rootSlashes p.toList ≠ []) : name (normalize p) = "" := by
  have htext : spell p.toList = rootSlashes p.toList := by
    rw [spell, h, ofComponents_nil, List.append_nil]
  have hfolder : IsFolderText (rootSlashes p.toList) := isFolderText_rootSlashes _
  rw [normalize_eq, htext, if_neg hroot, name, String.toList_ofList,
    ← List.append_nil (rootSlashes p.toList), split_of_append hfolder List.not_mem_nil]

/-- A normal path that ends in no name consists of steps up. -/
theorem eq_up_of_not_endsInName {p : String} (hp : normalize p = p) (h : ¬EndsInName p) :
    ∀ part ∈ normalComponents p.toList, part = up := by
  obtain hnil | ⟨before, part, hparts⟩ := List.eq_nil_or_concat' (normalComponents p.toList)
  · simp [hnil]
  · have hname := name_normalize hparts
    rw [hp] at hname
    have hup : part = up := by
      by_contra hne
      refine h ⟨?_, hname ▸ hne⟩
      rw [hname]
      exact isPart_of_mem_normalComponents (hparts ▸ List.mem_append_right _ (by simp))
    -- what comes before a step up is steps up
    have hfirst := upFirst_follow (rootSlashes p.toList ≠ []) p.toList
    have hfollow : follow (rootSlashes p.toList ≠ []) [] p.toList = part :: before.reverse := by
      rw [← List.reverse_inj, ← normalComponents_eq, hparts, List.reverse_cons,
        List.reverse_reverse]
    rw [hfollow] at hfirst
    rw [hparts]
    intro x hx
    rcases List.mem_append.1 hx with hx | hx
    · exact (List.pairwise_cons.1 hfirst).1 x (List.mem_reverse.2 hx) hup
    · exact (List.mem_singleton.1 hx).trans hup

/-- **From the root, a normal path that ends in no name leads to the root.** -/
theorem not_endsInName_absolute_root {p : String} (hp : normalize p = p) (h : ¬EndsInName p) :
    ¬EndsInName (absolute "/" p) := by
  have hlost : ∀ parts : List (List Char), (∀ part ∈ parts, part = up) →
      parts.foldl (push true) [] = [] := by
    intro parts
    induction parts with
    | nil => exact fun _ => rfl
    | cons part rest ih =>
      intro hall
      obtain ⟨rfl, hrest⟩ := List.forall_mem_cons.1 hall
      exact ih hrest
  have hroot : follow true [] p.toList = [] := by
    rw [← @foldl_reverse_follow true (rootSlashes p.toList ≠ []) [] (by simp),
      ← normalComponents_eq]
    exact hlost _ (eq_up_of_not_endsInName hp h)
  have hjoin : rootSlashes (join "/" p).toList ≠ [] ∧
      normalComponents (join "/" p).toList = [] := by
    cases hrelative : isAbsolute p with
    | true =>
      have hslashes := isAbsolute_iff.1 hrelative
      rw [join_of_isAbsolute hrelative, normalComponents_eq, decide_eq_true hslashes, hroot]
      exact ⟨hslashes, rfl⟩
    | false =>
      have hslashes : rootSlashes (join "/" p).toList ≠ [] := by
        rw [rootSlashes_join hrelative]
        decide
      have hstart : follow true [] "/".toList = [] := by decide
      refine ⟨hslashes, ?_⟩
      rw [normalComponents_eq, decide_eq_true hslashes, follow_join hrelative, hstart, hroot]
      rfl
  rw [absolute_eq, EndsInName, name_normalize_nil hjoin.2 hjoin.1]
  decide

end Path

/-! ### Pairs of outcomes -/

/-- **Two outcomes are a pair:** both are faults or both are results, and they are related. -/
inductive Paired {ε α ε' α' : Type} (R : ε → ε' → Prop) (S : α → α' → Prop) :
    Except ε α → Except ε' α' → Prop
  /-- Both are faults. -/
  | error {e : ε} {e' : ε'} (h : R e e') : Paired R S (.error e) (.error e')
  /-- Both are results. -/
  | ok {a : α} {a' : α'} (h : S a a') : Paired R S (.ok a) (.ok a')

section Pairs

variable {α β α' β' : Type} {R : Fault → Fault → Prop} {S : α → α' → Prop} {T : β → β' → Prop}

/-- To a fault there is a fault. -/
theorem Paired.exists_of_error {x : Except Fault α} {x' : Except Fault α'} (h : Paired R S x x')
    {e : Fault} (hx : x = .error e) : ∃ e', x' = .error e' ∧ R e e' := by
  subst hx
  cases h with
  | error h => exact ⟨_, rfl, h⟩

/-- To a result there is a result. -/
theorem Paired.exists_of_ok {x : Except Fault α} {x' : Except Fault α'} (h : Paired R S x x')
    {a : α} (hx : x = .ok a) : ∃ a', x' = .ok a' ∧ S a a' := by
  subst hx
  cases h with
  | ok h => exact ⟨_, rfl, h⟩

/-- Changes that take pairs of results to pairs of results take outcomes along. -/
theorem Paired.map {x : Except Fault α} {x' : Except Fault α'} (h : Paired R S x x') {f : α → β}
    {f' : α' → β'} (hf : ∀ a a', S a a' → T (f a) (f' a')) :
    Paired R T (x.map f) (x'.map f') := by
  cases h with
  | error h => exact .error h
  | ok h => exact .ok (hf _ _ h)

/-- Runs that are a pair go on as a pair, if they do so from every pair of results. -/
theorem Run.paired_andThen {x : Run α} {x' : Run α'} (h : Paired R S x.outcome x'.outcome)
    {f : (a : α) → x.outcome = .ok a → Run β} {f' : (a' : α') → x'.outcome = .ok a' → Run β'}
    (hf : ∀ a ha a' ha', S a a' → Paired R T (f a ha).outcome (f' a' ha').outcome) :
    Paired R T (x.andThen f).outcome (x'.andThen f').outcome := by
  obtain ⟨e, he⟩ | ⟨a, ha⟩ := x.outcome_cases
  · obtain ⟨e', he', hfault⟩ := h.exists_of_error he
    rw [andThen_of_error he, andThen_of_error he']
    exact .error hfault
  · obtain ⟨a', ha', hresult⟩ := h.exists_of_ok ha
    rw [andThen_of_ok ha, andThen_of_ok ha']
    exact hf a ha a' ha' hresult

end Pairs

/-! ### File systems -/

/-- **Two refusals are one:** the system gives the same reason, each time for the path as it is
spelt. -/
def SystemError.Respelt (e e' : SystemError) : Prop := e'.number = e.number ∧ e'.reason = e.reason

/-- Two paths are not opened for the same reason. -/
inductive ReadFault.Respelt : ReadFault → ReadFault → Prop
  /-- The system refuses both. -/
  | system {e e' : SystemError} (h : e.Respelt e') : Respelt (.system e) (.system e')
  /-- Both hold the character zero. -/
  | nullCharacter : Respelt .nullCharacter .nullCharacter

/-- **Opening a normal path depends on its normal name only.** -/
structure FileSystem.OpensByName (fs : FileSystem) : Prop where
  /-- Normal paths of one normal name open the same content, or are refused for one reason. -/
  read : ∀ {p q}, Path.normalize p = p → Path.normalize q = q → fs.nameOf p = fs.nameOf q →
    Paired ReadFault.Respelt Eq (fs.read p) (fs.read q)
  /-- A normal path without a name at its end is the root, the working directory or a folder above
  it, and a folder does not open as a file. -/
  folder : ∀ {p}, Path.normalize p = p → ¬Path.EndsInName p → ∃ f, fs.read p = .error f

namespace FileSystem.OpensByName

variable {fs : FileSystem}

/-- A normal path that opens ends in a name. -/
theorem endsInName (hfs : fs.OpensByName) {p : String} (hnormal : Path.normalize p = p)
    {content : Bytes} (hread : fs.read p = .ok content) : Path.EndsInName p := by
  by_contra hno
  obtain ⟨f, hf⟩ := hfs.folder hnormal hno
  cases hf.symm.trans hread

end FileSystem.OpensByName

/-- The file system that knows its files by their normal names. The working directory is the
root. -/
def FileSystem.ofNames (entries : List (String × Bytes)) : FileSystem where
  directory := "/"
  read path :=
    match entries.lookup (Path.absolute "/" path) with
    | some content => .ok content
    | none => .error (.system (notFound path))
  files := entries
  mem_files := by
    intro path content h
    split at h
    · next hlookup =>
      cases h
      obtain ⟨before, after, rfl, -⟩ := List.lookup_eq_some_iff.1 hlookup
      simp
    · cases h

/-- It opens by normal names, if these end in names. -/
theorem FileSystem.opensByName_ofNames {entries : List (String × Bytes)}
    (h : ∀ e ∈ entries, Path.EndsInName e.1) : (ofNames entries).OpensByName where
  read := by
    intro p q _ _ hname
    have hname : Path.absolute "/" p = Path.absolute "/" q := hname
    simp only [ofNames, hname]
    split
    · exact .ok rfl
    · exact .error (.system ⟨rfl, rfl⟩)
  folder := by
    intro p hp hno
    refine ⟨.system (notFound p), ?_⟩
    simp only [ofNames]
    split
    · next content hlookup =>
      -- the path leads to the root, which is no file
      obtain ⟨before, after, hentries, -⟩ := List.lookup_eq_some_iff.1 hlookup
      have hname := h (Path.absolute "/" p, content) (hentries ▸ by simp)
      exact absurd hname (Path.not_endsInName_absolute_root hp hno)
    · rfl

/-! ### The same but for the spelling -/

section Respelt

variable (fs : FileSystem)

/-- **The same task** in a source that may be spelt in another way. -/
structure Task.Respelt (t t' : Task) : Prop where
  /-- All fields but the source are equal. -/
  fields : t' = { t with source := t'.source }
  /-- The sources have one normal name. -/
  source : fs.nameOf t.source = fs.nameOf t'.source

/-- **The same fault** in files that may be spelt in another way. -/
inductive Fault.Respelt : Fault → Fault → Prop
  /-- A malformed record, with the same sentence, of a file. -/
  | shape {headline source source' : String} (h : fs.nameOf source = fs.nameOf source') :
      Respelt (.shape headline source) (.shape headline source')
  /-- An inclusion in a file that leads back along the same chain. -/
  | cycle {chain : List String} {source source' : String}
      (h : fs.nameOf source = fs.nameOf source') :
      Respelt (.includeCycle chain (some source)) (.includeCycle chain (some source'))
  /-- An included file that the system refuses for the same reason. -/
  | refused {path path' : String} {e e' : SystemError} (h : fs.nameOf path = fs.nameOf path')
      (he : e.Respelt e') :
      Respelt
        (.resolution .taskFile ("failed to read included task file " ++ path) none
          (some (.system e)))
        (.resolution .taskFile ("failed to read included task file " ++ path') none
          (some (.system e')))
  /-- An included file that is no document of records, for the same reason. -/
  | decode {path path' : String} {e : Yaml.Error} (h : fs.nameOf path = fs.nameOf path') :
      Respelt
        (.resolution .decode ("failed to parse included task file " ++ path) none
          (some (.document e)))
        (.resolution .decode ("failed to parse included task file " ++ path') none
          (some (.document e)))
  /-- A failed computation, which names no file. -/
  | failure (f : Failure) : Respelt (.failure f) (.failure f)

/-- **The same request:** a file by normal paths of one normal name, or a task. -/
inductive Request.Respelt : Request → Request → Prop
  /-- The tasks of a file. -/
  | inclusion {path path' : String} (hpath : Path.normalize path = path)
      (hpath' : Path.normalize path' = path') (h : fs.nameOf path = fs.nameOf path') :
      Respelt (.inclusion path) (.inclusion path')
  /-- A task. -/
  | task {t t' : Task} (h : t.Respelt fs t') : Respelt (.task t) (.task t')

end Respelt

/-! ### Single records -/

namespace Record

variable {fs : FileSystem} {source source' : String}

/-- Whether and what a record includes is one thing under two spellings of its file. -/
theorem inclusion?_respelt (r : Record) (h : fs.nameOf source = fs.nameOf source')
    (hname : Path.EndsInName source) (hname' : Path.EndsInName source') :
    Paired (Fault.Respelt fs)
      (Option.Rel fun path path' => Request.Respelt fs (.inclusion path) (.inclusion path'))
      (r.inclusion? source) (r.inclusion? source') := by
  unfold inclusion?
  split
  · exact .ok .none
  · split
    · split
      · next path _ _ _ =>
        -- the normal name of the included file is told from the one of this file
        refine .ok (.some (.inclusion (Path.normalize_normalize _) (Path.normalize_normalize _) ?_))
        calc fs.nameOf (Path.beside source path)
          _ = Path.beside (fs.nameOf source) path := hname.absolute_beside_eq _ path
          _ = Path.beside (fs.nameOf source') path := by rw [h]
          _ = fs.nameOf (Path.beside source' path) := (hname'.absolute_beside_eq _ path).symm
      · split
        · exact .error (.shape h)
        · exact .error (.failure _)
    · exact .error (.shape h)
  · split
    · exact .error (.shape h)
    · exact .error (.failure _)

/-- The task of a record is one task under two spellings of its file. -/
theorem build_respelt (r : Record) (h : fs.nameOf source = fs.nameOf source') :
    Paired (Fault.Respelt fs) (Task.Respelt fs) (r.build source) (r.build source') := by
  unfold build
  split
  · exact .ok ⟨rfl, h⟩
  · exact .ok ⟨rfl, h⟩
  · split
    · exact .error (.shape h)
    · exact .error (.failure _)

/-- **A record asks for one thing** under two spellings of its file. -/
theorem request_respelt (r : Record) (h : fs.nameOf source = fs.nameOf source')
    (hname : Path.EndsInName source) (hname' : Path.EndsInName source') :
    Paired (Fault.Respelt fs) (Request.Respelt fs) (r.request source) (r.request source') := by
  have hinclusion := r.inclusion?_respelt h hname hname'
  have hbuild := r.build_respelt h
  simp only [request, bind, Except.bind, pure, Except.pure]
  generalize r.inclusion? source = x at hinclusion
  generalize r.inclusion? source' = x' at hinclusion
  generalize r.build source = y at hbuild
  generalize r.build source' = y' at hbuild
  cases hinclusion with
  | error hfault => exact .error hfault
  | ok hpath =>
    cases hpath with
    | some hpath => exact .ok hpath
    | none =>
      cases hbuild with
      | error hfault => exact .error hfault
      | ok htask => exact .ok (.task htask)

end Record

/-! ### Lists of records -/

namespace Inclusion

variable {fs : FileSystem}

/-- An included file holds the same records, or none for the same reason, under two spellings. -/
theorem recordsOf_respelt (hfs : fs.OpensByName) {path path' : String}
    (hpath : Path.normalize path = path) (hpath' : Path.normalize path' = path')
    (h : fs.nameOf path = fs.nameOf path') :
    Paired (Fault.Respelt fs) Eq (recordsOf fs path).outcome (recordsOf fs path').outcome := by
  have hread := hfs.read hpath hpath' h
  simp only [recordsOf, Run.after_outcome, FileSystem.recordsAt]
  generalize fs.read path = x at hread
  generalize fs.read path' = x' at hread
  cases hread with
  | error hfault =>
    cases hfault with
    | system he => exact .error (.refused h he)
    | nullCharacter => exact .error (.failure _)
  | ok hcontent =>
    -- the content is the same, and is read in the same way
    subst hcontent
    dsimp only [Document.records]
    split
    · exact .ok rfl
    · exact .error (.decode h)
    · exact .error (.failure _)

/-- **Two passes over one list of records** whose files are spelt in two ways give the same tasks or
the same fault. -/
theorem expand_respelt (hfs : fs.OpensByName) {active : List String} {source source' : String}
    {records : List Record} (h : fs.nameOf source = fs.nameOf source')
    (hname : Path.EndsInName source) (hname' : Path.EndsInName source') :
    Paired (Fault.Respelt fs) (List.Forall₂ (Task.Respelt fs))
      (expand fs active source records).outcome (expand fs active source' records).outcome := by
  -- along the first pass, against any second spelling: below an inclusion both are new ones
  induction active, source, records using expand.induct fs generalizing source' with
  | case1 active source =>
    rw [expand_nil, expand_nil]
    exact .ok .nil
  | case2 active source r rest f hrequest =>
    obtain ⟨f', hrequest', hfault⟩ := (r.request_respelt h hname hname').exists_of_error hrequest
    rw [expand_cons_fault hrequest, expand_cons_fault hrequest']
    exact .error hfault
  | case3 active source r rest t hrequest ih =>
    obtain ⟨_, hrequest', hpair⟩ := (r.request_respelt h hname hname').exists_of_ok hrequest
    cases hpair with
    | task htask =>
      rw [expand_cons_task hrequest, expand_cons_task hrequest']
      exact (ih h hname hname').map fun _ _ hmore => .cons htask hmore
  | case4 active source r rest path hrequest hactive =>
    obtain ⟨_, hrequest', hpair⟩ := (r.request_respelt h hname hname').exists_of_ok hrequest
    cases hpair with
    | inclusion hpath hpath' hpaths =>
      rw [expand_cons_cycle hrequest hactive, expand_cons_cycle hrequest' (hpaths ▸ hactive),
        ← hpaths]
      exact .error (.cycle h)
  | case5 active source r rest path hrequest hnew ihfile ihrest =>
    obtain ⟨_, hrequest', hpair⟩ := (r.request_respelt h hname hname').exists_of_ok hrequest
    cases hpair with
    | inclusion hpath hpath' hpaths =>
      rw [expand_cons_inclusion hrequest hnew, expand_cons_inclusion hrequest' (hpaths ▸ hnew),
        ← hpaths]
      refine Run.paired_andThen (recordsOf_respelt hfs hpath hpath' hpaths) ?_
      rintro inner hinner _ hinner' rfl
      -- both spellings open, so both end in a name
      obtain ⟨_, hread, -⟩ := recordsOf_eq_ok.1 hinner
      obtain ⟨_, hread', -⟩ := recordsOf_eq_ok.1 hinner'
      have hfile := ihfile inner hinner hpaths (hfs.endsInName hpath hread)
        (hfs.endsInName hpath' hread')
      refine Run.paired_andThen hfile fun _ _ _ _ hincluded => ?_
      exact (ihrest h hname hname').map fun _ _ hmore => List.rel_append hincluded hmore

/-- **The spelling of a source does not matter.** Let opening a normal path depend on its normal
name only. Records are resolved from two spellings of their source, that is from two paths of one
normal name which both end in a plain name. Either both resolutions succeed, and their tasks are
equal one by one but for the spelling of their sources, or both end with a fault, and these are
equal but for the spelling of the files they name. -/
theorem resolve_respelt (fs : FileSystem) (hfs : fs.OpensByName) (records : List Record)
    (active : List String) {source source' : String} (h : fs.nameOf source = fs.nameOf source')
    (hname : Path.EndsInName source) (hname' : Path.EndsInName source') :
    Paired (Fault.Respelt fs) (List.Forall₂ (Task.Respelt fs))
      (resolve fs records source active).outcome (resolve fs records source' active).outcome := by
  rw [resolve, resolve, ← h]
  exact expand_respelt hfs h hname hname'

/-! ### A file that includes another one -/

/-- Two files in a folder, the first of which includes the second. -/
def folderFiles : FileSystem :=
  .ofNames [("/sub/a", outerTask), ("/sub/b", Resolution.webTask)]

/-- The first file, included from a source in its folder under two spellings, gives the task of the
second. -/
theorem resolve_respelt_folderFiles : ∃ t t' : Task,
    (resolve folderFiles [including "a"] "sub/x").outcome = .ok [t] ∧
    (resolve folderFiles [including "a"] "/y/../sub//x").outcome = .ok [t'] ∧
    t.source = "sub/b" ∧ t.Respelt folderFiles t' := by
  have hopens : folderFiles.OpensByName := FileSystem.opensByName_ofNames (by decide +kernel)
  have hpaths : folderFiles.nameOf "sub/x" = folderFiles.nameOf "/y/../sub//x" := by decide +kernel
  have hpair := resolve_respelt folderFiles hopens [including "a"] [] hpaths (by decide +kernel)
    (by decide +kernel)
  -- the run under the first spelling gives one task
  obtain ⟨r, u, -, htask, ⟨hu, -⟩, -⟩ := Resolution.webTask_records
  obtain ⟨t, ht, hsource, -⟩ := (isLikeness_eq.record_refl r).request_task isLikeness_eq hu "sub/b"
  have hfirst : (resolve folderFiles [including "a"] "sub/x").outcome = .ok [t] := by
    have ha : (including "a").request "sub/x" = .ok (.inclusion "sub/a") := by
      rw [(namesFile_including "a").request_eq]
      exact congrArg (fun p => Except.ok (Request.inclusion p)) (by decide +kernel)
    have hb : (including "b").request "sub/a" = .ok (.inclusion "sub/b") := by
      rw [(namesFile_including "b").request_eq]
      exact congrArg (fun p => Except.ok (Request.inclusion p)) (by decide +kernel)
    have hfileA : folderFiles.Holds "sub/a" [including "b"] :=
      ⟨outerTask, by decide +kernel, outerTask_records⟩
    have hfileB : folderFiles.Holds "sub/b" [r] :=
      ⟨Resolution.webTask, by decide +kernel, htask⟩
    refine (expand_inclusion_eq_ok ha).2 ⟨by decide +kernel, _, [t], [], hfileA, ?_, by simp, rfl⟩
    refine (expand_inclusion_eq_ok hb).2 ⟨by decide +kernel, _, [t], [], hfileB, ?_, by simp, rfl⟩
    exact (expand_task_eq_ok ht).2 ⟨[], by simp, rfl⟩
  obtain ⟨tasks, hsecond, htasks⟩ := hpair.exists_of_ok hfirst
  obtain ⟨t', _, hrespelt, hrest, rfl⟩ := List.forall₂_cons_left_iff.1 htasks
  cases hrest
  exact ⟨t, t', hfirst, hsecond, hsource, hrespelt⟩

end Inclusion

end Playbook
