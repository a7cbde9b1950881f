import Playbook.Proofs.Likeness
import Playbook.Proofs.Paths

/-!
# Records moved into a file of their own

A stretch of the records of a task file can be moved into a new file in the same folder, with one
record left in its place that includes the new file. Resolution does not notice, but for the source
of the tasks that these records describe.

* `Inclusion.Gives` — the tasks of records, each with the place of the record that describes it. A
  task names the file of its record as its source, so the two say which record of which file it is.
* `Extraction` — two file systems, the second of which is the first after such a move.
* `Extraction.preserves_resolution` — what resolves in the first file system, records at hand or a
  role, does so in the second, to the same tasks in the same order: alike in all fields, with the
  new file as the source of the tasks that come from the moved records, and the old source for all
  others.

The run in the second file system is built along the one in the first. Inside the moved records the
two differ in what is being included: the second has one more active file, the new one. It can never
be in the way, as whatever meets the new file has met the old file on the way, which is active then
(`Extraction.Agrees`). And it makes no difference to the paths, which are seen from the same folder
(`Path.beside_beside`), even where the old file has been reached by a path that is not normal, as
that of a role can be.
-/

namespace Playbook

/-! ### Tasks with the places of their records -/

namespace Inclusion

/-- Records of a file, with their places in it from a place on. -/
def numbered (k : Nat) (records : List Record) : List (Option Nat × Record) :=
  (records.zipIdx k).map fun e => (some e.2, e.1)

/-- Records at hand, which are in no place of a file. -/
def atHand (records : List Record) : List (Option Nat × Record) := records.map fun r => (none, r)

@[simp] theorem numbered_records (k : Nat) (records : List Record) :
    (numbered k records).map Prod.snd = records := by
  rw [numbered, List.map_map]
  exact List.zipIdx_map_fst k records

@[simp] theorem atHand_records (records : List Record) :
    (atHand records).map Prod.snd = records := by
  rw [atHand, List.map_map]
  exact List.map_id records

theorem numbered_append (k : Nat) (a b : List Record) :
    numbered k (a ++ b) = numbered k a ++ numbered (k + a.length) b := by
  rw [numbered, List.zipIdx_append, List.map_append, numbered, numbered]

/-- The places of records are counted from the first one on. -/
theorem exists_place_of_mem_numbered {k : Nat} {records : List Record}
    {item : Option Nat × Record} (h : item ∈ numbered k records) :
    ∃ i, item.1 = some i ∧ k ≤ i ∧ i < k + records.length := by
  obtain ⟨⟨r, i⟩, hmem, rfl⟩ := List.mem_map.1 h
  obtain ⟨hle, hlt, -⟩ := List.mem_zipIdx hmem
  exact ⟨i, rfl, hle, hlt⟩

/-- **The tasks that records of a source give,** while some files are being included: each task with
the place of the record that describes it. -/
inductive Gives (fs : FileSystem) : (active : List String) → (source : String) →
    List (Option Nat × Record) → List (Option Nat × Task) → Prop
  /-- No records give no tasks. -/
  | nil {active : List String} {source : String} : Gives fs active source [] []
  /-- A record that describes a task gives this task. -/
  | task {active : List String} {source : String} {i : Option Nat} {r : Record} {t : Task}
      {rest : List (Option Nat × Record)} {more : List (Option Nat × Task)}
      (hrequest : r.request source = .ok (.task t)) (hmore : Gives fs active source rest more) :
      Gives fs active source ((i, r) :: rest) ((i, t) :: more)
  /-- A record that includes a file gives what the records of the file give. -/
  | inclusion {active : List String} {source path : String} {i : Option Nat} {r : Record}
      {rest : List (Option Nat × Record)} {inner : List Record}
      {included more : List (Option Nat × Task)}
      (hrequest : r.request source = .ok (.inclusion path)) (hnew : fs.nameOf path ∉ active)
      (hfile : fs.Holds path inner)
      (hincluded : Gives fs (active ++ [fs.nameOf path]) path (numbered 0 inner) included)
      (hmore : Gives fs active source rest more) :
      Gives fs active source ((i, r) :: rest) (included ++ more)

variable {fs : FileSystem} {active : List String} {source : String}

/-- What records give is what they resolve to. -/
theorem Gives.expand_eq_ok {items : List (Option Nat × Record)}
    {placed : List (Option Nat × Task)} (h : Gives fs active source items placed) :
    (expand fs active source (items.map Prod.snd)).outcome = .ok (placed.map Prod.snd) := by
  induction h with
  | nil => simp
  | task hrequest _ ih => exact (expand_task_eq_ok hrequest).2 ⟨_, ih, rfl⟩
  | inclusion hrequest hnew hfile _ _ ihfile ih =>
    rw [numbered_records] at ihfile
    exact (expand_inclusion_eq_ok hrequest).2
      ⟨hnew, _, _, _, hfile, ihfile, ih, (List.map_append ..).symm⟩

/-- Records that resolve give tasks. -/
theorem exists_gives {records : List Record} {tasks : List Task}
    (h : (expand fs active source records).outcome = .ok tasks)
    {items : List (Option Nat × Record)} (hitems : items.map Prod.snd = records) :
    ∃ placed, Gives fs active source items placed ∧ placed.map Prod.snd = tasks := by
  induction active, source, records using expand.induct fs generalizing tasks items with
  | case1 active source =>
    obtain rfl := List.map_eq_nil_iff.1 hitems
    rw [expand_nil, Run.done_outcome] at h
    cases h
    exact ⟨[], .nil, rfl⟩
  | case2 active source r rest f hrequest =>
    rw [expand_cons_fault hrequest] at h
    cases h
  | case3 active source r rest t hrequest ih =>
    obtain ⟨⟨i, r'⟩, more, rfl, rfl, hmore⟩ := List.map_eq_cons_iff.1 hitems
    obtain ⟨later, hlater, rfl⟩ := (expand_task_eq_ok hrequest).1 h
    obtain ⟨placed, hplaced, rfl⟩ := ih hlater hmore
    exact ⟨(i, t) :: placed, .task hrequest hplaced, rfl⟩
  | case4 active source r rest path hrequest hactive =>
    exact absurd hactive ((expand_inclusion_eq_ok hrequest).1 h).1
  | case5 active source r rest path hrequest hnew ihfile ihrest =>
    obtain ⟨⟨i, r'⟩, more, rfl, rfl, hmore⟩ := List.map_eq_cons_iff.1 hitems
    obtain ⟨-, inner, included, later, hfile, hincluded, hlater, rfl⟩ :=
      (expand_inclusion_eq_ok hrequest).1 h
    -- the records of the file are counted anew
    obtain ⟨inside, hinside, rfl⟩ :=
      ihfile inner (recordsOf_eq_ok.2 hfile) hincluded (numbered_records 0 inner)
    obtain ⟨placed, hplaced, rfl⟩ := ihrest hlater hmore
    exact ⟨inside ++ placed, .inclusion hrequest hnew hfile hinside hplaced, List.map_append⟩

/-- **Records give their tasks in one way.** -/
theorem Gives.unique {items : List (Option Nat × Record)}
    {placed placed' : List (Option Nat × Task)} (h : Gives fs active source items placed)
    (h' : Gives fs active source items placed') : placed = placed' := by
  -- a record asks for one thing, and a file holds one list of records
  induction h generalizing placed' with
  | nil =>
    cases h'
    rfl
  | task hrequest _ ih =>
    cases h' with
    | task hrequest' hmore' =>
      cases hrequest.symm.trans hrequest'
      rw [ih hmore']
    | inclusion hrequest' => cases hrequest.symm.trans hrequest'
  | inclusion hrequest _ hfile _ _ ihfile ih =>
    cases h' with
    | task hrequest' => cases hrequest.symm.trans hrequest'
    | inclusion hrequest' _ hfile' hincluded' hmore' =>
      cases hrequest.symm.trans hrequest'
      obtain rfl := hfile.unique hfile'
      rw [ihfile hincluded', ih hmore']

theorem Gives.append {a b : List (Option Nat × Record)} {x y : List (Option Nat × Task)}
    (ha : Gives fs active source a x) (hb : Gives fs active source b y) :
    Gives fs active source (a ++ b) (x ++ y) := by
  induction ha with
  | nil => exact hb
  | task hrequest _ ih => exact .task hrequest (ih hb)
  | inclusion hrequest hnew hfile hincluded _ _ ih =>
    rw [List.cons_append, List.append_assoc]
    exact .inclusion hrequest hnew hfile hincluded (ih hb)

/-- Records that succeed one after another succeed together. -/
theorem expand_append {a b : List Record} {x y : List Task}
    (ha : (expand fs active source a).outcome = .ok x)
    (hb : (expand fs active source b).outcome = .ok y) :
    (expand fs active source (a ++ b)).outcome = .ok (x ++ y) := by
  obtain ⟨_, hx, rfl⟩ := exists_gives ha (atHand_records a)
  obtain ⟨_, hy, rfl⟩ := exists_gives hb (atHand_records b)
  have h := (hx.append hy).expand_eq_ok
  rwa [List.map_append, List.map_append, atHand_records, atHand_records] at h

end Inclusion

/-! ### The move -/

/-- **Records moved into a file of their own.** In the first file system a file holds some records;
in the second it holds the record that includes a new file in the place of a stretch of them, and
the new file, in the same folder, holds these. Values are alike only, as the two files of the second
file system count their marks anew. -/
structure Extraction (R : Value → Value → Prop) (fs fs' : FileSystem) where
  /-- The paths that lead to the file. -/
  leads : String → Prop
  /-- The name of the file. -/
  file : String
  /-- The name of the new file. -/
  newFile : String
  /-- The records before the stretch. -/
  front : List Record
  /-- The records that are moved. -/
  part : List Record
  /-- The records behind the stretch. -/
  back : List Record
  /-- Paths mean the same files. -/
  directory : fs'.directory = fs.directory
  /-- The file has one name, whatever leads to it. -/
  name_eq : ∀ {p}, leads p → Path.name p = file
  /-- The new name is one component, and neither of those with a meaning of their own. -/
  isName : Path.IsName newFile.toList
  /-- There is nothing of that name in the folder. -/
  fresh : ∀ {p q content}, leads p → fs.read q = .ok content →
    fs.nameOf q ≠ fs.nameOf (Path.beside p newFile)
  /-- The file holds all the records. -/
  holds : ∀ {p}, leads p → fs.Holds p (front ++ part ++ back)
  /-- Then it includes the new file in the place of those that are moved. -/
  holds_left : ∀ {p}, leads p → ∃ records, fs'.Holds p records ∧
    List.Forall₂ (Record.Alike R) (front ++ [Inclusion.including newFile] ++ back) records
  /-- The new file holds those. -/
  holds_part : ∀ {p}, leads p → ∃ records, fs'.Holds (Path.beside p newFile) records ∧
    List.Forall₂ (Record.Alike R) part records
  /-- Every other file stays as it is. -/
  read_eq : ∀ {p content}, ¬leads p → fs.read p = .ok content → fs'.read p = .ok content

namespace Extraction

variable {R : Value → Value → Prop} {fs fs' : FileSystem} (x : Extraction R fs fs')

/-- A place in a source is among the moved records: the source is the file, and the place is in the
stretch. -/
def InPart (place : Option Nat) (source : String) : Prop :=
  x.leads source ∧
    ∃ i, place = some i ∧ x.front.length ≤ i ∧ i < x.front.length + x.part.length

/-- **What becomes of a source:** that of the moved records is the new file, the others stay. -/
structure Target (place : Option Nat) (source source' : String) : Prop where
  /-- Moved records are in the new file. -/
  moved : x.InPart place source → source' = Path.beside source x.newFile
  /-- The other ones are where they have been. -/
  kept : ¬x.InPart place source → source' = source

/-- **What becomes of a task** that is given with the place of its record: it is alike in all fields
but the source, and its source is what becomes of the one it had. -/
structure Matches (placed : Option Nat × Task) (t' : Task) : Prop where
  /-- The other fields are alike. -/
  alike : placed.2.Alike R t'
  /-- The source is the right one. -/
  target : x.Target placed.1 placed.2.source t'.source

/-- **The files that are being included, in both file systems.** Only a new file can be active in
the second one alone, and it is only while the file it has been taken from is. -/
structure Agrees (active active' : List String) : Prop where
  /-- What is active in the second alone is a new file. -/
  old : ∀ n ∈ active', n ∈ active ∨ ∃ p, x.leads p ∧ n = fs.nameOf (Path.beside p x.newFile)
  /-- A new file is active only with the old one. -/
  new : ∀ p, x.leads p → fs.nameOf (Path.beside p x.newFile) ∈ active' → fs.nameOf p ∈ active

include x in
theorem nameOf_eq (p : String) : fs'.nameOf p = fs.nameOf p := by
  rw [FileSystem.nameOf, FileSystem.nameOf, x.directory]

/-- Nothing becomes of the source of other records. -/
theorem target_of_not_inPart {place : Option Nat} {source : String}
    (h : ¬x.InPart place source) : x.Target place source source :=
  ⟨fun hpart => absurd hpart h, fun _ => rfl⟩

/-- Places before and behind the stretch are not among the moved records. -/
theorem not_inPart {i : Nat} {source : String}
    (h : i < x.front.length ∨ x.front.length + x.part.length ≤ i) :
    ¬x.InPart (some i) source := by
  rintro ⟨-, j, hj, hle, hlt⟩
  obtain rfl := Option.some.inj hj
  omega

/-- A source and what becomes of it see paths alike. -/
theorem Target.normalize_join {place : Option Nat} {source source' : String}
    (h : x.Target place source source') (path : String) :
    Path.normalize (Path.join (Path.parent source') path) =
      Path.normalize (Path.join (Path.parent source) path) := by
  by_cases hpart : x.InPart place source
  · rw [h.moved hpart]
    exact Path.beside_beside x.isName source path
  · rw [h.kept hpart]

section Active

variable {active active' : List String} {q : String}

theorem Agrees.nil : x.Agrees [] [] := ⟨by simp, by simp⟩

/-- What is new in the first file system is new in the second. -/
theorem Agrees.notMem (h : x.Agrees active active') {content : Bytes}
    (hread : fs.read q = .ok content) (hnew : fs.nameOf q ∉ active) : fs.nameOf q ∉ active' := by
  intro hmem
  rcases h.old _ hmem with hold | ⟨p, hp, hname⟩
  · exact hnew hold
  · exact x.fresh hp hread hname

/-- **Entering a file** in both file systems keeps the agreement. -/
theorem Agrees.enter (h : x.Agrees active active') {content : Bytes}
    (hread : fs.read q = .ok content) :
    x.Agrees (active ++ [fs.nameOf q]) (active' ++ [fs.nameOf q]) := by
  refine ⟨fun n hn => ?_, fun p hp hmem => ?_⟩
  · rcases List.mem_append.1 hn with hn | hn
    · exact (h.old n hn).imp_left (List.mem_append_left _)
    · exact .inl (List.mem_append_right _ hn)
  · rcases List.mem_append.1 hmem with hmem | hmem
    · exact List.mem_append_left _ (h.new p hp hmem)
    · -- what could be read before the move is no new file
      exact absurd (List.mem_singleton.1 hmem).symm (x.fresh hp hread)

/-- **Entering a new file** in the second file system alone keeps the agreement, where the old one
is active. -/
theorem Agrees.enter_new (h : x.Agrees active active') (hq : x.leads q)
    (hactive : fs.nameOf q ∈ active) :
    x.Agrees active (active' ++ [fs.nameOf (Path.beside q x.newFile)]) := by
  refine ⟨fun n hn => ?_, fun p hp hmem => ?_⟩
  · rcases List.mem_append.1 hn with hn | hn
    · exact h.old n hn
    · exact .inr ⟨q, hq, List.mem_singleton.1 hn⟩
  · rcases List.mem_append.1 hmem with hmem | hmem
    · exact h.new p hp hmem
    · -- two files of one name are one file if the same path is beside them
      have hname : Path.name p = Path.name q := (x.name_eq hp).trans (x.name_eq hq).symm
      have heq : fs.nameOf p = fs.nameOf q :=
        Path.absolute_eq_of_beside x.isName hname (List.mem_singleton.1 hmem)
      rw [heq]
      exact hactive

/-- **The new file is not in the way:** where the old one is entered, the new one is not active. -/
theorem Agrees.notMem_new (h : x.Agrees active active') (hq : x.leads q)
    (hnew : fs.nameOf q ∉ active) :
    fs.nameOf (Path.beside q x.newFile) ∉ active' ++ [fs.nameOf q] := by
  obtain ⟨content, hread, -⟩ := x.holds hq
  intro hmem
  rcases List.mem_append.1 hmem with hmem | hmem
  · exact hnew (h.new q hq hmem)
  · exact x.fresh hq hread (List.mem_singleton.1 hmem).symm

end Active

/-! ### The run in the second file system -/

/-- **A record is followed by a record:** what the one gives in the first file system, every record
like it gives in the second, wherever the active files agree. -/
def Follows (active : List String) (source : String) (item : Option Nat × Record)
    (placed : List (Option Nat × Task)) : Prop :=
  ∀ {active' source' r'}, x.Agrees active active' → x.Target item.1 source source' →
    Record.Alike R item.2 r' →
    ∃ tasks', (Inclusion.expand fs' active' source' [r']).outcome = .ok tasks' ∧
      List.Forall₂ x.Matches placed tasks'

/-- Records that are followed one by one are followed together, if they have one source then. -/
theorem exists_expand_of_follows {active active' : List String} {source source' : String}
    (hagrees : x.Agrees active active') {items : List (Option Nat × Record)}
    {chunks : List (List (Option Nat × Task))} {records' : List Record}
    (hfollows : List.Forall₂ (x.Follows active source) items chunks)
    (htarget : ∀ item ∈ items, x.Target item.1 source source')
    (halike : List.Forall₂ (Record.Alike R) (items.map Prod.snd) records') :
    ∃ tasks', (Inclusion.expand fs' active' source' records').outcome = .ok tasks' ∧
      List.Forall₂ x.Matches chunks.flatten tasks' := by
  induction hfollows generalizing records' with
  | nil =>
    cases halike
    exact ⟨[], by simp, .nil⟩
  | cons hfirst _ ih =>
    cases halike with
    | cons hr hrest =>
      obtain ⟨hsource, hsources⟩ := List.forall_mem_cons.1 htarget
      obtain ⟨given, hgiven, hmatches⟩ := hfirst hagrees hsource hr
      obtain ⟨more, hmore, hmatches'⟩ := ih hsources hrest
      exact ⟨given ++ more, Inclusion.expand_append hgiven hmore,
        List.rel_append hmatches hmatches'⟩

/-- What is related to three lists in a row is three lists in a row. -/
theorem exists_append_of_forall₂ {α β : Type} {S : α → β → Prop} {a b c : List α} {l : List β}
    (h : List.Forall₂ S (a ++ b ++ c) l) :
    ∃ u v w, l = u ++ v ++ w ∧ List.Forall₂ S a u ∧ List.Forall₂ S b v ∧ List.Forall₂ S c w := by
  have htwo : ∀ {x y : List α} {z : List β}, List.Forall₂ S (x ++ y) z →
      ∃ u v, z = u ++ v ∧ List.Forall₂ S x u ∧ List.Forall₂ S y v := by
    intro x y z hz
    have hflip : List.Forall₂ (flip S) z (x ++ y) := hz.flip
    exact ⟨z.take x.length, z.drop x.length, (List.take_append_drop ..).symm,
      (List.forall₂_take_append z x y hflip).flip, (List.forall₂_drop_append z x y hflip).flip⟩
  obtain ⟨uv, w, rfl, huv, hw⟩ := htwo h
  obtain ⟨u, v, rfl, hu, hv⟩ := htwo huv
  exact ⟨u, v, w, rfl, hu, hv, hw⟩

/-- Records before the stretch stay in the file. -/
theorem target_front {source : String} {item : Option Nat × Record}
    (h : item ∈ Inclusion.numbered 0 x.front) : x.Target item.1 source source := by
  obtain ⟨i, hi, -, hlt⟩ := Inclusion.exists_place_of_mem_numbered h
  rw [hi]
  exact x.target_of_not_inPart (x.not_inPart (.inl (by omega)))

/-- Records of the stretch are in the new file. -/
theorem target_part {source : String} (hleads : x.leads source) {item : Option Nat × Record}
    (h : item ∈ Inclusion.numbered (0 + x.front.length) x.part) :
    x.Target item.1 source (Path.beside source x.newFile) := by
  obtain ⟨i, hi, hle, hlt⟩ := Inclusion.exists_place_of_mem_numbered h
  have hpart : x.InPart item.1 source := ⟨hleads, i, hi, by omega, by omega⟩
  exact ⟨fun _ => rfl, fun hnot => absurd hpart hnot⟩

/-- Records behind the stretch stay in the file. -/
theorem target_back {source : String} {item : Option Nat × Record}
    (h : item ∈ Inclusion.numbered (0 + (x.front ++ x.part).length) x.back) :
    x.Target item.1 source source := by
  obtain ⟨i, hi, hle, -⟩ := Inclusion.exists_place_of_mem_numbered h
  rw [List.length_append] at hle
  rw [hi]
  exact x.target_of_not_inPart (x.not_inPart (.inr (by omega)))

/-- **Entering the file itself.** In the second file system it holds the records around the stretch,
and between them enters the new file. -/
theorem exists_expand_of_leads (hR : IsLikeness R) {active active' : List String}
    (hagrees : x.Agrees active active') {path : String} (hleads : x.leads path)
    (hnew : fs.nameOf path ∉ active) {chunks : List (List (Option Nat × Task))}
    (hfollows : List.Forall₂ (x.Follows (active ++ [fs.nameOf path]) path)
      (Inclusion.numbered 0 (x.front ++ x.part ++ x.back)) chunks) :
    ∃ inner' tasks', fs'.Holds path inner' ∧
      (Inclusion.expand fs' (active' ++ [fs.nameOf path]) path inner').outcome = .ok tasks' ∧
      List.Forall₂ x.Matches chunks.flatten tasks' := by
  -- both sides fall into three parts
  rw [Inclusion.numbered_append, Inclusion.numbered_append] at hfollows
  obtain ⟨front, part, back, rfl, hfront, hpart, hback⟩ := exists_append_of_forall₂ hfollows
  obtain ⟨left, hleft, halike⟩ := x.holds_left hleads
  obtain ⟨front', one, back', rfl, hfront', hone, hback'⟩ := exists_append_of_forall₂ halike
  obtain ⟨part', hholds, hpart'⟩ := x.holds_part hleads
  obtain ⟨content, hread, -⟩ := x.holds hleads
  -- the file is active in both from here on, and the new one in the second while it is included
  have hentered := Agrees.enter x hagrees hread
  have hinside := Agrees.enter_new x hentered hleads (List.mem_append_right _ List.mem_cons_self)
  have hitems : ∀ k records records', List.Forall₂ (Record.Alike R) records records' →
      List.Forall₂ (Record.Alike R) ((Inclusion.numbered k records).map Prod.snd) records' := by
    intro k records records' h
    rwa [Inclusion.numbered_records]
  obtain ⟨before, hbefore, hmatches⟩ := x.exists_expand_of_follows hentered hfront
    (fun _ => x.target_front) (hitems _ _ _ hfront')
  obtain ⟨moved, hmoved, hmatches'⟩ := x.exists_expand_of_follows hinside hpart
    (fun _ => x.target_part hleads) (hitems _ _ _ hpart')
  obtain ⟨behind, hbehind, hmatches''⟩ := x.exists_expand_of_follows hentered hback
    (fun _ => x.target_back) (hitems _ _ _ hback')
  -- the record between them includes the new file
  obtain ⟨r, rfl, hr⟩ : ∃ r, one = [r] ∧ Record.Alike R (Inclusion.including x.newFile) r := by
    cases hone with
    | cons hr hnil =>
      cases hnil
      exact ⟨_, rfl, hr⟩
  have hrequest : r.request path = .ok (.inclusion (Path.beside path x.newFile)) :=
    (hr.namesFile hR (Inclusion.namesFile_including x.newFile)).request_eq
  have hincluded : (Inclusion.expand fs' (active' ++ [fs.nameOf path]) path [r]).outcome =
      .ok moved := by
    refine (Inclusion.expand_inclusion_eq_ok hrequest).2
      ⟨?_, part', moved, [], hholds, ?_, by simp, List.append_nil _⟩
    · rw [x.nameOf_eq]
      exact Agrees.notMem_new x hagrees hleads hnew
    · rw [x.nameOf_eq]
      exact hmoved
  refine ⟨_, before ++ moved ++ behind, hleft,
    Inclusion.expand_append (Inclusion.expand_append hbefore hincluded) hbehind, ?_⟩
  rw [List.flatten_append, List.flatten_append]
  exact List.rel_append (List.rel_append hmatches hmatches') hmatches''

/-- **Entering a file** goes on in the second file system: the file is new there as well, and holds
records that give what is given in the first. -/
theorem exists_expand_of_enter (hR : IsLikeness R) {active active' : List String}
    (hagrees : x.Agrees active active') {path : String} (hnew : fs.nameOf path ∉ active)
    {inner : List Record} (hfile : fs.Holds path inner) {chunks : List (List (Option Nat × Task))}
    (hfollows : List.Forall₂ (x.Follows (active ++ [fs.nameOf path]) path)
      (Inclusion.numbered 0 inner) chunks) :
    fs'.nameOf path ∉ active' ∧ ∃ inner' tasks', fs'.Holds path inner' ∧
      (Inclusion.expand fs' (active' ++ [fs'.nameOf path]) path inner').outcome = .ok tasks' ∧
      List.Forall₂ x.Matches chunks.flatten tasks' := by
  rw [x.nameOf_eq]
  by_cases hleads : x.leads path
  · obtain rfl := hfile.unique (x.holds hleads)
    obtain ⟨content, hread, -⟩ := hfile
    exact ⟨Agrees.notMem x hagrees hread hnew,
      x.exists_expand_of_leads hR hagrees hleads hnew hfollows⟩
  · -- any other file stays as it is
    obtain ⟨content, hread, hdecode⟩ := hfile
    have hsame : List.Forall₂ (Record.Alike R) ((Inclusion.numbered 0 inner).map Prod.snd)
        inner := by
      rw [Inclusion.numbered_records]
      exact List.forall₂_same.2 fun r _ => hR.record_refl r
    obtain ⟨tasks', htasks', hmatches⟩ := x.exists_expand_of_follows
      (Agrees.enter x hagrees hread) hfollows
      (fun item _ => x.target_of_not_inPart fun hpart => hleads hpart.1) hsame
    exact ⟨Agrees.notMem x hagrees hread hnew, inner, tasks',
      ⟨content, x.read_eq hleads hread, hdecode⟩, htasks', hmatches⟩

/-- **Every record is followed,** by the recursion of what records give. -/
theorem follows_of_gives (hR : IsLikeness R) {active : List String} {source : String}
    {items : List (Option Nat × Record)} {placed : List (Option Nat × Task)}
    (h : Inclusion.Gives fs active source items placed) :
    ∃ chunks, placed = chunks.flatten ∧ List.Forall₂ (x.Follows active source) items chunks := by
  induction h with
  | nil => exact ⟨[], rfl, .nil⟩
  | @task active source i r t _ _ hrequest _ ih =>
    -- a task bears its source, and nothing else of it depends on that
    obtain ⟨chunks, rfl, hchunks⟩ := ih
    refine ⟨[(i, t)] :: chunks, rfl, .cons ?_ hchunks⟩
    intro active' source' r' _ htarget hr
    obtain ⟨t', ht', hsource', halike⟩ := hr.request_task hR hrequest source'
    have hsource : t.source = source := Record.source_of_build (Record.build_of_request hrequest)
    refine ⟨[t'], (Inclusion.expand_task_eq_ok ht').2 ⟨[], by simp, rfl⟩, .cons ⟨halike, ?_⟩ .nil⟩
    rw [hsource, hsource']
    exact htarget
  | @inclusion active source path i r _ inner included _ hrequest hnew hfile _ _ ihfile ih =>
    obtain ⟨chunks, rfl, hchunks⟩ := ih
    obtain ⟨inside, rfl, hinside⟩ := ihfile
    refine ⟨inside.flatten :: chunks, rfl, .cons ?_ hchunks⟩
    intro active' source' r' hagrees htarget hr
    -- the file is seen from the new source by the same path
    obtain ⟨name, hname, rfl⟩ := Record.namesFile_of_request hrequest
    have hrequest' : r'.request source' =
        .ok (.inclusion (Path.normalize (Path.join (Path.parent source) name))) := by
      rw [(hr.namesFile hR hname).request_eq, Target.normalize_join x htarget]
    obtain ⟨hnew', inner', tasks', hfile', htasks', hmatches⟩ :=
      x.exists_expand_of_enter hR hagrees hnew hfile hinside
    exact ⟨tasks', (Inclusion.expand_inclusion_eq_ok hrequest').2
      ⟨hnew', inner', tasks', [], hfile', htasks', by simp, List.append_nil _⟩, hmatches⟩

/-! ### Both calls -/

/-- Records at hand resolve in the second file system, if their source is not the new file. -/
theorem exists_resolve (hR : IsLikeness R) {records : List Record} {source : String}
    (hsource : ∀ p, x.leads p → fs.nameOf source ≠ fs.nameOf (Path.beside p x.newFile))
    {placed : List (Option Nat × Task)}
    (h : Inclusion.Gives fs [fs.nameOf source] source (Inclusion.atHand records) placed) :
    ∃ tasks', (Inclusion.resolve fs' records source).outcome = .ok tasks' ∧
      List.Forall₂ x.Matches placed tasks' := by
  have hagrees : x.Agrees [fs.nameOf source] [fs.nameOf source] := by
    refine ⟨fun n hn => .inl hn, fun p hp hmem => ?_⟩
    exact absurd (List.mem_singleton.1 hmem).symm (hsource p hp)
  have hsame : List.Forall₂ (Record.Alike R) ((Inclusion.atHand records).map Prod.snd)
      records := by
    rw [Inclusion.atHand_records]
    exact List.forall₂_same.2 fun r _ => hR.record_refl r
  have htarget : ∀ item ∈ Inclusion.atHand records, x.Target item.1 source source := by
    intro item hitem
    obtain ⟨r, -, rfl⟩ := List.mem_map.1 hitem
    refine x.target_of_not_inPart ?_
    rintro ⟨-, i, hi, -⟩
    cases hi
  obtain ⟨chunks, rfl, hfollows⟩ := x.follows_of_gives hR h
  rw [Inclusion.resolve, List.nil_append, x.nameOf_eq]
  exact x.exists_expand_of_follows hagrees hfollows htarget hsame

/-- A role resolves in the second file system. -/
theorem exists_resolve_role (hR : IsLikeness R) {roles role : String} {inner : List Record}
    (hfile : fs.Holds (Role.tasksPath roles role) inner) {placed : List (Option Nat × Task)}
    (h : Inclusion.Gives fs [fs.nameOf (Role.tasksPath roles role)] (Role.tasksPath roles role)
      (Inclusion.numbered 0 inner) placed) :
    ∃ tasks', (Role.resolve fs' roles role).outcome = .ok tasks' ∧
      List.Forall₂ x.Matches placed tasks' := by
  obtain ⟨chunks, rfl, hfollows⟩ := x.follows_of_gives hR h
  -- the file of the role is entered as any other file is, with no file active before
  obtain ⟨-, inner', tasks', hfile', htasks', hmatches⟩ :=
    x.exists_expand_of_enter hR (Agrees.nil x) List.not_mem_nil hfile hfollows
  exact ⟨tasks', Role.resolve_eq_ok.2 ⟨inner', hfile', htasks'⟩, hmatches⟩

/-- **Moving records into a file of their own preserves what is resolved.** Let records at hand or a
role resolve to some tasks before the move, and let the source of the records at hand not be the new
file. Then they resolve after it, to the same tasks in the same order: each is alike in all fields
but the source; a task that comes from one of the moved records, on whichever visit to the file, has
the normal path of the new file in the folder of the file as its source, and every other task has
the source it had. Where equality is taken as the likeness, alike is equal. -/
theorem preserves_resolution (hR : IsLikeness R) :
    (∀ records source tasks,
      (∀ p, x.leads p → fs.nameOf source ≠ fs.nameOf (Path.beside p x.newFile)) →
      (Inclusion.resolve fs records source).outcome = .ok tasks →
      ∃ placed, Inclusion.Gives fs [fs.nameOf source] source (Inclusion.atHand records) placed ∧
        placed.map Prod.snd = tasks ∧
        ∃ tasks', (Inclusion.resolve fs' records source).outcome = .ok tasks' ∧
          List.Forall₂ x.Matches placed tasks') ∧
    ∀ roles role tasks, (Role.resolve fs roles role).outcome = .ok tasks →
      ∃ inner placed, fs.Holds (Role.tasksPath roles role) inner ∧
        Inclusion.Gives fs [fs.nameOf (Role.tasksPath roles role)] (Role.tasksPath roles role)
          (Inclusion.numbered 0 inner) placed ∧
        placed.map Prod.snd = tasks ∧
        ∃ tasks', (Role.resolve fs' roles role).outcome = .ok tasks' ∧
          List.Forall₂ x.Matches placed tasks' := by
  constructor
  · intro records source tasks hsource h
    obtain ⟨placed, hgives, hplaced⟩ :=
      Inclusion.exists_gives h (Inclusion.atHand_records records)
    exact ⟨placed, hgives, hplaced, x.exists_resolve hR hsource hgives⟩
  · intro roles role tasks h
    obtain ⟨inner, hfile, hexpand⟩ := Role.resolve_eq_ok.1 h
    obtain ⟨placed, hgives, hplaced⟩ :=
      Inclusion.exists_gives hexpand (Inclusion.numbered_records 0 inner)
    exact ⟨inner, placed, hfile, hgives, hplaced, x.exists_resolve_role hR hfile hgives⟩

/-! ### The middle one of three records -/

/-- A record with one entry, which is nothing or a text. -/
def single (key : String) (text? : Option String) : Record := [(.str key, text?.elim .null .str)]

/-- The entry of a record with one entry. -/
def single? : Record → Option (String × Option String)
  | [(.scalar (.str key), .scalar .null)] => some (key, none)
  | [(.scalar (.str key), .scalar (.str s))] => some (key, some s)
  | _ => none

theorem eq_single_of_single? {r : Record} {e : String × Option String} (h : single? r = some e) :
    r = single e.1 e.2 := by
  unfold single? at h
  split at h <;> cases h <;> rfl

/-- A document is read as records with one entry each. -/
theorem records_of_single? {b : Bytes} {es : List (String × Option String)}
    (h : ((Document.bytes b).records "" none).toOption.any
      (fun records => records.map single? == es.map some) = true) :
    (Document.bytes b).records "" none = .ok (es.map fun e => single e.1 e.2) := by
  obtain ⟨records, hrecords, hall⟩ := Resolution.exists_records_of_any h
  have hmap : records.map single? = es.map some := beq_iff_eq.1 hall
  suffices heq : records = es.map fun e => single e.1 e.2 by rw [hrecords, heq]
  clear hrecords hall h
  induction records generalizing es with
  | nil =>
    obtain rfl := List.map_eq_nil_iff.1 hmap.symm
    rfl
  | cons r rest ih =>
    obtain ⟨e, more, rfl, he, hmore⟩ := List.map_eq_cons_iff.1 hmap.symm
    rw [List.map_cons, ← eq_single_of_single? he.symm, ← ih hmore.symm]

/-- A task file with the modules `m`, `n` and `o`. -/
def wholeTasks : Bytes := [45, 32, 109, 58, 10, 45, 32, 110, 58, 10, 45, 32, 111, 58]

/-- The same with an inclusion of `g` in the place of `n`. -/
def outerTasks : Bytes :=
  [45, 32, 109, 58, 10, 45, 32, 105, 110, 99, 108, 117, 100, 101, 95, 116, 97, 115, 107, 115, 58,
    32, 103, 10, 45, 32, 111, 58]

/-- The module `n` alone. -/
def innerTasks : Bytes := [45, 32, 110, 58]

/-- The path by which the task file is included. -/
def mainFile : String := "roles/r/tasks/main.yml"

/-- The path by which it is the task file of a role, which is not normal. -/
def roleFile : String := "./roles/r/tasks/main.yml"

/-- The path of the new file. -/
def partFile : String := "roles/r/tasks/g"

/-- The files before the move. -/
def wholeFiles : FileSystem :=
  .ofAnswers "/w" [(mainFile, .ok wholeTasks), (roleFile, .ok wholeTasks)]

/-- The files after the move. -/
def movedFiles : FileSystem :=
  .ofAnswers "/w" [(mainFile, .ok outerTasks), (roleFile, .ok outerTasks),
    (partFile, .ok innerTasks)]

theorem wholeTasks_records : (Document.bytes wholeTasks).records "" none =
    .ok [single "m" none, single "n" none, single "o" none] :=
  @records_of_single? wholeTasks [("m", none), ("n", none), ("o", none)] (by decide +kernel)

theorem outerTasks_records : (Document.bytes outerTasks).records "" none =
    .ok [single "m" none, Inclusion.including "g", single "o" none] :=
  @records_of_single? outerTasks [("m", none), ("include_tasks", some "g"), ("o", none)]
    (by decide +kernel)

theorem innerTasks_records : (Document.bytes innerTasks).records "" none =
    .ok [single "n" none] :=
  @records_of_single? innerTasks [("n", none)] (by decide +kernel)

theorem eq_of_read_wholeFiles {q : String} {content : Bytes}
    (h : wholeFiles.read q = .ok content) : q = mainFile ∨ q = roleFile := by
  by_cases hmain : q = mainFile
  · exact .inl hmain
  by_cases hrole : q = roleFile
  · exact .inr hrole
  rw [wholeFiles, FileSystem.ofAnswers_read, List.lookup_cons, beq_false_of_ne hmain,
    List.lookup_cons, beq_false_of_ne hrole] at h
  cases h

theorem beside_main {p : String} (h : p = mainFile ∨ p = roleFile) :
    Path.beside p "g" = partFile := by
  rcases h with rfl | rfl <;> decide +kernel

/-- The move. -/
def middle : Extraction Eq wholeFiles movedFiles where
  leads p := p = mainFile ∨ p = roleFile
  file := "main.yml"
  newFile := "g"
  front := [single "m" none]
  part := [single "n" none]
  back := [single "o" none]
  directory := rfl
  name_eq := by
    rintro p (rfl | rfl) <;> decide +kernel
  isName := by decide
  fresh := by
    rintro p q content hp hread
    rw [beside_main hp]
    obtain rfl | rfl := eq_of_read_wholeFiles hread <;> decide +kernel
  holds := by
    rintro p (rfl | rfl) <;> exact ⟨wholeTasks, rfl, wholeTasks_records⟩
  holds_left := by
    rintro p (rfl | rfl) <;>
      exact ⟨_, ⟨outerTasks, rfl, outerTasks_records⟩,
        List.forall₂_same.2 fun r _ => isLikeness_eq.record_refl r⟩
  holds_part := by
    intro p hp
    rw [beside_main hp]
    exact ⟨_, ⟨innerTasks, rfl, innerTasks_records⟩,
      List.forall₂_same.2 fun r _ => isLikeness_eq.record_refl r⟩
  read_eq := fun hleads hread => absurd (eq_of_read_wholeFiles hread) hleads

/-- The task of a module without a value. -/
def bareTask (module source : String) : Task :=
  (single module none).taskWith (.str module) [(.str "__value__", .null)] source

/-- The three tasks, with the source of the one in the middle. -/
def threeTasks (source part : String) : List Task :=
  [bareTask "m" source, bareTask "n" part, bareTask "o" source]

/-- The three tasks before the move, with their places. -/
def threePlaced (source : String) : List (Option Nat × Task) :=
  [(some 0, bareTask "m" source), (some 1, bareTask "n" source), (some 2, bareTask "o" source)]

theorem gives_threePlaced (active : List String) (source : String) :
    Inclusion.Gives wholeFiles active source
      (Inclusion.numbered 0 [single "m" none, single "n" none, single "o" none])
      (threePlaced source) :=
  .task rfl (.task rfl (.task rfl .nil))

/-- What becomes of the three tasks: the one in the middle comes from the new file. -/
theorem eq_threeTasks {source : String} (hsource : source = mainFile ∨ source = roleFile)
    {tasks' : List Task} (h : List.Forall₂ middle.Matches (threePlaced source) tasks') :
    tasks' = threeTasks source partFile := by
  have hmoved : middle.InPart (some 1) source :=
    ⟨hsource, 1, rfl, Nat.le_refl 1, Nat.lt_succ_self 1⟩
  have hpart : Path.beside source middle.newFile = partFile := beside_main hsource
  cases h with
  | cons h₁ h =>
    cases h with
    | cons h₂ h =>
      cases h with
      | cons h₃ h =>
        cases h
        rw [h₁.alike.eq, h₁.target.kept (middle.not_inPart (.inl Nat.zero_lt_one)), h₂.alike.eq,
          h₂.target.moved hmoved, h₃.alike.eq,
          h₃.target.kept (middle.not_inPart (.inr (Nat.le_refl 2))), threeTasks, ← hpart]
        rfl

/-- Both by an inclusion and as the file of a role, the task in the middle comes from the new file
after the move. -/
theorem preserves_resolution_middle :
    ((Inclusion.resolve wholeFiles [Inclusion.including mainFile] "site").outcome =
        .ok (threeTasks mainFile mainFile) ∧
      (Inclusion.resolve movedFiles [Inclusion.including mainFile] "site").outcome =
        .ok (threeTasks mainFile partFile)) ∧
    (Role.resolve wholeFiles "./roles" "r").outcome = .ok (threeTasks roleFile roleFile) ∧
      (Role.resolve movedFiles "./roles" "r").outcome = .ok (threeTasks roleFile partFile) := by
  obtain ⟨hatHand, hrole⟩ := preserves_resolution middle isLikeness_eq
  constructor
  · have hrequest : (Inclusion.including mainFile).request "site" = .ok (.inclusion mainFile) := by
      rw [(Inclusion.namesFile_including mainFile).request_eq]
      exact congrArg (fun p => Except.ok (Request.inclusion p)) (by decide +kernel)
    have hnew : wholeFiles.nameOf mainFile ∉ [wholeFiles.nameOf "site"] := by decide +kernel
    have hgives : Inclusion.Gives wholeFiles [wholeFiles.nameOf "site"] "site"
        (Inclusion.atHand [Inclusion.including mainFile]) (threePlaced mainFile) :=
      .inclusion hrequest hnew (middle.holds (.inl rfl)) (gives_threePlaced _ _) .nil
    have hresolve : (Inclusion.resolve wholeFiles [Inclusion.including mainFile] "site").outcome =
        .ok (threeTasks mainFile mainFile) := hgives.expand_eq_ok
    have hsource : ∀ p, middle.leads p →
        wholeFiles.nameOf "site" ≠ wholeFiles.nameOf (Path.beside p middle.newFile) := by
      intro p hp
      have hpart : Path.beside p middle.newFile = partFile := beside_main hp
      rw [hpart]
      decide +kernel
    obtain ⟨placed, hplaced, -, tasks', htasks', hmatches⟩ := hatHand _ _ _ hsource hresolve
    obtain rfl := hplaced.unique hgives
    exact ⟨hresolve, htasks'.trans (congrArg Except.ok (eq_threeTasks (.inl rfl) hmatches))⟩
  · have hpath : Role.tasksPath "./roles" "r" = roleFile := by decide +kernel
    have hfile := middle.holds (.inr hpath)
    have hgives := gives_threePlaced [wholeFiles.nameOf (Role.tasksPath "./roles" "r")]
      (Role.tasksPath "./roles" "r")
    have hresolve : (Role.resolve wholeFiles "./roles" "r").outcome =
        .ok (threeTasks roleFile roleFile) := by
      rw [← hpath]
      exact Role.resolve_eq_ok.2 ⟨_, hfile, hgives.expand_eq_ok⟩
    obtain ⟨inner, placed, hfile', hplaced, -, tasks', htasks', hmatches⟩ := hrole _ _ _ hresolve
    obtain rfl := hfile'.unique hfile
    obtain rfl := hplaced.unique hgives
    have heq := eq_threeTasks (.inr hpath) hmatches
    rw [hpath] at heq
    exact ⟨hresolve, htasks'.trans (congrArg Except.ok heq)⟩

end Extraction

end Playbook
