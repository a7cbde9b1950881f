import Playbook.Proofs.Evaluation.Holding
import Playbook.Proofs.Reasons

/-!
# Evaluations that keep something true

A computation on the store of a running template may fail, and the store stays as it was left. What
is kept true of the store on the way depends on what the computation does, and on what it finds in
two cases: whoever is handed a loop may ask for the items that are still to come, and whoever is
handed a stream makes it call what it was made of. So what is kept true has a say in what the cells
let computations fail with, and a stream lets them fail with anything.

What may be kept true is not laid down here. A regime says what it is, and which changes of the
store it allows for: that cells may be added at all times, that they may be changed only if nothing
is to stay as it is, and that only marks of a set may be noted. Evaluation is gone through once, for
any regime.

Main definitions:

- `Value.containerMarks`: the marks of the containers in a value;
- `Cell.faultKinds`: what the content of a cell lets computations fail with;
- `Regime`: what is kept true, and what may be done;
- `Eval.Ensures`: a computation that keeps to a regime, fails, if at all, in one of some ways, and
  gives a result with a property; `Eval.Within`, the same for any result. The ways include those of
  the cells, and may be more, since a computation may catch some failures of its parts;
- `Puller.Within`: the same for the way streams are asked.

Main statement: `Eval.Ensures.bind`, from which the rules for lists follow.
-/

namespace Playbook

/-- All kinds of failures. -/
def FailureKind.all : List FailureKind :=
  [FailureKind.type, .value, .decoding, .base64, .key, .index, .lookup, .attribute, .zeroDivision,
    .overflow, .pattern, .name, .depth, .mutation, .system, .memory, .assertion, .undefined,
    .grammar, .template, .run]

theorem FailureKind.mem_all (k : FailureKind) : k ∈ all := by
  cases k <;> decide

theorem FailureKind.subset_all (kinds : List FailureKind) : kinds ⊆ all := fun k _ => k.mem_all

theorem FailureKind.subset_of_all {admitted : List FailureKind} (h : all ⊆ admitted)
    (kinds : List FailureKind) : kinds ⊆ admitted :=
  List.Subset.trans (subset_all kinds) h

theorem failsIn_all {α : Type} (x : Except Failure α) : FailsIn FailureKind.all x :=
  fun f _ => f.kind.mem_all

/-! Among all kinds there is nothing to ask for. -/

@[grind norm]
theorem FailureKind.mem_all_iff (k : FailureKind) : k ∈ all ↔ True := iff_true_intro k.mem_all

@[grind norm]
theorem FailureKind.subset_all_iff (kinds : List FailureKind) : kinds ⊆ all ↔ True :=
  iff_true_intro (subset_all kinds)

@[grind norm]
theorem failsIn_all_iff {α : Type} (x : Except Failure α) : FailsIn FailureKind.all x ↔ True :=
  iff_true_intro (failsIn_all x)

/-! ### Marks of containers -/

namespace Value

mutual

/-- The marks of the containers in a value. -/
def containerMarks : Value → List Nat
  | .tuple m items | .list m items | .set m items => m.toList ++ containerMarksOfItems items
  | .map m entries => m.toList ++ containerMarksOfEntries entries
  | .scalar _ | .again .. | .opaqueThing .. => []

/-- The marks of the containers in values. -/
def containerMarksOfItems : List Value → List Nat
  | [] => []
  | v :: rest => containerMarks v ++ containerMarksOfItems rest

/-- The marks of the containers in entries. -/
def containerMarksOfEntries : List (Value × Value) → List Nat
  | [] => []
  | (k, v) :: rest => containerMarks k ++ containerMarks v ++ containerMarksOfEntries rest

end

theorem mem_containerMarksOfItems {m : Nat} {vs : List Value} :
    m ∈ containerMarksOfItems vs ↔ ∃ v ∈ vs, m ∈ v.containerMarks := by
  induction vs with
  | nil => simp [containerMarksOfItems]
  | cons v rest ih => simp [containerMarksOfItems, ih]

theorem mem_containerMarksOfEntries {m : Nat} {es : Entries} :
    m ∈ containerMarksOfEntries es ↔
      ∃ e ∈ es, m ∈ e.1.containerMarks ∨ m ∈ e.2.containerMarks := by
  induction es with
  | nil => simp [containerMarksOfEntries]
  | cons e rest ih =>
    obtain ⟨k, v⟩ := e
    rw [containerMarksOfEntries, List.mem_append, List.mem_append, ih]
    simp only [List.mem_cons, exists_eq_or_imp]

/-- All containers in a value have marks of a set, if they have marks. -/
def Confined (own : Nat → Prop) (v : Value) : Prop := ∀ m ∈ v.containerMarks, own m

variable {own : Nat → Prop} {v : Value}

theorem confined_items {vs : List Value} :
    (∀ m ∈ containerMarksOfItems vs, own m) ↔ ∀ v ∈ vs, v.Confined own := by
  simp only [mem_containerMarksOfItems, Confined]
  grind

theorem confined_entries {es : Entries} :
    (∀ m ∈ containerMarksOfEntries es, own m) ↔
      ∀ e ∈ es, e.1.Confined own ∧ e.2.Confined own := by
  simp only [mem_containerMarksOfEntries]
  constructor
  · intro h e he
    exact ⟨fun m hm => h m ⟨e, he, .inl hm⟩, fun m hm => h m ⟨e, he, .inr hm⟩⟩
  · rintro h m ⟨e, he, hm | hm⟩
    · exact (h e he).1 m hm
    · exact (h e he).2 m hm

/-- The marks of a container are its own and those of its parts. -/
theorem confined_mark {mark : Option Nat} {marks : List Nat} (hmark : ∀ m, mark = some m → own m)
    (hmarks : ∀ m ∈ marks, own m) : ∀ m ∈ mark.toList ++ marks, own m := by
  intro m hm
  obtain hm | hm := List.mem_append.1 hm
  · exact hmark m (by simpa using hm)
  · exact hmarks m hm

mutual

/-- A value whose containers bear no marks has marks of any set. -/
theorem confined_of_isUnshared : ∀ {v : Value}, v.isUnshared = true → v.Confined own
  | .scalar _, _ | .again .., _ | .opaqueThing .., _ => List.forall_mem_nil _
  | .tuple m items, h | .list m items, h | .set m items, h => by
    rw [isUnshared, Bool.and_eq_true, Option.isNone_iff_eq_none] at h
    obtain ⟨rfl, h⟩ := h
    exact confined_of_areUnshared h
  | .map m entries, h => by
    rw [isUnshared, Bool.and_eq_true, Option.isNone_iff_eq_none] at h
    obtain ⟨rfl, h⟩ := h
    exact confined_of_areUnsharedEntries h

theorem confined_of_areUnshared :
    ∀ {vs : List Value}, areUnshared vs = true → ∀ m ∈ containerMarksOfItems vs, own m
  | [], _ => List.forall_mem_nil _
  | v :: rest, h => by
    rw [areUnshared, Bool.and_eq_true] at h
    exact List.forall_mem_append.2 ⟨confined_of_isUnshared h.1, confined_of_areUnshared h.2⟩

theorem confined_of_areUnsharedEntries :
    ∀ {es : Entries}, areUnsharedEntries es = true → ∀ m ∈ containerMarksOfEntries es, own m
  | [], _ => List.forall_mem_nil _
  | (k, v) :: rest, h => by
    rw [areUnsharedEntries, Bool.and_eq_true, Bool.and_eq_true] at h
    rw [containerMarksOfEntries, List.forall_mem_append, List.forall_mem_append]
    exact ⟨⟨confined_of_isUnshared h.1.1, confined_of_isUnshared h.1.2⟩,
      confined_of_areUnsharedEntries h.2⟩

end

end Value

namespace Template

variable {α β γ : Type}

/-! ### Regimes -/

/-- What going through the items of a datum fails with. -/
def Cursor.faultKinds : List FailureKind := [.mutation, .overflow, .memory]

/-- What the content of a cell lets computations fail with. -/
@[simp, grind =]
def Cell.faultKinds : Cell → List FailureKind
  | .stream .. => FailureKind.all
  | .loop _ => Cursor.faultKinds
  | .list _ | .map _ | .set _ | .fields _ | .cycler .. | .joiner .. | .definition _ | .place _ => []

/-- **What is kept true of a store,** and what may be done to the store while it is kept true. -/
structure Regime where
  /-- What is kept true. -/
  Good : Store → Prop
  /-- What the cells may let computations fail with. -/
  admitted : List FailureKind
  /-- The marks that may be noted. -/
  own : Nat → Prop
  /-- Whether cells may be changed. -/
  free : Prop
  /-- Marks are noted only where cells may be changed. -/
  free_of_own : ∀ {m}, own m → free
  /-- Where everything is admitted, cells may be changed. -/
  free_of_all : FailureKind.all ⊆ admitted → free
  /-- What the cells let computations fail with is admitted. -/
  cells : ∀ {s c}, Good s → c ∈ s.cells → c.faultKinds ⊆ admitted
  /-- What has become of a container whose mark may be noted may be taken over. -/
  current : ∀ {s m v}, Good s → own m → s.current.lookup m = some v → v.Confined own
  /-- A cell may be added. -/
  push : ∀ {s c}, Good s → c.faultKinds ⊆ admitted → Good { s with cells := s.cells.push c }
  /-- A cell may be changed if cells may be changed. -/
  set : ∀ {s c} (r : Ref), Good s → free → c.faultKinds ⊆ admitted →
    Good { s with cells := s.cells.setIfInBounds r c }
  /-- A loop may go on in any case. -/
  setLoop : ∀ {s r state} (state' : LoopState), Good s → Cursor.faultKinds ⊆ admitted →
    s.cells[r]? = some (.loop state) →
      Good { s with cells := s.cells.setIfInBounds r (.loop state') }
  /-- A mark may be noted if it is one of those. -/
  note : ∀ {s m} (d : Datum), Good s → own m → Good { s with marked := (m, d) :: s.marked }
  /-- Nothing else is of concern but the names that have been looked up, and that a mark that has
  been used is not new any more. -/
  other : ∀ {s t}, Good s → t.cells = s.cells → t.named = s.named → t.marked = s.marked →
    t.current = s.current → s.next ≤ t.next → Good t

attribute [grind .] Regime.free_of_all

variable {R : Regime} {kinds : List FailureKind}

/-- A result is as it is to be, and so is the store that is left behind. -/
structure Eval.Ends (R : Regime) (kinds : List FailureKind) (post : α → Prop)
    (r : Except Failure α × Store) : Prop where
  /-- What is given has the property. -/
  ok : ∀ a, r.1 = .ok a → post a
  /-- What is failed with is admitted. -/
  error : ∀ f, r.1 = .error f → f.kind ∈ kinds
  /-- The store keeps to the regime in both cases. -/
  store : R.Good r.2

/-- Streams that are asked in this way fail with what is admitted. -/
def Puller.Within (R : Regime) (p : Puller) : Prop :=
  ∀ r s, R.Good s → Eval.Ends R R.admitted (fun _ => True) (p r s)

namespace Eval

/-- **A computation keeps to a regime**, fails with what is admitted, and gives a result with a
property. -/
def Ensures (R : Regime) (kinds : List FailureKind) (post : α → Prop) (x : Eval α) : Prop :=
  R.admitted ⊆ kinds → ∀ p s, Puller.Within R p → R.Good s → Ends R kinds post (x p s)

/-- A computation keeps to a regime and fails with what is admitted. -/
def Within (R : Regime) (kinds : List FailureKind) (x : Eval α) : Prop :=
  Ensures R kinds (fun _ => True) x

/-- A computation keeps to a regime, whatever it fails with. -/
abbrev Keeps (R : Regime) (x : Eval α) : Prop := Within R FailureKind.all x

/-! ### Rules -/

namespace Ensures

variable {post : α → Prop} {post' : β → Prop}

theorem pure {a : α} (h : post a) : Ensures R kinds post (pure a) := by
  intro _ p s _ hs
  refine ⟨fun b hb => ?_, fun f hf => ?_, hs⟩
  · cases hb
    exact h
  · cases hf

theorem throw {f : Failure} (h : f.kind ∈ kinds) : Ensures R kinds post (throw f) := by
  intro _ p s _ hs
  refine ⟨fun b hb => ?_, fun g hg => ?_, hs⟩
  · cases hb
  · cases hg
    exact h

/-- **One computation after another**: the second may rely on what the first ensures. -/
theorem bind {x : Eval α} {f : α → Eval β} (hx : Ensures R kinds post x)
    (hf : ∀ a, post a → Ensures R kinds post' (f a)) : Ensures R kinds post' (x >>= f) := by
  intro hadm p s hp hs
  obtain ⟨hok, herror, hstore⟩ := hx hadm p s hp hs
  show Ends R kinds post' (ExceptT.bindCont (fun a => f a p) (x p s).1 (x p s).2)
  cases hr : (x p s).1 with
  | ok a => exact hf a (hok a hr) hadm p _ hp hstore
  | error e =>
    -- A failure leaves the store as it was found then, not as it was before.
    refine ⟨fun b hb => ?_, fun g hg => ?_, hstore⟩
    · cases hb
    · cases hg
      exact herror e hr

/-- Less may be said about the result. -/
theorem mono {post₂ : α → Prop} {x : Eval α} (hx : Ensures R kinds post x)
    (h : ∀ a, post a → post₂ a) : Ensures R kinds post₂ x := by
  intro hadm p s hp hs
  obtain ⟨hok, herror, hstore⟩ := hx hadm p s hp hs
  exact ⟨fun a ha => h a (hok a ha), herror, hstore⟩

/-- Any result is a result. -/
theorem within {x : Eval α} (hx : Ensures R kinds post x) : Within R kinds x :=
  hx.mono fun _ _ => trivial

/-- Nothing need be known of what the first of two computations gives. -/
theorem next {x : Eval α} {f : α → Eval β} (hx : Within R kinds x)
    (hf : ∀ a, Ensures R kinds post' (f a)) : Ensures R kinds post' (x >>= f) :=
  bind hx fun a _ => hf a

/-- Nothing follows a failure. -/
theorem throw_bind {f : Failure} (h : f.kind ∈ kinds) (g : α → Eval β) :
    Ensures R kinds post' (MonadExcept.throw f >>= g) :=
  bind (show Ensures R kinds (fun _ => False) _ from throw h) fun _ h => h.elim

/-- A computation that looks at the store. -/
theorem get : Ensures R kinds (R.Good) (getThe Store : Eval Store) := by
  intro _ p s _ hs
  refine ⟨fun b hb => ?_, fun f hf => ?_, hs⟩
  · cases hb
    exact hs
  · cases hf

theorem ofExcept {x : Except Failure α} (hx : FailsIn kinds x) :
    Ensures R kinds (fun a => x = .ok a) (Eval.ofExcept x) := by
  cases x with
  | ok a => exact pure rfl
  | error f => exact throw (hx f rfl)

/-- What is ensured of what each item gives is ensured of all that is given. -/
theorem mapM {xs : List α} {f : α → Eval β} (h : ∀ a ∈ xs, Ensures R kinds post' (f a)) :
    Ensures R kinds (fun bs => ∀ b ∈ bs, post' b) (xs.mapM f) := by
  induction xs with
  | nil =>
    rw [List.mapM_nil]
    exact pure fun b hb => (nomatch hb)
  | cons a rest ih =>
    rw [List.mapM_cons]
    refine (h a List.mem_cons_self).bind fun b hb => ?_
    refine (ih fun a' ha' => h a' (List.mem_cons_of_mem _ ha')).bind fun bs hbs => pure ?_
    exact List.forall_mem_cons.2 ⟨hb, hbs⟩

/-- A failure that is caught is one of those that the computation may fail with. -/
theorem attempt {caught : List FailureKind} {x : Eval α} (hsub : kinds ⊆ caught)
    (hx : Within R caught x) :
    Ensures R kinds (fun r => ∀ f, r = .error f → f.kind ∈ caught) (attempt x) := by
  intro hadm p s hp hs
  obtain ⟨-, herror, hstore⟩ := hx (List.Subset.trans hadm hsub) p s hp hs
  refine ⟨fun r hr => ?_, fun f hf => ?_, hstore⟩
  · cases hr
    exact herror
  · cases hf

end Ensures

namespace Within

@[grind .]
theorem pure (a : α) : Within R kinds (pure a) := Ensures.pure trivial

@[grind .]
theorem throw {f : Failure} (h : f.kind ∈ kinds) : Within R kinds (throw f : Eval α) :=
  Ensures.throw h

/-- **One computation after another.** -/
@[grind .]
theorem bind {x : Eval α} {f : α → Eval β} (hx : Within R kinds x)
    (hf : ∀ a, Within R kinds (f a)) : Within R kinds (x >>= f) :=
  Ensures.bind hx fun a _ => hf a

@[grind .]
theorem map {x : Eval α} {f : α → β} (hx : Within R kinds x) : Within R kinds (f <$> x) :=
  bind hx fun a => pure (f a)

@[grind .]
theorem getThe : Within R kinds (getThe Store : Eval Store) := Ensures.get.within

/-- A change of the store that keeps to the regime. -/
theorem modifyGet_of_good {f : Store → α × Store} (h : ∀ s, R.Good s → R.Good (f s).2) :
    Within R kinds (MonadStateOf.modifyGet f : Eval α) := by
  intro _ p s _ hs
  refine ⟨fun _ _ => trivial, fun f hf => ?_, h s hs⟩
  cases hf

/-- A change of the store that leaves the cells alone, and what has been taken over. -/
@[grind .]
theorem modifyGet {f : Store → α × Store}
    (h : ∀ s, (f s).2.cells = s.cells ∧ (f s).2.named = s.named ∧ (f s).2.marked = s.marked ∧
      (f s).2.current = s.current ∧ s.next ≤ (f s).2.next) :
    Within R kinds (MonadStateOf.modifyGet f : Eval α) := by
  refine modifyGet_of_good fun s hs => ?_
  obtain ⟨hcells, hnamed, hmarked, hcurrent, hnext⟩ := h s
  exact R.other hs hcells hnamed hmarked hcurrent hnext

@[grind .]
theorem discard {x : Eval α} (hx : Within R kinds x) : Within R kinds (discard x) :=
  bind hx fun _ => pure _

@[grind .]
theorem getD {x : Option (Eval α)} {y : Eval α} (hx : ∀ a, x = some a → Within R kinds a)
    (hy : Within R kinds y) : Within R kinds (x.getD y) := by
  cases x with
  | none => exact hy
  | some a => exact hx a rfl

/-- Failures that are caught need not be admitted, as long as they are not thrown again. -/
theorem bind_attempt_of_subset {caught : List FailureKind} {x : Eval α}
    {f : Except Failure α → Eval β} (hsub : kinds ⊆ caught) (hx : Within R caught x)
    (hok : ∀ a, Within R kinds (f (.ok a)))
    (herror : ∀ e : Failure, e.kind ∈ caught → Within R kinds (f (.error e))) :
    Within R kinds (Eval.attempt x >>= f) := by
  -- What is caught is looked at as a result, so nothing has been failed with yet.
  refine Ensures.bind (Ensures.attempt hsub hx) fun r hr => ?_
  cases r with
  | ok a => exact hok a
  | error e => exact herror e (hr e rfl)

/-- A caught failure may be thrown again if it is admitted. -/
@[grind .]
theorem bind_attempt {x : Eval α} {f : Except Failure α → Eval β} (hx : Within R kinds x)
    (hok : ∀ a, Within R kinds (f (.ok a)))
    (herror : ∀ e : Failure, e.kind ∈ kinds → Within R kinds (f (.error e))) :
    Within R kinds (Eval.attempt x >>= f) :=
  bind_attempt_of_subset (List.Subset.refl kinds) hx hok herror

@[grind .]
theorem ofExcept {x : Except Failure α} (hx : FailsIn kinds x) :
    Within R kinds (Eval.ofExcept x) :=
  (Ensures.ofExcept hx).within

/-- What is admitted for the cells is admitted. -/
theorem of_admitted {x : Eval α} (hx : Within R R.admitted x) : Within R kinds x := by
  intro hadm p s hp hs
  obtain ⟨hok, herror, hstore⟩ := hx (List.Subset.refl _) p s hp hs
  exact ⟨hok, fun f hf => hadm (herror f hf), hstore⟩

@[grind .]
theorem pull (r : Ref) : Within R kinds (Eval.pull r) :=
  of_admitted fun _ _ s hp hs => hp r s hs

/-- Streams may be asked in another way. -/
theorem pulling {p : Puller} {x : Eval α} (hp : p.Within R) (hx : Within R kinds x) :
    Within R kinds (Eval.pulling p x) := fun hadm _ s _ hs => hx hadm p s hp hs

/-- What the cells let computations fail with may be taken to be admitted. -/
theorem assume {x : Eval α} (hx : R.admitted ⊆ kinds → Within R kinds x) : Within R kinds x :=
  fun hsub => hx hsub hsub

/-- Where everything is admitted it does not matter what a computation fails with. -/
theorem of_all {x : Eval α} (hall : FailureKind.all ⊆ R.admitted)
    (hx : Within R FailureKind.all x) : Within R kinds x := by
  intro hsub p s hp hs
  -- What it fails with is not asked for: any failure is one of those that cells may cause.
  obtain ⟨hok, -, hstore⟩ := hx (FailureKind.subset_all _) p s hp hs
  exact ⟨hok, fun f _ => hsub (hall f.kind.mem_all), hstore⟩

/-! ### Rules for lists -/

@[grind .]
theorem mapM {xs : List α} {f : α → Eval β} (h : ∀ a ∈ xs, Within R kinds (f a)) :
    Within R kinds (xs.mapM f) :=
  (Ensures.mapM h).within

@[grind .]
theorem foldlM {xs : List α} {init : β} {f : β → α → Eval β}
    (h : ∀ a ∈ xs, ∀ b, Within R kinds (f b a)) :
    Within R kinds (xs.foldlM f init) := by
  induction xs generalizing init with
  | nil =>
    rw [List.foldlM_nil]
    exact pure init
  | cons a rest ih =>
    rw [List.foldlM_cons]
    refine (h a List.mem_cons_self init).bind fun b => ?_
    exact ih fun a' ha' => h a' (List.mem_cons_of_mem _ ha')

@[grind .]
theorem forM {xs : List α} {f : α → Eval PUnit} (h : ∀ a ∈ xs, Within R kinds (f a)) :
    Within R kinds (xs.forM f) := by
  induction xs with
  | nil => exact pure _
  | cons a rest ih =>
    refine bind (h a List.mem_cons_self) fun _ => ?_
    exact ih fun a' ha' => h a' (List.mem_cons_of_mem _ ha')

@[grind .]
theorem forIn {xs : List α} {init : β} {f : α → β → Eval (ForInStep β)}
    (h : ∀ a ∈ xs, ∀ b, Within R kinds (f a b)) : Within R kinds (forIn xs init f) := by
  induction xs generalizing init with
  | nil => exact pure init
  | cons a rest ih =>
    rw [List.forIn_cons]
    refine bind (h a List.mem_cons_self init) fun step => ?_
    cases step with
    | done b => exact pure b
    | yield b => exact ih fun a' ha' => h a' (List.mem_cons_of_mem _ ha')

/-- What is found is one of those that are looked at. -/
theorem ensures_findM? {xs : List α} {f : α → Eval Bool} (h : ∀ a ∈ xs, Within R kinds (f a)) :
    Ensures R kinds (fun found => ∀ a, found = some a → a ∈ xs) (xs.findM? f) := by
  induction xs with
  | nil => exact .pure fun a ha => nomatch ha
  | cons a rest ih =>
    refine Ensures.bind (h a List.mem_cons_self) fun found _ => ?_
    cases found with
    | true =>
      refine .pure fun a' ha' => ?_
      cases ha'
      exact List.mem_cons_self
    | false =>
      refine (ih fun a' ha' => h a' (List.mem_cons_of_mem _ ha')).mono fun found hfound => ?_
      exact fun a' ha' => List.mem_cons_of_mem _ (hfound a' ha')

@[grind .]
theorem anyM {xs : List α} {f : α → Eval Bool} (h : ∀ a ∈ xs, Within R kinds (f a)) :
    Within R kinds (xs.anyM f) := by
  induction xs with
  | nil => exact pure false
  | cons a rest ih =>
    refine bind (h a List.mem_cons_self) fun found => ?_
    cases found with
    | true => exact pure true
    | false => exact ih fun a' ha' => h a' (List.mem_cons_of_mem _ ha')

@[grind .]
theorem allM {xs : List α} {f : α → Eval Bool} (h : ∀ a ∈ xs, Within R kinds (f a)) :
    Within R kinds (xs.allM f) := by
  induction xs with
  | nil => exact pure true
  | cons a rest ih =>
    refine bind (h a List.mem_cons_self) fun found => ?_
    cases found with
    | true => exact ih fun a' ha' => h a' (List.mem_cons_of_mem _ ha')
    | false => exact pure false

end Within

/-! ### Cells -/

@[grind .]
theorem within_alloc {c : Cell} (h : c.faultKinds ⊆ R.admitted) : Within R kinds (alloc c) :=
  .modifyGet_of_good fun _ hs => R.push hs h

/-- A cell may be changed as long as nothing is to stay as it is. -/
@[grind .]
theorem within_setCell (hfree : R.free) (r : Ref) {c : Cell} (h : c.faultKinds ⊆ R.admitted) :
    Within R kinds (setCell r c) :=
  .modifyGet_of_good fun _ hs => R.set r hs hfree h

/-- A loop holds no value, so its state is no part of what has been taken over. -/
@[grind .]
theorem within_setLoop (h : Cursor.faultKinds ⊆ R.admitted) (r : Ref) (state : LoopState) :
    Within R kinds (setLoop r state) := by
  refine Within.modifyGet_of_good fun s hs => ?_
  dsimp only
  split
  -- Nothing is set unless the cell holds a loop already.
  · next hloop => exact R.setLoop state hs h hloop
  · exact hs

/-- What a cell lets computations fail with is admitted. -/
theorem ensures_cell (r : Ref) :
    Ensures R kinds (fun c => c.faultKinds ⊆ R.admitted) (cell r) := by
  refine Ensures.get.bind fun s hs => Ensures.pure ?_
  cases hc : s.cells[r]? with
  | none => exact List.nil_subset _
  | some c => exact R.cells hs (Array.mem_of_getElem? hc)

@[grind .]
theorem within_cell (r : Ref) : Within R kinds (cell r) := (ensures_cell r).within

@[grind .]
theorem within_bind_cell (r : Ref) {f : Cell → Eval β}
    (h : ∀ c, c.faultKinds ⊆ R.admitted → Within R kinds (f c)) :
    Within R kinds (cell r >>= f) :=
  (ensures_cell r).bind h

end Eval

end Template

end Playbook
