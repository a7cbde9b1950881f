import Mathlib.Data.List.Forall2
import Playbook.Proofs.Walk

/-!
# Values that differ in their marks only

The values of a document bear marks, which tell one thing in several places from several equal
things. Marks are counted through a document, so the same records bear other marks when they are
written into another one, and a thing that two places shared is two things when the places are in
two documents. What a record asks for does not depend on this.

* `IsLikeness` — a relation between values that sees everything but marks, one layer at a time. It
  says nothing about how a container is named inside itself, only about what is found there; so a
  container that holds itself can be like one that is unrolled further.
* `Value.Alike` — the largest such relation (`isLikeness_alike`). Equality is the smallest
  (`isLikeness_eq`); statements are made for any likeness, so that they can be read with either.
* `Record.Alike`, `Task.Alike` — records with the same keys and like values, and tasks that are like
  in all fields but the source, of which nothing is said.
* `Record.Alike.request_task`, `Record.Alike.request_inclusion` — like records ask for like tasks,
  and for the same path.
-/

namespace Playbook

/-- Two scalars are alike if they differ in their marks at most. -/
def Scalar.Alike (s s' : Scalar) : Prop := s.withMark 0 = s'.withMark 0

/-- A text bears no mark, so only itself is like it. -/
theorem Scalar.Alike.eq_str {s : String} {s' : Scalar} (h : (Scalar.str s).Alike s') :
    s' = .str s := by
  unfold Alike withMark at h
  -- Only what denotes no number bears a mark, and this is no text.
  cases s' with
  | str s' => exact h.symm
  | float x =>
    dsimp only at h
    split at h <;> cases h
  | _ => cases h

theorem Scalar.Alike.symm {s s' : Scalar} (h : s.Alike s') : s'.Alike s := Eq.symm h

/-- **Two values have like parts:** they are of one shape, and their parts are pairwise related. A
container that is met inside itself counts as the container. -/
inductive Value.AlikeParts (R : Value → Value → Prop) : Value → Value → Prop
  /-- Scalars are alike up to marks. -/
  | scalar {s s' : Scalar} (h : s.Alike s') : AlikeParts R (.scalar s) (.scalar s')
  /-- Tuples have related items. -/
  | tuple {m m' : Option Nat} {items items' : List Value} (h : List.Forall₂ R items items') :
      AlikeParts R (.tuple m items) (.tuple m' items')
  /-- Lists have related items. -/
  | list {v w : Value} {items items' : List Value} (hv : v.items? = some items)
      (hw : w.items? = some items') (h : List.Forall₂ R items items') : AlikeParts R v w
  /-- Mappings have related keys and values. -/
  | map {v w : Value} {es es' : Entries} (hv : v.entries? = some es) (hw : w.entries? = some es')
      (h : List.Forall₂ (fun e e' => R e.1 e'.1 ∧ R e.2 e'.2) es es') : AlikeParts R v w
  /-- Sets have related members. -/
  | set {m m' : Option Nat} {items items' : List Value} (h : List.Forall₂ R items items') :
      AlikeParts R (.set m items) (.set m' items')
  /-- A value is like itself. -/
  | same (v : Value) : AlikeParts R v v

/-- **A likeness:** a relation between values that does not see their marks, but everything else. -/
structure IsLikeness (R : Value → Value → Prop) : Prop where
  /-- Every value is like itself. -/
  refl : ∀ v, R v v
  /-- What is alike has like parts. -/
  parts : ∀ {v w}, R v w → Value.AlikeParts R v w

/-- **Two values are alike** if some likeness relates them. -/
def Value.Alike (v w : Value) : Prop := ∃ R, IsLikeness R ∧ R v w

/-- A list is no mapping. -/
theorem Value.entries?_of_items? {v : Value} {items : List Value} (h : v.items? = some items) :
    v.entries? = none := by
  refine entries?_eq_none ?_
  rw [kind_of_items? h]
  exact Kind.noConfusion

theorem Value.AlikeParts.mono {R S : Value → Value → Prop} (hsub : ∀ v w, R v w → S v w)
    {v w : Value} (h : Value.AlikeParts R v w) : Value.AlikeParts S v w := by
  cases h with
  | scalar h => exact .scalar h
  | tuple h => exact .tuple (h.imp hsub)
  | list hv hw h => exact .list hv hw (h.imp hsub)
  | map hv hw h => exact .map hv hw (h.imp fun _ _ he => ⟨hsub _ _ he.1, hsub _ _ he.2⟩)
  | set h => exact .set (h.imp hsub)
  | same v => exact .same v

/-- Equality is a likeness. -/
theorem isLikeness_eq : IsLikeness Eq := ⟨fun _ => rfl, fun h => h ▸ .same _⟩

/-- **To be alike is the largest likeness.** -/
theorem isLikeness_alike : IsLikeness Value.Alike where
  refl v := ⟨Eq, isLikeness_eq, rfl⟩
  parts := by
    rintro v w ⟨R, hR, h⟩
    -- the likeness that relates two values relates their parts
    exact (hR.parts h).mono fun _ _ h => ⟨R, hR, h⟩

/-! ### Records and tasks -/

/-- Entries are alike: keys and values are, one by one. -/
def Entries.Alike (R : Value → Value → Prop) (es es' : Entries) : Prop :=
  List.Forall₂ (fun e e' => R e.1 e'.1 ∧ R e.2 e'.2) es es'

/-- **Records are alike:** their keys are the same, and their values are alike. -/
def Record.Alike (R : Value → Value → Prop) (r r' : Record) : Prop :=
  List.Forall₂ (fun e e' => e.1 = e'.1 ∧ R e.2 e'.2) r r'

/-- **Tasks are alike** in all fields but the source. -/
structure Task.Alike (R : Value → Value → Prop) (t t' : Task) : Prop where
  /-- They have the same name. -/
  name : t'.name = t.name
  /-- They have the same module. -/
  module : t'.module = t.module
  /-- Their arguments are alike. -/
  args : Entries.Alike R t.args t'.args
  /-- Their variables are alike. -/
  vars : Entries.Alike R t.vars t'.vars
  /-- They loop over the same expression. -/
  loop : t'.loop = t.loop

/-- Entries that are alike by equality are equal. -/
theorem Entries.Alike.eq {es es' : Entries} (h : Alike Eq es es') : es = es' := by
  -- Pairs of equal parts are equal, and so are lists of equal pairs.
  have heq : List.Forall₂ (fun e e' => e = e') es es' := h.imp fun _ _ he => Prod.ext he.1 he.2
  rwa [List.forall₂_eq_eq_eq] at heq

/-- **Tasks that are alike by equality** are equal but for the source. -/
theorem Task.Alike.eq {t t' : Task} (h : t.Alike Eq t') : t' = { t with source := t'.source } := by
  obtain ⟨hname, hmodule, hargs, hvars, hloop⟩ := h
  cases t'
  subst hname hmodule hloop
  rw [hargs.eq, hvars.eq]

namespace IsLikeness

variable {R : Value → Value → Prop} (hR : IsLikeness R)

include hR

theorem entries_refl (es : Entries) : Entries.Alike R es es :=
  List.forall₂_same.2 fun _ _ => ⟨hR.refl _, hR.refl _⟩

theorem record_refl (r : Record) : Record.Alike R r r :=
  List.forall₂_same.2 fun _ _ => ⟨rfl, hR.refl _⟩

section Values

variable {v w : Value}

/-- Only a text is like a text. -/
theorem eq_str {s : String} (h : R (.str s) w) : w = .str s := by
  -- By the parts: a text is a scalar, and it has no items and no entries.
  cases hR.parts h with
  | scalar hs => exact congrArg Value.scalar hs.eq_str
  | list hv => cases hv
  | map hv => cases hv
  | same => rfl

/-- A text is like only a text. -/
theorem eq_str' {s : String} (h : R v (.str s)) : v = .str s := by
  cases hR.parts h with
  | scalar hs => exact congrArg Value.scalar hs.symm.eq_str
  | list _ hw => cases hw
  | map _ hw => cases hw
  | same => rfl

/-- What is like a mapping is a mapping, with like entries. -/
theorem entries?_cases (h : R v w) :
    (v.entries? = none ∧ w.entries? = none) ∨
      ∃ es es', v.entries? = some es ∧ w.entries? = some es' ∧ Entries.Alike R es es' := by
  -- By the parts: only a mapping has entries.
  cases hR.parts h with
  | scalar => exact .inl ⟨rfl, rfl⟩
  | tuple => exact .inl ⟨rfl, rfl⟩
  | list hv hw => exact .inl ⟨Value.entries?_of_items? hv, Value.entries?_of_items? hw⟩
  | map hv hw hes => exact .inr ⟨_, _, hv, hw, hes⟩
  | set => exact .inl ⟨rfl, rfl⟩
  | same =>
    cases hv : v.entries? with
    | none => exact .inl ⟨rfl, rfl⟩
    | some es => exact .inr ⟨es, es, rfl, rfl, hR.entries_refl es⟩

end Values

end IsLikeness

/-! ### What records ask for -/

/-- A record that asks for a task has no key that includes a file. -/
theorem Record.inclusionKeys_of_request {r : Record} {source : String} {t : Task}
    (h : r.request source = .ok (.task t)) : r.inclusionKeys = [] := by
  -- What a record includes is asked first, so it must have been nothing.
  have hinclusion : r.inclusion? source = .ok none := by
    simp only [request, bind, Except.bind, pure, Except.pure] at h
    split at h
    · cases h
    · split at h
      · cases h
      · next hnone => exact hnone
  unfold inclusion? at hinclusion
  split at hinclusion
  · next hkeys => exact hkeys
  · -- one such key gives a path or a fault
    split at hinclusion
    · split at hinclusion
      · cases hinclusion
      · split at hinclusion <;> cases hinclusion
    · cases hinclusion
  · split at hinclusion <;> cases hinclusion

namespace Record.Alike

variable {R : Value → Value → Prop} {r r' : Record}

/-- Like records have the same keys. -/
theorem keys (h : Alike R r r') : Entries.keys r' = Entries.keys r := by
  induction h with
  | nil => rfl
  | cons he _ ih => exact congrArg₂ List.cons he.1.symm ih

theorem inclusionKeys (h : Alike R r r') : r'.inclusionKeys = r.inclusionKeys := by
  rw [Record.inclusionKeys, h.keys, Record.inclusionKeys]

theorem moduleKeys (h : Alike R r r') : r'.moduleKeys = r.moduleKeys := by
  rw [Record.moduleKeys, h.keys, Record.moduleKeys]

/-- Like records have like fields. -/
theorem field?_cases (h : Alike R r r') (key : Value) :
    (r.field? key = none ∧ r'.field? key = none) ∨
      ∃ v w, r.field? key = some v ∧ r'.field? key = some w ∧ R v w := by
  rw [Record.field?, Record.field?]
  induction h with
  | nil => exact .inl ⟨rfl, rfl⟩
  | @cons e e' es es' he _ ih =>
    -- the keys are the same, so both searches stop at one entry
    rw [Entries.find?, Entries.find?, ← he.1]
    by_cases hkey : e.1.sameKey key
    · rw [if_pos hkey, if_pos hkey]
      exact .inr ⟨_, _, rfl, rfl, he.2⟩
    · rw [if_neg hkey, if_neg hkey]
      exact ih

variable (hR : IsLikeness R)

include hR

/-- A field that is a text is the same text in like records. -/
theorem field?_eq_str (h : Alike R r r') {key : Value} {s : String} :
    r'.field? key = some (.str s) ↔ r.field? key = some (.str s) := by
  -- There is no such field in both, or one in each with values that are alike.
  obtain ⟨hv, hw⟩ | ⟨v, w, hv, hw, hvw⟩ := h.field?_cases key
  · rw [hv, hw]
  · rw [hv, hw, Option.some.injEq, Option.some.injEq]
    constructor
    · rintro rfl
      exact hR.eq_str' hvw
    · rintro rfl
      exact hR.eq_str hvw

theorem text (h : Alike R r r') (key : Value) : r'.text key = r.text key := by
  by_cases hstr : ∃ s, r.field? key = some (.str s)
  · obtain ⟨s, hs⟩ := hstr
    rw [Record.text, Record.text, hs, (h.field?_eq_str hR).2 hs]
  · -- if the one field is no text, neither is the other
    have hempty : ∀ x : Record, (¬∃ s, x.field? key = some (.str s)) → x.text key = "" := by
      intro x hx
      rw [Record.text]
      split
      · next s hs => exact absurd ⟨s, hs⟩ hx
      · rfl
    rw [hempty r hstr, hempty r' fun ⟨s, hs⟩ => hstr ⟨s, (h.field?_eq_str hR).1 hs⟩]

theorem mapping (h : Alike R r r') (key : Value) :
    Entries.Alike R (r.mapping key) (r'.mapping key) := by
  rw [Record.mapping, Record.mapping]
  obtain ⟨hv, hw⟩ | ⟨v, w, hv, hw, hvw⟩ := h.field?_cases key
  · rw [hv, hw]
    exact .nil
  · rw [hv, hw, Option.bind_some, Option.bind_some]
    -- The field is a mapping in both records, or in none.
    obtain ⟨hes, hes'⟩ | ⟨es, es', hes, hes', halike⟩ := hR.entries?_cases hvw
    · rw [hes, hes']
      exact .nil
    · rw [hes, hes']
      exact halike

end Record.Alike

/-- Arguments of like values are alike: those of mappings one by one, and the short forms. -/
theorem IsLikeness.argsOf {R : Value → Value → Prop} (hR : IsLikeness R) {v w : Value}
    (h : R v w) : Entries.Alike R (Record.argsOf v) (Record.argsOf w) := by
  rw [Record.argsOf, Record.argsOf]
  obtain ⟨hes, hes'⟩ | ⟨es, es', hes, hes', halike⟩ := hR.entries?_cases h
  · rw [hes, hes']
    exact .cons ⟨hR.refl _, h⟩ .nil
  · rw [hes, hes']
    exact halike

namespace Record.Alike

variable {R : Value → Value → Prop} {r r' : Record} (hR : IsLikeness R)

include hR

/-- Like records describe like tasks. -/
theorem build (h : Alike R r r') {source : String} {t : Task} (ht : r.build source = .ok t)
    (source' : String) : ∃ t', r'.build source' = .ok t' ∧ t.Alike R t' := by
  -- All fields but the source are read off fields of the records.
  have htask : ∀ module args args', Entries.Alike R args args' →
      (r.taskWith module args source).Alike R (r'.taskWith module args' source') :=
    fun module args args' hargs =>
      ⟨h.text hR _, rfl, hargs, h.mapping hR _, h.text hR _⟩
  -- the same keys name modules, so both records are in the same case
  unfold Record.build at ht ⊢
  rw [h.moduleKeys]
  split at ht
  · cases ht
    exact ⟨_, rfl, htask _ _ _ .nil⟩
  · next module hkeys =>
    cases ht
    refine ⟨_, rfl, htask _ _ _ (hR.argsOf ?_)⟩
    -- The module may have no arguments at all, in both records.
    obtain ⟨hv, hw⟩ | ⟨v, w, hv, hw, hvw⟩ := h.field?_cases module
    · rw [hv, hw]
      exact hR.refl _
    · rw [hv, hw]
      exact hvw
  · split at ht <;> cases ht

/-- **Like records ask for like tasks,** each with the source it is asked for. -/
theorem request_task (h : Alike R r r') {source : String} {t : Task}
    (ht : r.request source = .ok (.task t)) (source' : String) :
    ∃ t', r'.request source' = .ok (.task t') ∧ t'.source = source' ∧ t.Alike R t' := by
  obtain ⟨t', ht', halike⟩ := h.build hR (Record.build_of_request ht) source'
  have hkeys : r'.inclusionKeys = [] := h.inclusionKeys.trans (Record.inclusionKeys_of_request ht)
  refine ⟨t', ?_, Record.source_of_build ht', halike⟩
  rw [Record.request_of_inclusionKeys hkeys, ht']
  rfl

/-- Like records name the same file. -/
theorem namesFile (h : Alike R r r') {path : String} (hpath : r.NamesFile path) :
    r'.NamesFile path := by
  obtain ⟨key, hkeys, hvalue, hmodules⟩ := hpath
  exact ⟨key, h.inclusionKeys.trans hkeys, (h.field?_eq_str hR).2 hvalue,
    h.moduleKeys.trans hmodules⟩

end Record.Alike

end Playbook
