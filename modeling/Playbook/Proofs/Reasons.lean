import Playbook.Failure

/-!
# Reasons of failures

A computation can fail at many places. What all its failures have in common is shown step by step:
each step fails for an admitted reason only, and so does what is put together from such steps. For
computations with a state there is an invariant besides, which every step that succeeds keeps.

Main definitions:

- `FailsBy`: a result fails, if at all, for a reason with a property, such as `Failure.OfKind`;
- `FailsIn`: a result fails, if at all, with a failure of one of some kinds;
- `Sound`: from a state with an invariant, a computation comes to a state with the invariant and to
  a result with a property, or it fails for a reason with a property.

Steps are put together by `FailsBy.bind` and `Sound.bind`, from which the walks through lists
follow.
-/

namespace Playbook

/-! ### Results -/

/-- A result fails, if at all, for an admitted reason. -/
def FailsBy {ε α : Type} (reason : ε → Prop) (x : Except ε α) : Prop := ∀ e, x = .error e → reason e

namespace FailsBy

variable {ε ε' α β : Type} {reason : ε → Prop}

theorem ok (a : α) : FailsBy reason (.ok a) := by
  intro e h
  cases h

theorem error {e : ε} (h : reason e) : FailsBy reason (.error e : Except ε α) := by
  intro e' h'
  cases h'
  exact h

/-- **One step after another.** -/
theorem bind {x : Except ε α} {f : α → Except ε β} (hx : FailsBy reason x)
    (hf : ∀ a, FailsBy reason (f a)) : FailsBy reason (x >>= f) := by
  intro e h
  cases x with
  | error e' =>
    cases h
    exact hx e rfl
  | ok a => exact hf a e h

theorem map {x : Except ε α} {f : α → β} (hx : FailsBy reason x) : FailsBy reason (f <$> x) := by
  intro e h
  cases x with
  | error e' =>
    cases h
    exact hx e rfl
  | ok a => cases h

theorem ite {x y : Except ε α} {p : Prop} [Decidable p] (hx : FailsBy reason x)
    (hy : FailsBy reason y) : FailsBy reason (if p then x else y) := by
  split
  · exact hx
  · exact hy

/-- A step whose reasons are seen in another way. -/
theorem mapError {reason' : ε' → Prop} {x : Except ε α} {f : ε → ε'} (hx : FailsBy reason x)
    (h : ∀ e, reason e → reason' (f e)) : FailsBy reason' (x.mapError f) := by
  intro e he
  cases x with
  | error e' =>
    cases he
    exact h e' (hx e' rfl)
  | ok a => cases he

/-- More may be admitted as a reason. -/
theorem weaken {reason' : ε → Prop} {x : Except ε α} (hx : FailsBy reason x)
    (h : ∀ e, reason e → reason' e) : FailsBy reason' x := fun e he => h e (hx e he)

theorem mapM {xs : List α} {f : α → Except ε β} (h : ∀ a ∈ xs, FailsBy reason (f a)) :
    FailsBy reason (xs.mapM f) := by
  induction xs with
  | nil => exact ok []
  | cons a rest ih =>
    rw [List.mapM_cons]
    refine (h a List.mem_cons_self).bind fun b => ?_
    exact (ih fun a' ha' => h a' (List.mem_cons_of_mem _ ha')).bind fun bs => ok (b :: bs)

end FailsBy

/-- A failure is of one of some kinds. -/
abbrev Failure.OfKind (kinds : List FailureKind) (f : Failure) : Prop := f.kind ∈ kinds

/-- A step that fails with one failure. -/
theorem FailsBy.kind {α : Type} (f : Failure) :
    FailsBy (Failure.OfKind [f.kind]) (.error f : Except Failure α) :=
  .error (List.mem_singleton_self _)

/-- A result fails, if at all, with a failure of one of some kinds. -/
def FailsIn {α : Type} (kinds : List FailureKind) (x : Except Failure α) : Prop :=
  FailsBy (Failure.OfKind kinds) x

-- Computations are put together from steps in a few ways only, so that with a rule for each way the
-- failures of most computations are seen at once.
namespace FailsIn

variable {α β : Type} {kinds : List FailureKind}

@[grind .]
theorem pure (a : α) : FailsIn kinds (pure a) := FailsBy.ok a

@[grind .]
theorem ok (a : α) : FailsIn kinds (.ok a) := FailsBy.ok a

@[grind .]
theorem error {f : Failure} (h : f.kind ∈ kinds) : FailsIn kinds (.error f : Except Failure α) :=
  FailsBy.error h

@[grind .]
theorem throw {f : Failure} (h : f.kind ∈ kinds) : FailsIn kinds (throw f : Except Failure α) :=
  FailsBy.error h

@[grind .]
theorem bind {x : Except Failure α} {f : α → Except Failure β} (hx : FailsIn kinds x)
    (hf : ∀ a, FailsIn kinds (f a)) : FailsIn kinds (x >>= f) := FailsBy.bind hx hf

@[grind .]
theorem map {x : Except Failure α} {f : α → β} (hx : FailsIn kinds x) : FailsIn kinds (f <$> x) :=
  FailsBy.map hx

@[grind .]
theorem mapM {xs : List α} {f : α → Except Failure β} (h : ∀ a, FailsIn kinds (f a)) :
    FailsIn kinds (xs.mapM f) := FailsBy.mapM fun a _ => h a

end FailsIn

namespace Failure

@[simp, grind =] theorem kind_type (message : String) : (type message).kind = .type := rfl

@[simp, grind =] theorem kind_value (message : String) : (value message).kind = .value := rfl

@[simp, grind =] theorem kind_noAttribute (message : String) :
    (noAttribute message).kind = .attribute := rfl

@[simp, grind =] theorem kind_index (message : String) : (index message).kind = .index := rfl

@[simp, grind =] theorem kind_key (message : String) : (key message).kind = .key := rfl

@[simp, grind =] theorem kind_zeroDivision (message : String) :
    (zeroDivision message).kind = .zeroDivision := rfl

@[simp, grind =] theorem kind_overflow (message : String) :
    (overflow message).kind = .overflow := rfl

@[simp, grind =] theorem kind_ofDecodingFault (f : DecodingFault) :
    (ofDecodingFault f).kind = .decoding := rfl

@[simp, grind =] theorem kind_ofBase64Fault (f : Base64.Fault) :
    (ofBase64Fault f).kind = .base64 := rfl

end Failure

/-! ### Computations with a state -/

/-- **A computation is sound:** from every state with the invariant it comes to a result with the
property and to a state with the invariant, or it fails for an admitted reason. -/
def Sound {σ ε α : Type} (inv : σ → Prop) (reason : ε → Prop) (post : α → Prop)
    (x : StateT σ (Except ε) α) : Prop :=
  ∀ s, inv s →
    match x.run s with
    | .ok (a, s') => post a ∧ inv s'
    | .error e => reason e

namespace Sound

variable {σ ε α β : Type} {inv : σ → Prop} {reason : ε → Prop} {post : α → Prop} {post' : β → Prop}

theorem pure {a : α} (h : post a) : Sound inv reason post (pure a) := by
  intro s hs
  exact ⟨h, hs⟩

theorem throw {e : ε} (h : reason e) : Sound inv reason post (throw e) := by
  intro s _
  exact h

/-- The state that is looked at has the invariant. -/
theorem get : Sound inv reason inv (get : StateT σ (Except ε) σ) := by
  intro s hs
  exact ⟨hs, hs⟩

/-- A change of the state that keeps the invariant. -/
theorem modify {f : σ → σ} (h : ∀ s, inv s → inv (f s)) :
    Sound inv reason (fun _ => True) (modify f : StateT σ (Except ε) PUnit) := by
  intro s hs
  exact ⟨trivial, h s hs⟩

/-- A new state with the invariant. -/
theorem set {s : σ} (h : inv s) :
    Sound inv reason (fun _ => True) (set s : StateT σ (Except ε) PUnit) := by
  intro _ _
  exact ⟨trivial, h⟩

/-- **One computation after another** is sound if the second is sound for every result that the
first may have. -/
theorem bind {x : StateT σ (Except ε) α} {f : α → StateT σ (Except ε) β}
    (hx : Sound inv reason post x) (hf : ∀ a, post a → Sound inv reason post' (f a)) :
    Sound inv reason post' (x >>= f) := by
  intro s hs
  have hfirst := hx s hs
  rw [StateT.run_bind]
  cases hrun : x.run s with
  | error e =>
    rw [hrun] at hfirst
    exact hfirst
  | ok r =>
    obtain ⟨a, s'⟩ := r
    rw [hrun] at hfirst
    exact hf a hfirst.1 s' hfirst.2

/-- A computation whose result does not matter for the next one. -/
theorem andThen {x : StateT σ (Except ε) α} {f : α → StateT σ (Except ε) β}
    (hx : Sound inv reason post x) (hf : ∀ a, Sound inv reason post' (f a)) :
    Sound inv reason post' (x >>= f) := hx.bind fun a _ => hf a

/-- A sound computation with its result changed. -/
theorem map {x : StateT σ (Except ε) α} {g : α → β} (hx : Sound inv reason post x)
    (h : ∀ a, post a → post' (g a)) : Sound inv reason post' (g <$> x) := by
  rw [map_eq_pure_bind]
  exact hx.bind fun a ha => pure (h a ha)

/-- Less may be said about the result. -/
theorem mono {post₂ : α → Prop} {x : StateT σ (Except ε) α} (hx : Sound inv reason post x)
    (h : ∀ a, post a → post₂ a) : Sound inv reason post₂ x := by
  intro s hs
  have hrun := hx s hs
  split at hrun
  · exact ⟨h _ hrun.1, hrun.2⟩
  · exact hrun

/-- More may be admitted as a reason. -/
theorem weaken {reason₂ : ε → Prop} {x : StateT σ (Except ε) α} (hx : Sound inv reason post x)
    (h : ∀ e, reason e → reason₂ e) : Sound inv reason₂ post x := by
  intro s hs
  have hrun := hx s hs
  split at hrun
  · exact hrun
  · exact h _ hrun

theorem forM {xs : List α} {f : α → StateT σ (Except ε) PUnit}
    (h : ∀ a ∈ xs, Sound inv reason (fun _ => True) (f a)) :
    Sound inv reason (fun _ => True) (xs.forM f) := by
  induction xs with
  | nil => exact pure trivial
  | cons a rest ih =>
    show Sound inv reason _ (f a >>= fun _ => rest.forM f)
    exact (h a List.mem_cons_self).andThen fun _ => ih fun b hb => h b (List.mem_cons_of_mem _ hb)

theorem mapM {xs : List α} {f : α → StateT σ (Except ε) β}
    (h : ∀ a ∈ xs, Sound inv reason (fun _ => True) (f a)) :
    Sound inv reason (fun _ => True) (xs.mapM f) := by
  induction xs with
  | nil =>
    rw [List.mapM_nil]
    exact pure trivial
  | cons a rest ih =>
    rw [List.mapM_cons]
    refine (h a List.mem_cons_self).andThen fun y => ?_
    exact (ih fun b hb => h b (List.mem_cons_of_mem _ hb)).andThen fun ys => pure trivial

theorem foldlM {xs : List α} {f : β → α → StateT σ (Except ε) β} {init : β} (hinit : post' init)
    (h : ∀ a ∈ xs, ∀ b, post' b → Sound inv reason post' (f b a)) :
    Sound inv reason post' (xs.foldlM f init) := by
  induction xs generalizing init with
  | nil =>
    rw [List.foldlM_nil]
    exact pure hinit
  | cons a rest ih =>
    rw [List.foldlM_cons]
    refine (h a List.mem_cons_self init hinit).bind fun b hb => ?_
    exact ih hb fun a' ha' => h a' (List.mem_cons_of_mem _ ha')

end Sound

end Playbook
