import Mathlib.Data.List.Forall2
import Playbook.Proofs.Rendering

/-!
# What rendered values come to

Rendering goes through the mappings and lists of a value, down to the texts, and renders these. What
is said of what becomes of a value follows from what is said of its parts, so rendering is gone
through once, for whatever is said level by level, as long as templates keep something true of the
surroundings by which nothing becomes of the containers that are gone through.

Main definitions:

- `Value.texts`, `Value.walkedMarks`: the texts that are rendered with a value, and the marks of the
  containers that are gone through;
- `Rendering.Ensures`: a rendering keeps something true of its surroundings, and comes to a result
  or a fault with a property;
- `Rendering.OneByOne`: what is said of a row if something is said of each of its parts;
- `Rendering.Account`: what may be said of values because it is said of their parts.

Main statement: `Rendering.ensures_ofEntries`.
-/

namespace Playbook

mutual

/-- The texts in a value that are rendered with it. -/
def Value.texts : Value → List String
  | .scalar (.str t) => [t]
  | .list _ items => textsOfItems items
  | .map _ entries => textsOfEntries entries
  | .scalar _ | .tuple .. | .set .. | .again .. | .opaqueThing .. => []

/-- The texts in values that are rendered with them. -/
def Value.textsOfItems : List Value → List String
  | [] => []
  | v :: rest => v.texts ++ textsOfItems rest

/-- The texts in entries that are rendered with their values. -/
def Value.textsOfEntries : List (Value × Value) → List String
  | [] => []
  | (_, v) :: rest => v.texts ++ textsOfEntries rest

end

/-- The texts in arguments that are rendered with them. -/
def Entries.texts (es : Entries) : List String := Value.textsOfEntries es

theorem Value.textsOfItems_eq (vs : List Value) : textsOfItems vs = vs.flatMap texts := by
  induction vs with
  | nil => rfl
  | cons v rest ih => rw [textsOfItems, ih, List.flatMap_cons]

theorem Value.textsOfEntries_eq (es : Entries) :
    textsOfEntries es = es.flatMap fun e => e.2.texts := by
  induction es with
  | nil => rfl
  | cons e rest ih => rw [textsOfEntries, ih, List.flatMap_cons]

namespace Value

mutual

/-- The marks of the containers that a rendering of a value goes through. -/
def walkedMarks : Value → List Nat
  | .list m items => m.toList ++ walkedMarksOfItems items
  | .map m entries => m.toList ++ walkedMarksOfEntries entries
  | .scalar _ | .tuple .. | .set .. | .again .. | .opaqueThing .. => []

/-- The marks of the containers that a rendering of values goes through. -/
def walkedMarksOfItems : List Value → List Nat
  | [] => []
  | v :: rest => walkedMarks v ++ walkedMarksOfItems rest

/-- The marks of the containers that a rendering of the values of entries goes through. -/
def walkedMarksOfEntries : List (Value × Value) → List Nat
  | [] => []
  | (_, v) :: rest => walkedMarks v ++ walkedMarksOfEntries rest

end

theorem walkedMarksOfItems_eq (vs : List Value) :
    walkedMarksOfItems vs = vs.flatMap walkedMarks := by
  induction vs with
  | nil => rfl
  | cons v rest ih => rw [walkedMarksOfItems, ih, List.flatMap_cons]

theorem walkedMarksOfEntries_eq (es : Entries) :
    walkedMarksOfEntries es = es.flatMap fun e => e.2.walkedMarks := by
  induction es with
  | nil => rfl
  | cons e rest ih => rw [walkedMarksOfEntries, ih, List.flatMap_cons]

end Value

namespace Rendering

open Template (isPlain)

variable {α β δ ε : Type} {kept : Surroundings → Prop}

/-! ### Renderings that keep something true -/

/-- **A rendering keeps something true of its surroundings**, whether it fails or not, and what it
comes to has a property. -/
def Ensures (kept : Surroundings → Prop) (post : Except Fault α → Prop) (x : Rendering α) : Prop :=
  ∀ s, kept s → kept (x.runIn s).2 ∧ post (x.runIn s).1

namespace Ensures

variable {post : Except Fault α → Prop} {post' : Except Fault β → Prop}

theorem pure {a : α} (h : post (.ok a)) : Ensures kept post (pure a) := fun _ hs => ⟨hs, h⟩

theorem throw {f : Fault} (h : post (.error f)) : Ensures kept post (throw f) :=
  fun _ hs => ⟨hs, h⟩

/-- **One rendering after another.** If the first fails, so do both. -/
theorem bind {x : Rendering α} {f : α → Rendering β} (hx : Ensures kept post x)
    (hok : ∀ a, post (.ok a) → Ensures kept post' (f a))
    (herror : ∀ e, post (.error e) → post' (.error e)) : Ensures kept post' (x >>= f) := by
  intro s hs
  obtain ⟨hafter, hpost⟩ := hx s hs
  show kept (ExceptT.bindCont f (x.runIn s).1 (x.runIn s).2).2 ∧
    post' (ExceptT.bindCont f (x.runIn s).1 (x.runIn s).2).1
  cases hr : (x.runIn s).1 with
  | ok a => exact hok a (hr ▸ hpost) _ hafter
  | error e => exact ⟨hafter, herror e (hr ▸ hpost)⟩

/-- What a rendering comes to is changed by a function. -/
theorem map {x : Rendering α} {f : α → β} (hx : Ensures kept (fun r => post' (r.map f)) x) :
    Ensures kept post' (x >>= fun a => Pure.pure (f a)) :=
  hx.bind (fun _ h => .pure h) fun _ h => h

/-- Less may be said. -/
theorem mono {post₂ : Except Fault α → Prop} {x : Rendering α} (hx : Ensures kept post x)
    (h : ∀ r, post r → post₂ r) : Ensures kept post₂ x :=
  fun s hs => ⟨(hx s hs).1, h _ (hx s hs).2⟩

/-- A container of which nothing has become is as it was. -/
theorem now_bind {mark : Nat} (hmark : ∀ s, kept s → s.changes.lookup mark = none) {v : Value}
    {f : Value → Rendering β} (hf : Ensures kept post' (f v)) :
    Ensures kept post' (now mark v >>= f) := by
  intro s hs
  have hnow : s.changes.now mark v = v := by
    rw [Value.Changes.now, hmark s hs]
    rfl
  show kept ((f (s.changes.now mark v)).runIn s).2 ∧ post' ((f (s.changes.now mark v)).runIn s).1
  rw [hnow]
  exact hf s hs

end Ensures

/-! ### Rows -/

/-- **What is said of a row because it is said of its parts:** each of them has become something, or
one of them fails. -/
def OneByOne (post : δ → Except Fault ε → Prop) (xs : List δ) : Except Fault (List ε) → Prop
  | .ok ys => List.Forall₂ (fun x y => post x (.ok y)) xs ys
  | .error f => ∃ x ∈ xs, post x (.error f)

/-- What is said of an entry because it is said of its value. The key stays. -/
def OfEntry (post : Value → Except Fault Value → Prop) (e : Value × Value) :
    Except Fault (Value × Value) → Prop
  | .ok f => f.1 = e.1 ∧ post e.2 (.ok f.2)
  | .error f => post e.2 (.error f)

/-- Less may be said of the parts. -/
theorem OneByOne.mono {post post' : δ → Except Fault ε → Prop} {xs : List δ}
    {r : Except Fault (List ε)} (h : OneByOne post xs r) (hsub : ∀ x r, post x r → post' x r) :
    OneByOne post' xs r := by
  cases r with
  | ok ys => exact List.Forall₂.imp (fun x y => hsub x (.ok y)) h
  | error f =>
    obtain ⟨x, hx, hf⟩ := h
    exact ⟨x, hx, hsub x _ hf⟩

section Rows

variable {post : δ → Except Fault ε → Prop} {of : Value → Except Fault Value → Prop}
  {render : Value → Rendering Value}

/-- One part after another. -/
theorem ensures_cons {d : δ} {ds : List δ} {g : α → ε} {x : Rendering α} {xs : Rendering (List ε)}
    (hx : Ensures kept (fun r => post d (r.map g)) x) (hxs : Ensures kept (OneByOne post ds) xs) :
    Ensures kept (OneByOne post (d :: ds)) (do
      let a ← x
      let as ← xs
      return g a :: as) := by
  refine hx.bind (fun a ha => hxs.bind (fun as has => .pure (.cons ha has)) ?_) ?_
  · exact fun f ⟨d', hd', hf⟩ => ⟨d', List.mem_cons_of_mem _ hd', hf⟩
  · exact fun f hf => ⟨d, List.mem_cons_self, hf⟩

theorem ensures_mapM {vs : List Value} (h : ∀ v ∈ vs, Ensures kept (of v) (render v)) :
    Ensures kept (OneByOne of vs) (vs.mapM render) := by
  induction vs with
  | nil =>
    rw [List.mapM_nil]
    exact .pure .nil
  | cons v rest ih =>
    obtain ⟨hv, hrest⟩ := List.forall_mem_cons.1 h
    rw [List.mapM_cons]
    exact ensures_cons (g := id) (hv.mono fun r hr => by rwa [Except.map_id]) (ih hrest)

/-- What is said of a value is said of the entry whose value it is. -/
theorem Ensures.ofEntry {e : Value × Value} {x : Rendering Value} (h : Ensures kept (of e.2) x) :
    Ensures kept (fun r => OfEntry of e (r.map (Prod.mk e.1))) x := by
  refine h.mono fun r hr => ?_
  cases r with
  | ok w => exact ⟨rfl, hr⟩
  | error f => exact hr

theorem ensures_entriesBy {es : Entries} (h : ∀ e ∈ es, Ensures kept (of e.2) (render e.2)) :
    Ensures kept (OneByOne (OfEntry of) es) (entriesBy render es) := by
  induction es with
  | nil => exact .pure .nil
  | cons e rest ih =>
    obtain ⟨he, hrest⟩ := List.forall_mem_cons.1 h
    exact ensures_cons he.ofEntry (ih hrest)

variable {mark : Nat} (hmark : ∀ s, kept s → s.changes.lookup mark = none) {m : Option Nat}
include hmark

/-- A list of which nothing becomes has all its items until the end. -/
theorem ensures_itemsFrom {items : List Value}
    (h : ∀ v ∈ items, Ensures kept (of v) (render v)) {left i : Nat} (hi : i ≤ items.length)
    (hleft : items.length < i + left) :
    Ensures kept (OneByOne of (items.drop i)) (itemsFrom render mark (.list m items) left i) := by
  -- It ends before the steps that are left run out.
  induction left generalizing i with
  | zero => exact absurd hi (Nat.not_le_of_lt hleft)
  | succ left ih =>
    rw [itemsFrom]
    refine .now_bind hmark ?_
    dsimp only
    cases hitem : items[i]? with
    | none =>
      rw [List.drop_of_length_le (List.getElem?_eq_none_iff.1 hitem)]
      exact .pure .nil
    | some item =>
      obtain ⟨hlt, rfl⟩ := List.getElem?_eq_some_iff.1 hitem
      rw [List.drop_eq_getElem_cons hlt]
      have hrest := ih (i := i + 1) hlt (by omega)
      have hitem := h _ (List.getElem_mem hlt)
      exact ensures_cons (g := id) (hitem.mono fun r hr => by rwa [Except.map_id]) hrest

/-- A mapping of which nothing becomes has all its entries until the end. -/
theorem ensures_entriesFrom {es : Entries} (h : ∀ e ∈ es, Ensures kept (of e.2) (render e.2))
    {left i : Nat} (hleft : es.length ≤ i + left) :
    Ensures kept (OneByOne (OfEntry of) (es.drop i))
      (entriesFrom render mark (.map m es) es.length left i) := by
  -- Before each entry, and at the end, the mapping must have as many entries as at the start.
  have hnow {post : Except Fault Entries → Prop} {f : Entries → Rendering Entries}
      (hf : Ensures kept post (f es)) :
      Ensures kept post (entriesNow mark (.map m es) es.length >>= f) := by
    rw [entriesNow, bind_assoc]
    refine .now_bind hmark ?_
    dsimp only
    rw [if_pos rfl, pure_bind]
    exact hf
  induction left generalizing i with
  | zero =>
    refine hnow ?_
    rw [List.drop_of_length_le (Nat.add_zero i ▸ hleft)]
    exact .pure .nil
  | succ left ih =>
    refine hnow ?_
    cases hentry : es[i]? with
    | none =>
      rw [List.drop_of_length_le (List.getElem?_eq_none_iff.1 hentry)]
      exact .pure .nil
    | some e =>
      obtain ⟨hlt, rfl⟩ := List.getElem?_eq_some_iff.1 hentry
      rw [List.drop_eq_getElem_cons hlt]
      exact ensures_cons (h _ (List.getElem_mem hlt)).ofEntry (ih (i := i + 1) (by omega))

end Rows

/-! ### Values -/

/-- **What may be said of values because it is said of their parts,** one level less deep. -/
structure Account (post : Nat → Value → Except Fault Value → Prop) : Prop where
  /-- No value is rendered without a level that is left. -/
  tooDeep : ∀ v, post 0 v (.error (.failure Template.Eval.tooDeep))
  /-- A list becomes a new list. -/
  list : ∀ {depth m items r}, OneByOne (post depth) items r →
    post (depth + 1) (.list m items) (r.map (.list none))
  /-- A mapping becomes a new mapping. -/
  map : ∀ {depth m es r}, OneByOne (OfEntry (post depth)) es r →
    post (depth + 1) (.map m es) (r.map (.map none))
  /-- A list or a mapping inside itself is gone through too deep. -/
  again : ∀ {depth shape m}, (Value.again shape m).kind ∈ [Value.Kind.sequence, .mapping] →
    post (depth + 1) (.again shape m) (.error (.failure Template.Eval.tooDeep))
  /-- What is no text, list or mapping stays. -/
  other : ∀ {depth v}, v.kind ∉ [Value.Kind.string, .sequence, .mapping] →
    post (depth + 1) v (.ok v)

variable {post : Nat → Value → Except Fault Value → Prop} (hpost : Account post)
include hpost

/-- **What a rendered value comes to,** if templates keep something true by which nothing becomes of
the containers of the value. -/
theorem ensures_ofValueWithin (depth : Nat) {v : Value}
    (htexts : ∀ t ∈ v.texts, ∀ depth,
      Ensures kept (fun r => post (depth + 1) (.str t) (r.map .str)) (ofText t))
    (hmarks : ∀ m ∈ v.walkedMarks, ∀ s, kept s → s.changes.lookup m = none) :
    Ensures kept (post depth v) (ofValueWithin depth v) := by
  -- The induction is on the depth and not on the value: a rendering counts the levels it goes down.
  induction depth generalizing v with
  | zero => exact .throw (hpost.tooDeep v)
  | succ depth ih =>
    cases v with
    | scalar sc =>
      cases sc with
      | str t => exact (htexts t List.mem_cons_self depth).map
      | _ => exact .pure (hpost.other (by simp [Value.kind]))
    | list m items =>
      have hitems : ∀ item ∈ items, Ensures kept (post depth item) (ofValueWithin depth item) := by
        refine fun item hitem => ih (fun t ht => htexts t ?_) fun m' hm' => hmarks m' ?_
        · rw [Value.texts, Value.textsOfItems_eq]
          exact List.mem_flatMap_of_mem hitem ht
        · rw [Value.walkedMarks, Value.walkedMarksOfItems_eq]
          exact List.mem_append_right _ (List.mem_flatMap_of_mem hitem hm')
      -- Only a list with a mark can be one that a template changes on the way.
      cases m with
      | none => exact ((ensures_mapM hitems).mono fun _ => hpost.list).map
      | some m =>
        have hmark := hmarks m List.mem_cons_self
        -- The steps that a rendering has are enough for any list that does not grow.
        have hbound : items.length < 0 + (Template.Cursor.itemLimit + items.length) := by
          rw [Template.Cursor.itemLimit]
          omega
        have hall := ensures_itemsFrom hmark (m := some m) hitems (Nat.zero_le _) hbound
        exact (hall.mono fun _ => hpost.list).map
    | map m es =>
      have hentries : ∀ e ∈ es, Ensures kept (post depth e.2) (ofValueWithin depth e.2) := by
        refine fun e he => ih (fun t ht => htexts t ?_) fun m' hm' => hmarks m' ?_
        · rw [Value.texts, Value.textsOfEntries_eq]
          exact List.mem_flatMap_of_mem he ht
        · rw [Value.walkedMarks, Value.walkedMarksOfEntries_eq]
          exact List.mem_append_right _ (List.mem_flatMap_of_mem he hm')
      cases m with
      | none => exact ((ensures_entriesBy hentries).mono fun _ => hpost.map).map
      | some m =>
        have hmark := hmarks m List.mem_cons_self
        refine .now_bind hmark ?_
        have hall := ensures_entriesFrom hmark (m := some m) hentries (Nat.le_add_left _ 0)
        exact (hall.mono fun _ => hpost.map).map
    | again shape m =>
      cases shape with
      | map | list => exact .throw (hpost.again (by simp [Value.kind]))
      | tuple | set => exact .pure (hpost.other (by simp [Value.kind]))
    | tuple | set | opaqueThing => exact .pure (hpost.other (by simp [Value.kind]))

/-- **What rendered arguments come to.** -/
theorem ensures_ofEntries {es : Entries}
    (htexts : ∀ t ∈ es.texts, ∀ depth,
      Ensures kept (fun r => post (depth + 1) (.str t) (r.map .str)) (ofText t))
    (hmarks : ∀ m ∈ Value.walkedMarksOfEntries es, ∀ s, kept s → s.changes.lookup m = none) :
    Ensures kept (OneByOne (OfEntry (post Template.depthLimit)) es) (ofEntries es) := by
  refine ensures_entriesBy fun e he => ensures_ofValueWithin hpost _ (fun t ht => htexts t ?_)
    fun m hm => hmarks m ?_
  · rw [Entries.texts, Value.textsOfEntries_eq]
    exact List.mem_flatMap_of_mem he ht
  · rw [Value.walkedMarksOfEntries_eq]
    exact List.mem_flatMap_of_mem he hm

end Rendering

end Playbook
