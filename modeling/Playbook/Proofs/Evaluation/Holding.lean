import Playbook.Template.Exchange
import Playbook.Value.Mark

/-!
# Values in the store

A value that is taken over becomes a datum whose containers are cells of the store. If nothing in
the value bears a mark, each of its containers gets a new cell, and a container comes right after
its parts. So the cells of a value lie between two numbers, those of its parts between numbers
further inside, and nothing is come to in two ways. As long as these cells stay as they are, the
datum can be given back as the value it was.

Main definitions:

* `Value.isUnshared` — no container in a value is come to in two ways;
* `Holds` — data stand for values, with cells between two numbers;
* `Eval.Gives` — a computation that looks at the store only, and gives something unless it fails;
* `Takes` — a computation that adds cells to the store, in which its data hold values.

Main statements: `takes_takeWithin`, what is taken over holds the value, and `Holds.give`, what
holds a value is given back as this value. The second is an induction on what holds what: a list of
data and a list of values, one after the other, of which each may have parts. So there is one
induction for data, their parts, and the keys and values of mappings alike.
-/

namespace Playbook

/-! ### Values without marks -/

namespace Value

mutual

/-- Whether no container in a value bears a mark. -/
def isUnshared : Value → Bool
  | .scalar _ | .opaqueThing .. => true
  | .tuple m items | .list m items | .set m items => m.isNone && areUnshared items
  | .map m entries => m.isNone && areUnsharedEntries entries
  | .again .. => false

/-- Whether no container in values bears a mark. -/
def areUnshared : List Value → Bool
  | [] => true
  | v :: rest => isUnshared v && areUnshared rest

/-- Whether no container in entries bears a mark. -/
def areUnsharedEntries : List (Value × Value) → Bool
  | [] => true
  | (k, v) :: rest => isUnshared k && isUnshared v && areUnsharedEntries rest

end

theorem endMarkOfItems_eq_zero {vs : List Value} :
    endMarkOfItems vs = 0 ↔ ∀ v ∈ vs, v.endMark = 0 := by
  induction vs with
  | nil => simp [endMarkOfItems]
  | cons v rest ih => simp [endMarkOfItems, ih]

theorem endOf_eq_zero {m : Option Nat} : endOf m = 0 ↔ m = none := by
  cases m <;> simp [endOf]

mutual

/-- A value without marks has no containers with marks. -/
theorem isUnshared_of_endMark : ∀ (v : Value), v.endMark = 0 → v.isUnshared = true
  | .scalar _, _ | .opaqueThing .., _ => rfl
  | .tuple m items, h | .list m items, h | .set m items, h => by
    -- A mark counts as one more than its number, so the largest count is zero only without any.
    rw [endMark, Nat.max_eq_zero_iff, endOf_eq_zero] at h
    rw [isUnshared, h.1, areUnshared_of_endMark items h.2]
    rfl
  | .map m entries, h => by
    rw [endMark, Nat.max_eq_zero_iff, endOf_eq_zero] at h
    rw [isUnshared, h.1, areUnsharedEntries_of_endMark entries h.2]
    rfl
  | .again _ m, h => by simp [endMark] at h

theorem areUnshared_of_endMark :
    ∀ (vs : List Value), endMarkOfItems vs = 0 → areUnshared vs = true
  | [], _ => rfl
  | v :: rest, h => by
    rw [endMarkOfItems, Nat.max_eq_zero_iff] at h
    rw [areUnshared, isUnshared_of_endMark v h.1, areUnshared_of_endMark rest h.2]
    rfl

theorem areUnsharedEntries_of_endMark :
    ∀ (es : List (Value × Value)), endMarkOfEntries es = 0 → areUnsharedEntries es = true
  | [], _ => rfl
  | (k, v) :: rest, h => by
    rw [endMarkOfEntries, Nat.max_eq_zero_iff, Nat.max_eq_zero_iff] at h
    rw [areUnsharedEntries, isUnshared_of_endMark k h.1.1, isUnshared_of_endMark v h.1.2,
      areUnsharedEntries_of_endMark rest h.2]
    rfl

end

end Value

namespace Template

variable {α β : Type}

/-! ### Keys and values in a row -/

/-- The first and second parts of pairs in a row. -/
def inRow (ps : List (α × α)) : List α := ps.flatMap fun p => [p.1, p.2]

@[simp] theorem inRow_nil : inRow ([] : List (α × α)) = [] := rfl

@[simp] theorem inRow_cons (p : α × α) (ps : List (α × α)) :
    inRow (p :: ps) = p.1 :: p.2 :: inRow ps := rfl

theorem endMarkOfItems_inRow (es : Entries) :
    Value.endMarkOfItems (inRow es) = Value.endMarkOfEntries es := by
  induction es with
  | nil => rfl
  | cons e rest ih =>
    rw [inRow_cons, Value.endMarkOfItems, Value.endMarkOfItems, Value.endMarkOfEntries, ih,
      Nat.max_assoc]

theorem inRow_injective {ps qs : List (α × α)} (h : inRow ps = inRow qs) : ps = qs := by
  -- Both lists have two parts for each pair, so they fall apart in the same way.
  induction ps generalizing qs with
  | nil =>
    cases qs with
    | nil => rfl
    | cons q qs => cases h
  | cons p ps ih =>
    cases qs with
    | nil => cases h
    | cons q qs =>
      obtain ⟨h₁, h₂, hrest⟩ : p.1 = q.1 ∧ p.2 = q.2 ∧ inRow ps = inRow qs := by simpa using h
      rw [ih hrest, Prod.ext h₁ h₂]

/-- Going through pairs is going through their parts in a row. -/
theorem mapM_inRow (f : α → Eval β) (ps : List (α × α)) :
    inRow <$> (ps.mapM fun p => do
      let k ← f p.1
      return (k, ← f p.2)) = (inRow ps).mapM f := by
  -- Key and value are taken one after the other on both sides.
  induction ps with
  | nil => simp
  | cons p ps ih => simp [← ih]

theorem foldlM_inRow (f : β → α → Eval β) (ps : List (α × α)) (b : β) :
    (ps.foldlM (fun b p => do f (← f b p.1) p.2) b) = (inRow ps).foldlM f b := by
  induction ps generalizing b with
  | nil => rfl
  | cons p ps ih => simp [ih]

/-! ### Running computations -/

namespace Eval

variable {p : Puller} {s s' : Store} {x : Eval α} {a : α}

theorem bind_of_ok {f : α → Eval β} (h : x p s = (.ok a, s')) : (x >>= f) p s = f a p s' := by
  show ExceptT.bindCont (fun a => f a p) (x p s).1 (x p s).2 = f a p s'
  rw [h]
  rfl

theorem bind_of_error {f : α → Eval β} {e : Failure} (h : x p s = (.error e, s')) :
    (x >>= f) p s = (.error e, s') := by
  show ExceptT.bindCont (fun a => f a p) (x p s).1 (x p s).2 = (.error e, s')
  rw [h]
  rfl

theorem run_map (g : α → β) : (g <$> x) p s = ((x p s).1.map g, (x p s).2) := by
  obtain ⟨r, s', hx⟩ : ∃ r s', x p s = (r, s') := ⟨_, _, rfl⟩
  rw [map_eq_pure_bind, hx]
  cases r with
  | ok a => exact bind_of_ok hx
  | error e => exact bind_of_error hx

theorem cell_of_getElem? {r : Ref} {c : Cell} (h : s.cells[r]? = some c) :
    cell r p s = (.ok c, s) := by
  show (Except.ok ((s.cells[r]?).getD default), s) = (.ok c, s)
  rw [h]
  rfl

/-- **A computation gives something** or fails, and leaves the store as it is. -/
def Gives (p : Puller) (s : Store) (x : Eval α) (a : α) : Prop :=
  x p s = (.ok a, s) ∨ ∃ e, x p s = (.error e, s)

theorem Gives.pure (a : α) : Gives p s (pure a) a := .inl rfl

theorem Gives.throw (e : Failure) (a : α) : Gives p s (throw e) a := .inr ⟨e, rfl⟩

theorem Gives.bind {f : α → Eval β} {b : β} (hx : Gives p s x a) (hf : Gives p s (f a) b) :
    Gives p s (x >>= f) b := by
  obtain hx | ⟨e, hx⟩ := hx
  · rw [Gives, bind_of_ok hx]
    exact hf
  · exact .inr ⟨e, bind_of_error hx⟩

theorem Gives.of_ok {x : Eval α} (h : x p s = (.ok a, s)) : Gives p s x a := .inl h

/-- What is given is known from something that tells it from everything else. -/
theorem Gives.of_map {g : α → β} (hg : ∀ a b, g a = g b → a = b)
    (h : Gives p s (g <$> x) (g a)) : Gives p s x a := by
  rw [Gives, run_map] at h
  obtain ⟨r, s', hx⟩ : ∃ r s', x p s = (r, s') := ⟨_, _, rfl⟩
  rw [hx] at h
  -- A failure leaves the store as it is, whatever is made of a result.
  rw [Gives, hx]
  cases r with
  | ok b =>
    obtain h | ⟨e, h⟩ := h
    · injection h with hresult hstore
      injection hresult with hvalue
      exact .inl (by rw [hg b a hvalue, ← hstore])
    · cases h
  | error e =>
    obtain h | ⟨e', h⟩ := h
    · cases h
    · injection h with _ hstore
      exact .inr ⟨e, by rw [← hstore]⟩

end Eval

open Eval

/-! ### Holding values -/

/-- **Data hold values:** each datum stands for the value in its place, its containers are cells
from one number up to another, and the parts of a container come before it. A scalar that is yet to
get a mark is none that is held as it is. -/
inductive Holds (cells : Array Cell) : Nat → Nat → List Datum → List Value → Prop
  /-- Nothing is held. -/
  | nil {lo hi : Nat} (h : lo ≤ hi) : Holds cells lo hi [] []
  /-- A scalar is itself. -/
  | scalar {lo hi : Nat} {s : Scalar} {ds : List Datum} {vs : List Value} (hs : s.mark? ≠ some 0)
      (hrest : Holds cells lo hi ds vs) : Holds cells lo hi (.scalar s :: ds) (.scalar s :: vs)
  /-- So is a thing without a form of its own. -/
  | thing {lo hi : Nat} {type literal text : String} {ds : List Datum} {vs : List Value}
      (hrest : Holds cells lo hi ds vs) :
      Holds cells lo hi (.thing type literal text :: ds) (.opaqueThing type literal text :: vs)
  /-- A tuple without a cell. -/
  | row {lo mid hi : Nat} {items : List Datum} {parts : List Value} {ds : List Datum}
      {vs : List Value} (hitems : Holds cells lo mid items parts)
      (hrest : Holds cells mid hi ds vs) :
      Holds cells lo hi (.tuple none items :: ds) (.tuple none parts :: vs)
  /-- A tuple. -/
  | tuple {lo r hi : Nat} {items : List Datum} {parts : List Value} {ds : List Datum}
      {vs : List Value} (hitems : Holds cells lo r items parts)
      (hrest : Holds cells (r + 1) hi ds vs) :
      Holds cells lo hi (.tuple (some r) items :: ds) (.tuple none parts :: vs)
  /-- A list. -/
  | list {lo r hi : Nat} {items : List Datum} {parts : List Value} {ds : List Datum}
      {vs : List Value} (hcell : cells[r]? = some (.list items))
      (hitems : Holds cells lo r items parts) (hrest : Holds cells (r + 1) hi ds vs) :
      Holds cells lo hi (.cell r :: ds) (.list none parts :: vs)
  /-- A set. -/
  | set {lo r hi : Nat} {items : List Datum} {parts : List Value} {ds : List Datum}
      {vs : List Value} (hcell : cells[r]? = some (.set items))
      (hitems : Holds cells lo r items parts) (hrest : Holds cells (r + 1) hi ds vs) :
      Holds cells lo hi (.cell r :: ds) (.set none parts :: vs)
  /-- A mapping. -/
  | map {lo r hi : Nat} {t : Table} {es : Entries} {ds : List Datum} {vs : List Value}
      (hcell : cells[r]? = some (.map t)) (hitems : Holds cells lo r (inRow t.entries) (inRow es))
      (hrest : Holds cells (r + 1) hi ds vs) :
      Holds cells lo hi (.cell r :: ds) (.map none es :: vs)

/-- Whether a cell is a list, a mapping or a set. -/
@[simp] def Cell.isContainer : Cell → Bool
  | .list _ | .map _ | .set _ => true
  | _ => false

namespace Holds

variable {cells more : Array Cell} {lo mid hi : Nat} {ds es : List Datum} {vs ws : List Value}

theorem le (h : Holds cells lo hi ds vs) : lo ≤ hi := by
  induction h <;> omega

/-- There may be more room around the cells. -/
theorem widen (h : Holds cells lo hi ds vs) {lo' hi' : Nat} (hlo : lo' ≤ lo) (hhi : hi ≤ hi') :
    Holds cells lo' hi' ds vs := by
  -- The bounds inside of the cells stay: only those at the ends give way.
  have hsame (n : Nat) : n ≤ n := Nat.le_refl n
  induction h generalizing lo' hi' with
  | nil h => exact .nil (by omega)
  | scalar hs _ ih => exact .scalar hs (ih hlo hhi)
  | thing _ ih => exact .thing (ih hlo hhi)
  | row _ _ ihitems ih => exact .row (ihitems hlo (hsame _)) (ih (hsame _) hhi)
  | tuple _ _ ihitems ih => exact .tuple (ihitems hlo (hsame _)) (ih (hsame _) hhi)
  | list hcell _ _ ihitems ih => exact .list hcell (ihitems hlo (hsame _)) (ih (hsame _) hhi)
  | set hcell _ _ ihitems ih => exact .set hcell (ihitems hlo (hsame _)) (ih (hsame _) hhi)
  | map hcell _ _ ihitems ih => exact .map hcell (ihitems hlo (hsame _)) (ih (hsame _) hhi)

/-- Values are held as long as no container changes. -/
theorem mono (h : Holds cells lo hi ds vs)
    (hmore : ∀ (r : Ref) (c : Cell), cells[r]? = some c → c.isContainer = true →
      more[r]? = some c) :
    Holds more lo hi ds vs := by
  -- Only lists, sets and mappings are cells that hold something, and these are the same.
  induction h with
  | nil h => exact .nil h
  | scalar hs _ ih => exact .scalar hs ih
  | thing _ ih => exact .thing ih
  | row _ _ ihitems ih => exact .row ihitems ih
  | tuple _ _ ihitems ih => exact .tuple ihitems ih
  | list hcell _ _ ihitems ih => exact .list (hmore _ _ hcell rfl) ihitems ih
  | set hcell _ _ ihitems ih => exact .set (hmore _ _ hcell rfl) ihitems ih
  | map hcell _ _ ihitems ih => exact .map (hmore _ _ hcell rfl) ihitems ih

/-- New cells come behind those that are there. -/
theorem grow (h : Holds cells lo hi ds vs) (more : Array Cell) :
    Holds (cells ++ more) lo hi ds vs := by
  refine h.mono fun r c hr _ => ?_
  obtain ⟨hsize, -⟩ := Array.getElem?_eq_some_iff.1 hr
  rw [Array.getElem?_append_left hsize, hr]

/-- Data that hold values in cells behind those of others. -/
theorem append (h : Holds cells lo mid ds vs) (hmore : Holds cells mid hi es ws) :
    Holds cells lo hi (ds ++ es) (vs ++ ws) := by
  -- The first value may be followed by more. Only at its end there is room for other cells.
  induction h with
  | nil h => exact hmore.widen h (Nat.le_refl _)
  | scalar hs _ ih => exact .scalar hs (ih hmore)
  | thing _ ih => exact .thing (ih hmore)
  | row hitems _ _ ih => exact .row hitems (ih hmore)
  | tuple hitems _ _ ih => exact .tuple hitems (ih hmore)
  | list hcell hitems _ _ ih => exact .list hcell hitems (ih hmore)
  | set hcell hitems _ _ ih => exact .set hcell hitems (ih hmore)
  | map hcell hitems _ _ ih => exact .map hcell hitems (ih hmore)

end Holds

/-! ### Giving back -/

/-- How often a cell has been reached. -/
def Visits.of (seen : Visits) (r : Ref) : Nat := seen[r]?.getD 0

theorem Visits.reach_of_new {seen : Visits} {r : Ref} (h : seen.of r = 0) :
    seen.reach r = (true, seen.setIfInBounds r 1) := by
  unfold Visits.of at h
  simp [Visits.reach, h]

/-- **Each cell between two numbers is reached once at most,** and no others are reached, if none of
them has been reached before. -/
def Reaches (p : Puller) (s : Store) (lo hi : Nat) (x : Visits → Eval Visits) : Prop :=
  ∀ seen : Visits, (∀ r, lo ≤ r → r < hi → seen.of r = 0) →
    ∃ seen', x seen p s = (.ok seen', s) ∧
      (∀ r, r < lo ∨ hi ≤ r → seen'.of r = seen.of r) ∧ ∀ r, lo ≤ r → r < hi → seen'.of r ≤ 1

namespace Reaches

variable {p : Puller} {s : Store} {lo mid hi : Nat} {x y : Visits → Eval Visits}

theorem pure (lo hi : Nat) : Reaches p s lo hi fun seen => pure seen := by
  intro seen hnew
  refine ⟨seen, rfl, fun _ _ => rfl, fun r hlo hhi => ?_⟩
  rw [hnew r hlo hhi]
  exact Nat.zero_le 1

theorem bind (hx : Reaches p s lo mid x) (hy : Reaches p s mid hi y) (hlo : lo ≤ mid)
    (hhi : mid ≤ hi) : Reaches p s lo hi fun seen => x seen >>= y := by
  intro seen hnew
  -- The cells of both parts are new at the start.
  obtain ⟨seen₁, hx, houtside₁, hinside₁⟩ := hx seen fun r hr hr' => hnew r hr (by omega)
  -- what comes first does not reach the cells of what comes then
  obtain ⟨seen₂, hy, houtside₂, hinside₂⟩ := hy seen₁ fun r hr hr' => by
    rw [houtside₁ r (.inr hr)]
    exact hnew r (by omega) hr'
  refine ⟨seen₂, ?_, fun r hr => ?_, fun r hr hr' => ?_⟩
  · exact (bind_of_ok hx).trans hy
  · rw [houtside₂ r (by omega), houtside₁ r (by omega)]
  · by_cases hmid : r < mid
    · rw [houtside₂ r (.inl hmid)]
      exact hinside₁ r hr hmid
    · exact hinside₂ r (by omega) hr'

/-- A container is reached before its parts, whose cells come before its own. -/
theorem inside {r : Nat} (hx : Reaches p s lo r x) (hlo : lo ≤ r)
    (hy : ∀ seen : Visits, seen.of r = 0 → y seen p s = x (seen.setIfInBounds r 1) p s) :
    Reaches p s lo (r + 1) y := by
  intro seen hnew
  -- Reaching the container is noted in its own place only.
  have hother (r' : Nat) (hne : r' ≠ r) : Visits.of (seen.setIfInBounds r 1) r' = seen.of r' := by
    simp [Visits.of, Ne.symm hne]
  obtain ⟨seen', hx, houtside, hinside⟩ := hx (seen.setIfInBounds r 1) fun r' hr hr' => by
    rw [hother r' (by omega)]
    exact hnew r' hr (by omega)
  refine ⟨seen', ?_, fun r' hr => ?_, fun r' hr hr' => ?_⟩
  · rw [hy seen (hnew r hlo (by omega)), hx]
  · rw [houtside r' (by omega), hother r' (by omega)]
  -- The container's own place is 1 by now, and its parts do not reach it.
  · by_cases hlast : r' = r
    · rw [houtside r' (by omega), hlast, Visits.of, Array.getElem?_setIfInBounds]
      by_cases hsize : r < seen.size <;> simp [hsize]
    · exact hinside r' hr (by omega)

/-- So a datum with a cell of its own is reached as its parts are, at any depth. -/
theorem ofParts {r : Nat} {d : Datum} {x : Nat → Visits → Eval Visits} (depth : Nat)
    (hx : ∀ n, Reaches p s lo r (x n)) (hlo : lo ≤ r)
    (hd : ∀ n seen, Visits.of seen r = 0 →
      countVisits (n + 1) d seen p s = x n (seen.setIfInBounds r 1) p s) :
    Reaches p s lo (r + 1) (countVisits depth d) := by
  cases depth with
  | zero => exact Reaches.pure lo (r + 1)
  | succ n => exact (hx n).inside hlo (hd n)

end Reaches

/-- Cells that are none of those between two numbers. -/
def Apart (lo hi : Nat) (path : List Nat) : Prop := ∀ r ∈ path, r < lo ∨ hi ≤ r

namespace Apart

variable {lo hi lo' hi' r : Nat} {path : List Nat}

theorem mono (h : Apart lo hi path) (hlo : lo ≤ lo') (hhi : hi' ≤ hi) : Apart lo' hi' path := by
  intro r hr
  have := h r hr
  omega

/-- A container is none of the cells of its parts. -/
theorem enter (h : Apart lo hi path) (hr : r + 1 ≤ hi) : Apart lo r (r :: path) := by
  intro r' hr'
  obtain rfl | hr' := List.mem_cons.1 hr'
  · exact .inr (Nat.le_refl _)
  · exact h.mono (Nat.le_refl _) (by omega) r' hr'

theorem contains_eq_false (h : Apart lo hi path) (hlo : lo ≤ r) (hhi : r + 1 ≤ hi) :
    path.contains r = false := by
  rw [← Bool.not_eq_true, List.contains_iff_mem]
  intro hr
  have := h r hr
  omega

end Apart

namespace Holds

variable {p : Puller} {s : Store} {lo hi : Nat} {ds : List Datum} {vs : List Value}

/-- **No cell of data that hold values is reached in two ways.** -/
theorem reaches (h : Holds s.cells lo hi ds vs) (depth : Nat) :
    Reaches p s lo hi fun seen => ds.foldlM (fun seen d => countVisits depth d seen) seen := by
  -- Induction on what holds what, for any depth: parts are counted one level deeper, and below the
  -- limit nothing is counted.
  induction h generalizing depth with
  | nil => exact .pure _ _
  | @scalar lo _ _ _ _ _ hrest ih =>
    have hd (n : Scalar) : Reaches p s lo lo fun seen => countVisits depth (.scalar n) seen := by
      cases depth <;> exact .pure _ _
    exact (hd _).bind (ih depth) (Nat.le_refl _) hrest.le
  | @thing lo _ _ _ _ _ _ hrest ih =>
    have hd (t l x : String) :
        Reaches p s lo lo fun seen => countVisits depth (.thing t l x) seen := by
      cases depth <;> exact .pure _ _
    exact (hd _ _ _).bind (ih depth) (Nat.le_refl _) hrest.le
  | row hitems hrest ihitems ih =>
    refine Reaches.bind ?_ (ih depth) hitems.le hrest.le
    cases depth with
    | zero => exact .pure _ _
    | succ depth => exact ihitems depth
  | tuple hitems hrest ihitems ih =>
    refine (Reaches.ofParts depth ihitems hitems.le fun n seen hnew => ?_).bind (ih depth)
      (Nat.le_succ_of_le hitems.le) hrest.le
    rw [countVisits, Visits.reach_of_new hnew]
    rfl
  -- The cell of a list or a set is looked up once it has been reached for the first time.
  | list hcell hitems hrest ihitems ih | set hcell hitems hrest ihitems ih =>
    refine (Reaches.ofParts depth ihitems hitems.le fun n seen hnew => ?_).bind (ih depth)
      (Nat.le_succ_of_le hitems.le) hrest.le
    rw [countVisits, Visits.reach_of_new hnew]
    exact bind_of_ok (cell_of_getElem? hcell)
  | map hcell hitems hrest ihitems ih =>
    refine (Reaches.ofParts depth ihitems hitems.le fun n seen hnew => ?_).bind (ih depth)
      (Nat.le_succ_of_le hitems.le) hrest.le
    rw [countVisits, Visits.reach_of_new hnew, ← foldlM_inRow]
    exact bind_of_ok (cell_of_getElem? hcell)

/-- Data that hold values are given back as these, if no cell has got a mark and none of their cells
is around them. -/
theorem gives (h : Holds s.cells lo hi ds vs) {marks : CellMarks}
    (hmarks : ∀ r : Nat, (marks[r]?).join = none) (depth : Nat) {path : List Ref}
    (hpath : Apart lo hi path) : Gives p s (ds.mapM (giveAt marks depth path)) vs := by
  -- Below the limit nothing is given. So there is one thing to show of each datum.
  have hcons {d : Datum} {v : Value} {ds : List Datum} {vs : List Value} {depth : Nat}
      {path : List Ref} (hd : ∀ n, n + 1 = depth → Gives p s (giveAt marks (n + 1) path d) v)
      (hds : Gives p s (ds.mapM (giveAt marks depth path)) vs) :
      Gives p s ((d :: ds).mapM (giveAt marks depth path)) (v :: vs) := by
    rw [List.mapM_cons]
    cases depth with
    | zero => exact Gives.bind (.throw _ v) (hds.bind (.pure _))
    | succ n => exact (hd n rfl).bind (hds.bind (.pure _))
  -- A container is none of the cells around it, and is around its parts.
  have hcontainer {lo r hi : Nat} {d : Datum} {v : Value} {ds : List Datum} {vs : List Value}
      {depth : Nat} {path : List Ref} (hlo : lo ≤ r) (hhi : r + 1 ≤ hi) (hpath : Apart lo hi path)
      (hd : ∀ n, Apart lo r (r :: path) → path.contains r = false →
        Gives p s (giveAt marks (n + 1) path d) v)
      (hds : ∀ path : List Ref, Apart (r + 1) hi path →
        Gives p s (ds.mapM (giveAt marks depth path)) vs) :
      Gives p s ((d :: ds).mapM (giveAt marks depth path)) (v :: vs) :=
    hcons (fun n _ => hd n (hpath.enter hhi) (hpath.contains_eq_false hlo hhi))
      (hds path (hpath.mono (by omega) (Nat.le_refl _)))
  -- Induction on what holds what. Each datum is the first of its row, and the row goes on from
  -- there.
  induction h generalizing depth path with
  | nil => exact .pure _
  | scalar _ _ ih => exact hcons (fun _ _ => .pure _) (ih depth hpath)
  | thing _ ih => exact hcons (fun _ _ => .pure _) (ih depth hpath)
  | row hitems hrest ihitems ih =>
    refine hcons (fun n _ => ?_) (ih depth (hpath.mono hitems.le (Nat.le_refl _)))
    rw [giveAt]
    exact (ihitems n (hpath.mono (Nat.le_refl _) hrest.le)).bind (.pure _)
  | tuple hitems hrest ihitems ih =>
    refine hcontainer hitems.le hrest.le hpath (fun n _ _ => ?_) fun _ => ih depth
    rw [giveAt]
    refine (ihitems n (hpath.mono (Nat.le_refl _) (Nat.le_of_succ_le hrest.le))).bind ?_
    rw [Option.bind_some, hmarks]
    exact .pure _
  | list hcell hitems hrest ihitems ih | set hcell hitems hrest ihitems ih =>
    refine hcontainer hitems.le hrest.le hpath (fun n hinside houtside => ?_) fun _ => ih depth
    rw [giveAt]
    refine (Gives.of_ok (cell_of_getElem? hcell)).bind ?_
    dsimp only
    rw [houtside, hmarks]
    exact (ihitems n hinside).bind (.pure _)
  | map hcell hitems hrest ihitems ih =>
    refine hcontainer hitems.le hrest.le hpath (fun n hinside houtside => ?_) fun _ => ih depth
    rw [giveAt]
    refine (Gives.of_ok (cell_of_getElem? hcell)).bind ?_
    dsimp only
    rw [houtside, hmarks]
    -- The entries are given pair by pair, and held as a row of keys and values.
    have hparts := ihitems n hinside
    rw [← mapM_inRow] at hparts
    exact (Gives.of_map (fun _ _ => inRow_injective) hparts).bind (.pure _)

/-- No marks are given if no cell is reached in two ways and none has been taken over with one. -/
theorem marksOf_of_once {visits : Visits} (hvisits : ∀ r : Nat, visits.of r ≤ 1)
    (hmarked : s.marked = []) :
    ∃ marks, marksOf visits p s = (.ok marks, s) ∧ ∀ r : Nat, (marks[r]?).join = none := by
  -- A cell gets a mark if it has been reached more than once.
  refine ⟨visits.mapIdx fun r n => if 1 < n then some (s.next + r) else none, ?_, fun r => ?_⟩
  · show (Except.ok (List.foldr _ _ s.marked), s) = _
    rw [hmarked]
    rfl
  · have hr := hvisits r
    unfold Visits.of at hr
    rw [Array.getElem?_mapIdx]
    cases hn : visits[r]? with
    | none => rfl
    | some n =>
      rw [hn] at hr
      have hn : ¬ 1 < n := Nat.not_lt.2 hr
      simp [hn]

/-- **What holds a value is given back as this value,** if it is given back. -/
theorem give {d : Datum} {v : Value} (h : Holds s.cells 0 hi [d] [v]) (hmarked : s.marked = []) :
    Gives p s d.give v := by
  -- First the cells are counted, then they get their marks, of which there are none.
  have hgive : Gives p s (do
      let visits ← countVisits depthLimit d (Array.replicate (← getThe Store).cells.size 0)
      giveAt (← marksOf visits) depthLimit [] d) v := by
    obtain ⟨visits, hvisits, houtside, hinside⟩ :=
      h.reaches (p := p) depthLimit (Array.replicate s.cells.size 0) fun r _ _ => by
        simp [Visits.of, Array.getElem?_replicate]
        split <;> rfl
    -- The cells between the bounds are reached once, and all others have not been reached.
    have honce (r : Nat) : visits.of r ≤ 1 := by
      by_cases hr : r < hi
      · exact hinside r (Nat.zero_le r) hr
      · rw [houtside r (.inr (by omega))]
        simp [Visits.of, Array.getElem?_replicate]
        split <;> simp
    obtain ⟨marks, hmarksOf, hmarks⟩ := marksOf_of_once (p := p) honce hmarked
    refine (Gives.of_ok (a := s) rfl).bind ?_
    refine (Gives.of_ok (a := visits) ?_).bind ((Gives.of_ok hmarksOf).bind ?_)
    · simpa using hvisits
    · have hall : Gives p s ([d].mapM (giveAt marks depthLimit [])) [v] :=
        h.gives hmarks depthLimit fun r hr => nomatch hr
      have hone : [d].mapM (giveAt marks depthLimit []) =
          (fun v => [v]) <$> giveAt marks depthLimit [] d := by
        simp
      rw [hone] at hall
      exact Gives.of_map (g := fun v => [v]) (fun v w hvw => by simpa using hvw) hall
  unfold Datum.give
  split
  · cases h
    exact .pure _
  · exact hgive

end Holds

/-! ### Taking over -/

/-- **A computation takes values over:** it adds cells to the store and changes nothing else, and
what it gives, if it gives anything, holds the values with cells among the new ones. -/
def Takes (data : α → List Datum) (vs : List Value) (x : Eval α) : Prop :=
  ∀ p s, ∃ more r, x p s = (r, { s with cells := s.cells ++ more }) ∧
    ∀ a, r = .ok a →
      Holds (s.cells ++ more) s.cells.size (s.cells ++ more).size (data a) vs

namespace Takes

variable {data : α → List Datum} {v : Value} {vs parts : List Value} {x : Eval α}

theorem pure {a : α} (h : ∀ cells n, Holds cells n n (data a) vs) :
    Takes data vs (pure a) := by
  intro p s
  refine ⟨#[], .ok a, by rw [Array.append_empty]; rfl, fun b hb => ?_⟩
  cases hb
  rw [Array.append_empty]
  exact h _ _

theorem throw (e : Failure) : Takes data vs (throw e : Eval α) := by
  intro p s
  exact ⟨#[], .error e, by rw [Array.append_empty]; rfl, fun a ha => nomatch ha⟩

/-- Something is done with what has been taken over, in one step that adds a cell or does
nothing. -/
theorem bind (hx : Takes data parts x) {f : α → Eval Datum}
    (hf : ∀ a p s, ∃ more d, f a p s = (.ok d, { s with cells := s.cells ++ more }) ∧
      ∀ lo, Holds s.cells lo s.cells.size (data a) parts →
        Holds (s.cells ++ more) lo (s.cells ++ more).size [d] [v]) :
    Takes (fun d => [d]) [v] (x >>= f) := by
  intro p s
  -- What comes first may fail. Then it has added its cells, and nothing more happens.
  obtain ⟨more, r, hrun, hheld⟩ := hx p s
  cases r with
  | error e => exact ⟨more, .error e, bind_of_error hrun, fun a ha => nomatch ha⟩
  | ok a =>
    obtain ⟨more', d, hstep, hholds⟩ := hf a p { s with cells := s.cells ++ more }
    dsimp only at hstep hholds
    refine ⟨more ++ more', .ok d, ?_, fun b hb => ?_⟩
    · rw [bind_of_ok hrun, hstep, Array.append_assoc]
    · cases hb
      rw [← Array.append_assoc]
      exact hholds _ (hheld a rfl)

/-- **A container comes after its parts,** in a new cell. -/
theorem alloc (hx : Takes data parts x) {c : α → Cell}
    (hc : ∀ {cells : Array Cell} {lo r : Nat} {a : α}, cells[r]? = some (c a) →
      Holds cells lo r (data a) parts → Holds cells lo (r + 1) [.cell r] [v]) :
    Takes (fun d => [d]) [v] (do Eval.alloc (c (← x))) := by
  refine hx.bind fun a p s => ⟨#[c a], .cell s.cells.size, rfl, fun lo h => ?_⟩
  rw [Array.size_append]
  exact hc (by simp) (h.grow _)

/-- A tuple comes after its items. -/
theorem newTuple {x : Eval (List Datum)} (hx : Takes id parts x) :
    Takes (fun d => [d]) [.tuple none parts] (do Eval.newTuple (← x)) := by
  refine hx.bind fun items p s => ?_
  -- An empty tuple has no cell.
  cases items with
  | nil =>
    refine ⟨#[], .tuple none [], by rw [Array.append_empty]; rfl, fun lo h => ?_⟩
    rw [Array.append_empty]
    exact .row h (.nil (Nat.le_refl _))
  | cons d rest =>
    refine ⟨#[.place false], .tuple (some s.cells.size) (d :: rest), rfl, fun lo h => ?_⟩
    rw [Array.size_append]
    exact .tuple (h.grow _) (.nil (Nat.le_refl _))

/-- Values are taken over one after the other. -/
theorem mapM {f : Value → Eval Datum} (h : ∀ v ∈ vs, Takes (fun d => [d]) [v] (f v)) :
    Takes id vs (vs.mapM f) := by
  induction vs with
  | nil =>
    rw [List.mapM_nil]
    exact pure fun cells n => .nil (Nat.le_refl n)
  | cons v rest ih =>
    rw [List.mapM_cons]
    -- The cells of the first value come first, and stay as they are when others come behind them.
    intro p s
    obtain ⟨more, r, hrun, hheld⟩ := h v List.mem_cons_self p s
    cases r with
    | error e => exact ⟨more, .error e, bind_of_error hrun, fun a ha => nomatch ha⟩
    | ok d =>
      obtain ⟨more', r', hrest, hholds⟩ :=
        ih (fun v hv => h v (List.mem_cons_of_mem _ hv)) p { s with cells := s.cells ++ more }
      dsimp only at hrest hholds
      rw [Array.append_assoc] at hrest hholds
      refine ⟨more ++ more', r'.map (d :: ·), ?_, fun ds hds => ?_⟩
      · rw [bind_of_ok hrun]
        cases r' with
        | error e => exact bind_of_error hrest
        | ok ds => exact (bind_of_ok hrest).trans rfl
      · cases r' with
        | error e => cases hds
        | ok ds =>
          cases hds
          have hd := (hheld d rfl).grow more'
          rw [Array.append_assoc] at hd
          exact hd.append (hholds _ rfl)

end Takes

/-- What is taken over may be looked at in another way. -/
theorem Takes.of_map {g : α → β} {data : β → List Datum} {vs : List Value} {x : Eval α}
    (h : Takes data vs (g <$> x)) : Takes (fun a => data (g a)) vs x := by
  intro p s
  obtain ⟨more, r, hrun, hheld⟩ := h p s
  rw [run_map] at hrun
  injection hrun with hresult hstore
  refine ⟨more, (x p s).1, Prod.ext rfl hstore, fun a ha => hheld (g a) ?_⟩
  rw [← hresult, ha]
  rfl

/-- **A value without marks is held when it has been taken over.** -/
theorem takes_takeWithin (depth : Nat) {v : Value} (h : v.endMark = 0) :
    Takes (fun d => [d]) [v] (takeWithin depth v) := by
  -- Induction on the depth: a container has parts that bear no marks, taken over one level deeper.
  induction depth generalizing v with
  | zero => exact .throw _
  | succ depth ih =>
    have hall {items : List Value} (hitems : Value.endMarkOfItems items = 0) :
        Takes id items (items.mapM (takeWithin depth)) :=
      .mapM fun v hv => ih (Value.endMarkOfItems_eq_zero.1 hitems v hv)
    have hparts {m : Option Nat} {n : Nat} (h : max (Value.endOf m) n = 0) : m = none ∧ n = 0 := by
      rwa [Nat.max_eq_zero_iff, Value.endOf_eq_zero] at h
    cases v with
    | scalar s =>
      have hs : s.mark? = none := Value.endOf_eq_zero.1 h
      rw [takeWithin, hs]
      exact .pure fun cells n => .scalar (by simp [hs]) (.nil (Nat.le_refl n))
    | tuple m items =>
      obtain ⟨rfl, hitems⟩ := hparts h
      exact .newTuple (hall hitems)
    | list m items =>
      obtain ⟨rfl, hitems⟩ := hparts h
      exact (hall hitems).alloc fun hcell hheld => .list hcell hheld (.nil (Nat.le_refl _))
    | map m entries =>
      obtain ⟨rfl, hentries⟩ := hparts h
      -- The entries of a mapping are taken over as a row of keys and values.
      rw [← endMarkOfItems_inRow] at hentries
      have hpairs := hall hentries
      rw [← mapM_inRow] at hpairs
      refine hpairs.of_map.alloc fun hcell hheld => .map hcell ?_ (.nil (Nat.le_refl _))
      rw [Table.entries_ofDistinct]
      exact hheld
    | set m items =>
      obtain ⟨rfl, hitems⟩ := hparts h
      exact (hall hitems).alloc fun hcell hheld => .set hcell hheld (.nil (Nat.le_refl _))
    | again shape m => simp [Value.endMark] at h
    | opaqueThing type literal text =>
      exact .pure fun cells n => .thing (.nil (Nat.le_refl n))

end Template

end Playbook
