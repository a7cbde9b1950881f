import Playbook.Value

/-!
# Marks

What is one thing in several places of a value bears one mark in all of them. The marks of a
document are its own: before values of several documents are looked at together, their marks are
relabeled, so that what is not one thing does not bear one mark. Two marks stay as they are: zero,
which is none, and one, which the double of all documents bears that denotes no number.

A container can have changed since it was met last. What has become of it is kept by its mark, and
`renew` brings a value up to date.

Main definitions:

- `Value.relabel`, `Entries.relabel`: values with other marks; `markIn`: the marks of a group;
- `Value.endMark`, `Entries.endMark`: the least number above all marks;
- `Value.renew`, `Entries.renew`: values as they are now.
-/

namespace Playbook

/-- The mark, in the given one of a number of groups, that stands for a mark. -/
def markIn (groups group mark : Nat) : Nat := if mark < 2 then mark else mark * groups + group

namespace Value

/-! ### Relabeling -/

/-- A scalar with another mark. -/
def relabelScalar (f : Nat → Nat) (s : Scalar) : Scalar :=
  match s.mark? with
  | some m => s.withMark (f m)
  | none => s

mutual

/-- A value with other marks. -/
def relabel (f : Nat → Nat) : Value → Value
  | .scalar s => .scalar (relabelScalar f s)
  | .tuple m items => .tuple (m.map f) (relabelItems f items)
  | .list m items => .list (m.map f) (relabelItems f items)
  | .map m entries => .map (m.map f) (relabelEntries f entries)
  | .set m items => .set (m.map f) (relabelItems f items)
  | .again shape m => .again shape (f m)
  | .opaqueThing type literal text => .opaqueThing type literal text

/-- Values with other marks. -/
def relabelItems (f : Nat → Nat) : List Value → List Value
  | [] => []
  | v :: rest => relabel f v :: relabelItems f rest

/-- Entries with other marks. -/
def relabelEntries (f : Nat → Nat) : List (Value × Value) → List (Value × Value)
  | [] => []
  | (k, v) :: rest => (relabel f k, relabel f v) :: relabelEntries f rest

end

/-! ### Bounds -/

/-- The least number above a mark. -/
def endOf : Option Nat → Nat
  | none => 0
  | some m => m + 1

mutual

/-- The least number above all marks in a value. -/
def endMark : Value → Nat
  | .scalar s => endOf s.mark?
  | .tuple m items | .list m items | .set m items => max (endOf m) (endMarkOfItems items)
  | .map m entries => max (endOf m) (endMarkOfEntries entries)
  | .again _ m => m + 1
  | .opaqueThing .. => 0

/-- The least number above all marks in values. -/
def endMarkOfItems : List Value → Nat
  | [] => 0
  | v :: rest => max (endMark v) (endMarkOfItems rest)

/-- The least number above all marks in entries. -/
def endMarkOfEntries : List (Value × Value) → Nat
  | [] => 0
  | (k, v) :: rest => max (max (endMark k) (endMark v)) (endMarkOfEntries rest)

end

/-! ### Renewal -/

/-- What has become of containers, by their marks. -/
abbrev Changes := List (Nat × Value)

/-- A container as it is now. -/
def Changes.now (changes : Changes) (mark : Nat) (v : Value) : Value :=
  (changes.lookup mark).getD v

/-- The least number above all marks of containers that have changed and in what they are now. -/
def Changes.endMark (changes : Changes) : Nat :=
  changes.foldl (fun n (m, v) => max n (max (m + 1) v.endMark)) 0

/-- A value in which every container is as it is now. The number bounds the depth, and `path` holds
the marks of the containers around the value. -/
def renewWithin (changes : Changes) : Nat → List Nat → Value → Value
  | 0, _, v => v
  | depth + 1, path, v =>
    let items (path : List Nat) (vs : List Value) := vs.map (renewWithin changes depth path)
    let entries (path : List Nat) (es : List (Value × Value)) :=
      es.map fun (k, v) =>
        (renewWithin changes depth path k, renewWithin changes depth path v)
    let inside (shape : Shape) (mark : Option Nat) : Value :=
      match mark with
      | none => v
      | some m => if path.contains m then .again shape m else changes.now m v
    let path := fun
      | none => path
      | some m => m :: path
    match v with
    | .tuple m vs => .tuple m (items (path none) vs)
    | .list m _ =>
      match inside .list m with
      | .list _ vs => .list m (items (path m) vs)
      | v => v
    | .set m _ =>
      match inside .set m with
      | .set _ vs => .set m (items (path m) vs)
      | v => v
    | .map m _ =>
      match inside .map m with
      | .map _ es => .map m (entries (path m) es)
      | v => v
    | v => v

/-- Bounds the depth to which values are renewed. -/
def renewalDepth : Nat := 10000

/-- A value in which every container is as it is now. -/
def renew (changes : Changes) (v : Value) : Value :=
  if changes.isEmpty then v else renewWithin changes renewalDepth [] v

@[simp] theorem renew_nil (v : Value) : v.renew [] = v := rfl

end Value

namespace Entries

/-- Entries with other marks. -/
def relabel (f : Nat → Nat) (es : Entries) : Entries := Value.relabelEntries f es

/-- The least number above all marks in entries. -/
def endMark (es : Entries) : Nat := Value.endMarkOfEntries es

/-- Entries in which every container is as it is now. -/
def renew (changes : Value.Changes) (es : Entries) : Entries :=
  es.map fun (k, v) => (k.renew changes, v.renew changes)

@[simp] theorem renew_nil (es : Entries) : renew [] es = es := by
  simp [renew]

end Entries

end Playbook
