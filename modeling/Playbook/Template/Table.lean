import Playbook.Template.Datum

/-!
# Tables

The entries of a mapping stand in slots, in the order in which their keys came. A key that is taken
out leaves its slot empty, so that the slots behind it keep their places, and whoever goes through
the slots while keys come and go is not led astray. A table has room for a number of slots; when
there is none left, its entries are moved together, and the room grows with their number.

The room depends on the width of the table: a power of two, of which two thirds may be slots.

Main definitions:

- `Template.Table`: the slots and the room;
- `Table.find?`, `Table.insert`, `Table.erase`: the operations on keys;
- `Table.absorb`, `Table.copy`: several entries at once.

Main statements: `Table.entries_grow`, moving the entries together keeps them, and
`Table.entries_ofDistinct`, entries with different keys are kept as they come.
-/

namespace Playbook.Template

/-- The entries of a mapping in their slots. -/
structure Table where
  /-- The slots, of which some are empty. -/
  slots : Array (Option (Datum × Datum))
  /-- The width: a power of two, or zero as long as there has been no key. -/
  width : Nat
  /-- How many more slots can be filled. -/
  room : Nat
  /-- Whether all keys since the last move have been texts. -/
  textual : Bool
deriving Inhabited

namespace Table

/-- A table without entries. -/
def empty : Table := ⟨#[], 0, 0, true⟩

/-- The entries in order. -/
def entries (t : Table) : DataEntries := t.slots.toList.filterMap id

/-- The number of entries. -/
def size (t : Table) : Nat := t.entries.length

/-- The value of a key. -/
def find? (t : Table) (key : Datum) : Option Datum := DataEntries.find? t.entries key

/-- Whether there is a key. -/
def has (t : Table) (key : Datum) : Bool := t.entries.any (·.1.sameKey key)

/-- The first entry from a slot on, with its slot; the first number bounds the search. -/
def filledFrom? (t : Table) : Nat → Nat → Option (Nat × Datum × Datum)
  | 0, _ => none
  | fuel + 1, place =>
    match t.slots[place]? with
    | some (some entry) => some (place, entry)
    | some none => filledFrom? t fuel (place + 1)
    | none => none

/-- The last entry before a slot, with its slot. -/
def filledBefore? (t : Table) : Nat → Option (Nat × Datum × Datum)
  | 0 => none
  | place + 1 =>
    match t.slots[place]? with
    | some (some entry) => some (place, entry)
    | _ => filledBefore? t place

/-- The width for a number of places: the power of two above it, but no less than eight. -/
def widthFor (places : Nat) : Nat :=
  Nat.pow 2 ((((places ||| 8) - 1) ||| 7).log2 + 1)

/-- How many slots a table of a width may have. -/
def slotsOf (width : Nat) : Nat := 2 * width / 3

/-- The width of a table that is to take a number of entries. -/
def widthForEntries (count : Nat) : Nat := widthFor ((3 * count + 1) / 2)

/-- Move the entries together in a table of a width. -/
def move (t : Table) (width : Nat) (textual : Bool) : Table :=
  let slots := t.slots.filter (·.isSome)
  ⟨slots, width, slotsOf width - slots.size, textual⟩

/-- Move the entries together and make room for more of them. -/
def grow (t : Table) (textual : Bool) : Table :=
  t.move (widthFor (3 * t.size)) (t.textual && textual)

/-- Fill the next slot. -/
def push (t : Table) (key d : Datum) : Table :=
  { t with slots := t.slots.push (some (key, d)), room := t.room - 1 }

/-- Add a key that is not there. -/
def add (t : Table) (key d : Datum) : Table :=
  if t.width = 0 then push ⟨#[], widthFor 0, slotsOf (widthFor 0), key.isText⟩ key d
  else
    let t := if t.textual && !key.isText then t.grow false else t
    if t.room = 0 then (t.grow true).push key d else t.push key d

/-- Set the value of a key: in its slot if it is there, in the next one otherwise. -/
def insert (key d : Datum) (t : Table) : Table :=
  if t.has key then
    { t with slots := t.slots.map fun slot => slot.map fun (k, e) =>
        if k.sameKey key then (k, d) else (k, e) }
  else t.add key d

/-- Take a key out. -/
def erase (key : Datum) (t : Table) : Table :=
  { t with slots := t.slots.map fun slot => slot.filter fun (k, _) => !k.sameKey key }

/-- The last entry, and the table without it. The slots behind it are given up, but give no
room. -/
def popLast? (t : Table) : Option ((Datum × Datum) × Table) :=
  let used := t.slots.popWhile (·.isNone)
  match used.back? with
  | some (some entry) => some (entry, { t with slots := used.pop })
  | _ => none

/-- A table with the values of several keys set in order. -/
def update (t : Table) (es : DataEntries) : Table := es.foldl (fun t (k, d) => t.insert k d) t

/-- The table of several entries in order. -/
def ofEntries (es : DataEntries) : Table := empty.update es

/-- The table of entries with different keys. -/
def ofDistinct (es : DataEntries) : Table := es.foldl (fun t (k, d) => t.add k d) empty

/-- The table of entries that are written down together. -/
def ofDisplay (es : DataEntries) : Table :=
  let width := widthForEntries es.length
  let start : Table :=
    if es.length ≤ slotsOf (widthFor 0) then empty
    else ⟨#[], width, slotsOf width, es.all (·.1.isText)⟩
  start.update es

/-- A table with the entries of another one. An empty table becomes the other one if that has no
empty slots and not much room, and one that has far too little room grows first. -/
def absorb (t more : Table) : Table :=
  let count := more.size
  let isTight := more.width = widthFor 0 ∨ slotsOf (more.width / 2) < count
  if count = 0 then t
  else if t.size = 0 ∧ count = more.slots.size ∧ isTight then more
  else
    let t :=
      if slotsOf t.width < count then
        t.move (widthForEntries (t.size + count)) (t.textual && more.textual)
      else t
    t.update more.entries

/-- A copy of a table, which has its slots unless many of them are empty. -/
def copy (t : Table) : Table :=
  if t.size = 0 then empty
  else if t.slots.size * 2 / 3 ≤ t.size then t
  else empty.absorb t

@[simp] theorem entries_empty : empty.entries = [] := rfl

theorem filterMap_filter_isSome (l : List (Option (Datum × Datum))) :
    (l.filter (·.isSome)).filterMap id = l.filterMap id := by
  induction l with
  | nil => rfl
  | cons a rest ih => cases a <;> simp_all

@[simp] theorem entries_grow (t : Table) (textual : Bool) :
    (t.grow textual).entries = t.entries := by
  simpa [grow, move, entries] using filterMap_filter_isSome t.slots.toList

@[simp] theorem entries_push (t : Table) (key d : Datum) :
    (t.push key d).entries = t.entries ++ [(key, d)] := by
  simp [push, entries]

/-- As long as there has been no key, there are no entries. -/
theorem entries_add {t : Table} (h : t.width = 0 → t.entries = []) (key d : Datum) :
    (t.add key d).entries = t.entries ++ [(key, d)] := by
  unfold add
  split
  · next hw =>
    rw [entries_push, h hw]
    rfl
  · extract_lets moved
    have hmoved : moved.entries = t.entries := by
      dsimp only [moved]
      split <;> simp
    split <;> simp [hmoved]

theorem width_add_ne_zero (t : Table) (key d : Datum) : (t.add key d).width ≠ 0 := by
  have hwidth (n : Nat) : widthFor n ≠ 0 := Nat.ne_of_gt (Nat.pow_pos (by decide))
  unfold add
  split
  · exact hwidth 0
  · next hw =>
    extract_lets moved
    have hmoved : moved.width ≠ 0 := by
      dsimp only [moved]
      split
      · exact hwidth _
      · exact hw
    split
    · exact hwidth _
    · exact hmoved

/-- The entries of a table of entries with different keys are these. -/
@[simp] theorem entries_ofDistinct (es : DataEntries) : (ofDistinct es).entries = es := by
  have hfold (t : Table) (h : t.width = 0 → t.entries = []) :
      (es.foldl (fun t (k, d) => t.add k d) t).entries = t.entries ++ es := by
    induction es generalizing t with
    | nil => simp
    | cons e rest ih =>
      rw [List.foldl_cons, ih _ fun hw => absurd hw (width_add_ne_zero t e.1 e.2), entries_add h]
      simp
  exact hfold empty fun _ => rfl

end Table

end Playbook.Template
