import Playbook.Template.Store

/-!
# Going through data

Texts, sequences, sets, mappings and streams can be gone through item by item. A list is looked at
anew at every step, a mapping or a set must keep its size meanwhile, and a stream gives every item
once. Who has come to the end stays there, whatever is added later.

Main definitions:

- `Datum.cursor`, `Cursor.next`: the first position, and the item at a position;
- `Datum.items`: all items; `Datum.itemsBefore`, those before a failure;
- `Datum.size`: the number of items;
- `LoopState.advance`, `LoopState.peek`, `LoopState.total`: a loop that can be looked at.
-/

namespace Playbook.Template

/-- The number of integers of a range. -/
def rangeLength (start stop step : Int) : Nat :=
  if 0 < step then ((stop - start + step - 1) / step).toNat
  else if step < 0 then ((start - stop - step - 1) / (-step)).toNat
  else 0

/-- Integers in equal steps. -/
def rangeItems (next step : Int) : Nat → List Datum
  | 0 => []
  | n + 1 => .int next :: rangeItems (next + step) step n

@[simp] theorem length_rangeItems (next step : Int) (n : Nat) :
    (rangeItems next step n).length = n := by
  induction n generalizing next with
  | zero => rfl
  | succ n ih => simp [rangeItems, ih]

/-- What a view shows of an entry. -/
def View.item (v : View) (entry : Datum × Datum) : Eval Datum :=
  match v with
  | .keys => return entry.1
  | .values => return entry.2
  | .items => Eval.newTuple [entry.1, entry.2]

/-! ### Sizes -/

/-- Sizes and places in memory are below this number. -/
def sizeBound : Int := Int.pow 2 63

/-- More bytes than this are not to be had. -/
def memoryBound : Nat := Nat.pow 2 37

/-- The failure of asking for more memory than there is. -/
def noMemory : Failure := ⟨.memory, ""⟩

/-- The failure of a number that is no size and no place in memory. -/
def sizeOverflow : Failure := .overflow "Python int too large to convert to C ssize_t"

/-! ### Cursors -/

namespace Cursor

/-- What is said when a mapping changes its size while it is gone through. -/
def sizeChanged : Failure := ⟨.mutation, "dictionary changed size during iteration"⟩

/-- What is said when a mapping has more entries than it had when its first one was looked at. -/
def keysChanged : Failure := ⟨.mutation, "dictionary keys changed during iteration"⟩

/-- The table of a mapping that must still have a size. -/
def tableOfSize (r : Ref) (size : Nat) : Eval Table := do
  let t ← Eval.table r
  -- An entry that has been replaced by another one is not noticed, as the size is the same.
  if t.size = size then return t else throw sizeChanged

/-- What is said when a set changes its size while it is gone through. -/
def membersChanged : Failure := ⟨.mutation, "Set changed size during iteration"⟩

/-- The items of a list or of a set in a cell. -/
def itemsOf (r : Ref) : Eval (List Datum) := do
  match ← Eval.cell r with
  | .list items | .set items => return items
  | _ => return []

/-- Insist that a set has a size. -/
def insistOnSize (r : Ref) (size : Nat) : Eval Unit := do
  if (← itemsOf r).length ≠ size then throw membersChanged

/-- The item at a position and the position after it. Whoever keeps a position and finds no item at
it has to give it up, since there may be one later. -/
def next : Cursor → Eval (Option (Datum × Cursor))
  | .fixed [] => return none
  | .fixed (d :: rest) => return some (d, .fixed rest)
  | .list r position => do
    return (← itemsOf r)[position]?.map fun d => (d, .list r (position + 1))
  | .listBack _ 0 => return none
  -- The position counts the items in front, so the next one backwards is the one before it.
  | .listBack r (position + 1) => do
    return (← itemsOf r)[position]?.map fun d => (d, .listBack r position)
  | .slots v r position size left => do
    let t ← tableOfSize r size
    match t.filledFrom? t.slots.size position with
    | none => return none
    -- Places without an entry are passed over.
    | some (place, entry) =>
      if left = 0 then throw keysChanged
      return some (← v.item entry, .slots v r (place + 1) size (left - 1))
  | .slotsBack v r position size => do
    match (← tableOfSize r size).filledBefore? position with
    | none => return none
    | some (place, entry) => return some (← v.item entry, .slotsBack v r place size)
  | .members r size left => do
    insistOnSize r size
    match left with
    | [] => return none
    | d :: rest => return some (d, .members r size rest)
  -- A stream has no position of its own: it gives each item once, whoever asks.
  | .stream r => do return (← Eval.pull r).map fun d => (d, .stream r)
  | .steps _ _ 0 => return none
  | .steps i step (left + 1) => return some (.int i, .steps (i + step) step left)

/-- Bounds the number of items of a stream. -/
def itemLimit : Nat := 100000000

/-- All items that a stream still gives, after those found so far with the last one first, and the
failure that follows them; the number bounds their number. -/
def drain (r : Ref) : Nat → List Datum → Eval (List Datum × Option Failure)
  | 0, found => return (found.reverse, none)
  | fuel + 1, found => do
    match ← Eval.attempt (Eval.pull r) with
    -- What has been given before the failure is not lost.
    | .error f => return (found.reverse, some f)
    | .ok none => return (found.reverse, none)
    | .ok (some d) => drain r fuel (d :: found)

/-- What a view shows of entries that are gone through, or the failure of a mapping that has changed
its size. -/
def shownBefore (v : View) (r : Ref) (size : Nat)
    (entries : Table → DataEntries × Option Failure) : Eval (List Datum × Option Failure) := do
  match ← Eval.attempt (tableOfSize r size) with
  | .error f => return ([], some f)
  | .ok t =>
    let (found, fault) := entries t
    return (← found.mapM v.item, fault)

/-- The items from a position on, and the failure that follows them. -/
def restBefore : Cursor → Eval (List Datum × Option Failure)
  | .fixed rest => return (rest, none)
  | .list r position => do return ((← itemsOf r).drop position, none)
  | .listBack r position => do
    let items ← itemsOf r
    -- A list that has become shorter than the position is gone through no further.
    return (if position ≤ items.length then (items.take position).reverse else [], none)
  | .slots v r position size left =>
    shownBefore v r size fun t =>
      let found := (t.slots.toList.drop position).filterMap id
      -- There may be more entries than at the start, though the size is the same again.
      (found.take left, if left < found.length then some keysChanged else none)
  | .slotsBack v r position size =>
    shownBefore v r size fun t => (((t.slots.toList.take position).filterMap id).reverse, none)
  | .members r size left => do
    match ← Eval.attempt (insistOnSize r size) with
    | .error f => return ([], some f)
    | .ok () => return (left, none)
  | .stream r => drain r itemLimit []
  | .steps i step left => do
    -- A range is not refused before all its items are asked for.
    if sizeBound ≤ left then throw sizeOverflow
    if memoryBound < left then throw noMemory
    return (rangeItems i step left, none)

/-- The items from a position on. -/
def rest (c : Cursor) : Eval (List Datum) := do
  match ← c.restBefore with
  | (items, none) => return items
  | (_, some f) => throw f

/-- Up to a number of items from a position on. -/
def take : Nat → Cursor → Eval (List Datum)
  | 0, _ => return []
  | count + 1, c => do
    match ← c.next with
    | none => return []
    | some (d, c) => return d :: (← take count c)

end Cursor

/-! ### Items of data -/

namespace Datum

/-- The position before the first item. -/
def cursor (d : Datum) : Eval Cursor := do
  let refuse : Eval Cursor := do
    Eval.typeFault ("'" ++ (← d.typeName) ++ "' object is not iterable")
  match d with
  | .str s => return .fixed (s.toList.map fun c => .str (String.singleton c))
  | .bytes b => return .fixed (b.map fun x => .int x.toNat)
  | .tuple _ items => return .fixed items
  | .missing _ => return .fixed []
  | .range start stop step => return .steps start step (rangeLength start stop step)
  | .view v r => do
    -- The size at the start is kept, so that a change is noticed.
    let size := (← Eval.table r).size
    return .slots v r 0 size size
  | .cell r =>
    match ← Eval.cell r with
    | .list _ => return .list r 0
    | .map t => return .slots .keys r 0 t.size t.size
    | .set items => return .members r items.length items
    | .stream .. => return .stream r
    -- A loop goes on from where it stands.
    | .loop state => return state.cursor
    | _ => refuse
  | _ => refuse

/-- The items of a datum. -/
def items (d : Datum) : Eval (List Datum) := do (← d.cursor).rest

/-- The items of a datum before a failure, and the failure. -/
def itemsBefore (d : Datum) : Eval (List Datum × Option Failure) := do
  match ← Eval.attempt d.cursor with
  | .ok c => c.restBefore
  | .error f => return ([], some f)

/-- The number of items of data other than loops; `none` if a datum has no number of items. -/
def size? (d : Datum) : Eval (Option Nat) := do
  match d with
  | .str s => return some s.length
  | .bytes b => return some b.length
  | .tuple _ items => return some items.length
  | .missing _ => return some 0
  | .range start stop step =>
    let n := rangeLength start stop step
    if sizeBound ≤ n then throw sizeOverflow
    return some n
  | .view _ r => return some (← Eval.table r).size
  | .cell r =>
    match ← Eval.cell r with
    | .list items | .set items => return some items.length
    | .map t => return some t.size
    | _ => return none
  | _ => return none

/-- The items of a datum of which there must be a number. -/
def unpack (count : Nat) (d : Datum) : Eval (List Datum) := do
  match ← Eval.attempt d.cursor with
  | .error _ => Eval.typeFault ("cannot unpack non-iterable " ++ (← d.typeName) ++ " object")
  | .ok c =>
    -- One item more is asked for than is wanted.
    let items ← c.take (count + 1)
    if items.length < count then
      Eval.valueFault ("not enough values to unpack (expected " ++ toString count ++ ", got " ++
        toString items.length ++ ")")
    if count < items.length then
      Eval.valueFault ("too many values to unpack (expected " ++ toString count ++ ")")
    return items

/-- What is said about a datum without a number of items. -/
def noSize (typeName : String) : Failure :=
  .type ("object of type '" ++ typeName ++ "' has no len()")

end Datum

/-! ### Loops -/

namespace Eval

/-- The state of a loop. -/
def loopState (r : Ref) : Eval LoopState := do
  match ← cell r with
  | .loop s => return s
  | _ => return default

/-- Keep the state of a loop. Nothing else becomes a loop. -/
def setLoop (r : Ref) (state : LoopState) : Eval Unit :=
  modifyThe Store fun s =>
    match s.cells[r]? with
    -- A loop that has been left is kept as well, since it may still be looked at.
    | some (.loop _) => { s with cells := s.cells.setIfInBounds r (.loop state) }
    | _ => s

end Eval

namespace LoopState

/-- Go to the next item of a loop, if there is one. -/
def advance (r : Ref) : Eval (Option Datum) := do
  let s ← Eval.loopState r
  let found ←
    -- The item that has been looked at already comes first.
    match s.after with
    | some d => pure (some (d, s.cursor))
    | none => s.cursor.next
  match found with
  | none =>
    -- A loop that has come to its end stays there.
    Eval.setLoop r { s with cursor := .fixed [] }
    return none
  | some (d, cursor) =>
    let index := if s.current.isNone then 0 else s.index + 1
    Eval.setLoop r { s with cursor, index, before := s.current, current := some d, after := none }
    return some d

/-- The item after the one at hand, if there is one. -/
def peek (r : Ref) : Eval (Option Datum) := do
  let s ← Eval.loopState r
  match s.after with
  | some d => return some d
  | none =>
    match ← s.cursor.next with
    | none =>
      Eval.setLoop r { s with cursor := .fixed [] }
      return none
    | some (d, cursor) =>
      Eval.setLoop r { s with cursor, after := some d }
      return some d

/-- How many items a loop goes through. Where the source does not say, the items to come are
counted. -/
def total (r : Ref) : Eval Nat := do
  let s ← Eval.loopState r
  match s.length with
  | some n => return n
  | none =>
    -- A source that knows its size is asked for it, not gone through.
    match ← s.source.size? with
    | some n =>
      Eval.setLoop r { s with length := some n }
      return n
    | none =>
      -- All items to come are taken from the source, and kept for the rounds to come.
      let rest ← s.cursor.rest
      let past := if s.current.isNone then 0 else s.index + 1
      let n := rest.length + past + (if s.after.isSome then 1 else 0)
      Eval.setLoop r { s with cursor := .fixed rest, length := some n }
      return n

end LoopState

/-- The number of items of a datum. -/
def Datum.size (d : Datum) : Eval Nat := do
  match ← d.size? with
  | some n => return n
  | none =>
    match d with
    | .cell r =>
      match ← Eval.cell r with
      | .loop _ => LoopState.total r
      | c => throw (noSize c.typeName)
    | d => throw (noSize (← d.typeName))

end Playbook.Template
