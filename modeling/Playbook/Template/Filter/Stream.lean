import Playbook.Template.Comparison
import Playbook.Template.Filter.Basic

/-!
# Streams

A stream is asked for one item at a time. The first question looks at the arguments and at the
source, so what is wrong with them is found only then; every question goes on in the source until
there is something to give. A stream that has failed, or has come to the end, gives nothing more.

Main definitions:

- `Plan.start`: what the first question finds;
- `Stage.take`, `Stage.ending`: what a stream makes of an item, and of the end;
- `Template.pullWith`: the next item of a stream.
-/

namespace Playbook.Template

/-- The failure of a filter or test that is asked for by something that is no name of one. -/
def unknownWord {α : Type} (kind : String) (name : Datum) : Eval α := do
  name.checkKey
  let message := "No " ++ kind ++ " named " ++ (← name.literal) ++ "."
  match name with
  | .missing why =>
    Eval.runFault (message ++ " (" ++ why ++ "; did you forget to quote the callable name?)")
  | _ => Eval.runFault message

/-! ### Beginning -/

/-- The stage that changes items: by an attribute that is given by name, or by a filter. -/
def changing (i : Inputs) : Eval Stage := do
  match i.plain, i.named.lookup "attribute" with
  | [], some path =>
    match i.named.find? fun (k, _) => k != "attribute" && k != "default" with
    | some (k, _) => argumentFault ("Unexpected keyword argument " ++ Literal.text k)
    | none =>
      let otherwise := match (i.named.lookup "default").getD .null with
        | .null => none
        | e => some e
      return .part (← pathOf path) otherwise
  | [], none => argumentFault "map requires a filter argument"
  | name :: rest, _ => return .filtered name ⟨rest, i.named⟩

/-- The stage that chooses items, by their truth or by a test. -/
def choosing (keep byAttribute : Bool) (i : Inputs) : Eval Stage := do
  let (path, rest) ←
    match byAttribute, i.plain with
    | false, rest => pure ([], rest)
    | true, [] => argumentFault "Missing parameter for attribute name"
    | true, path :: rest => pure (← pathOf path, rest)
  match rest with
  | [] => return .chosen keep path none
  | name :: more => return .chosen keep path (some (name, ⟨more, i.named⟩))

/-- A number of rows whose lengths differ by at most one. -/
def slicesOf (items : List Datum) (each more : Nat) (fill : Option Datum) :
    Nat → Nat → List (List Datum)
  | _, 0 => []
  | n, left + 1 =>
    let length := each + if n < more then 1 else 0
    let row := items.take length
    let row := match fill with
      | some d => if more ≤ n then row ++ [d] else row
      | none => row
    row :: slicesOf (items.drop length) each more fill (n + 1) left

/-- The items of a datum in a number of rows, each of which is a new list. -/
def sliced (source count fill : Datum) : Eval (List Datum) := do
  let items ← source.items
  discard <| (Datum.int items.length).arithmetic .floorDivide count
  let n := (← asIndex count).toNat
  let fill := match fill with
    | .null => none
    | d => some d
  (slicesOf items (items.length / n) (items.length % n) fill 0 n).mapM Eval.newList

/-- Where a stream begins in its source and what it does there; nothing if it has no items. -/
def Plan.start (w : Words) (source : Datum) : Plan → Eval (Option (Cursor × Stage))
  | .map i => do
    if !(← source.isTrue) then return none
    let stage ← changing i
    return some (← source.cursor, stage)
  | .choose keep byAttribute i => do
    if !(← source.isTrue) then return none
    let stage ← choosing keep byAttribute i
    return some (← source.cursor, stage)
  | .distinct exact part => do
    let path ← pathOf part
    return some (← source.cursor, .distinct exact path [])
  | .pairs => do
    let refuse : Eval (Option (Cursor × Stage)) :=
      Eval.typeFault "Can only get item pairs from a mapping."
    match source with
    | .missing _ => return none
    | .cell r =>
      match ← Eval.cell r with
      | .map _ => return some (← (Datum.view .items r).cursor, .plain)
      | _ => refuse
    | _ => refuse
  | .rows length fill => do return some (← source.cursor, .rows length fill [])
  | .slices count fill => do return some (.fixed (← sliced source count fill), .plain)
  | .tested b => do
    let frame ← w.enter b
    return some (← source.cursor, .tested b frame)

/-! ### Going on -/

/-- A row with data put at its end until it has a length. -/
def filledRow (row : List Datum) (length fill : Datum) : Eval (List Datum) := do
  match fill with
  | .null => return row
  | fill =>
    if ← (Datum.int row.length).holds .less length then
      let count ← length.arithmetic .subtract (.int row.length)
      match count.int? with
      | some n => return row ++ repeated [fill] n
      | none =>
        Eval.typeFault ("can't multiply sequence by non-int of type '" ++ (← count.typeName) ++
          "'")
    else return row

namespace Stage

/-- What a stream makes of an item: the stage after it, and what is given. -/
def take (w : Words) (d : Datum) (stage : Stage) : Eval (Stage × Option Datum) := do
  match stage with
  | .plain => return (stage, some d)
  | .part path otherwise => return (stage, some (← follow path otherwise d))
  | .filtered name i =>
    match name with
    | .str s => return (stage, some (← w.filter s d i))
    | name => unknownWord "filter" name
  | .chosen keep path test =>
    let part ← follow path none d
    let ok ←
      match test with
      | none => part.isTrue
      | some (.str name, i) => w.test name part i
      | some (name, _) => unknownWord "test" name
    return (stage, if ok == keep then some d else none)
  | .distinct exact path seen =>
    let key := withCase exact (← follow path none d)
    key.checkKey
    if hasKey seen key then return (stage, none)
    else return (.distinct exact path (key :: seen), some d)
  | .rows length fill row =>
    if ← (Datum.int row.length).equal length then
      return (.rows length fill [d], some (← Eval.newList row))
    else return (.rows length fill (row ++ [d]), none)
  | .tested b frame => return (stage, if ← w.admits b frame d then some d else none)

/-- What a stream gives after the last item. -/
def ending (stage : Stage) : Eval (Option Datum) := do
  match stage with
  | .rows length fill row =>
    if row.isEmpty then return none
    else return some (← Eval.newList (← filledRow row length fill))
  | _ => return none

end Stage

/-- Say how far the stream in a cell has come. -/
def setFlow (r : Ref) (flow : Flow) : Eval Unit := do
  Eval.setCell r (.stream (← Eval.cell r).typeName flow)

/-- A part of the work of the stream in a cell, which is at its end if the work fails. -/
def working {α : Type} (r : Ref) (work : Eval α) : Eval α := do
  setFlow r .busy
  match ← Eval.attempt work with
  | .ok a => return a
  | .error f =>
    setFlow r .done
    throw f

/-- The next item of the stream in a cell; the number bounds the number of steps. -/
def pullWithin (w : Words) (r : Ref) : Nat → Eval (Option Datum)
  | 0 => return none
  | fuel + 1 => do
    match ← Eval.cell r with
    | .stream _ (.waiting plan source) =>
      match ← working r (plan.start w source) with
      | none =>
        setFlow r .done
        return none
      | some (cursor, stage) =>
        setFlow r (.going cursor stage)
        pullWithin w r fuel
    | .stream _ (.going cursor stage) =>
      match ← working r cursor.next with
      | none =>
        let found ← working r stage.ending
        setFlow r .done
        return found
      | some (d, cursor) =>
        let (stage, found) ← working r (stage.take w d)
        setFlow r (.going cursor stage)
        match found with
        | some e => return some e
        | none => pullWithin w r fuel
    | .stream _ .busy => Eval.valueFault "generator already executing"
    | _ => return none

/-- The next item of the stream in a cell. -/
def pullWith (w : Words) (r : Ref) : Eval (Option Datum) := pullWithin w r Cursor.itemLimit

end Playbook.Template
