import Playbook.Template.Iteration

/-!
# Values and data

A template takes values over from the names around it, and what it puts out is the text of a datum.
What bears a mark becomes one datum, wherever it is come upon, and is taken over as it is now; and
what is come to in several ways is given back with a mark.

Main definitions:

- `Template.Eval.take`: the datum of a value;
- `Datum.give`: the value of a datum;
- `Datum.text`, `Datum.literal`: how a datum is shown.
-/

namespace Playbook.Template

/-- Bounds the depth to which values and data are gone through. -/
def depthLimit : Nat := 10000

/-! ### Taking values over -/

namespace Eval

/-- What has been taken over of what bears a mark. -/
def taken? (mark : Nat) : Eval (Option Datum) := do return (← getThe Store).marked.lookup mark

/-- Note what has been taken over of what bears a mark. -/
def note (mark : Nat) (d : Datum) : Eval Unit :=
  modifyThe Store fun s => { s with marked := (mark, d) :: s.marked }

/-- A value with a mark as it is now. -/
def currentOf (mark : Nat) (v : Value) : Eval Value := do
  return ((← getThe Store).current.lookup mark).getD v

/-- The datum of a value; the number bounds the depth. -/
def takeWithin : Nat → Value → Eval Datum
  | 0, _ => throw tooDeep
  | depth + 1, v => do
    let all (items : List Value) : Eval (List Datum) := items.mapM (takeWithin depth)
    let pairs (entries : List (Value × Value)) : Eval DataEntries :=
      entries.mapM fun (k, v) => do
        let key ← takeWithin depth k
        return (key, ← takeWithin depth v)
    -- A container is noted before its parts are taken over, since it may be among them.
    let once (mark : Nat) (start : Cell) (content : Value → Eval (Option Cell)) : Eval Datum := do
      match ← taken? mark with
      | some d => return d
      | none =>
        let d ← alloc start
        note mark d
        match d, ← content (← currentOf mark v) with
        | .cell r, some c => setCell r c
        | _, _ => pure ()
        return d
    match v with
    | .scalar s => if s.mark? = some 0 then fresh s else return .scalar s
    | .tuple none items => do newTuple (← all items)
    | .tuple (some m) items => do
      match ← taken? m with
      | some d => return d
      | none =>
        let d ← newTuple (← all items)
        note m d
        return d
    | .list none items => do newList (← all items)
    | .list (some m) _ =>
      once m (.list []) fun
        | .list _ items => do return some (.list (← all items))
        | _ => return none
    | .map none entries => do newMap (.ofDistinct (← pairs entries))
    | .map (some m) _ =>
      once m (.map .empty) fun
        | .map _ entries => do return some (.map (.ofDistinct (← pairs entries)))
        | _ => return none
    | .set none items => do alloc (.set (← all items))
    | .set (some m) _ =>
      once m (.set []) fun
        | .set _ items => do return some (.set (← all items))
        | _ => return none
    | .again _ m => return (← taken? m).getD .null
    | .opaqueThing type literal text => return .thing type literal text

/-- The datum of a value. -/
def take (v : Value) : Eval Datum := takeWithin depthLimit v

end Eval

/-! ### Giving data back -/

/-- How often each cell has been reached. -/
abbrev Visits := Array Nat

/-- Reach a cell: whether it is new. -/
def Visits.reach (seen : Visits) (r : Ref) : Bool × Visits :=
  let n := seen[r]?.getD 0
  (n == 0, seen.setIfInBounds r (n + 1))

/-- Count how often cells are reached from a datum; the number bounds the depth. -/
def countVisits : Nat → Datum → Visits → Eval Visits
  | 0, _, seen => return seen
  | depth + 1, .tuple self items, seen => do
    let (new, seen) := match self with
      | some r => seen.reach r
      | none => (true, seen)
    if new then items.foldlM (fun seen d => countVisits depth d seen) seen else return seen
  | depth + 1, .cell r, seen => do
    let (new, seen) := seen.reach r
    if !new then return seen
    match ← Eval.cell r with
    | .list items | .set items => items.foldlM (fun seen d => countVisits depth d seen) seen
    | .map t =>
      t.entries.foldlM (fun seen (k, d) => do
        countVisits depth d (← countVisits depth k seen)) seen
    | _ => return seen
  | _ + 1, _, seen => return seen

/-- The marks that cells are given back with. -/
abbrev CellMarks := Array (Option Nat)

/-- The cell of a datum. -/
def Datum.ref? : Datum → Option Ref
  | .cell r => some r
  | .tuple self _ => self
  | _ => none

/-- The marks of cells: those that they have been taken over with, and new ones for what is reached
several times. -/
def marksOf (visits : Visits) : Eval CellMarks := do
  let s ← getThe Store
  let fresh : CellMarks := visits.mapIdx fun r n => if 1 < n then some (s.next + r) else none
  return s.marked.foldr (fun (m, d) marks =>
    match d.ref? with
    | some r => marks.setIfInBounds r (some m)
    | none => marks) fresh

/-- What a thing is shown as if it has no text of its own. -/
def plainThing (type : String) : Value :=
  let text := "<" ++ type ++ " object>"
  .opaqueThing type text text

/-- The value of a datum in which the cells of `path` are around it. -/
def giveAt (marks : CellMarks) : Nat → List Ref → Datum → Eval Value
  | 0, _, _ => throw Eval.tooDeep
  | _ + 1, _, .scalar s => return .scalar s
  | depth + 1, path, .tuple self items =>
    return .tuple (self.bind fun r => (marks[r]?).join) (← items.mapM (giveAt marks depth path))
  | _ + 1, _, .missing _ => return .opaqueThing "Undefined" "Undefined" ""
  | _ + 1, _, .range start stop step =>
    let text := "range(" ++ toString start ++ ", " ++ toString stop ++
      (if step = 1 then "" else ", " ++ toString step) ++ ")"
    return .opaqueThing "range" text text
  | _ + 1, _, .known k =>
    return .opaqueThing (if k = .lipsum then "function" else "type") k.literal k.literal
  | _ + 1, _, .method _ _ => return plainThing "builtin_function_or_method"
  | depth + 1, path, .view v r => do
    let shown ← (← Eval.entries r).mapM fun (k, d) => do
      match v with
      | .keys => giveAt marks depth path k
      | .values => giveAt marks depth path d
      | .items => giveAt marks depth path (.row [k, d])
    let text := v.typeName ++ "(" ++ (Value.list none shown).literal ++ ")"
    return .opaqueThing v.typeName text text
  | _ + 1, _, .span s => return .opaqueThing "timedelta" s.literal s.text
  | _ + 1, _, .blocks _ =>
    return .opaqueThing "TemplateReference" "<TemplateReference None>" "<TemplateReference None>"
  | _ + 1, _, .block .. => return plainThing "BlockReference"
  | _ + 1, _, .thing type literal text => return .opaqueThing type literal text
  | depth + 1, path, .cell r => do
    let mark := (marks[r]?).join
    let give := giveAt marks depth (r :: path)
    let givePair (e : Datum × Datum) : Eval (Value × Value) := do
      let key ← give e.1
      return (key, ← give e.2)
    let again (shape : Shape) : Value := .again shape (mark.getD 0)
    match ← Eval.cell r with
    | .list items =>
      if path.contains r then return again .list
      return .list mark (← items.mapM give)
    | .set items =>
      if path.contains r then return again .set
      return .set mark (← items.mapM give)
    | .map t =>
      if path.contains r then return again .map
      return .map mark (← t.entries.mapM givePair)
    | .fields entries =>
      let text := "<Namespace " ++ Value.entriesLiteral (← entries.mapM givePair) ++ ">"
      return .opaqueThing "Namespace" text text
    | .loop s =>
      let n ← LoopState.total r
      let text := "<LoopContext " ++ toString (s.index + 1) ++ "/" ++ toString n ++ ">"
      return .opaqueThing "LoopContext" text text
    | .definition d =>
      let name := match d.name with
        | some s => Literal.text s
        | none => "anonymous"
      let text := "<Macro " ++ name ++ ">"
      return .opaqueThing "Macro" text text
    | c => return plainThing c.typeName

namespace Datum

/-- The value of a datum. -/
def give (d : Datum) : Eval Value := do
  match d with
  | .scalar s => return .scalar s
  | d =>
    let visits ← countVisits depthLimit d (Array.replicate (← getThe Store).cells.size 0)
    giveAt (← marksOf visits) depthLimit [] d

/-- How a datum is shown on its own. -/
def text (d : Datum) : Eval String := do Eval.ofExcept (← d.give).text?

/-- How a datum is shown inside a container. -/
def literal (d : Datum) : Eval String := do Eval.ofExcept (← d.give).literal?

end Datum

end Playbook.Template
