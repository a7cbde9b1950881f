import Playbook.Template.Access
import Playbook.Template.Arguments

/-!
# Functions of containers

The functions that a template can call on a list, a mapping, a set or a tuple. Some of them change
the container, which whoever holds it sees.

Main definitions: `Template.listMethod`, `Template.mapMethod`, `Template.setMethod`,
`Template.rowMethod`, `Template.newMapOf`.
-/

namespace Playbook.Template

/-! ### Rows -/

/-- How many of some data are equal to one, or the same. -/
def countSame (d : Datum) (items : List Datum) : Eval Nat :=
  items.foldlM (fun n e => do return if ← e.same d then n + 1 else n) 0

/-- The place of the first of some data that is equal to one, or the same, counted from a number
on. -/
def placeSame? (d : Datum) : Nat → List Datum → Eval (Option Nat)
  | _, [] => return none
  | n, e :: rest => do if ← e.same d then return some n else placeSame? d (n + 1) rest

/-- A function of a row that does not change it. -/
def rowMethod (type : String) (d : Datum) (items : List Datum) (name : String) (i : Inputs) :
    Eval Datum := do
  match name with
  | "count" => return .int (← countSame (← i.one (type ++ ".count")) items)
  | "index" =>
    i.between type name 1 3
    let start ← match i.at? 1 with
      | some d => asIndex d
      | none => pure 0
    let stop ← match i.at? 2 with
      | some d => asIndex d
      | none => pure items.length
    let (first, last) := slicePlaces items.length (some start) (some stop) 1
    match ← placeSame? (i.get 0) first.toNat ((items.take last.toNat).drop first.toNat) with
    | some n => return .int n
    | none =>
      match type with
      | "tuple" => Eval.valueFault "tuple.index(x): x not in tuple"
      | _ => Eval.valueFault ((← (i.get 0).literal) ++ " is not in " ++ type)
  | _ => d.refuseField name

/-! ### Lists -/

/-- A function of a list; `call` calls the function that gives the keys to sort by. -/
def listMethod (call : Caller) (r : Ref) (name : String) (i : Inputs) : Eval Datum := do
  let content : Eval (List Datum) := do
    match ← Eval.cell r with
    | .list items => return items
    | _ => return []
  let store (items : List Datum) : Eval Datum := do
    Eval.setCell r (.list items)
    return .null
  match name with
  | "append" =>
    let d ← i.one "list.append"
    store ((← content) ++ [d])
  | "clear" =>
    i.none "list" name
    store []
  | "copy" =>
    i.none "list" name
    Eval.newList (← content)
  | "extend" =>
    let more ← (← i.one "list.extend").items
    store ((← content) ++ more)
  | "insert" =>
    i.between "list" name 2 2
    let n ← asSize (i.get 0)
    let items ← content
    let (first, _) := slicePlaces items.length (some n) none 1
    store (items.take first.toNat ++ i.get 1 :: items.drop first.toNat)
  | "pop" =>
    i.between "list" name 0 1
    let n ← match i.at? 0 with
      | some d => asSize d
      | none => pure (-1)
    let items ← content
    if items.isEmpty then throw (.index "pop from empty list")
    match place? items.length n with
    | none => throw (.index "pop index out of range")
    | some p =>
      Eval.setCell r (.list (items.eraseIdx p))
      return (items[p]?).getD .null
  | "remove" =>
    let d ← i.one "list.remove"
    match ← placeSame? d 0 (← content) with
    | some p => store ((← content).eraseIdx p)
    | none => Eval.valueFault "list.remove(x): x not in list"
  | "reverse" =>
    i.none "list" name
    store (← content).reverse
  | "sort" =>
    if !i.plain.isEmpty then Eval.typeFault "sort() takes no positional arguments"
    let values ← i.optional name ["key", "reverse"]
    let falling ← ((values.getD 1 none).getD (.bool false)).isTrue
    let items ← content
    let keyed ←
      match (values.getD 0 none).getD .null with
      | .null => pure (items.map fun d => (d, d))
      | key => items.mapM fun d => do return (← call key ⟨[d], []⟩, d)
    store (← sortBy falling keyed)
  | _ => rowMethod "list" (.cell r) (← content) name i

/-! ### Mappings -/

/-- The pairs that an argument adds to a mapping. -/
def pairsToAdd (d : Datum) : Eval DataEntries := do
  (← d.items).zipIdx.mapM fun (p, n) => do
    match ← Eval.attempt p.items with
    | .error f =>
      if f.kind ≠ .type then throw f
      Eval.typeFault ("cannot convert dictionary update sequence element #" ++ toString n ++
        " to a sequence")
    | .ok [k, v] =>
      k.checkKey
      return (k, v)
    | .ok parts =>
      Eval.valueFault ("dictionary update sequence element #" ++ toString n ++ " has length " ++
        toString parts.length ++ "; 2 is required")

/-- A table with the entries that an argument adds: those of a mapping, or pairs. -/
def addAll (t : Table) (d : Datum) : Eval Table := do
  match d with
  | .cell r =>
    match ← Eval.cell r with
    | .map more => return t.absorb more
    | _ => return t.update (← pairsToAdd d)
  | .missing why => Eval.missingFault why
  | _ => return t.update (← pairsToAdd d)

/-- Arguments by name as entries. -/
def namedEntries (named : List (String × Datum)) : DataEntries :=
  named.map fun (k, d) => (.str k, d)

/-- The table of a new mapping that is made of an argument and of arguments by name. -/
def newMapOf (name : String) (i : Inputs) : Eval Table := do
  match i.plain with
  | [] => return .ofEntries (namedEntries i.named)
  | [d] => return (← addAll .empty d).update (namedEntries i.named)
  | ds =>
    Eval.typeFault (name ++ " expected at most 1 argument, got " ++ toString ds.length)

/-- A mapping from keys to one value. -/
def mapFromKeys (i : Inputs) : Eval Datum := do
  i.between "dict" "fromkeys" 1 2
  let t ← (← (i.get 0).items).foldlM (fun (t : Table) k => do
    k.checkKey
    return t.insert k (i.get 1)) .empty
  Eval.newMap t

/-- A function of a mapping. -/
def mapMethod (r : Ref) (name : String) (i : Inputs) : Eval Datum := do
  let t ← Eval.table r
  let store (t : Table) : Eval Unit := Eval.setCell r (.map t)
  match name with
  | "clear" =>
    i.none "dict" name
    store .empty
    return .null
  | "copy" =>
    i.none "dict" name
    Eval.newMap t.copy
  | "fromkeys" => mapFromKeys i
  | "get" =>
    i.between "dict" name 1 2
    (i.get 0).checkKey
    return (t.find? (i.get 0)).getD (i.get 1)
  | "items" =>
    i.none "dict" name
    return .view .items r
  | "keys" =>
    i.none "dict" name
    return .view .keys r
  | "values" =>
    i.none "dict" name
    return .view .values r
  | "pop" =>
    i.between "dict" name 1 2
    -- An empty mapping is not asked for the key.
    if 0 < t.size then (i.get 0).checkKey
    match t.find? (i.get 0), i.at? 1 with
    | some d, _ =>
      store (t.erase (i.get 0))
      return d
    | none, some d => return d
    | none, none => missingKey (i.get 0)
  | "popitem" =>
    i.none "dict" name
    match t.popLast? with
    | some ((k, d), t) =>
      store t
      Eval.newTuple [k, d]
    | none => throw (.key "'popitem(): dictionary is empty'")
  | "setdefault" =>
    i.between "dict" name 1 2
    (i.get 0).checkKey
    match t.find? (i.get 0) with
    | some d => return d
    | none =>
      store (t.add (i.get 0) (i.get 1))
      return i.get 1
  | "update" =>
    match i.plain with
    | [] => store (t.absorb (.ofEntries (namedEntries i.named)))
    | [d] => store ((← addAll t d).absorb (.ofEntries (namedEntries i.named)))
    | ds => Eval.typeFault ("update expected at most 1 argument, got " ++ toString ds.length)
    return .null
  | _ => (Datum.cell r).refuseField name

/-! ### Sets -/

/-- A function of a set. -/
def setMethod (r : Ref) (name : String) (i : Inputs) : Eval Datum := do
  let items ← match ← Eval.cell r with
    | .set items => pure items
    | _ => pure []
  let store (items : List Datum) : Eval Datum := do
    Eval.setCell r (.set items)
    return .null
  let others : Eval (List (List Datum)) := i.plain.mapM fun d => do
    let ds ← d.items
    ds.forM Datum.checkKey
    return ds
  let newSet (items : List Datum) : Eval Datum := Eval.alloc (.set items)
  let common : Eval (List Datum) := do
    let sets ← others
    return items.filter fun d => sets.all fun s => hasKey s d
  let remaining : Eval (List Datum) := do
    let sets ← others
    return items.filter fun d => !sets.any fun s => hasKey s d
  let different : Eval (List Datum) := do
    let other := (← others).flatten
    return items.filter (!hasKey other ·) ++ (other.filter (!hasKey items ·)).foldl addKey []
  match name with
  | "add" =>
    let d ← i.one "set.add"
    d.checkKey
    store (addKey items d)
  | "clear" =>
    i.none "set" name
    store []
  | "copy" =>
    i.none "set" name
    newSet items
  | "discard" =>
    let d ← i.one "set.discard"
    d.checkKey
    store (items.filter fun e => !e.sameKey d)
  | "remove" =>
    let d ← i.one "set.remove"
    d.checkKey
    if hasKey items d then store (items.filter fun e => !e.sameKey d) else missingKey d
  | "pop" =>
    i.none "set" name
    match items with
    | d :: rest =>
      discard <| store rest
      return d
    | [] => throw (.key "'pop from an empty set'")
  | "union" => newSet ((← others).flatten.foldl addKey items)
  | "update" => store ((← others).flatten.foldl addKey items)
  | "intersection" => newSet (← common)
  | "intersection_update" => store (← common)
  | "difference" => newSet (← remaining)
  | "difference_update" => store (← remaining)
  | "symmetric_difference" => newSet (← different)
  | "symmetric_difference_update" => store (← different)
  | "isdisjoint" => return .bool (!(← others).flatten.any (hasKey items))
  | "issubset" =>
    let other := (← others).flatten
    return .bool (items.all (hasKey other))
  | "issuperset" => return .bool ((← others).flatten.all (hasKey items))
  | _ => (Datum.cell r).refuseField name

end Playbook.Template
