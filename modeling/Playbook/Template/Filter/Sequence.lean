import Playbook.Template.Comparison
import Playbook.Template.Filter.Basic

/-!
# Filters of sequences

Filters that go through the items of a datum: choosing, changing, sorting, grouping and joining
them. Those that give one item after the other are streams.

Main definitions: `Template.sequenceFilter?`.
-/

namespace Playbook.Template

/-! ### Single items -/

/-- The first item. -/
def firstFilter (d : Datum) (i : Inputs) : Eval Datum := do
  alone "sync_do_first" "seq" 1 d i
  match ← (← d.cursor).next with
  | some (e, _) => return e
  | none => return .missing "No first item, sequence was empty."

/-- The position behind the last item of a datum and the type of what goes backwards from there, if
the datum can be gone through backwards. -/
def backwards? (d : Datum) : Eval (Option (String × Cursor)) := do
  match d with
  | .str _ | .bytes _ | .tuple .. | .missing _ =>
    return some ("reversed", .fixed (← d.items).reverse)
  | .range start stop step =>
    let n := rangeLength start stop step
    return some ("range_iterator", .steps (start + (n - 1) * step) (-step) n)
  | .view v r =>
    let t ← Eval.table r
    return some (v.backwardsName, .slotsBack v r t.slots.size t.size)
  | .cell r =>
    match ← Eval.cell r with
    | .list items => return some ("list_reverseiterator", .listBack r items.length)
    | .map t => return some (View.keys.backwardsName, .slotsBack .keys r t.slots.size t.size)
    | _ => return none
  | _ => return none

/-- The last item. -/
def lastFilter (d : Datum) (i : Inputs) : Eval Datum := do
  alone "sync_do_last" "seq" 1 d i
  match ← backwards? d with
  | some (_, cursor) =>
    match ← cursor.next with
    | some (e, _) => return e
    | none => return .missing "No last item, sequence was empty."
  | none => Eval.typeFault ("'" ++ (← d.typeName) ++ "' object is not reversible")

/-- The least or the greatest item, by an attribute if one is given. -/
def extremeFilter (name : String) (rel : Relation) (d : Datum) (i : Inputs) : Eval Datum := do
  let values ← Signature.bind ⟨name, 1, ["value"], ["case_sensitive", "attribute"]⟩ (i.after d)
  let exact ← givenTrue values 1 false
  match ← (← d.cursor).next with
  | none => return .missing "No aggregated item, sequence was empty."
  | some (first, cursor) =>
    let path ← pathOf (given values 2 .null)
    let key (d : Datum) : Eval Datum := do return withCase exact (← follow path none d)
    let start := (first, ← key first)
    let (items, fault) ← cursor.restBefore
    let (best, _) ← items.foldlM (fun (best, bestKey) e => do
      let k ← key e
      if ← k.holds rel bestKey then return (e, k) else return (best, bestKey)) start
    match fault with
    | some f => throw f
    | none => return best

/-! ### Whole rows -/

/-- The number of items. -/
def lengthFilter (d : Datum) (i : Inputs) : Eval Datum := do
  return .int (← (← (i.after d).one "len").size)

/-- A list of the items. -/
def listFilter (d : Datum) (i : Inputs) : Eval Datum := do
  alone "sync_do_list" "value" 0 d i
  Eval.newList (← d.items)

/-- The items from the last one on. -/
def reverseFilter (d : Datum) (i : Inputs) : Eval Datum := do
  alone "do_reverse" "value" 0 d i
  match d with
  | .str s => return .chars s.toList.reverse
  | d =>
    match ← backwards? d with
    | some (type, cursor) => Eval.newIterator type cursor
    | none =>
      match ← Eval.attempt d.items with
      | .ok items => Eval.newList items.reverse
      | .error f => if f.kind = .type then argumentFault "argument must be iterable" else throw f

/-- The texts of the items, one after the other. -/
def joinFilter (d : Datum) (i : Inputs) : Eval Datum := do
  let values ← Signature.bind ⟨"sync_do_join", 1, ["value"], ["d", "attribute"]⟩ (i.after d)
  let path ← pathOf (given values 2 .null)
  let c ← d.cursor
  let between ← (given values 1 (.str "")).text
  let (items, fault) ← c.restBefore
  let texts ← items.mapM fun e => do (← follow path none e).text
  match fault with
  | some f => throw f
  | none => return .str (String.intercalate between texts)

/-- The items in order. -/
def sortFilter (d : Datum) (i : Inputs) : Eval Datum := do
  let values ← Signature.bind
    ⟨"do_sort", 1, ["value"], ["reverse", "case_sensitive", "attribute"]⟩ (i.after d)
  let exact ← givenTrue values 2 false
  let paths ← pathsOf (given values 3 .null)
  let items ← d.items
  let keyed ← items.mapM fun e => do
    let keys ← paths.mapM fun path => do return withCase exact (← follow path none e)
    return (Datum.row keys, e)
  Eval.newList (← sortBy (← givenTrue values 1 false) keyed)

/-- The items that differ from those before them. -/
def uniqueFilter (d : Datum) (i : Inputs) : Eval Datum := do
  let values ← Signature.bind
    ⟨"sync_do_unique", 1, ["value"], ["case_sensitive", "attribute"]⟩ (i.after d)
  Eval.newStream (.distinct (← givenTrue values 1 false) (given values 2 .null)) d

/-! ### Mappings -/

/-- The pairs of a mapping in order. -/
def dictsortFilter (d : Datum) (i : Inputs) : Eval Datum := do
  let values ← Signature.bind
    ⟨"do_dictsort", 0, ["value"], ["case_sensitive", "by", "reverse"]⟩ (i.after d)
  let byValue ←
    match given values 2 (.str "key") with
    | .str "key" => pure false
    | .str "value" => pure true
    | _ => argumentFault "You can only sort by either \"key\" or \"value\""
  let exact ← givenTrue values 1 false
  let pairs : Eval (List (Datum × Datum)) := do
    match d with
    | .missing why => Eval.missingFault why
    | .cell r =>
      match ← Eval.cell r with
      | .map t => return t.entries
      | _ => d.refuseField "items"
    | d => d.refuseField "items"
  let keyed ← (← pairs).mapM fun (k, e) => do
    return (withCase exact (if byValue then e else k), ← Eval.newTuple [k, e])
  Eval.newList (← sortBy (← givenTrue values 3 false) keyed)

/-- The pairs of a mapping. -/
def itemsFilter (d : Datum) (i : Inputs) : Eval Datum := do
  alone "do_items" "value" 0 d i
  Eval.newStream .pairs d

/-! ### Groups -/

/-- The items in rows of a length, of which the last one is filled up. -/
def batchFilter (d : Datum) (i : Inputs) : Eval Datum := do
  let values ← Signature.bind
    ⟨"do_batch", 0, ["value", "linecount"], ["fill_with"]⟩ (i.after d)
  Eval.newStream (.rows (given values 1 .null) (given values 2 .null)) d

/-- The items in a number of rows. -/
def sliceFilter (d : Datum) (i : Inputs) : Eval Datum := do
  let values ← Signature.bind
    ⟨"sync_do_slice", 0, ["value", "slices"], ["fill_with"]⟩ (i.after d)
  Eval.newStream (.slices (given values 1 .null) (given values 2 .null)) d

/-- Neighbours with equal keys. -/
def neighbours : List (Datum × Datum) → Eval (List (Datum × List Datum))
  | [] => return []
  | (k, d) :: rest => do
    match ← neighbours rest with
    | (l, ds) :: groups =>
      if ← k.same l then return (k, d :: ds) :: groups
      else return (k, [d]) :: (l, ds) :: groups
    | [] => return [(k, [d])]

/-- The items in groups with one value of an attribute each. -/
def groupFilter (d : Datum) (i : Inputs) : Eval Datum := do
  let values ← Signature.bind
    ⟨"sync_do_groupby", 1, ["value", "attribute"], ["default", "case_sensitive"]⟩ (i.after d)
  let otherwise := match given values 2 .null with
    | .null => none
    | d => some d
  let exact ← givenTrue values 3 false
  let path ← pathOf (given values 1 .null)
  let keyed ← (← d.items).mapM fun e => do
    return (withCase exact (← follow path otherwise e), e)
  let sorted ← sortKeyed keyed
  let groups ← neighbours sorted
  let rows ← groups.mapM fun (k, ds) => do
    let shown ←
      match exact, ds with
      | false, e :: _ => follow path otherwise e
      | _, _ => pure k
    Eval.newGroup shown (← Eval.newList ds)
  Eval.newList rows

/-! ### All of them -/

/-- A filter of sequences. -/
def sequenceFilter? (name : String) : Option (Datum → Inputs → Eval Datum) :=
  match name with
  | "first" => some firstFilter
  | "last" => some lastFilter
  | "min" => some (extremeFilter "do_min" .less)
  | "max" => some (extremeFilter "do_max" .greater)
  | "length" | "count" => some lengthFilter
  | "list" => some listFilter
  | "reverse" => some reverseFilter
  | "join" => some joinFilter
  | "sort" => some sortFilter
  | "unique" => some uniqueFilter
  | "dictsort" => some dictsortFilter
  | "items" => some itemsFilter
  | "batch" => some batchFilter
  | "slice" => some sliceFilter
  | "groupby" => some groupFilter
  | "map" => some fun d i => Eval.newStream (.map i) d
  | "select" => some fun d i => Eval.newStream (.choose true false i) d
  | "reject" => some fun d i => Eval.newStream (.choose false false i) d
  | "selectattr" => some fun d i => Eval.newStream (.choose true true i) d
  | "rejectattr" => some fun d i => Eval.newStream (.choose false true i) d
  | _ => none

end Playbook.Template
