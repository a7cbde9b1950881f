import Playbook.Template.Iteration

/-!
# Comparing data

Numbers compare by value, texts by their characters, sequences item by item. Data of other types
compare as equal or not, but in no order. Sorting asks for as few comparisons as a search for each
item's place among those before it takes, and fails with the first comparison that fails.

Main definitions:

- `Datum.equal`, `Datum.same`: equality, on its own and inside containers;
- `Datum.holds`: all comparisons;
- `Datum.checkKey`: keys of mappings;
- `Datum.isIn`: being a part;
- `Template.sortBy`: sorting by keys.
-/

namespace Playbook.Template

/-! ### Keys of mappings -/

namespace Datum

/-- Refuse containers as keys; the number bounds the depth of tuples. -/
def checkKeyWithin : Nat → Datum → Eval Unit
  | 0, _ => throw Eval.tooDeep
  | depth + 1, .tuple _ items => items.forM (checkKeyWithin depth)
  -- The values of a mapping may be keys, as they are not compared, but its keys and pairs may not.
  | _ + 1, .view .values _ => return ()
  | _ + 1, .view v _ => Eval.typeFault ("unhashable type: '" ++ v.typeName ++ "'")
  | _ + 1, .cell r => do
    match ← Eval.cell r with
    | .list _ => Eval.typeFault "unhashable type: 'list'"
    | .map _ => Eval.typeFault "unhashable type: 'dict'"
    | .set _ => Eval.typeFault "unhashable type: 'set'"
    | _ => return ()
  | _ + 1, _ => return ()

/-- Refuse containers as keys. -/
def checkKey (d : Datum) : Eval Unit := checkKeyWithin 10000 d

end Datum

/-! ### Equality -/

/-- Whether two ranges have the same items. -/
def sameRange (a b c a' b' c' : Int) : Bool :=
  let n := rangeLength a b c
  -- Without items the bounds do not matter, and with one item the step does not.
  n == rangeLength a' b' c' && (n == 0 || (a == a' && (n == 1 || c == c')))

/-- What keys and pairs of a mapping, and sets, are compared by: their members. -/
def members? (d : Datum) : Eval (Option (List Datum)) := do
  match d with
  | .view .keys r => return some ((← Eval.entries r).map (·.1))
  | .view .items r => return some ((← Eval.entries r).map fun (k, e) => .row [k, e])
  | .cell r =>
    match ← Eval.cell r with
    | .set items => return some items
    | _ => return none
  | _ => return none

/-- Whether a datum is the keys or the pairs of a mapping. -/
def isView : Datum → Bool
  | .view .keys _ | .view .items _ => true
  | _ => false

mutual

/-- Whether two data inside containers are equal, or one and the same; the number bounds the
depth. -/
def sameWithin : Nat → Datum → Datum → Eval Bool
  | 0, _, _ => throw Eval.tooDeep
  | depth + 1, .tuple _ as, .tuple _ bs => sameAllWithin depth as bs
  | _ + 1, .missing _, .missing _ => return true
  -- Every view is a new one, and values are not compared.
  | _ + 1, .view .values _, .view .values _ => return false
  | _ + 1, .range a b c, .range a' b' c' => return sameRange a b c a' b' c'
  | depth + 1, .cell r, .cell s => do
    -- What is one and the same is not looked into.
    if r = s then return true
    match ← Eval.cell r, ← Eval.cell s with
    | .list as, .list bs => sameAllWithin depth as bs
    | .set as, .set bs => return as.length == bs.length && as.all (hasKey bs)
    | .map as, .map bs =>
      -- With as many entries it is enough to find all of the one in the other.
      if as.size = bs.size then sameEntriesWithin depth as.entries bs else pure false
    | _, _ => return false
  | depth + 1, a, b => do
    if isView a || isView b then
      match ← members? a, ← members? b with
      | some as, some bs =>
        if as.length = bs.length then allAmongWithin depth as bs else pure false
      | _, _ => return false
    else return a.sameKey b

/-- Whether all of some data are among others. -/
def allAmongWithin : Nat → List Datum → List Datum → Eval Bool
  | 0, _, _ => throw Eval.tooDeep
  | depth + 1, as, bs => as.allM fun a => bs.anyM fun b => sameWithin depth a b

/-- Whether two lists of data are equal, or the same, item by item. -/
def sameAllWithin : Nat → List Datum → List Datum → Eval Bool
  | 0, _, _ => throw Eval.tooDeep
  | depth + 1, as, bs =>
    if as.length ≠ bs.length then pure false
    else (as.zip bs).foldlM (fun ok (a, b) => if ok then sameWithin depth a b else pure false) true

/-- Whether every entry is in a table. -/
def sameEntriesWithin : Nat → DataEntries → Table → Eval Bool
  | 0, _, _ => throw Eval.tooDeep
  | depth + 1, as, bs =>
    as.foldlM (fun ok (k, a) =>
      match ok, bs.find? k with
      | true, some b => sameWithin depth a b
      | _, _ => pure false) true

end

/-- Bounds the depth to which data are compared. -/
def comparisonDepth : Nat := 3000

/-- Whether two data inside containers are equal, or one and the same. -/
def Datum.same (a b : Datum) : Eval Bool := sameWithin comparisonDepth a b

/-- Whether two data are equal. What denotes no number is not equal to itself, but the same. -/
def Datum.equal (a b : Datum) : Eval Bool := do
  match a, b with
  | .scalar s, .scalar t => return s.equal t
  | a, b => a.same b

/-! ### Order -/

/-- Whether an order of two things is as a relation wants it. -/
def Relation.allows : Relation → Ordering → Bool
  | .equal, o => o == .eq
  | .notEqual, o => o != .eq
  | .less, o => o == .lt
  | .lessEqual, o => o != .gt
  | .greater, o => o == .gt
  | .greaterEqual, o => o != .lt
  | .isIn, _ | .isNotIn, _ => false

/-- The sign of a relation. -/
def Relation.sign : Relation → String
  | .equal => "=="
  | .notEqual => "!="
  | .less => "<"
  | .lessEqual => "<="
  | .greater => ">"
  | .greaterEqual => ">="
  | .isIn => "in"
  | .isNotIn => "not in"

/-- Refuse to order two data. -/
def refuseOrder (rel : Relation) (a b : Datum) : Eval Bool := do
  Eval.typeFault ("'" ++ rel.sign ++ "' not supported between instances of '" ++
    (← a.typeName) ++ "' and '" ++ (← b.typeName) ++ "'")

/-- Whether two scalars are in an order. -/
def scalarHolds (rel : Relation) (a b : Scalar) : Eval Bool :=
  match a, b with
  -- A day has no time to be compared by.
  | .datetime .., .date .. | .date .., .datetime .. =>
    Eval.typeFault "can't compare datetime.datetime to datetime.date"
  | _, _ =>
    match a.order b with
    | .ordered o => pure (rel.allows o)
    -- What denotes no number stands in no order, and this is no error.
    | .unordered => pure false
    | .incomparable => refuseOrder rel (.scalar a) (.scalar b)
    | .mixedTimes => Eval.typeFault "can't compare offset-naive and offset-aware datetimes"

/-- Whether two sets are in an order, by which a part comes before the whole. -/
def setHolds (rel : Relation) (as bs : List Datum) : Eval Bool := do
  -- Only one of the two is asked for, and only when the numbers of members allow for it.
  let below := allAmongWithin comparisonDepth as bs
  let above := allAmongWithin comparisonDepth bs as
  match rel with
  | .less => return as.length < bs.length && (← below)
  | .lessEqual => return as.length ≤ bs.length && (← below)
  | .greater => return bs.length < as.length && (← above)
  | .greaterEqual => return bs.length ≤ as.length && (← above)
  | _ => return false

mutual

/-- Whether two data are in an order; the number bounds the depth. -/
def orderedWithin (rel : Relation) : Nat → Datum → Datum → Eval Bool
  | 0, _, _ => throw Eval.tooDeep
  | _ + 1, .missing why, _ => Eval.missingFault why
  | _ + 1, _, .missing why => Eval.missingFault why
  | _ + 1, .scalar a, .scalar b => scalarHolds rel a b
  | _ + 1, .span s, .span t => return rel.allows (compare s.micros t.micros)
  | depth + 1, .tuple _ as, .tuple _ bs => itemsOrderedWithin rel depth as bs
  | depth + 1, .cell r, .cell s => do
    match ← Eval.cell r, ← Eval.cell s with
    | .list as, .list bs => itemsOrderedWithin rel depth as bs
    | .set as, .set bs => setHolds rel as bs
    | _, _ => refuseOrder rel (.cell r) (.cell s)
  | _ + 1, a, b => do
    match isView a || isView b, ← members? a, ← members? b with
    | true, some as, some bs => setHolds rel as bs
    -- Views are ordered with sets and with one another.
    | _, _, _ => refuseOrder rel a b

/-- Whether two sequences are in an order: the first items that differ decide, or else the
lengths. -/
def itemsOrderedWithin (rel : Relation) : Nat → List Datum → List Datum → Eval Bool
  | 0, _, _ => throw Eval.tooDeep
  | _ + 1, [], [] => return rel.allows .eq
  | _ + 1, [], _ :: _ => return rel.allows .lt
  | _ + 1, _ :: _, [] => return rel.allows .gt
  | depth + 1, a :: as, b :: bs => do
    -- Items that are the same are passed over without asking for their order.
    if ← a.same b then itemsOrderedWithin rel depth as bs else orderedWithin rel depth a b

end

/-- Whether one datum comes before another. -/
def Datum.before (a b : Datum) : Eval Bool := orderedWithin .less comparisonDepth a b

/-! ### Being a part -/

/-- Whether a text holds another one. -/
def holdsText (part : List Char) : List Char → Bool
  | [] => part.isEmpty
  -- The empty text is a part of every text, at its start already.
  | c :: rest => part.isPrefixOf (c :: rest) || holdsText part rest

/-- Whether a byte string holds another one. -/
def holdsBytes (part : List UInt8) : List UInt8 → Bool
  | [] => part.isEmpty
  | b :: rest => part.isPrefixOf (b :: rest) || holdsBytes part rest

/-- Whether one of some data is equal to a datum, or the same. -/
def anySame (d : Datum) : List Datum → Eval Bool
  | [] => return false
  | e :: rest => do if ← e.same d then return true else anySame d rest

/-- Whether a stream gives a datum, which ends with it; the number bounds the search. -/
def streamGives (d : Datum) : Nat → Cursor → Eval Bool
  | 0, _ => return false
  | fuel + 1, c => do
    match ← c.next with
    | none => return false
    | some (e, c) => if ← e.same d then return true else streamGives d fuel c

/-- Whether an integer is in a range. -/
def inRange (i start stop step : Int) : Bool :=
  let within := if 0 < step then decide (start ≤ i ∧ i < stop) else decide (stop < i ∧ i ≤ start)
  within && (i - start) % step == 0

/-- Whether a datum is a part of another one. -/
def Datum.isIn (d whole : Datum) : Eval Bool := do
  match whole with
  | .str s =>
    match d with
    | .str part => return holdsText part.toList s.toList
    | d =>
      Eval.typeFault ("'in <string>' requires string as left operand, not " ++ (← d.typeName))
  | .bytes b =>
    match d with
    | .int i =>
      if 0 ≤ i ∧ i < 256 then return b.contains (UInt8.ofNat i.toNat)
      else Eval.valueFault "byte must be in range(0, 256)"
    | .bytes part => return holdsBytes part b
    | d => Eval.typeFault ("a bytes-like object is required, not '" ++ (← d.typeName) ++ "'")
  | .view .keys r =>
    -- A datum that cannot be a key is refused before it is looked for.
    d.checkKey
    return (← Eval.table r).has d
  | .range start stop step =>
    match d with
    | .int i => return inRange i start stop step
    | .bool b => return inRange (if b then 1 else 0) start stop step
    -- Other data than integers are compared with the items one by one.
    | d => streamGives d Cursor.itemLimit (← whole.cursor)
  | .cell r =>
    match ← Eval.cell r with
    | .map t =>
      d.checkKey
      return t.has d
    | .set items =>
      d.checkKey
      return hasKey items d
    | .list items => anySame d items
    | .stream .. => streamGives d Cursor.itemLimit (.stream r)
    | c => Eval.typeFault ("argument of type '" ++ c.typeName ++ "' is not iterable")
  | whole =>
    -- What can be gone through may hold the datum. That it cannot is said in other words here.
    match ← Eval.attempt whole.cursor with
    | .ok c => anySame d (← c.rest)
    | .error _ => Eval.typeFault ("argument of type '" ++ (← whole.typeName) ++ "' is not iterable")

/-- Whether a relation holds between two data. -/
def Datum.holds (rel : Relation) (a b : Datum) : Eval Bool :=
  match rel with
  | .equal => a.equal b
  | .notEqual => (!·) <$> a.equal b
  | .isIn => a.isIn b
  | .isNotIn => (!·) <$> a.isIn b
  | rel => orderedWithin rel comparisonDepth a b

/-! ### Sorting -/

/-- Things with their keys. -/
abbrev Keyed := List (Datum × Datum)

/-- How many things from a place on have keys each of which comes before the last one. -/
def fallingFrom (last : Datum) : Keyed → Eval Nat
  | [] => return 0
  | (k, _) :: rest => do if ← k.before last then (· + 1) <$> fallingFrom k rest else return 0

/-- How many things from a place on have keys none of which comes before the last one. -/
def risingFrom (last : Datum) : Keyed → Eval Nat
  | [] => return 0
  | (k, _) :: rest => do if ← k.before last then return 0 else (· + 1) <$> risingFrom k rest

/-- The place of a key among sorted ones between two places, found by halving. -/
def placeIn (sorted : Array (Datum × Datum)) (key : Datum) : Nat → Nat → Nat → Eval Nat
  | 0, low, _ => return low
  | fuel + 1, low, high => do
    if high ≤ low then return low
    let middle := low + (high - low) / 2
    -- The place in the middle is one of those between the two.
    let there := (sorted[middle]?.map (·.1)).getD .null
    if ← key.before there then placeIn sorted key fuel low middle
    else placeIn sorted key fuel (middle + 1) high

/-- Put things one by one in their places among sorted ones. -/
def placeAll (sorted : Array (Datum × Datum)) : Keyed → Eval (Array (Datum × Datum))
  | [] => return sorted
  | (k, d) :: rest => do
    let place ← placeIn sorted k (sorted.size + 1) 0 sorted.size
    placeAll (sorted.extract 0 place ++ #[(k, d)] ++ sorted.extract place sorted.size) rest

/-- Things sorted by their keys; things with equal keys stay in order. -/
def sortKeyed (things : Keyed) : Eval Keyed := do
  match things with
  | [] => return []
  | [one] => return [one]
  | (k, a) :: (l, b) :: rest =>
    -- The things at the start that are in order already, falling or rising, are taken as they are.
    if ← l.before k then
      let n ← fallingFrom l rest
      let run := ((k, a) :: (l, b) :: rest.take n).reverse
      return (← placeAll run.toArray (rest.drop n)).toList
    -- Keys that rise may be equal, keys that fall may not: their things are turned round.
    else
      let n ← risingFrom l rest
      let run := (k, a) :: (l, b) :: rest.take n
      return (← placeAll run.toArray (rest.drop n)).toList

/-- Things sorted by their keys, in rising or falling order; things with equal keys stay in
order. -/
def sortBy (falling : Bool) (things : Keyed) : Eval (List Datum) := do
  if falling then return ((← sortKeyed things.reverse).map (·.2)).reverse
  else return (← sortKeyed things).map (·.2)

end Playbook.Template
