import Playbook.Template.Arithmetic
import Playbook.Template.Exchange

/-!
# Parts of data

A part is asked for by position, by key or by name. Templates try the one and then the other: an
attribute that is not there may be an item of that name, and an item that is not there may be an
attribute; if neither is there, the part is missing, which is an error only if it is used.

Main definitions:

- `Datum.subscript`: the item at an index, or why there is none;
- `Datum.slice`: the items between two positions;
- `Datum.field?`: the attribute of a name;
- `Datum.member`, `Datum.item`: what templates find.
-/

namespace Playbook.Template

/-! ### Positions -/

/-- The place of an index in a sequence of some length; a negative index counts from the end. -/
def place? (length : Nat) (i : Int) : Option Nat :=
  let j := if i < 0 then i + length else i
  if 0 ≤ j ∧ j < length then some j.toNat else none

/-- A bound of a slice, moved into a sequence of some length. -/
def clampBound (length : Nat) (step i : Int) : Int :=
  if i < 0 then
    let j := i + length
    -- A slice that goes backwards ends before the first item, at `-1`.
    if j < 0 then (if step < 0 then -1 else 0) else j
  else if (length : Int) ≤ i then (if step < 0 then (length : Int) - 1 else length)
  else i

/-- The first and the last place of a slice. -/
def slicePlaces (length : Nat) (start stop : Option Int) (step : Int) : Int × Int :=
  let first := match start with
    | some i => clampBound length step i
    | none => if step < 0 then (length : Int) - 1 else 0
  let last := match stop with
    | some i => clampBound length step i
    | none => if step < 0 then -1 else length
  (first, last)

/-- The items of a row in equal steps from a place on. -/
def stepItems {α : Type} (items : Array α) (place step : Int) : Nat → List α
  | 0 => []
  | n + 1 =>
    match items[place.toNat]? with
    | some a => a :: stepItems items (place + step) step n
    | none => []

/-- The items of a list between two bounds. -/
def sliceItems {α : Type} (items : List α) (start stop : Option Int) (step : Int) : List α :=
  let (first, last) := slicePlaces items.length start stop step
  stepItems items.toArray first step (rangeLength first last step)

/-! ### Items -/

/-- The item of a row at an index. -/
def itemAt {α : Type} (what : String) (items : List α) (i : Int) : Eval α := do
  match (place? items.length i).bind fun n => items[n]? with
  | some a => return a
  | none => throw (.index (what ++ " out of range"))

/-- The integer that an index of a sequence is. -/
def positionOf (what : String) (d : Datum) : Eval Int := do
  match d.int? with
  | some i => return i
  | none =>
    Eval.typeFault (what ++ " indices must be integers or slices, not " ++ (← d.typeName))

/-- The failure of a key that is not there. -/
def missingKey {α : Type} (key : Datum) : Eval α := do throw (.key (← key.literal))

/-- The failure of asking for an item of something without items. -/
def refuseSubscript {α : Type} (d : Datum) : Eval α := do
  Eval.typeFault ("'" ++ (← d.typeName) ++ "' object is not subscriptable")

namespace Datum

/-- The item at an index. -/
def subscript (d index : Datum) : Eval Datum := do
  match d with
  | .str s =>
    match index.int? with
    | some i => return .str (String.singleton (← itemAt "string index" s.toList i))
    | none =>
      Eval.typeFault ("string indices must be integers, not '" ++ (← index.typeName) ++ "'")
  | .bytes b => return .int (← itemAt "index" b (← positionOf "byte" index)).toNat
  | .tuple _ items => itemAt "tuple index" items (← positionOf "tuple" index)
  | .missing why => Eval.missingFault why
  | .range start stop step =>
    let i ← positionOf "range" index
    match place? (rangeLength start stop step) i with
    | some n => return .int (start + step * n)
    | none => throw (.index "range object index out of range")
  | .blocks seen =>
    match index with
    | .str name => return .block name seen
    | index => missingKey index
  | .cell r =>
    match ← Eval.cell r with
    | .list items => itemAt "list index" items (← positionOf "list" index)
    | .map t =>
      index.checkKey
      match t.find? index with
      | some e => return e
      | none => missingKey index
    | _ => refuseSubscript d
  | d => refuseSubscript d

/-- A bound of a slice. -/
def bound? (d : Datum) : Eval (Option Int) := do
  match d with
  | .null => return none
  | d =>
    match d.int? with
    | some i => return some i
    | none =>
      Eval.typeFault
        "slice indices must be integers or None or have an __index__ method"

/-- The items between two positions, in steps. -/
def slice (d start stop step : Datum) : Eval Datum := do
  let bounds : Eval (Option Int × Option Int × Int) := do
    let by_ ← step.bound?
    if by_ = some 0 then Eval.valueFault "slice step cannot be zero"
    return (← start.bound?, ← stop.bound?, by_.getD 1)
  match d with
  | .missing why => Eval.missingFault why
  | .str s =>
    let (a, b, c) ← bounds
    return .chars (sliceItems s.toList a b c)
  | .bytes bs =>
    let (a, b, c) ← bounds
    return .bytes (sliceItems bs a b c)
  | .tuple self items =>
    let (a, b, c) ← bounds
    let found := sliceItems items a b c
    -- The items from the first to the last are the tuple itself.
    if c = 1 ∧ found.length = items.length then return .tuple self items
    else Eval.newTuple found
  | .range start stop step =>
    let (a, b, c) ← bounds
    let (first, last) := slicePlaces (rangeLength start stop step) a b c
    return .range (start + first * step) (start + last * step) (step * c)
  | .cell r =>
    match ← Eval.cell r with
    | .list items =>
      let (a, b, c) ← bounds
      Eval.newList (sliceItems items a b c)
    | .map _ => Eval.typeFault "unhashable type: 'slice'"
    | _ => refuseSubscript d
  | d => refuseSubscript d

end Datum

/-! ### Attributes -/

/-- The functions of texts. -/
def textMethods : List String :=
  ["capitalize", "casefold", "center", "count", "encode", "endswith", "expandtabs", "find",
    "format", "format_map", "index", "isalnum", "isalpha", "isascii", "isdecimal", "isdigit",
    "isidentifier", "islower", "isnumeric", "isprintable", "isspace", "istitle", "isupper",
    "join", "ljust", "lower", "lstrip", "maketrans", "partition", "removeprefix", "removesuffix",
    "replace", "rfind", "rindex", "rjust", "rpartition", "rsplit", "rstrip", "split",
    "splitlines", "startswith", "strip", "swapcase", "title", "translate", "upper", "zfill"]

/-- The functions of lists. -/
def listMethods : List String :=
  ["append", "clear", "copy", "count", "extend", "index", "insert", "pop", "remove", "reverse",
    "sort"]

/-- The functions of mappings. -/
def mapMethods : List String :=
  ["clear", "copy", "fromkeys", "get", "items", "keys", "pop", "popitem", "setdefault", "update",
    "values"]

/-- The functions of sets. -/
def setMethods : List String :=
  ["add", "clear", "copy", "difference", "difference_update", "discard", "intersection",
    "intersection_update", "isdisjoint", "issubset", "issuperset", "pop", "remove",
    "symmetric_difference", "symmetric_difference_update", "union", "update"]

/-- The functions of byte strings. -/
def bytesMethods : List String := ["decode", "hex"]

/-- The functions of days and of times. -/
def timeMethods : List String :=
  ["ctime", "isoformat", "isoweekday", "replace", "strftime", "toordinal", "weekday"]

/-- The attribute of a scalar. -/
def scalarField? (s : Scalar) (name : String) : Option Datum :=
  let method (names : List String) : Option Datum :=
    if names.contains name then some (.method (.scalar s) name) else none
  let number (n : Nat) : Option Datum := some (.int n)
  let day (d : Date) : Option Datum :=
    match name with
    | "year" => number d.year
    | "month" => number d.month
    | "day" => number d.day
    | _ => method timeMethods
  let ofInt (i : Int) : Option Datum :=
    match name with
    | "real" | "numerator" => some (.int i)
    | "imag" => some (.int 0)
    | "denominator" => some (.int 1)
    | _ => method ["as_integer_ratio", "bit_length", "bit_count", "conjugate", "to_bytes"]
  match s with
  | .str _ => method textMethods
  | .bytes _ => method bytesMethods
  | .int i => ofInt i
  | .bool b => ofInt (if b then 1 else 0)
  | .float x =>
    match name with
    | "real" => some (.float x)
    | "imag" => some (.float .zero)
    | _ => method ["as_integer_ratio", "hex", "is_integer", "conjugate"]
  | .date _ d => day d
  | .datetime _ t =>
    match name with
    | "hour" => number t.hour
    | "minute" => number t.minute
    | "second" => number t.second
    | "microsecond" => number t.micro
    | "tzinfo" => if t.offset.isNone then some .null else none
    | "date" | "utcoffset" => some (.method (.scalar s) name)
    | _ => day t.date
  | .null => none

/-- The attribute of a loop. -/
def loopField? (r : Ref) (name : String) : Eval (Option Datum) := do
  let s ← Eval.loopState r
  -- Before the first item has been taken a loop stands one place before the start.
  let position : Int := if s.current.isNone then -1 else s.index
  match name with
  | "index" => return some (.int (position + 1))
  | "index0" => return some (.int position)
  | "depth" => return some (.int (s.depth + 1))
  | "depth0" => return some (.int s.depth)
  | "length" => return some (.int (← LoopState.total r))
  | "revindex" => return some (.int ((← LoopState.total r) - position))
  | "revindex0" => return some (.int ((← LoopState.total r) - position - 1))
  | "first" => return some (.bool (position == 0))
  | "last" => return some (.bool (← LoopState.peek r).isNone)
  | "previtem" =>
    return some (if position = 0 then .missing "there is no previous item"
      else s.before.getD .null)
  | "nextitem" => return some ((← LoopState.peek r).getD (.missing "there is no next item"))
  | "cycle" | "changed" => return some (.method (.cell r) name)
  | _ => return none

/-- The attribute of a block that can be called. -/
def definitionField? (d : Definition) (name : String) : Option Datum :=
  match name with
  | "name" => some ((d.name.map .str).getD .null)
  | "arguments" => some (.row (d.parameters.map fun p => .str p.name))
  | "catch_kwargs" => some (.bool d.takesNamed)
  | "catch_varargs" => some (.bool d.takesMore)
  | "caller" => some (.bool d.takesCaller)
  | "explicit_caller" => some (.bool (d.parameters.any (·.name == "caller")))
  | _ => none

namespace Datum

/-- The attribute of a name. -/
def field? (d : Datum) (name : String) : Eval (Option Datum) := do
  let method (names : List String) : Option Datum :=
    if names.contains name then some (.method d name) else none
  match d with
  | .scalar s => return scalarField? s name
  | .tuple self items =>
    let group : Eval Bool := do
      match self with
      | some r => return match ← Eval.cell r with
        | .place group => group
        | _ => false
      | none => return false
    -- Rows of groups have names for their two items, which hide the functions of tuples.
    match name, items, ← group with
    | "grouper", [key, _], true => return some key
    | "list", [_, ds], true => return some ds
    | _, _, _ => return method ["count", "index"]
  | .missing why =>
    -- A missing part fails on every name but those that are asked for behind the scenes.
    if name.startsWith "__" ∧ name.endsWith "__" then return none else Eval.missingFault why
  | .range start stop step =>
    match name with
    | "start" => return some (.int start)
    | "stop" => return some (.int stop)
    | "step" => return some (.int step)
    | _ => return method ["count", "index"]
  | .cell r =>
    match ← Eval.cell r with
    | .list _ => return method listMethods
    | .map _ => return method mapMethods
    | .set _ => return method setMethods
    | .loop _ => loopField? r name
    | .fields entries => return DataEntries.find? entries (.str name)
    | .cycler items position =>
      match name with
      | "items" => return some (.row items)
      | "pos" => return some (.int position)
      | "current" => return items[position]?
      | _ => return method ["next", "reset"]
    | .joiner separator used =>
      match name with
      | "sep" => return some separator
      | "used" => return some (.bool used)
      | _ => return none
    | .definition m => return definitionField? m name
    | .stream type _ =>
      return method (if type = "generator" then ["__next__", "close", "send"] else ["__next__"])
    | .place _ => return none
  | .known .dict => return method ["fromkeys"]
  | .known .range | .known .lipsum | .known .cycler | .known .joiner | .known .namespace_ =>
    return none
  | .view .values _ => return none
  | .view .. => return method ["isdisjoint"]
  | .span s =>
    match name with
    | "days" => return some (.int s.days)
    | "seconds" => return some (.int s.seconds)
    | "microseconds" => return some (.int s.micro)
    | _ => return method ["total_seconds"]
  | .method .. | .blocks _ | .block .. | .thing .. => return none

/-- The type of a name. -/
def ofType (name : String) : Datum :=
  let text := "<class '" ++ name ++ "'>"
  .thing "type" text text

/-- The name of a type without that of the module in which it is defined. -/
def typeLabel (text : String) : String :=
  let quoted := ((text.toList.dropWhile (· ≠ '\'')).drop 1).takeWhile (· ≠ '\'')
  String.ofList (quoted.reverse.takeWhile (· ≠ '.')).reverse

/-- The attribute of a name: the type of a datum, the name of a type, or one that data of a type
have. -/
def attribute? (d : Datum) (name : String) : Eval (Option Datum) := do
  match name, d with
  -- These names belong to types, so they are found before the attributes that data have.
  | "__class__", _ => return some (ofType (← d.className))
  | "__name__", .thing "type" text _ => return some (.str (typeLabel text))
  | "__name__", .known .lipsum => return some (.str "generate_lorem_ipsum")
  | "__name__", .known k => return some (.str (typeLabel k.literal))
  | _, _ => d.field? name

/-- The failure of an attribute that is not there. -/
def refuseField {α : Type} (d : Datum) (name : String) : Eval α := do
  throw (.noAttribute ("'" ++ (← d.typeName) ++ "' object has no attribute '" ++ name ++ "'"))

/-- A part that is not there. -/
def absent (d key : Datum) : Eval Datum := do
  let owner ← d.description
  match key with
  | .str name =>
    return .missing (Literal.text owner ++ " has no attribute " ++ Literal.text name)
  | key => return .missing (owner ++ " has no element " ++ (← key.give).literal)

/-- Whether a failure says that a part is not there. -/
def saysAbsent (f : Failure) : Bool :=
  match f.kind with
  | .type | .key | .index | .attribute => true
  | _ => false

/-- The attribute of a name, or else the item of that name. -/
def member (d : Datum) (name : String) : Eval Datum := do
  match ← d.attribute? name with
  | some found => return found
  | none =>
    match ← Eval.attempt (d.subscript (.str name)) with
    | .ok found => return found
    | .error f => if saysAbsent f then d.absent (.str name) else throw f

/-- The item at an index, or else the attribute of that name. -/
def item (d index : Datum) : Eval Datum := do
  match ← Eval.attempt (d.subscript index) with
  | .ok found => return found
  | .error f =>
    if saysAbsent f then
      match index with
      | .str name =>
        match ← d.attribute? name with
        | some found => return found
        | none => d.absent index
      | index => d.absent index
    else throw f

end Datum

end Playbook.Template
