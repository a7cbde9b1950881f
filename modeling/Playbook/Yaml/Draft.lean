import Playbook.Text.Base64
import Playbook.Value.Print
import Playbook.Yaml.Schema

/-!
# Drafts of documents

What a value looks like as a document before it is laid out: scalars with their texts and tags,
sequences, and mappings whose pairs are in the order of their keys if the keys compare.

Main definitions: `Yaml.Draft`, `Yaml.Draft.ofValue`, `Yaml.Draft.sharedMarks`.
-/

namespace Playbook.Yaml

/-- A document before it is laid out. A mark identifies a collection, or a day, that may be met more
than once. -/
inductive Draft where
  /-- A scalar, as a block of lines or not. -/
  | scalar (mark : Option Nat) (tag text : String) (block : Bool)
  /-- A sequence. -/
  | sequence (mark : Option Nat) (tag : String) (items : List Draft)
  /-- A mapping. -/
  | mapping (mark : Option Nat) (tag : String) (pairs : List (Draft × Draft))
  /-- The collection of a mark, met inside itself. -/
  | again (mark : Nat)
deriving Inhabited

namespace Draft

/-! ### Order of keys -/

mutual

/-- Whether a key comes before another; nothing if they do not compare. -/
def before? : Value → Value → Option Bool
  | .scalar a, .scalar b =>
    match a.order b with
    | .ordered o => some (o == .lt)
    | .unordered => some false
    | .incomparable | .mixedTimes => none
  | .tuple _ as, .tuple _ bs => listBefore? as bs
  | _, _ => none

/-- Whether a list of keys comes before another: the first difference decides. -/
def listBefore? : List Value → List Value → Option Bool
  | [], [] => some false
  | [], _ :: _ => some true
  | _ :: _, [] => some false
  | a :: as, b :: bs => if a.sameKey b then listBefore? as bs else before? a b

end

/-- Whether all keys of some entries compare. -/
def comparable (keys : List Value) : Bool :=
  match keys with
  | [] => true
  | k :: rest => (rest.all fun l => (before? k l).isSome) && comparable rest

/-- Entries in the order of their keys, or as they are if not all keys compare. -/
def sortEntries (es : Entries) : Entries :=
  if comparable (es.map (·.1)) then
    es.mergeSort fun a b => !(before? b.1 a.1).getD false
  else es

/-- Keys in their order, or as they are if not all compare. -/
def sortKeys (keys : List Value) : List Value :=
  (sortEntries (keys.map fun k => (k, .null))).map (·.1)

/-! ### Scalars -/

/-- Bytes in lines of base 64. -/
def base64Lines (fuel : Nat) (b : List UInt8) : List Char :=
  match fuel, b with
  | _, [] => []
  | 0, _ => []
  | fuel + 1, b => Base64.encode (b.take 57) ++ '\n' :: base64Lines fuel (b.drop 57)

/-- The text of a double; a mantissa without a point gets one. -/
def floatText (x : Binary64) : String :=
  match x.classify with
  | .nan => ".nan"
  | .infinite negative => if negative then "-.inf" else ".inf"
  | .finite .. =>
    let cs := x.text.toList
    if cs.contains '.' then x.text
    else String.ofList (cs.flatMap fun c => if c = 'e' then ['.', '0', 'e'] else [c])

/-- The draft of nothing. -/
def ofNull : Draft := .scalar none (coreTag "null") "null" false

/-- The draft of a scalar. -/
def ofScalar : Scalar → Except Failure Draft
  | .null => .ok ofNull
  | .bool b => .ok (.scalar none (coreTag "bool") (if b then "true" else "false") false)
  | .int i =>
    if Scalar.isTooLong i then .error Scalar.tooLongFailure
    else .ok (.scalar none (coreTag "int") (toString i) false)
  | .float x => .ok (.scalar none (coreTag "float") (floatText x) false)
  | .str s => .ok (.scalar none (coreTag "str") s false)
  | .bytes b =>
    .ok (.scalar none (coreTag "binary") (String.ofList (base64Lines b.length b)) true)
  | .date m d => .ok (.scalar (markOf m) (coreTag "timestamp") d.iso false)
  | .datetime m t => .ok (.scalar (markOf m) (coreTag "timestamp") (t.iso " ") false)
where
  /-- The mark that a number stands for. -/
  markOf (m : Nat) : Option Nat := if m = 0 then none else some m

/-! ### Values -/

/-- The draft of a tuple. All empty tuples are one and the same, which needs no name. -/
def ofTuple (mark : Option Nat) (items : List Draft) : Draft :=
  .sequence (if items.isEmpty then none else mark) (coreTag "python/tuple") items

/-- The draft of a key: a scalar or a tuple. -/
def ofKey : Value → Except Failure Draft
  | .scalar s => ofScalar s
  | .tuple mark items => do
    return ofTuple mark (← ofKeys items)
  | v => .error (.type ("cannot pickle '" ++ v.typeName ++ "' object"))
where
  /-- The drafts of keys one by one. -/
  ofKeys : List Value → Except Failure (List Draft)
    | [] => .ok []
    | k :: rest => do
      let one ← ofKey k
      return one :: (← ofKeys rest)

/-- Put the pairs of a mapping in the order of the keys. -/
def arrange (es : Entries) (values : List Draft) : Except Failure (List (Draft × Draft)) :=
  -- Each value is found by the place its key had.
  let places := es.zipIdx.map fun ((k, _), i) => (k, Value.int i)
  (sortEntries places).mapM fun (k, place) => do
    let key ← ofKey k
    match place with
    | .int i => return (key, values.getD i.toNat default)
    | _ => return (key, default)

mutual

/-- The draft of a value. -/
def ofValue : Value → Except Failure Draft
  | .scalar s => ofScalar s
  | .tuple mark items => do return ofTuple mark (← ofValues items)
  | .list mark items => do return .sequence mark (coreTag "seq") (← ofValues items)
  | .map mark entries => do
    return .mapping mark (coreTag "map") (← arrange entries (← ofEntries entries))
  | .set mark items => do
    let keys ← (sortKeys items).mapM ofKey
    return .mapping mark (coreTag "set")
      (keys.map fun k => (k, ofNull))
  | .again _ mark => .ok (.again mark)
  | .opaqueThing type _ _ => .error (.type ("cannot pickle '" ++ type ++ "' object"))

/-- The drafts of values one by one. -/
def ofValues : List Value → Except Failure (List Draft)
  | [] => .ok []
  | v :: rest => do
    let one ← ofValue v
    return one :: (← ofValues rest)

/-- The drafts of the values of entries one by one. -/
def ofEntries : List (Value × Value) → Except Failure (List Draft)
  | [] => .ok []
  | (_, v) :: rest => do
    let one ← ofValue v
    return one :: (← ofEntries rest)

end

/-! ### What is met more than once -/

/-- The marks met so far, and of these the ones met more than once in the order in which they were
met again. -/
structure Meetings where
  /-- The marks met. -/
  seen : List Nat
  /-- The marks met again. -/
  shared : List Nat

/-- Meet a mark: whether it is new. -/
def Meetings.meet (m : Meetings) : Option Nat → Bool × Meetings
  | none => (true, m)
  | some mark =>
    if m.seen.contains mark then
      (false, if m.shared.contains mark then m else { m with shared := m.shared ++ [mark] })
    else (true, { m with seen := mark :: m.seen })

mutual

/-- Meet all the marks of a draft, once inside each collection. -/
def meetings (m : Meetings) : Draft → Meetings
  | .scalar mark .. => (m.meet mark).2
  | .sequence mark _ items =>
    let (new, m) := m.meet mark
    if new then meetingsOfItems m items else m
  | .mapping mark _ pairs =>
    let (new, m) := m.meet mark
    if new then meetingsOfPairs m pairs else m
  | .again mark => (m.meet (some mark)).2

/-- Meet all the marks of drafts one by one. -/
def meetingsOfItems (m : Meetings) : List Draft → Meetings
  | [] => m
  | d :: rest => meetingsOfItems (meetings m d) rest

/-- Meet all the marks of pairs one by one. -/
def meetingsOfPairs (m : Meetings) : List (Draft × Draft) → Meetings
  | [] => m
  | (k, v) :: rest => meetingsOfPairs (meetings (meetings m k) v) rest

end

/-- The marks of what is met more than once. -/
def sharedMarks (d : Draft) : List Nat := (meetings ⟨[], []⟩ d).shared

end Draft

end Playbook.Yaml
