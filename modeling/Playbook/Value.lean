import Playbook.Scalar

/-!
# Document values

What a decoded document holds: scalars, tuples, lists, sets and mappings whose entries keep their
order. A value is a finite tree. A document can name a container and refer to it from several
places, even from inside itself; such a container bears a mark, the same at each place, and the
place inside itself is written `again` with that mark.

Main definitions:

- `Value`: the type, and `Value.Kind`, the coarse classification by which records are read;
- `Value.entries?`, `Value.items?`: the parts of a container, one layer unfolded;
- `Entries.insert`, `Entries.find?`, `Entries.update`: ordered mappings, in which equal keys are
  one, the first spelling and place stay and the last value wins.
-/

namespace Playbook

/-- The shapes of containers. -/
inductive Shape where
  /-- A tuple. -/
  | tuple
  /-- A list. -/
  | list
  /-- A mapping. -/
  | map
  /-- A set. -/
  | set
deriving DecidableEq, Repr, Inhabited

/-- A value of a document. -/
inductive Value where
  /-- A scalar. -/
  | scalar (s : Scalar)
  /-- A tuple. -/
  | tuple (mark : Option Nat) (items : List Value)
  /-- A list. -/
  | list (mark : Option Nat) (items : List Value)
  /-- A mapping, with its entries in order. -/
  | map (mark : Option Nat) (entries : List (Value × Value))
  /-- A set, with its members in order of arrival. -/
  | set (mark : Option Nat) (items : List Value)
  /-- The enclosing container of a shape that bears this mark. -/
  | again (shape : Shape) (mark : Nat)
  /-- A thing with no document form, by the name of its type and its two texts. -/
  | opaqueThing (type literal text : String)
deriving Repr, Inhabited

namespace Value

/-! ### Short names for scalars -/

/-- Nothing. -/
@[match_pattern] abbrev null : Value := .scalar .null
/-- A truth value. -/
@[match_pattern] abbrev bool (b : Bool) : Value := .scalar (.bool b)
/-- An integer. -/
@[match_pattern] abbrev int (i : Int) : Value := .scalar (.int i)
/-- A double. -/
@[match_pattern] abbrev float (x : Binary64) : Value := .scalar (.float x)
/-- A text. -/
@[match_pattern] abbrev str (s : String) : Value := .scalar (.str s)
/-- A byte string. -/
@[match_pattern] abbrev bytes (b : List UInt8) : Value := .scalar (.bytes b)

/-! ### Kinds -/

/-- The coarse kinds by which records are read. -/
inductive Kind where
  /-- A text. -/
  | string
  /-- A number that is no truth value. -/
  | number
  /-- A truth value. -/
  | boolean
  /-- A mapping. -/
  | mapping
  /-- A list. -/
  | sequence
  /-- Nothing. -/
  | null
  /-- A time, a byte string, a tuple, a set. -/
  | other
deriving DecidableEq, Repr

/-- The name of a kind. -/
def Kind.name : Kind → String
  | .string => "string"
  | .number => "number"
  | .boolean => "boolean"
  | .mapping => "mapping"
  | .sequence => "sequence"
  | .null => "null"
  | .other => "other"

/-- The kind of a value. -/
def kind : Value → Kind
  | .scalar .null => .null
  | .scalar (.bool _) => .boolean
  | .scalar (.int _) => .number
  | .scalar (.float _) => .number
  | .scalar (.str _) => .string
  | .scalar _ => .other
  | .map .. => .mapping
  | .again .map _ => .mapping
  | .list .. => .sequence
  | .again .list _ => .sequence
  | _ => .other

/-- Whether a value counts as true: a scalar by its own rule, a container if it is not empty. -/
def isTrue : Value → Bool
  | .scalar s => s.isTrue
  | .tuple _ items | .list _ items | .set _ items => !items.isEmpty
  | .map _ entries => !entries.isEmpty
  -- A container met inside itself is not empty.
  | .again .. => true
  | .opaqueThing .. => true

/-- The name of the type of a value. -/
def typeName : Value → String
  | .scalar s => s.typeName
  | .tuple .. | .again .tuple _ => "tuple"
  | .list .. | .again .list _ => "list"
  | .map .. | .again .map _ => "dict"
  | .set .. | .again .set _ => "set"
  | .opaqueThing type _ _ => type

/-! ### Unfolding -/

mutual

/-- Put a container where it is met again. -/
def fill (mark : Nat) (whole : Value) : Value → Value
  | .scalar s => .scalar s
  | .tuple m items => .tuple m (fillItems mark whole items)
  | .list m items => if m = some mark then .list m items else .list m (fillItems mark whole items)
  | .map m entries =>
    if m = some mark then .map m entries else .map m (fillEntries mark whole entries)
  | .set m items => if m = some mark then .set m items else .set m (fillItems mark whole items)
  | .again shape m => if m = mark then whole else .again shape m
  | .opaqueThing type literal text => .opaqueThing type literal text

/-- Put a container where it is met again in a list of values. -/
def fillItems (mark : Nat) (whole : Value) : List Value → List Value
  | [] => []
  | v :: rest => fill mark whole v :: fillItems mark whole rest

/-- Put a container where it is met again in a list of entries. -/
def fillEntries (mark : Nat) (whole : Value) : List (Value × Value) → List (Value × Value)
  | [] => []
  | (k, v) :: rest => (fill mark whole k, fill mark whole v) :: fillEntries mark whole rest

end

/-- The entries of a mapping, in which the mapping itself takes the places where it is met
again. -/
def entries? : Value → Option (List (Value × Value))
  | .map none entries => some entries
  | .map (some mark) entries => some (fillEntries mark (.map (some mark) entries) entries)
  | _ => none

/-- The items of a list, in which the list itself takes the places where it is met again. -/
def items? : Value → Option (List Value)
  | .list none items => some items
  | .list (some mark) items => some (fillItems mark (.list (some mark) items) items)
  | _ => none

/-! ### Keys -/

mutual

/-- Whether two values are the same key of a mapping. Containers other than tuples are no keys. -/
def sameKey : Value → Value → Bool
  | .scalar a, .scalar b => a.sameKey b
  | .tuple _ as, .tuple _ bs => sameKeys as bs
  | .opaqueThing t l x, .opaqueThing t' l' x' => t == t' && l == l' && x == x'
  | _, _ => false

/-- Whether two lists of values are the same keys one by one. -/
def sameKeys : List Value → List Value → Bool
  | [], [] => true
  | a :: as, b :: bs => sameKey a b && sameKeys as bs
  | _, _ => false

end

mutual

/-- Whether a value may be the key of a mapping: a scalar or a tuple of such values. -/
def isKey : Value → Bool
  | .scalar _ => true
  | .tuple _ items => areKeys items
  | .opaqueThing .. => true
  | _ => false

/-- Whether all values may be keys. -/
def areKeys : List Value → Bool
  | [] => true
  | v :: rest => isKey v && areKeys rest

end

@[simp] theorem kind_str (s : String) : (Value.str s).kind = .string := rfl
@[simp] theorem kind_map (m : Option Nat) (es : List (Value × Value)) :
    (Value.map m es).kind = .mapping := rfl
@[simp] theorem kind_list (m : Option Nat) (xs : List Value) : (Value.list m xs).kind = .sequence :=
  rfl
@[simp] theorem entries?_map_none (es : List (Value × Value)) :
    (Value.map none es).entries? = some es := rfl
@[simp] theorem items?_list_none (xs : List Value) : (Value.list none xs).items? = some xs := rfl

end Value

/-! ### Ordered mappings -/

/-- The entries of a mapping, in order. -/
abbrev Entries := List (Value × Value)

namespace Entries

/-- The value of a key. -/
def find? (es : Entries) (key : Value) : Option Value :=
  match es with
  | [] => none
  | (k, v) :: rest => if k.sameKey key then some v else find? rest key

/-- Set the value of a key: in its place if the key is there, at the end otherwise. -/
def insert (es : Entries) (key value : Value) : Entries :=
  match es with
  | [] => [(key, value)]
  | (k, v) :: rest =>
    if k.sameKey key then (k, value) :: rest else (k, v) :: insert rest key value

/-- Set the values of all the keys of another mapping, in its order. -/
def update (es more : Entries) : Entries := more.foldl (fun acc (k, v) => insert acc k v) es

/-- The mapping with these entries, of which later ones win. -/
def ofList (pairs : List (Value × Value)) : Entries := update [] pairs

/-- The keys in order. -/
def keys (es : Entries) : List Value := es.map (·.1)

@[simp] theorem update_nil (es : Entries) : update es [] = es := rfl

end Entries

end Playbook
