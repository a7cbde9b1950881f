import Playbook.Decimal.Notation
import Playbook.Text.Literal
import Playbook.Calendar

/-!
# Scalars

The values without parts: nothing, truth values, numbers, texts, byte strings, days and times.
Numbers compare by value whatever their type; a truth value counts as zero or one.

Of some scalars it matters whether they are one and the same: a double that denotes no number is not
equal to itself, and yet it is one key, and a document tells a day that it holds twice from two
equal days. Such scalars bear marks; zero is no mark.

Main definitions:

- `Scalar`: the type; `Scalar.typeName`, `Scalar.isTrue`;
- `Scalar.sameKey`: whether two scalars are one key of a mapping; `Scalar.equal`;
- `Scalar.mark?`, `Scalar.withMark`: the marks of scalars;
- `Scalar.order`: the order of two scalars of comparable types;
- `Scalar.literal`, `Scalar.text`: the form shown inside a container and the form shown alone.
-/

namespace Playbook

/-- A value without parts. -/
inductive Scalar where
  /-- Nothing. -/
  | null
  /-- A truth value. -/
  | bool (b : Bool)
  /-- An integer. -/
  | int (i : Int)
  /-- A double. -/
  | float (x : Binary64)
  /-- A text. -/
  | str (s : String)
  /-- A byte string. -/
  | bytes (b : List UInt8)
  /-- A day, with a mark. -/
  | date (mark : Nat) (d : Date)
  /-- A day and time, with a mark. -/
  | datetime (mark : Nat) (t : DateTime)
deriving DecidableEq, Repr, Inhabited

namespace Scalar

/-- The name of the type of a scalar. -/
def typeName : Scalar → String
  | .null => "NoneType"
  | .bool _ => "bool"
  | .int _ => "int"
  | .float _ => "float"
  | .str _ => "str"
  | .bytes _ => "bytes"
  | .date .. => "date"
  | .datetime .. => "datetime"

/-- The name of the type of a scalar with that of the module that defines it. -/
def qualifiedTypeName : Scalar → String
  | .date .. => "datetime.date"
  | .datetime .. => "datetime.datetime"
  | s => s.typeName

/-- Whether a scalar counts as true: neither nothing nor false nor zero nor empty. -/
def isTrue : Scalar → Bool
  | .null => false
  | .bool b => b
  | .int i => i != 0
  | .float x => !x.isZero
  | .str s => s != ""
  | .bytes b => !b.isEmpty
  | .date .. => true
  | .datetime .. => true

/-! ### Marks -/

/-- The mark that tells a scalar from others; outer `none` says that it does not matter. -/
def mark? : Scalar → Option Nat
  | .date m _ => some m
  | .datetime m _ => some m
  | .float x => if x.isNaN then some x.mark else none
  | _ => none

/-- A scalar with another mark, if it can bear one. -/
def withMark (m : Nat) : Scalar → Scalar
  | .date _ d => .date m d
  | .datetime _ t => .datetime m t
  | .float x => if x.isNaN then .float (.markedNaN m) else .float x
  | s => s

/-! ### Comparison -/

/-- A number: an integer or a double. -/
inductive Number where
  /-- An integer. -/
  | int (i : Int)
  /-- A double. -/
  | float (x : Binary64)
deriving DecidableEq, Repr

/-- The number a scalar counts as. -/
def number? : Scalar → Option Number
  | .bool b => some (.int (if b then 1 else 0))
  | .int i => some (.int i)
  | .float x => some (.float x)
  | _ => none

/-- The order of two numbers by exact value; `none` if one is no number. -/
def Number.order : Number → Number → Option Ordering
  | .int i, .int j => some (compare i j)
  | .int i, .float y => (y.compareInt i).map Ordering.swap
  | .float x, .int j => x.compareInt j
  | .float x, .float y => x.compare y

/-- Equality of scalars: numbers by exact value, others of one type by content. -/
def equal (a b : Scalar) : Bool :=
  match a.number?, b.number? with
  | some m, some n => m.order n == some .eq
  | none, none =>
    match a, b with
    | .date _ d, .date _ e => d == e
    | .datetime _ t, .datetime _ u => t.sameMoment u
    | _, _ => a == b
  | _, _ => false

/-- Whether two scalars are the same key of a mapping: equal ones are, and so is a double that
denotes no number and itself. -/
def sameKey (a b : Scalar) : Bool :=
  match a, b with
  | .float x, .float y => (x.isNaN && y.isNaN && x.mark == y.mark && x.mark != 0) || x.numEq y
  | _, _ => a.equal b

/-- The order of two texts, by code point. -/
def compareChars : List Char → List Char → Ordering
  | [], [] => .eq
  | [], _ :: _ => .lt
  | _ :: _, [] => .gt
  | a :: as, b :: bs =>
    if a = b then compareChars as bs else compare (CodePoint.ofChar a) (CodePoint.ofChar b)

/-- The order of two byte strings. -/
def compareBytes : List UInt8 → List UInt8 → Ordering
  | [], [] => .eq
  | [], _ :: _ => .lt
  | _ :: _, [] => .gt
  | a :: as, b :: bs => if a = b then compareBytes as bs else compare a.toNat b.toNat

/-- How two scalars compare. -/
inductive Comparison where
  /-- They are in this order. -/
  | ordered (o : Ordering)
  /-- They are of one type but in no order. -/
  | unordered
  /-- Their types do not compare. -/
  | incomparable
  /-- Times of which one has a known distance to universal time and the other has not. -/
  | mixedTimes
deriving DecidableEq, Repr

/-- How two scalars compare: numbers by value, texts and byte strings by their units, days and
times by the calendar. -/
def order (a b : Scalar) : Comparison :=
  match a.number?, b.number? with
  | some m, some n =>
    match m.order n with
    | some o => .ordered o
    | none => .unordered
  | _, _ =>
    match a, b with
    | .str s, .str t => .ordered (compareChars s.toList t.toList)
    | .bytes s, .bytes t => .ordered (compareBytes s t)
    | .date _ d, .date _ e => .ordered (compare d.ordinal e.ordinal)
    | .datetime _ t, .datetime _ u =>
      if t.offset.isSome == u.offset.isSome then .ordered (compare t.instant u.instant)
      else .mixedTimes
    | _, _ => .incomparable

/-! ### Texts -/

/-- The form of a scalar inside a container. -/
def literal : Scalar → String
  | .null => "None"
  | .bool b => if b then "True" else "False"
  | .int i => toString i
  | .float x => x.text
  | .str s => Literal.text s
  | .bytes b => Literal.bytes b
  | .date _ d => d.literal
  | .datetime _ t => t.literal

/-- The form of a scalar on its own. -/
def text : Scalar → String
  | .str s => s
  | .date _ d => d.iso
  | .datetime _ t => t.iso " "
  | s => s.literal

/-- The most decimal digits an integer may be written or read with. -/
def digitLimit : Nat := 4300

/-- Whether an integer has more digits than may be written. -/
def isTooLong (i : Int) : Bool :=
  -- `10 ^ 4300` has 14285 bits; below that no exact comparison is needed.
  decide (14284 < i.natAbs.log2 + 1) && decide (Nat.pow 10 digitLimit ≤ i.natAbs)

/-- The failure of writing an integer with too many digits. -/
def tooLongFailure : Failure :=
  .value ("Exceeds the limit (4300 digits) for integer string conversion; " ++
    "use sys.set_int_max_str_digits() to increase the limit")

@[simp] theorem text_str (s : String) : (Scalar.str s).text = s := rfl

end Scalar

end Playbook
