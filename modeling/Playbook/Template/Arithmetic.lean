import Playbook.Decimal.Operations
import Playbook.Template.Comparison

/-!
# Arithmetic on data

Numbers are added, multiplied and divided; days and times are moved by spans; texts, byte strings,
lists and tuples are joined and repeated; of sets the difference is taken. An integer that meets a
double becomes one. Integers are exact and have no bound.

Main definitions: `Datum.add`, `Datum.arithmetic`, `Datum.signed`, `Template.asIndex`,
`Template.asSize`.
-/

namespace Playbook.Template

open Scalar (Number)

/-- The sign of an operation in messages. -/
def Arithmetic.sign : Arithmetic → String
  | .add => "+"
  | .subtract => "-"
  | .multiply => "*"
  | .divide => "/"
  | .floorDivide => "//"
  | .remainder => "%"
  | .power => "** or pow()"

/-- The failure of an operation on operands of types it does not take. -/
def refuseOperands (sign : String) (a b : Datum) : Eval Datum := do
  Eval.typeFault ("unsupported operand type(s) for " ++ sign ++ ": '" ++ (← a.typeName) ++
    "' and '" ++ (← b.typeName) ++ "'")

/-- The number that a datum is. -/
def Datum.number? : Datum → Option Number
  | .scalar s => s.number?
  | _ => none

/-- The integer that a datum is. -/
def Datum.int? (d : Datum) : Option Int :=
  match d.number? with
  | some (.int i) => some i
  | _ => none

/-- The double nearest to an integer, if there is a finite one. -/
def doubleOf (i : Int) : Except Failure Binary64 :=
  let x := Binary64.ofInt i
  if x.isInfinite then .error (.overflow "int too large to convert to float") else .ok x

/-- A number as a double. -/
def Number.double : Number → Except Failure Binary64
  | .int i => doubleOf i
  | .float x => .ok x

/-! ### Operations on numbers -/

/-- Division by zero. -/
def byZero {α : Type} (message : String) : Except Failure α := .error (.zeroDivision message)

/-- The quotient of two integers as a double. -/
def quotient (a b : Int) : Except Failure Binary64 :=
  if b = 0 then byZero "division by zero"
  else
    let x := Binary64.ofRatio ((a < 0) != (b < 0)) a.natAbs b.natAbs
    if x.isInfinite then .error (.overflow "integer division result too large for a float")
    else .ok x

/-- The text of a double without a point that only zero follows. -/
def shortText (x : Binary64) : String :=
  let cs := x.text.toList
  String.ofList (if cs.drop (cs.length - 2) = ['.', '0'] then cs.take (cs.length - 2) else cs)

/-- A complex number, which has a text but no arithmetic. -/
def ofComplex (re im : Binary64) : Datum :=
  let text :=
    if re.isZero ∧ !re.isNegative then shortText im ++ "j"
    else "(" ++ shortText re ++ (if im.isNegative then "" else "+") ++ shortText im ++ "j)"
  .thing "complex" text text

/-- The power of two doubles. -/
def doublePower (x y : Binary64) : Except Failure Datum :=
  -- The quotient by zero that the power would be is a failure; every other zero has a power.
  if x.isZero ∧ y.isNegative ∧ !y.isZero ∧ !y.isNaN then
    byZero "0.0 cannot be raised to a negative power"
  else
    let p := x.power y
    if p.isInfinite ∧ !x.isInfinite ∧ !y.isInfinite then
      .error (.overflow "(34, 'Numerical result out of range')")
    -- No operand is undefined but the power is: the base is negative and the exponent is no
    -- integer.
    else if p.isNaN ∧ !x.isNaN ∧ !y.isNaN then
      let (re, im) := x.complexPower y
      .ok (ofComplex re im)
    else .ok (.float p)

/-- An operation on two integers. -/
def onInts (op : Arithmetic) (a b : Int) : Except Failure Datum :=
  match op with
  | .add => .ok (.int (a + b))
  | .subtract => .ok (.int (a - b))
  | .multiply => .ok (.int (a * b))
  | .divide => .float <$> quotient a b
  | .floorDivide =>
    if b = 0 then byZero "integer division or modulo by zero" else .ok (.int (a.fdiv b))
  | .remainder =>
    if b = 0 then byZero "integer modulo by zero" else .ok (.int (a.fmod b))
  | .power =>
    if 0 ≤ b then .ok (.int (Int.pow a b.toNat))
    else do
      let x ← doubleOf a
      let y ← doubleOf b
      doublePower x y

/-- An operation on two doubles. -/
def onDoubles (op : Arithmetic) (x y : Binary64) : Except Failure Datum :=
  match op with
  | .add => .ok (.float (x.add y))
  | .subtract => .ok (.float (x.subtract y))
  | .multiply => .ok (.float (x.multiply y))
  | .divide => if y.isZero then byZero "float division by zero" else .ok (.float (x.divide y))
  | .floorDivide =>
    if y.isZero then byZero "float floor division by zero" else .ok (.float (x.floorQuotient y))
  | .remainder => if y.isZero then byZero "float modulo" else .ok (.float (x.remainder y))
  | .power => doublePower x y

/-- An operation on two numbers. -/
def onNumbers (op : Arithmetic) (a b : Number) : Except Failure Datum :=
  match a, b with
  | .int i, .int j => onInts op i j
  | a, b => do
    let x ← Number.double a
    let y ← Number.double b
    onDoubles op x y

/-- The result of an operation on two numbers. A result that denotes no number is a new one. -/
def calculate (op : Arithmetic) (a b : Number) : Eval Datum := do
  match ← Eval.ofExcept (onNumbers op a b) with
  | .scalar s => Eval.fresh s
  | d => return d

/-! ### Joining and repeating -/

/-- An item several times over. -/
def repeated {α : Type} (items : List α) (count : Int) : List α :=
  (List.replicate count.toNat items).flatten

/-- Refuse to repeat something of a length too often: with a failure if the result could not even
be counted, and for lack of memory if it could. -/
def checkRepeated (length : Nat) (count : Int) (uncountable : Failure) : Eval Unit := do
  if count < -sizeBound ∨ sizeBound ≤ count then
    throw (.overflow "cannot fit 'int' into an index-sized integer")
  else if sizeBound ≤ length * count then throw uncountable
  else if memoryBound < length * count then throw noMemory

/-- The failure of joining something to a sequence. -/
def refuseJoin (type : String) (b : Datum) : Eval Datum := do
  Eval.typeFault ("can only concatenate " ++ type ++ " (not \"" ++ (← b.typeName) ++ "\") to " ++
    type)

/-! ### Days, times and spans -/

/-- A new day or time, or the failure of leaving the calendar. -/
def newMoment (s : Option Scalar) : Eval Datum :=
  match s with
  | some s => Eval.fresh s
  | none => throw (.overflow "date value out of range")

/-- A day or time a span later; `none` if the datum is neither. -/
def laterMoment? (d : Datum) (s : Span) : Option (Eval Datum) :=
  match d with
  | .scalar (.date _ d) => some (newMoment ((d.later s.days).map (.date 0)))
  | .scalar (.datetime _ t) => some (newMoment ((t.later s).map (.datetime 0)))
  | _ => none

/-- The day of a datum. -/
def dayOf? : Datum → Option Date
  | .scalar (.date _ d) => some d
  | .scalar (.datetime _ t) => some t.date
  | _ => none

/-- The span from one day or time to another. -/
def spanBetween? (a b : Datum) : Option (Eval Datum) :=
  match a, b with
  | .scalar (.datetime _ t), .scalar (.datetime _ u) =>
    if t.offset.isSome == u.offset.isSome then
      some (return .span ⟨t.instant - u.instant⟩)
    else some (Eval.typeFault "can't subtract offset-naive and offset-aware datetimes")
  | a, b =>
    match dayOf? a, dayOf? b with
    | some d, some e => some (return .span (.ofDays ((d.ordinal : Int) - e.ordinal)))
    | _, _ => none

/-- An operation on days, times and spans; `none` if there is no such operation. -/
def onMoments? (op : Arithmetic) (a b : Datum) : Option (Eval Datum) :=
  -- A truth value is a number elsewhere, but no factor of a span.
  let integer (d : Datum) : Option Int := match d with
    | .int i => some i
    | _ => none
  match op, a, b with
  | .add, .span s, .span t => some (return .span ⟨s.micros + t.micros⟩)
  | .add, .span s, d | .add, d, .span s => laterMoment? d s
  | .subtract, .span s, .span t => some (return .span ⟨s.micros - t.micros⟩)
  | .subtract, .scalar (.date _ d), .span s =>
    some (newMoment ((d.later (-s.days)).map (.date 0)))
  | .subtract, d, .span s => laterMoment? d ⟨-s.micros⟩
  | .subtract, a, b => spanBetween? a b
  | .multiply, .span s, d | .multiply, d, .span s =>
    (integer d).map fun i => return .span ⟨s.micros * i⟩
  -- Spans are divided by spans, and by integers without a remainder. No double is a factor of one.
  | .divide, .span s, .span t => some do
    return .float (← Eval.ofExcept (quotient s.micros t.micros))
  | .floorDivide, .span s, .span t => some (Eval.ofExcept (onInts .floorDivide s.micros t.micros))
  | .floorDivide, .span s, d =>
    (integer d).map fun i =>
      if i = 0 then Eval.ofExcept (byZero "integer division or modulo by zero")
      else return .span ⟨s.micros.fdiv i⟩
  | _, _, _ => none

namespace Datum

/-- The sum of two numbers, or two sequences one after the other. -/
def add (a b : Datum) : Eval Datum := do
  match a, b with
  | .missing why, _ => Eval.missingFault why
  | _, .missing why => Eval.missingFault why
  | .str s, .str t => return .str (s ++ t)
  | .str _, b => refuseJoin "str" b
  | .bytes s, .bytes t => return .bytes (s ++ t)
  | .bytes _, b => Eval.typeFault ("can't concat " ++ (← b.typeName) ++ " to bytes")
  | .tuple self as, .tuple self' bs =>
    -- A tuple to which nothing is added stays the same.
    if as.isEmpty then return .tuple self' bs
    else if bs.isEmpty then return .tuple self as
    else Eval.newTuple (as ++ bs)
  | .tuple .., b => refuseJoin "tuple" b
  | .cell r, b =>
    match ← Eval.cell r, b with
    | .list as, .cell s =>
      match ← Eval.cell s with
      | .list bs => Eval.newList (as ++ bs)
      | _ => refuseJoin "list" b
    | .list _, b => refuseJoin "list" b
    | _, b => refuseOperands "+" a b
  | a, b =>
    match a.number?, b.number? with
    | some m, some n => calculate .add m n
    | _, _ => (onMoments? .add a b).getD (refuseOperands "+" a b)

/-- A sequence several times over; `none` if the datum is no sequence. -/
def repeat? (d : Datum) (count : Int) : Eval (Option Datum) := do
  match d with
  | .str s =>
    checkRepeated s.length count (.overflow "repeated string is too long")
    return some (.chars (repeated s.toList count))
  | .bytes b =>
    checkRepeated b.length count (.overflow "repeated bytes are too long")
    return some (.bytes (repeated b count))
  | .tuple self items =>
    if count = 1 then return some (.tuple self items)
    checkRepeated items.length count noMemory
    return some (← Eval.newTuple (repeated items count))
  | .cell r =>
    match ← Eval.cell r with
    | .list items =>
      checkRepeated items.length count noMemory
      return some (← Eval.newList (repeated items count))
    | _ => return none
  | _ => return none

/-- Whether a datum can be repeated. -/
def isRepeatable (d : Datum) : Eval Bool := do
  match d with
  | .str _ | .bytes _ | .tuple .. => return true
  | .cell r =>
    match ← Eval.cell r with
    | .list _ => return true
    | _ => return false
  | _ => return false

/-- The product of two numbers, or a sequence several times over. -/
def multiply (a b : Datum) : Eval Datum := do
  let sequenceTimes (d times : Datum) : Eval Datum := do
    match times.int? with
    | some n => return (← d.repeat? n).getD .null
    | none =>
      Eval.typeFault ("can't multiply sequence by non-int of type '" ++ (← times.typeName) ++ "'")
  match a, b with
  | .missing why, _ => Eval.missingFault why
  | _, .missing why => Eval.missingFault why
  | a, b =>
    match a.number?, b.number? with
    | some m, some n => calculate .multiply m n
    | _, _ =>
      -- Spans come before sequences, and the first operand before the second.
      if let some x := onMoments? .multiply a b then x
      else if ← a.isRepeatable then sequenceTimes a b
      else if ← b.isRepeatable then sequenceTimes b a
      else refuseOperands "*" a b

/-- The items of a set. -/
def setItems? (d : Datum) : Eval (Option (List Datum)) := do
  match d with
  | .cell r =>
    match ← Eval.cell r with
    | .set items => return some items
    | _ => return none
  | _ => return none

/-- The set of the items of a datum that are not among those of another one. -/
def difference (a b : Datum) : Eval Datum := do
  let as ← a.items
  as.forM checkKey
  let bs ← b.items
  bs.forM checkKey
  Eval.alloc (.set ((as.filter fun d => !hasKey bs d).foldl addKey []))

/-- An operation on two data; a text before a percent sign is not among them. -/
def arithmetic (op : Arithmetic) (a b : Datum) : Eval Datum := do
  match op with
  | .add => a.add b
  | .multiply => a.multiply b
  | op =>
    match a, b with
    | .missing why, _ => Eval.missingFault why
    | _, .missing why => Eval.missingFault why
    | a, b =>
      match a.number?, b.number? with
      | some m, some n => calculate op m n
      | _, _ =>
        match op, ← a.setItems?, ← b.setItems? with
        | .subtract, some as, some bs => Eval.alloc (.set (as.filter fun d => !hasKey bs d))
        | _, _, _ =>
          -- The keys and the items of a mapping are like sets, and any iterable is taken from them.
          if op = .subtract ∧ (isView a ∨ isView b) then difference a b
          else (onMoments? op a b).getD (refuseOperands op.sign a b)

/-- The number with a sign before it. -/
def signed (s : Signum) (d : Datum) : Eval Datum := do
  match d, d.number? with
  | .missing why, _ => Eval.missingFault why
  | _, some (.int i) => return .int (if s = .minus then -i else i)
  | _, some (.float x) => if s = .minus then Eval.fresh (.float x.negate) else return .float x
  | .span t, none => return .span (if s = .minus then ⟨-t.micros⟩ else t)
  | d, none =>
    let sign := if s = .minus then "-" else "+"
    Eval.typeFault ("bad operand type for unary " ++ sign ++ ": '" ++ (← d.typeName) ++ "'")

end Datum

/-- The integer that counts or points at something. -/
def asIndex (d : Datum) : Eval Int := do
  match d.int? with
  | some i => return i
  | none =>
    Eval.typeFault ("'" ++ (← d.typeName) ++ "' object cannot be interpreted as an integer")

/-- The integer that counts something in memory, or points at it. -/
def asSize (d : Datum) : Eval Int := do
  let i ← asIndex d
  if -sizeBound ≤ i ∧ i < sizeBound then return i else throw sizeOverflow

end Playbook.Template
