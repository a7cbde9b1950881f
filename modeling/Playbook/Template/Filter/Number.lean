import Playbook.Decimal.Notation
import Playbook.Decimal.Numeral
import Playbook.Template.Filter.Basic

/-!
# Filters of numbers

Rounding, absolute values, and the numbers that texts stand for.

Main definitions: `Template.absoluteFilter`, `Template.roundFilter`, `Template.intFilter`,
`Template.floatFilter`, `Template.sumFilter`.
-/

namespace Playbook.Template

/-! ### Absolute values and rounding -/

/-- The absolute value. -/
def absoluteFilter (d : Datum) (i : Inputs) : Eval Datum := do
  let d ← (i.after d).one "abs"
  match d.number? with
  | some (.int n) => return .int n.natAbs
  | some (.float x) => Eval.fresh (.float x.magnitude)
  | none => Eval.typeFault ("bad operand type for abs(): '" ++ (← d.typeName) ++ "'")

/-- The failure of making an integer of a double that is not finite. -/
def notFinite (x : Binary64) : Failure :=
  if x.isNaN then .value "cannot convert float NaN to integer"
  else .overflow "cannot convert float infinity to integer"

/-- The nearest integer, a half going to the even one. -/
def nearestInt (x : Binary64) : Except Failure Int :=
  match ((x.roundTo 0).truncate?) with
  | some n => .ok n
  | none => .error (notFinite x)

/-- An integer rounded to tens, hundreds and so on, a half going to the even one. -/
def roundInt (n places : Int) : Int :=
  if 0 ≤ places then n
  else
    let unit := Nat.pow 10 (-places).toNat
    let k := Binary64.roundHalfEven n.natAbs unit
    (if n < 0 then -1 else 1) * ((k * unit : Nat) : Int)

/-- A number rounded to a number of places. -/
def roundTo (d places : Datum) : Eval Datum := do
  match d.number? with
  | none =>
    Eval.typeFault ("type " ++ (← d.typeName) ++ " doesn't define __round__ method")
  | some n =>
    match n, places with
    | .int n, .null => return .int n
    | .float x, .null => return .int (← Eval.ofExcept (nearestInt x))
    | .int n, places => return .int (roundInt n (← asIndex places))
    | .float x, places =>
      let y := x.roundTo (← asIndex places)
      if y.isInfinite ∧ !x.isInfinite then
        throw (.overflow "rounded value too large to represent")
      Eval.fresh (.float y)

/-- The next integer above or below a number. -/
def roundToward (up : Bool) (d : Datum) : Eval Datum := do
  match d.number? with
  | some (.int n) => return .int n
  | some (.float x) =>
    match (if up then x.ceilInt? else x.floorInt?) with
    | some n => return .int n
    | none => throw (notFinite x)
  | none =>
    match d with
    | .missing why => Eval.missingFault why
    | d => Eval.typeFault ("must be real number, not " ++ (← d.typeName))

/-- A number rounded by a method. -/
def roundFilter (d : Datum) (i : Inputs) : Eval Datum := do
  let values ← Signature.bind ⟨"do_round", 0, ["value"], ["precision", "method"]⟩ (i.after d)
  let places := given values 1 (.int 0)
  let toward (up : Bool) : Eval Datum := do
    let unit ← (Datum.int 10).arithmetic .power places
    let scaled ← roundToward up (← d.arithmetic .multiply unit)
    scaled.arithmetic .divide unit
  let method := given values 2 (.str "common")
  method.checkKey
  match method with
  | .str "common" => roundTo d places
  | .str "ceil" => toward true
  | .str "floor" => toward false
  | _ => argumentFault "method must be common, ceil or floor"

/-! ### Numbers of texts -/

/-- The integer a text stands for if its own mark says the base. -/
def markedInt (s : String) : Except Failure Int :=
  let (negative, cs) := Numeral.sign (Numeral.trim s.toList)
  let base := match cs with
    | '0' :: m :: _ =>
      if m = 'x' ∨ m = 'X' then 16 else if m = 'o' ∨ m = 'O' then 8
      else if m = 'b' ∨ m = 'B' then 2 else 10
    | _ => 10
  let leadingZero := base = 10 ∧ cs.head? = some '0' ∧ cs.any fun c => c != '0' && c != '_'
  if leadingZero then .error (Numeral.noInteger 0 (Literal.text s))
  else (fun n => if negative then -n else n) <$> Numeral.intOf base (Literal.text s) cs

/-- The integer a text stands for in a base. -/
def intInBase (s : String) (base : Int) : Except Failure Int :=
  if base = 0 then markedInt s
  else if 2 ≤ base ∧ base ≤ 36 then Numeral.int base.toNat s
  else .error (.value "int() base must be >= 2 and <= 36, or 0")

/-- The double that a datum stands for. -/
def doubleFrom (d : Datum) : Eval Binary64 := do
  match d with
  | .str s => Eval.ofExcept (Numeral.float s)
  | .bytes b => Eval.ofExcept (Numeral.float (String.ofList (b.map fun x => Char.ofNat x.toNat)))
  | .missing why => Eval.missingFault why
  | d =>
    match d.number? with
    | some n => Eval.ofExcept (Number.double n)
    | none =>
      Eval.typeFault ("float() argument must be a string or a real number, not '" ++
        (← d.typeName) ++ "'")

/-- The integer that a datum stands for. -/
def intFrom (d base : Datum) : Eval Int := do
  match d with
  | .str s => Eval.ofExcept (intInBase s (← asIndex base))
  | .bytes b => Eval.ofExcept (intInBase (String.ofList (b.map fun x => Char.ofNat x.toNat)) 10)
  | .missing why => Eval.missingFault why
  | d =>
    match d.number? with
    | some (.int n) => return n
    | some (.float x) =>
      match x.truncate? with
      | some n => return n
      | none => throw (notFinite x)
    | none =>
      Eval.typeFault ("int() argument must be a string, a bytes-like object or a real number, " ++
        "not '" ++ (← d.typeName) ++ "'")

/-- Whether a failure says that an operand is unsuitable. -/
def saysUnsuitable (f : Failure) : Bool :=
  match f.kind with
  | .type | .value | .decoding | .base64 => true
  | _ => false

/-- The integer that a datum stands for, if necessary by way of a double, or else another value. -/
def intFilter (d : Datum) (i : Inputs) : Eval Datum := do
  let values ← Signature.bind ⟨"do_int", 0, ["value"], ["default", "base"]⟩ (i.after d)
  match ← Eval.attempt (intFrom d (given values 2 (.int 10))) with
  | .ok n => return .int n
  | .error f =>
    if !saysUnsuitable f then throw f
    let otherwise := given values 1 (.int 0)
    match ← Eval.attempt (doubleFrom d) with
    | .error f => if saysUnsuitable f ∨ f.kind = .overflow then return otherwise else throw f
    | .ok x =>
      match x.truncate? with
      | some n => return .int n
      | none => return otherwise

/-- The double that a datum stands for, or else another value. -/
def floatFilter (d : Datum) (i : Inputs) : Eval Datum := do
  let values ← Signature.bind ⟨"do_float", 0, ["value"], ["default"]⟩ (i.after d)
  match ← Eval.attempt (doubleFrom d) with
  | .ok x =>
    match d with
    | .float _ => return d
    | _ => Eval.fresh (.float x)
  | .error f =>
    if saysUnsuitable f then return given values 1 (.float .zero) else throw f

/-! ### Sums -/

/-- The sum of the items of a datum, or of an attribute of theirs. -/
def sumFilter (d : Datum) (i : Inputs) : Eval Datum := do
  let values ← Signature.bind
    ⟨"sync_do_sum", 1, ["iterable"], ["attribute", "start"]⟩ (i.after d)
  let path ← pathOf (given values 1 .null)
  let c ← d.cursor
  let start := given values 2 (.int 0)
  match start with
  | .str _ => Eval.typeFault "sum() can't sum strings [use ''.join(seq) instead]"
  | .bytes _ => Eval.typeFault "sum() can't sum bytes [use b''.join(seq) instead]"
  | _ =>
    let (items, fault) ← c.restBefore
    let total ← items.foldlM (fun sum item => do sum.add (← follow path none item)) start
    match fault with
    | some f => throw f
    | none => return total

end Playbook.Template
