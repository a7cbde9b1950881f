import Playbook.Decimal.Binary64

/-!
# Arithmetic of doubles

Sums, products, quotients and powers are rounded once from the exact result. The remainder of a
division rounded down is exact up to the last addition and has the sign of the divisor.

Main definitions: `Binary64.add`, `Binary64.subtract`, `Binary64.multiply`, `Binary64.divide`,
`Binary64.floorQuotient`, `Binary64.remainder`, `Binary64.power`, `Binary64.complexPower`,
`Binary64.floorInt?`, `Binary64.ceilInt?`.
-/

namespace Playbook.Binary64

/-- The sum. -/
def add (x y : Binary64) : Binary64 := ofFloat (x.toFloat + y.toFloat)

/-- The difference. -/
def subtract (x y : Binary64) : Binary64 := ofFloat (x.toFloat - y.toFloat)

/-- The product. -/
def multiply (x y : Binary64) : Binary64 := ofFloat (x.toFloat * y.toFloat)

/-- The quotient. -/
def divide (x y : Binary64) : Binary64 := ofFloat (x.toFloat / y.toFloat)

/-- The power. -/
def power (x y : Binary64) : Binary64 := ofFloat (Float.pow x.toFloat y.toFloat)

/-- The real and the imaginary part of the principal power, for numbers whose power is not real. -/
def complexPower (x y : Binary64) : Binary64 × Binary64 :=
  let size := Float.pow x.toFloat.abs y.toFloat
  let angle := Float.atan2 0 x.toFloat * y.toFloat
  (ofFloat (size * angle.cos), ofFloat (size * angle.sin))

/-- The number with the sign of another one. -/
def withSignOf (x y : Binary64) : Binary64 :=
  if x.isNegative == y.isNegative then x else x.negate

/-- The remainder of the quotient rounded toward zero. -/
def truncatedRemainder (x y : Binary64) : Binary64 :=
  match x.toRatio?, y.toRatio? with
  | some (n, d), some (n', d') =>
    if n' = 0 then nan
    else ofRatio x.isNegative ((n.natAbs * d') % (n'.natAbs * d)) (d * d')
  | some _, none => if y.isNaN then nan else x
  | none, _ => nan

/-- The remainder and the quotient of the division rounded down. -/
def floorDivide (x y : Binary64) : Binary64 × Binary64 :=
  let m := truncatedRemainder x y
  let q := (x.subtract m).divide y
  let (m, q) :=
    if m.isZero then (zero.withSignOf y, q)
    else if m.isNegative != y.isNegative then (m.add y, q.subtract one)
    else (m, q)
  if q.isZero then (m, zero.withSignOf (x.divide y))
  else
    let whole := ofFloat q.toFloat.floor
    let half := ofRatio false 1 2
    if (q.subtract whole).compare half == some .gt then (m, whole.add one) else (m, whole)

/-- The quotient rounded down. -/
def floorQuotient (x y : Binary64) : Binary64 := (floorDivide x y).2

/-- The remainder of the quotient rounded down. -/
def remainder (x y : Binary64) : Binary64 :=
  let m := truncatedRemainder x y
  if m.isZero then zero.withSignOf y
  else if m.isNegative != y.isNegative then m.add y
  else m

/-- The greatest integer that is not above a finite number. -/
def floorInt? (x : Binary64) : Option Int := x.toRatio?.map fun (n, d) => n.fdiv d

/-- The least integer that is not below a finite number. -/
def ceilInt? (x : Binary64) : Option Int := x.toRatio?.map fun (n, d) => -((-n).fdiv d)

end Playbook.Binary64
