import Playbook.Decimal.Binary64

/-!
# The shortest decimal of a double

The decimal of a finite double is the one with the fewest significant digits among those that
read back to it, and the nearest of these to its exact value; of two equally near ones, the one
whose last digit is even. The digits are selected in exact arithmetic: for each digit count in
turn, the two neighbours of the value on the decimal grid of that count are tried.

Main definitions:

- `Decimal`: digits with the place of the decimal point;
- `Binary64.shortest`: the shortest decimal of a double.
-/

namespace Playbook

/-- A positive decimal `0.d₁d₂… * 10 ^ point`, by its digits and the place of its point. -/
structure Decimal where
  /-- The digits as one natural number, whose last digit is not zero. -/
  digits : Nat
  /-- How many digits stand before the decimal point; the digits are those of a number in
  `[10 ^ (point - 1), 10 ^ point)`. -/
  point : Int
deriving DecidableEq, Repr, Inhabited

namespace Decimal

/-- Drop the zeros at the end of a digit string, at most as many as the fuel. -/
def stripZeros : Nat → Nat → Nat
  | 0, n => n
  | fuel + 1, n => if n % 10 = 0 ∧ n ≠ 0 then stripZeros fuel (n / 10) else n

/-- How many decimal digits a natural has, with as many steps as the fuel; zero has none. -/
def digitCount : Nat → Nat → Nat
  | 0, _ => 0
  | fuel + 1, n => if n = 0 then 0 else digitCount fuel (n / 10) + 1

/-- How many decimal digits a natural has; zero has none. -/
def width (n : Nat) : Nat := digitCount (n.log2 + 1) n

end Decimal

namespace Binary64

/-- The quotient `num / den`, scaled by a power of ten. -/
private def scale10 (num den : Nat) (e : Int) : Nat × Nat :=
  if e ≥ 0 then (num * Nat.pow 10 e.toNat, den) else (num, den * Nat.pow 10 (-e).toNat)

/-- The least `point` with `num / den < 10 ^ point`. -/
def decimalPoint (num den : Nat) : Int :=
  -- Off by at most one from the number of digits of the quotient.
  let guess : Int := (Decimal.width num : Int) - Decimal.width den
  let (n, d) := scale10 num den (-guess)
  if n < d then guess else guess + 1

/-- The interval of numbers that round to a finite double `m * 2 ^ e`, with its value, over one
denominator: lower end, value, upper end, denominator, and whether the ends belong to it. -/
def roundingInterval (m : Nat) (e : Int) : Nat × Nat × Nat × Nat × Bool :=
  -- Below a power of two the doubles lie twice as dense.
  let denseBelow := decide (m = Nat.pow 2 52) && decide (e > -1074)
  let (num, den) : Nat × Nat := if e ≥ 0 then (Nat.pow 2 e.toNat, 1) else (1, Nat.pow 2 (-e).toNat)
  -- In quarters of a unit in the last place.
  let below := if denseBelow then 1 else 2
  ((4 * m - below) * num, 4 * m * num, (4 * m + 2) * num, 4 * den, m % 2 == 0)

/-- Among the two neighbours of the value on the grid of `10 ^ (point - count)`, the nearest that
lies in the rounding interval. -/
def onGrid? (lo value hi den : Nat) (closed : Bool) (point : Int) (count : Nat) : Option Nat :=
  -- Everything is measured in units of the grid over one denominator.
  let e : Int := count - point
  let f : Nat := if e ≥ 0 then Nat.pow 10 e.toNat else 1
  let unit : Nat := if e ≥ 0 then den else den * Nat.pow 10 (-e).toNat
  let v := value * f
  let below := v / unit
  let above := below + 1
  let inside (k : Nat) : Bool :=
    if closed then decide (lo * f ≤ k * unit) && decide (k * unit ≤ hi * f)
    else decide (lo * f < k * unit) && decide (k * unit < hi * f)
  let down := v - below * unit
  let up := above * unit - v
  match inside below && below != 0, inside above with
  | true, true =>
    some (if down < up then below else if up < down then above
      else if below % 2 = 0 then below else above)
  | true, false => some below
  | false, true => some above
  | false, false => none

/-- The first grid with a hit, from `count` digits on. -/
def firstHit (lo value hi den : Nat) (closed : Bool) (point : Int) : Nat → Nat → Option (Nat × Nat)
  | 0, _ => none
  | fuel + 1, count =>
    match onGrid? lo value hi den closed point count with
    | some k => some (k, count)
    | none => firstHit lo value hi den closed point fuel (count + 1)

/-- The shortest decimal of the positive double `m * 2 ^ e`. -/
def shortest (m : Nat) (e : Int) : Decimal :=
  let (lo, value, hi, den, closed) := roundingInterval m e
  let point := decimalPoint value den
  match firstHit lo value hi den closed point 17 1 with
  | some (k, count) =>
    -- A neighbour above can carry into one digit more.
    let carried := if k = Nat.pow 10 count then 1 else 0
    ⟨Decimal.stripZeros 18 k, point + carried⟩
  | none => ⟨0, 0⟩

end Binary64

end Playbook
