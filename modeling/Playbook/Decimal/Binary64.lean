/-!
# Double precision numbers

A number of the binary64 format is kept as its 64 bits, so that two numbers are the same exactly
when their bits are, and everything that reads the bits stays computable by the kernel.

Main definitions:

- `Binary64`: the 64 bits of a double;
- `Binary64.classify`: what the bits denote, a signed `mantissa * 2 ^ exponent`, an infinity or
  no number;
- `Binary64.ofRatio`: the double nearest to a quotient of naturals, ties to the even mantissa;
- `Binary64.compareInt`, `Binary64.compare`: exact comparison, of numbers of both kinds.
-/

namespace Playbook

/-- A double, given by its bits: one of sign, eleven of exponent, fifty-two of fraction. -/
structure Binary64 where
  /-- The bits, the sign the most significant. -/
  bits : UInt64
deriving DecidableEq, Repr, Inhabited

namespace Binary64

/-! ### Machine arithmetic -/

/-- The machine number with these bits. -/
def toFloat (x : Binary64) : Float := Float.ofBits x.bits

/-- The bits of a machine number. -/
def ofFloat (x : Float) : Binary64 := ⟨x.toBits⟩

instance : Add Binary64 := ⟨fun x y => ofFloat (x.toFloat + y.toFloat)⟩
instance : Sub Binary64 := ⟨fun x y => ofFloat (x.toFloat - y.toFloat)⟩
instance : Mul Binary64 := ⟨fun x y => ofFloat (x.toFloat * y.toFloat)⟩
instance : Div Binary64 := ⟨fun x y => ofFloat (x.toFloat / y.toFloat)⟩

/-! ### Reading the bits -/

/-- What a double denotes. -/
inductive Class where
  /-- No number. -/
  | nan
  /-- An infinity with its sign. -/
  | infinite (negative : Bool)
  /-- The number `± mantissa * 2 ^ exponent`. -/
  | finite (negative : Bool) (mantissa : Nat) (exponent : Int)
deriving DecidableEq, Repr

/-- Whether the sign bit is set. -/
def isNegative (x : Binary64) : Bool := decide (Nat.pow 2 63 ≤ x.bits.toNat)

/-- The exponent field. -/
def exponentField (x : Binary64) : Nat := x.bits.toNat / Nat.pow 2 52 % Nat.pow 2 11

/-- The fraction field. -/
def fractionField (x : Binary64) : Nat := x.bits.toNat % Nat.pow 2 52

/-- What the bits denote. -/
def classify (x : Binary64) : Class :=
  let e := x.exponentField
  let f := x.fractionField
  if e = 2047 then
    if f = 0 then .infinite x.isNegative else .nan
  else if e = 0 then .finite x.isNegative f (-1074)
  else .finite x.isNegative (f + Nat.pow 2 52) ((e : Int) - 1075)

/-- Whether the bits denote no number. -/
def isNaN (x : Binary64) : Bool := x.exponentField == 2047 && x.fractionField != 0

/-- Whether the bits denote an infinity. -/
def isInfinite (x : Binary64) : Bool := x.exponentField == 2047 && x.fractionField == 0

/-- Whether the bits denote zero, of either sign. -/
def isZero (x : Binary64) : Bool := x.exponentField == 0 && x.fractionField == 0

/-- The number with the other sign. -/
def negate (x : Binary64) : Binary64 :=
  ⟨UInt64.ofNat (if x.isNegative then x.bits.toNat - Nat.pow 2 63 else x.bits.toNat + Nat.pow 2 63)⟩

instance : Neg Binary64 := ⟨negate⟩

/-- The number without its sign. -/
def magnitude (x : Binary64) : Binary64 := ⟨UInt64.ofNat (x.bits.toNat % Nat.pow 2 63)⟩

/-! ### Building a double -/

/-- Positive zero. -/
def zero : Binary64 := ⟨0⟩

/-- One. -/
def one : Binary64 := ⟨0x3FF0000000000000⟩

/-- The infinity of a sign. -/
def infinity (negative : Bool) : Binary64 :=
  ⟨if negative then 0xFFF0000000000000 else 0x7FF0000000000000⟩

/-- The quiet bits that denote no number. -/
def nan : Binary64 := ⟨0x7FF8000000000000⟩

/-- Bits that denote no number and bear a mark. -/
def markedNaN (mark : Nat) : Binary64 := ⟨UInt64.ofNat (0x7FF8000000000000 + mark % Nat.pow 2 51)⟩

/-- The mark of bits that denote no number. -/
def mark (x : Binary64) : Nat := x.fractionField % Nat.pow 2 51

/-- The quotient of two naturals rounded to the nearest natural, ties to even. -/
def roundHalfEven (num den : Nat) : Nat :=
  let q := num / den
  let r := num % den
  if 2 * r < den then q
  else if 2 * r > den then q + 1
  else if q % 2 = 0 then q else q + 1

/-- The bits of `mantissa * 2 ^ exponent`, where the mantissa has at most 53 bits and either fills
them all or the exponent is the least one. A result past the largest double is an infinity. -/
def pack (negative : Bool) (mantissa : Nat) (exponent : Int) : Binary64 :=
  let sign := if negative then Nat.pow 2 63 else 0
  -- A mantissa that rounding carried to 54 bits is even: halve it.
  let (m, e) :=
    if mantissa = Nat.pow 2 53 then (Nat.pow 2 52, exponent + 1) else (mantissa, exponent)
  if m < Nat.pow 2 52 then ⟨UInt64.ofNat (sign + m)⟩
  else if e > 971 then infinity negative
  else ⟨UInt64.ofNat (sign + (e + 1075).toNat * Nat.pow 2 52 + (m - Nat.pow 2 52))⟩

/-- The double nearest to `± num / den`, ties to the even mantissa; `den` is not zero. -/
def ofRatio (negative : Bool) (num den : Nat) : Binary64 :=
  if num = 0 then ⟨if negative then 0x8000000000000000 else 0⟩
  else
    -- `2 ^ (shift - 1) < num / den < 2 ^ (shift + 1)`
    let shift : Int := (num.log2 : Int) - den.log2
    let scaled (e : Int) : Nat × Nat :=
      if e ≥ 0 then (num, den * Nat.pow 2 e.toNat) else (num * Nat.pow 2 (-e).toNat, den)
    -- The exponent at which the quotient has 53 bits, but not below the least one.
    let e₀ := shift - 52
    let (a, b) := scaled e₀
    let e₁ := if a / b < Nat.pow 2 52 then e₀ - 1 else e₀
    let e := if e₁ < -1074 then -1074 else e₁
    let (n, d) := scaled e
    pack negative (roundHalfEven n d) e

/-- The double nearest to an integer; past the largest double, an infinity. -/
def ofInt (i : Int) : Binary64 := ofRatio (i < 0) i.natAbs 1

/-- The double nearest to `± digits * 10 ^ exponent`. -/
def ofDecimal (negative : Bool) (digits : Nat) (exponent : Int) : Binary64 :=
  if digits = 0 then ofRatio negative 0 1
  else
    -- Beyond these bounds the answer is an infinity or zero whatever the digits are.
    let length := digits.log2 / 3 + 1
    if exponent > 400 then infinity negative
    else if exponent < -400 - length then ofRatio negative 0 1
    else if exponent ≥ 0 then ofRatio negative (digits * Nat.pow 10 exponent.toNat) 1
    else ofRatio negative digits (Nat.pow 10 (-exponent).toNat)

/-! ### Exact values -/

/-- The exact value as a quotient, `none` for what is not a finite number. The sign is the
numerator's. -/
def toRatio? (x : Binary64) : Option (Int × Nat) :=
  match x.classify with
  | .finite neg m e =>
    let (n, d) : Nat × Nat :=
      if e ≥ 0 then (m * Nat.pow 2 e.toNat, 1)
      else
        -- Bring the fraction to lowest terms, which its integral part may already be.
        let k := (-e).toNat
        let g := Nat.gcd m (Nat.pow 2 k)
        if g = 0 then (0, 1) else (m / g, Nat.pow 2 k / g)
    some (if neg then -(n : Int) else n, d)
  | _ => none

/-- The integer toward zero from a finite number. -/
def truncate? (x : Binary64) : Option Int :=
  x.toRatio?.map fun (n, d) => n.tdiv d

/-- The integer a finite number is equal to, if there is one. -/
def toInt? (x : Binary64) : Option Int :=
  match x.toRatio? with
  | some (n, 1) => some n
  | _ => none

/-- Order of a finite or infinite number and an integer; `none` for no number. -/
def compareInt (x : Binary64) (i : Int) : Option Ordering :=
  match x.classify with
  | .nan => none
  | .infinite neg => some (if neg then .lt else .gt)
  | .finite .. =>
    match x.toRatio? with
    | some (n, d) => some (Ord.compare n (i * d))
    | none => none

/-- Order of two doubles; `none` when either is no number. Zeros of both signs are equal. -/
def compare (x y : Binary64) : Option Ordering :=
  match x.classify, y.classify with
  | .nan, _ => none
  | _, .nan => none
  | .infinite a, .infinite b => some (if a == b then .eq else if a then .lt else .gt)
  | .infinite a, .finite .. => some (if a then .lt else .gt)
  | .finite .., .infinite b => some (if b then .gt else .lt)
  | .finite .., .finite .. =>
    match x.toRatio?, y.toRatio? with
    | some (n, d), some (n', d') => some (Ord.compare (n * d') (n' * d))
    | _, _ => none

/-- Numeric equality: no number differs from itself, and zeros of both signs are equal. -/
def numEq (x y : Binary64) : Bool := x.compare y == some .eq

end Binary64

end Playbook
