import Playbook.Decimal.Shortest

/-!
# Writing numbers in decimal

A double is written with its shortest digits, positionally where its point is near and otherwise
with an exponent; a set number of places rounds the exact value, ties to even.

Main definitions:

- `Binary64.text`: the shortest text of a double;
- `Binary64.fixed`, `Binary64.scientific`, `Binary64.general`: a set number of places, of places
  with an exponent, and of significant digits;
- `Binary64.roundTo`: the double nearest to the value rounded to a number of places.
-/

namespace Playbook

namespace Decimal

/-- The digits of a natural in base ten. -/
def digitChars (n : Nat) : List Char := Nat.toDigits 10 n

/-- An exponent with its sign and at least two digits. -/
def exponentChars (e : Int) : List Char :=
  let ds := digitChars e.natAbs
  (if e < 0 then '-' else '+') :: (if ds.length < 2 then '0' :: ds else ds)

/-- The digits as `d.ddd` with an exponent mark. -/
def withExponent (d : Decimal) (mark : Char := 'e') : List Char :=
  let ds := digitChars d.digits
  let e := d.point - 1
  match ds with
  | [] => []
  | [c] => c :: mark :: exponentChars e
  | c :: rest => c :: '.' :: rest ++ mark :: exponentChars e

/-- The digits positionally, with at least one digit on either side of the point. -/
def positional (d : Decimal) : List Char :=
  let ds := digitChars d.digits
  if d.point ≤ 0 then '0' :: '.' :: (List.replicate (-d.point).toNat '0' ++ ds)
  else
    let p := d.point.toNat
    if ds.length ≤ p then ds ++ List.replicate (p - ds.length) '0' ++ ['.', '0']
    else ds.take p ++ '.' :: ds.drop p

end Decimal

/-- Which decimals are written positionally: those whose point lies in a range. -/
structure PositionalRange where
  /-- Points at or below this one take an exponent. -/
  below : Int
  /-- Points above this one take an exponent. -/
  above : Int

namespace Binary64

/-- Numbers in `[10 ^ -4, 10 ^ 16)` are written positionally. -/
def textRange : PositionalRange := ⟨-4, 16⟩

/-- The shortest text of a double: `1.0`, `1e+16`, `-0.0`, `inf`, `nan`. -/
def text (x : Binary64) : String :=
  match x.classify with
  | .nan => "nan"
  | .infinite neg => if neg then "-inf" else "inf"
  | .finite neg m e =>
    let sign := if neg then "-" else ""
    if m = 0 then sign ++ "0.0"
    else
      let d := shortest m e
      let body :=
        if d.point ≤ textRange.below || d.point > textRange.above then d.withExponent
        else d.positional
      sign ++ String.ofList body

/-! ### A set number of digits -/

/-- `value * 10 ^ places` rounded to a natural, ties to even. -/
def roundedAt (m : Nat) (e : Int) (places : Int) : Nat :=
  let (n, d) : Nat × Nat := if e ≥ 0 then (m * Nat.pow 2 e.toNat, 1) else (m, Nat.pow 2 (-e).toNat)
  if places ≥ 0 then roundHalfEven (n * Nat.pow 10 places.toNat) d
  else roundHalfEven n (d * Nat.pow 10 (-places).toNat)

/-- Text of a value that is not finite. -/
private def specialText? (x : Binary64) : Option String :=
  match x.classify with
  | .nan => some "nan"
  | .infinite neg => some (if neg then "-inf" else "inf")
  | .finite .. => none

/-- `k / 10 ^ places` with just that many places. -/
def placesChars (k places : Nat) : List Char :=
  let ds := Decimal.digitChars k
  let ds := if ds.length ≤ places then List.replicate (places + 1 - ds.length) '0' ++ ds else ds
  if places = 0 then ds
  else ds.take (ds.length - places) ++ '.' :: ds.drop (ds.length - places)

/-- The number with a set count of places: `3.14`; `keep` retains a point that nothing follows. -/
def fixed (x : Binary64) (places : Nat) (keep : Bool := false) : String :=
  match specialText? x, x.classify with
  | some s, _ => s
  | none, .finite neg m e =>
    let body := placesChars (roundedAt m e places) places
    (if neg then "-" else "") ++ String.ofList (body ++ if keep && places == 0 then ['.'] else [])
  | none, _ => ""

/-- The value rounded to `count` significant digits, with the place of its point. -/
def significant (m : Nat) (e : Int) (count : Nat) : Nat × Int :=
  let (n, d) : Nat × Nat := if e ≥ 0 then (m * Nat.pow 2 e.toNat, 1) else (m, Nat.pow 2 (-e).toNat)
  let point := decimalPoint n d
  let k := roundedAt m e (count - point)
  if k = Nat.pow 10 count then (Nat.pow 10 (count - 1), point + 1) else (k, point)

/-- Digits with a point after the first one. A point that nothing follows is left out, unless
`keep` retains it. -/
def pointed (keep : Bool) : List Char → List Char
  | [] => []
  | c :: rest => if rest.isEmpty && !keep then [c] else c :: '.' :: rest

/-- The number with a set count of places and an exponent: `3.14e+00`; `keep` retains a point that
nothing follows. -/
def scientific (x : Binary64) (places : Nat) (mark : Char := 'e') (keep : Bool := false) :
    String :=
  match specialText? x, x.classify with
  | some s, _ => s
  | none, .finite neg m e =>
    let (k, point) : Nat × Int := if m = 0 then (0, 1) else significant m e (places + 1)
    let ds := Decimal.digitChars k
    let ds := if m = 0 then List.replicate (places + 1) '0' else ds
    (if neg then "-" else "") ++
      String.ofList (pointed keep ds ++ mark :: Decimal.exponentChars (point - 1))
  | none, _ => ""

/-- Digits without the zeros at their end, of which the first stays. -/
def withoutZeros : List Char → List Char
  | [] => []
  | c :: rest => c :: (rest.reverse.dropWhile (· == '0')).reverse

/-- The number with at most a set count of significant digits and no zeros at the end, with an
exponent where the point lies far off. `keep` retains the zeros, and a point that nothing follows;
`dotted` asks for a digit after the point, so that one more number takes an exponent. -/
def general (x : Binary64) (count : Nat) (mark : Char := 'e') (keep dotted : Bool := false) :
    String :=
  let count := if count = 0 then 1 else count
  match specialText? x, x.classify with
  | some s, _ => s
  | none, .finite neg m e =>
    let (k, point) : Nat × Int := if m = 0 then (0, 1) else significant m e count
    let ds := if m = 0 then List.replicate count '0' else Decimal.digitChars k
    let ds := if keep then ds else withoutZeros ds
    let last : Int := if dotted then (count : Int) - 1 else count
    let body :=
      if point > last || point ≤ -4 then
        pointed keep ds ++ mark :: Decimal.exponentChars (point - 1)
      else
        let (whole, fraction) : List Char × List Char :=
          if point ≤ 0 then (['0'], List.replicate (-point).toNat '0' ++ ds)
          else
            let p := point.toNat
            (ds.take p ++ List.replicate (p - ds.length) '0', ds.drop p)
        let fraction := if fraction.isEmpty && dotted then ['0'] else fraction
        whole ++ if fraction.isEmpty && !keep then [] else '.' :: fraction
    (if neg then "-" else "") ++ String.ofList body
  | none, _ => ""

/-- The double nearest to the exact value rounded to `places` decimal places, ties to even. A
result past the largest double is an infinity. -/
def roundTo (x : Binary64) (places : Int) : Binary64 :=
  match x.classify with
  | .finite neg m e =>
    -- With so many places nothing is rounded, and with so few nothing remains.
    if places > 400 then x
    else if places < -400 then ofRatio neg 0 1
    else
      let k := roundedAt m e places
      if places ≥ 0 then ofRatio neg k (Nat.pow 10 places.toNat)
      else ofRatio neg (k * Nat.pow 10 (-places).toNat) 1
  | _ => x

end Binary64

end Playbook
