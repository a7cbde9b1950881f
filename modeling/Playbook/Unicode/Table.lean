/-!
# Tables of characters

Properties of characters are kept as sorted tables of ranges and looked up by bisection.

Main definitions:

- `RangeTable`: a set of characters, as ranges;
- `StrideTable`: the same, as ranges that may skip every other character;
- `ShiftTable`: a mapping of characters, as ranges with a common distance, and exceptions.
-/

namespace Playbook.Unicode

/-- The last index in `[lo, lo + count)` whose key is not above `n`, by bisection; every key
before `lo` is assumed not to be above. -/
def bisect (key : Nat → Nat) (n : Nat) : Nat → Nat → Nat → Nat
  | 0, lo, _ => lo
  | fuel + 1, lo, count =>
    if count ≤ 1 then lo
    else
      let half := count / 2
      if key (lo + half) ≤ n then bisect key n fuel (lo + half) (count - half)
      else bisect key n fuel lo half

/-- A set of characters: disjoint ranges of code points in ascending order, ends included. -/
structure RangeTable where
  /-- First and last code point of each range. -/
  ranges : Array (Nat × Nat)

namespace RangeTable

/-- The range that would hold a code point: the last one that starts at or before it. -/
def rangeOf (t : RangeTable) (n : Nat) : Nat × Nat :=
  t.ranges.getD (bisect (fun i => (t.ranges.getD i (0, 0)).1) n 24 0 t.ranges.size) (1, 0)

/-- Whether a character is in the set. -/
def contains (t : RangeTable) (c : Char) : Bool :=
  let (lo, hi) := t.rangeOf c.toNat
  decide (lo ≤ c.toNat) && decide (c.toNat ≤ hi)

end RangeTable

/-- A set of characters: disjoint ranges of code points in ascending order, each with the step
from one member to the next. -/
structure StrideTable where
  /-- First and last code point and the step of each range. -/
  ranges : Array (Nat × Nat × Nat)

namespace StrideTable

/-- Whether a character is in the set. -/
def contains (t : StrideTable) (c : Char) : Bool :=
  let (lo, hi, step) :=
    t.ranges.getD
      (bisect (fun i => (t.ranges.getD i (0, 0, 1)).1) c.toNat 24 0 t.ranges.size) (1, 0, 1)
  decide (lo ≤ c.toNat) && decide (c.toNat ≤ hi) && (c.toNat - lo) % step == 0

end StrideTable

/-- A mapping of characters to texts: ranges of code points with a step and the distance to the
image, and the characters whose image has more than one character. -/
structure ShiftTable where
  /-- First and last code point, step and distance of each range. -/
  ranges : Array (Nat × Nat × Nat × Int)
  /-- Characters with a longer image. -/
  special : Array (Nat × List Nat)

namespace ShiftTable

/-- The image of a character; a character outside the table is its own image. -/
def map (t : ShiftTable) (c : Char) : List Char :=
  let n := c.toNat
  let (lo, hi, step, shift) :=
    t.ranges.getD
      (bisect (fun i => (t.ranges.getD i (0, 0, 1, 0)).1) n 24 0 t.ranges.size) (1, 0, 1, 0)
  if lo ≤ n ∧ n ≤ hi ∧ (n - lo) % step = 0 then [Char.ofNat ((n : Int) + shift).toNat]
  else
    let (k, image) :=
      t.special.getD (bisect (fun i => (t.special.getD i (0, [])).1) n 24 0 t.special.size) (0, [])
    if k = n ∧ ¬ image.isEmpty then image.map Char.ofNat else [c]

end ShiftTable

end Playbook.Unicode
