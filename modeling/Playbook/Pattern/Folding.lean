import Playbook.Unicode.Char

/-!
# Letters that match without regard to case

Two characters match without regard to case if they have the same lower case, or if their lower
cases have the same upper case.

Main definitions:

- `Folding`: whether case counts, and for which characters;
- `Folding.fold`: the lower case of a character, `Folding.variants`: the lower cases that match it.
-/

namespace Playbook.Pattern

/-- Characters in lower case with the other ones of the same upper case. -/
def siblings : List (Nat × List Nat) :=
  [
    (0x0069, [0x0131]), (0x0073, [0x017F]), (0x00B5, [0x03BC]), (0x0131, [0x0069]),
    (0x017F, [0x0073]), (0x0345, [0x03B9, 0x1FBE]), (0x0390, [0x1FD3]), (0x03B0, [0x1FE3]),
    (0x03B2, [0x03D0]), (0x03B5, [0x03F5]), (0x03B8, [0x03D1]), (0x03B9, [0x0345, 0x1FBE]),
    (0x03BA, [0x03F0]), (0x03BC, [0x00B5]), (0x03C0, [0x03D6]), (0x03C1, [0x03F1]),
    (0x03C2, [0x03C3]), (0x03C3, [0x03C2]), (0x03C6, [0x03D5]), (0x03D0, [0x03B2]),
    (0x03D1, [0x03B8]), (0x03D5, [0x03C6]), (0x03D6, [0x03C0]), (0x03F0, [0x03BA]),
    (0x03F1, [0x03C1]), (0x03F5, [0x03B5]), (0x0432, [0x1C80]), (0x0434, [0x1C81]),
    (0x043E, [0x1C82]), (0x0441, [0x1C83]), (0x0442, [0x1C84, 0x1C85]), (0x044A, [0x1C86]),
    (0x0463, [0x1C87]), (0x1C80, [0x0432]), (0x1C81, [0x0434]), (0x1C82, [0x043E]),
    (0x1C83, [0x0441]), (0x1C84, [0x0442, 0x1C85]), (0x1C85, [0x0442, 0x1C84]),
    (0x1C86, [0x044A]), (0x1C87, [0x0463]), (0x1C88, [0xA64B]), (0x1E61, [0x1E9B]),
    (0x1E9B, [0x1E61]), (0x1FBE, [0x0345, 0x03B9]), (0x1FD3, [0x0390]), (0x1FE3, [0x03B0]),
    (0xA64B, [0x1C88]), (0xFB05, [0xFB06]), (0xFB06, [0xFB05])]

/-- How the case of letters counts. -/
inductive Folding where
  /-- Case counts. -/
  | exact
  /-- Case does not count for ASCII letters. -/
  | ascii
  /-- Case does not count. -/
  | full
deriving DecidableEq, Repr

namespace Folding

/-- The only or first character of a mapped one, by number. -/
private def headOf (n : Nat) (mapped : List Char) : Nat := (mapped.head?.map Char.toNat).getD n

/-- The lower case of a code point. -/
def lowerOf (n : Nat) : Nat := headOf n (Unicode.lowerChar (Char.ofNat n))

/-- The upper case of a code point. -/
def upperOf (n : Nat) : Nat := headOf n (Unicode.upperChar (Char.ofNat n))

/-- Whether a code point is a surrogate or past the last one, so that it is no character. -/
def isForeign (n : Nat) : Bool := !decide n.isValidChar

/-- The code point by which a character is compared. -/
def fold (f : Folding) (n : Nat) : Nat :=
  match f with
  | .exact => n
  | .ascii => if 65 ≤ n ∧ n ≤ 90 then n + 32 else n
  | .full => if isForeign n then n else lowerOf n

/-- Whether a character has another case. -/
def isCased (f : Folding) (n : Nat) : Bool :=
  match f with
  | .exact => false
  | .ascii => (65 ≤ n && n ≤ 90) || (97 ≤ n && n ≤ 122)
  | .full => !isForeign n && (lowerOf n != n || upperOf n != n)

/-- The lower cases that match a lower case: itself and those of the same upper case. -/
def variants (f : Folding) (n : Nat) : List Nat :=
  match f with
  | .full => n :: ((siblings.lookup n).getD [])
  | _ => [n]

/-- Whether two characters are the same. -/
def same (f : Folding) (a b : Nat) : Bool := f.fold a == f.fold b

/-- Capital letters whose lower case has another upper case. -/
def strayCapitals : List Nat := [0x130, 0x3F4, 0x1E9E, 0x2126, 0x212A, 0x212B]

/-- The code points that may have a lower case. -/
def origins (n : Nat) : List Nat := n :: upperOf n :: strayCapitals

/-- Whether a lower case matches one of the characters of a range. -/
def inRange (f : Folding) (first last n : Nat) : Bool :=
  match f with
  | .exact => decide (first ≤ n) && decide (n ≤ last)
  | .ascii =>
    (decide (first ≤ n) && decide (n ≤ last)) ||
      (decide (97 ≤ n) && decide (n ≤ 122) && decide (first ≤ n - 32) && decide (n - 32 ≤ last))
  | .full =>
    (variants .full n).any fun v => (origins v).any fun o =>
      decide (first ≤ o) && decide (o ≤ last) && fold .full o == v

end Folding

end Playbook.Pattern
