/-!
# Code points

A text is a row of code points, and an escape can put half of a surrogate pair into it, which is a
code point but no character. A character of the last private plane stands for such a half: it is
the only way in which these characters are used. So a text with halves has the length and the order
that its code points have, and only what writes it down has to know of them.

Main definitions:

- `CodePoint.toChar`, `CodePoint.ofChar`: the character that stands for a code point, and back;
- `CodePoint.isHalf`: whether a character stands for half of a pair.

Main statement: `CodePoint.ofChar_toChar_half`, every half is read back.
-/

namespace Playbook

namespace CodePoint

/-- The first half of a pair. -/
def firstHalf : Nat := 0xD800

/-- The number of halves. -/
def halves : Nat := 0x800

/-- How far the characters that stand for halves are from them. -/
def distance : Nat := 0x100000

/-- Whether a character stands for half of a pair. -/
def isHalf (c : Char) : Bool :=
  firstHalf + distance ≤ c.toNat && c.toNat < firstHalf + distance + halves

/-- The character that stands for a code point. -/
def toChar (n : Nat) : Char :=
  Char.ofNat (if firstHalf ≤ n ∧ n < firstHalf + halves then n + distance else n)

/-- The code point that a character stands for. -/
def ofChar (c : Char) : Nat := if isHalf c then c.toNat - distance else c.toNat

theorem toNat_ofNat {n : Nat} (h : n.isValidChar) : (Char.ofNat n).toNat = n := by
  rw [Char.ofNat, dif_pos h]
  rfl

theorem ofChar_toChar_half {n : Nat} (h : firstHalf ≤ n) (h' : n < firstHalf + halves) :
    ofChar (toChar n) = n := by
  have hn : (Char.ofNat (n + distance)).toNat = n + distance := by
    apply toNat_ofNat
    simp only [firstHalf, halves, distance, Nat.isValidChar] at *
    omega
  have hhalf : isHalf (Char.ofNat (n + distance)) = true := by
    simp only [isHalf, hn, Bool.and_eq_true, decide_eq_true_eq]
    omega
  simp only [toChar, h, h', and_self, if_true, ofChar, hhalf, hn]
  omega

end CodePoint

end Playbook
