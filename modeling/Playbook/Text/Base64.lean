/-!
# Base 64

Bytes written with sixty-four characters, four for every three bytes. Decoding is lenient: it
passes over characters outside the alphabet and ends at complete padding.

Main definitions:

- `Base64.encode`: the text of bytes;
- `Base64.decode`: the bytes of a text, or why there are none.
-/

namespace Playbook

namespace Base64

/-! ### Alphabet -/

/-- The character of a value below 64. -/
def charOf (n : Nat) : Char :=
  if n < 26 then Char.ofNat (n + 'A'.toNat)
  else if n < 52 then Char.ofNat (n - 26 + 'a'.toNat)
  else if n < 62 then Char.ofNat (n - 52 + '0'.toNat)
  else if n = 62 then '+'
  else '/'

/-- The value of a character of the alphabet. -/
def valueOf? (c : Char) : Option Nat :=
  if c.isUpper then some (c.toNat - 'A'.toNat)
  else if c.isLower then some (c.toNat - 'a'.toNat + 26)
  else if c.isDigit then some (c.toNat - '0'.toNat + 52)
  else if c = '+' then some 62
  else if c = '/' then some 63
  else none

/-! ### Encoding -/

/-- The text of bytes: groups of three, the last one padded. -/
def encode : List UInt8 → List Char
  | [] => []
  | [a] =>
    let n := a.toNat
    [charOf (n / 4), charOf (n % 4 * 16), '=', '=']
  | [a, b] =>
    let n := a.toNat * 256 + b.toNat
    [charOf (n / 1024), charOf (n / 16 % 64), charOf (n % 16 * 4), '=']
  | a :: b :: c :: rest =>
    let n := (a.toNat * 256 + b.toNat) * 256 + c.toNat
    charOf (n / 262144) :: charOf (n / 4096 % 64) :: charOf (n / 64 % 64) :: charOf (n % 64) ::
      encode rest

/-! ### Decoding -/

/-- Why a text is no base 64. -/
inductive Fault where
  /-- The text ends inside a group. -/
  | padding
  /-- One character is left over, which cannot encode a byte. -/
  | count (characters : Nat)
deriving DecidableEq, Repr

/-- What the fault is. -/
def Fault.message : Fault → String
  | .padding => "Incorrect padding"
  | .count n =>
    "Invalid base64-encoded string: number of data characters (" ++ toString n ++
      ") cannot be 1 more than a multiple of 4"

/-- The state of decoding: place in the group of four, the bits not yet written, how many padding
characters came in a row, and the bytes written, last first. -/
structure Progress where
  /-- Place in the group of four. -/
  place : Nat
  /-- The bits of the group not yet written. -/
  bits : Nat
  /-- Padding characters in a row. -/
  pads : Nat
  /-- The bytes so far, last first. -/
  written : List UInt8

/-- Read one character of the alphabet. -/
def Progress.feed (p : Progress) (v : Nat) : Progress :=
  match p.place with
  | 0 => ⟨1, v, 0, p.written⟩
  | 1 => ⟨2, v % 16, 0, UInt8.ofNat (p.bits * 4 + v / 16) :: p.written⟩
  | 2 => ⟨3, v % 4, 0, UInt8.ofNat (p.bits * 16 + v / 4) :: p.written⟩
  | _ => ⟨0, 0, 0, UInt8.ofNat (p.bits * 64 + v) :: p.written⟩

/-- Decode on. -/
def decodeFrom (p : Progress) : List Char → Except Fault (List UInt8)
  | [] =>
    if p.place = 0 then .ok p.written.reverse
    else if p.place = 1 then .error (.count (p.written.length / 3 * 4 + 1))
    else .error .padding
  | c :: rest =>
    if c = '=' then
      -- Padding that fills up a group ends the text, whatever follows.
      if 2 ≤ p.place ∧ 4 ≤ p.place + (p.pads + 1) then .ok p.written.reverse
      else decodeFrom { p with pads := if 2 ≤ p.place then p.pads + 1 else p.pads } rest
    else
      match valueOf? c with
      | none => decodeFrom p rest
      | some v => decodeFrom (p.feed v) rest

/-- The bytes of a text. -/
def decode (s : List Char) : Except Fault (List UInt8) := decodeFrom ⟨0, 0, 0, []⟩ s

end Base64

end Playbook
