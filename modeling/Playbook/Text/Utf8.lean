/-!
# UTF-8

Texts as bytes and back. Decoding refuses the first byte sequence that encodes no character and
says where it lies and why.

Main definitions:

- `Utf8.encode`: the bytes of a text;
- `Utf8.decode`: the text of bytes, or the first fault.
-/

namespace Playbook

/-- Why bytes could not be decoded, and which. -/
structure DecodingFault where
  /-- The encoding tried. -/
  encoding : String
  /-- Position of the first byte at fault. -/
  start : Nat
  /-- Position after the last byte at fault. -/
  stop : Nat
  /-- The first byte at fault. -/
  byte : UInt8
  /-- What is wrong with it. -/
  reason : String
deriving DecidableEq, Repr

namespace Utf8

/-! ### Encoding -/

/-- The byte `offset + n`, for small `n`. -/
private def byteOf (n : Nat) : UInt8 := UInt8.ofNat n

/-- The bytes of one character. -/
def encodeChar (c : Char) : List UInt8 :=
  let n := c.toNat
  if n < 0x80 then [byteOf n]
  else if n < 0x800 then [byteOf (0xC0 + n / 0x40), byteOf (0x80 + n % 0x40)]
  else if n < 0x10000 then
    [byteOf (0xE0 + n / 0x1000), byteOf (0x80 + n / 0x40 % 0x40), byteOf (0x80 + n % 0x40)]
  else
    [byteOf (0xF0 + n / 0x40000), byteOf (0x80 + n / 0x1000 % 0x40),
      byteOf (0x80 + n / 0x40 % 0x40), byteOf (0x80 + n % 0x40)]

/-- The bytes of a text. -/
def encode (s : List Char) : List UInt8 := s.flatMap encodeChar

/-! ### Decoding -/

/-- How a byte sequence fails to begin with a character. -/
inductive Refusal where
  /-- No character starts with this byte. -/
  | badStart
  /-- The text ends inside a character. -/
  | cutShort
  /-- After `valid` good bytes of a character comes one that cannot continue it. -/
  | badContinuation (valid : Nat)
deriving DecidableEq, Repr

/-- Whether a byte continues a character. -/
def isTail (b : Nat) : Bool := 0x80 ≤ b && b < 0xC0

/-- Whether a second byte may follow a first one: neither an overlong form, nor a surrogate, nor
past the last code point. -/
def isSecond (a b : Nat) : Bool :=
  isTail b &&
    (if a = 0xE0 then 0xA0 ≤ b else if a = 0xED then b < 0xA0
      else if a = 0xF0 then 0x90 ≤ b else if a = 0xF4 then b < 0x90 else true)

/-- The code point of a lead byte's bits and the bits of its tails. -/
private def join (lead : Nat) (tails : List Nat) : Char :=
  Char.ofNat (tails.foldl (fun n b => n * 0x40 + b % 0x40) lead)

/-- The first character of a byte sequence and how many bytes it takes. -/
def first (a : Nat) (rest : List UInt8) : Except Refusal (Char × Nat) :=
  if a < 0x80 then .ok (Char.ofNat a, 1)
  else if a < 0xC2 then .error .badStart
  else if a < 0xE0 then
    match rest with
    | [] => .error .cutShort
    | b :: _ =>
      if isTail b.toNat then .ok (join (a % 0x20) [b.toNat], 2)
      else .error (.badContinuation 1)
  else if a < 0xF0 then
    match rest with
    | [] => .error .cutShort
    | b :: rest =>
      if ¬ isSecond a b.toNat then .error (.badContinuation 1)
      else match rest with
        | [] => .error .cutShort
        | c :: _ =>
          if isTail c.toNat then .ok (join (a % 0x10) [b.toNat, c.toNat], 3)
          else .error (.badContinuation 2)
  else if a < 0xF5 then
    match rest with
    | [] => .error .cutShort
    | b :: rest =>
      if ¬ isSecond a b.toNat then .error (.badContinuation 1)
      else match rest with
        | [] => .error .cutShort
        | c :: rest =>
          if ¬ isTail c.toNat then .error (.badContinuation 2)
          else match rest with
            | [] => .error .cutShort
            | d :: _ =>
              if isTail d.toNat then .ok (join (a % 0x8) [b.toNat, c.toNat, d.toNat], 4)
              else .error (.badContinuation 3)
  else .error .badStart

/-- The fault of a refusal at a position, with the count of bytes from there on. -/
def Refusal.fault (byte : UInt8) (position remaining : Nat) : Refusal → DecodingFault
  | .badStart => ⟨"utf-8", position, position + 1, byte, "invalid start byte"⟩
  | .cutShort => ⟨"utf-8", position, position + remaining, byte, "unexpected end of data"⟩
  | .badContinuation valid =>
    ⟨"utf-8", position, position + valid, byte, "invalid continuation byte"⟩

/-- Decode from a position on, skipping the bytes of the character just read. -/
def decodeFrom : Nat → Nat → List UInt8 → Except DecodingFault (List Char)
  | _, _, [] => .ok []
  | position, skip + 1, _ :: rest => decodeFrom (position + 1) skip rest
  | position, 0, a :: rest =>
    match first a.toNat rest with
    | .ok (c, count) => (c :: ·) <$> decodeFrom (position + 1) (count - 1) rest
    | .error why => .error (why.fault a position (rest.length + 1))

/-- The text of bytes. -/
def decode (bytes : List UInt8) : Except DecodingFault (List Char) := decodeFrom 0 0 bytes

end Utf8

end Playbook
