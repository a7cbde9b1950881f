import Playbook.Text.Utf8

/-!
# UTF-16

Decoding of texts stored as units of two bytes, in either byte order.

Main definition: `Utf16.decode`.
-/

namespace Playbook

namespace Utf16

/-- The order of the two bytes of a unit. -/
inductive ByteOrder where
  /-- The less significant byte first. -/
  | little
  /-- The more significant byte first. -/
  | big
deriving DecidableEq, Repr

namespace ByteOrder

/-- The value of a unit. -/
def unit (o : ByteOrder) (a b : UInt8) : Nat :=
  match o with
  | .little => a.toNat + 256 * b.toNat
  | .big => 256 * a.toNat + b.toNat

/-- The name of the encoding. -/
def encoding : ByteOrder → String
  | .little => "utf-16-le"
  | .big => "utf-16-be"

end ByteOrder

/-- Whether a unit is the first of a pair. -/
def isLead (u : Nat) : Bool := 0xD800 ≤ u && u < 0xDC00

/-- Whether a unit is the second of a pair. -/
def isTrail (u : Nat) : Bool := 0xDC00 ≤ u && u < 0xE000

/-- Decode from a position on. -/
def decodeFrom (o : ByteOrder) : Nat → List UInt8 → Except DecodingFault (List Char)
  | _, [] => .ok []
  | position, [a] => .error ⟨o.encoding, position, position + 1, a, "truncated data"⟩
  | position, a :: b :: rest =>
    let u := o.unit a b
    if isTrail u then .error ⟨o.encoding, position, position + 2, a, "illegal encoding"⟩
    else if isLead u then
      match rest with
      | [] => .error ⟨o.encoding, position, position + 2, a, "unexpected end of data"⟩
      | [_] => .error ⟨o.encoding, position, position + 3, a, "unexpected end of data"⟩
      | c :: d :: rest =>
        let v := o.unit c d
        if isTrail v then
          (Char.ofNat (0x10000 + (u - 0xD800) * 0x400 + (v - 0xDC00)) :: ·) <$>
            decodeFrom o (position + 4) rest
        else .error ⟨o.encoding, position, position + 2, a, "illegal UTF-16 surrogate"⟩
    else (Char.ofNat u :: ·) <$> decodeFrom o (position + 2) rest

/-- The text of bytes in a byte order. -/
def decode (o : ByteOrder) (bytes : List UInt8) : Except DecodingFault (List Char) :=
  decodeFrom o 0 bytes

end Utf16

end Playbook
