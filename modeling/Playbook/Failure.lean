import Playbook.Text.Utf8
import Playbook.Text.Base64

/-!
# Failures

What a computation on values can fail with: a kind, which says what was wrong with the operands,
and a sentence.

Main definitions:

- `Failure`: kind and message;
- `Failure.ofDecodingFault`, `Failure.ofBase64Fault`: the failures of decoders.
-/

namespace Playbook

/-- What was wrong with the operands of a computation. -/
inductive FailureKind where
  /-- An operand of a type that the operation does not take. -/
  | type
  /-- An operand of the right type with a value that the operation does not take. -/
  | value
  /-- Bytes that are no text of the encoding. -/
  | decoding
  /-- A text that is no base 64. -/
  | base64
  /-- A key that a mapping does not hold. -/
  | key
  /-- A position outside a sequence. -/
  | index
  /-- A name that is not in a register. -/
  | lookup
  /-- An attribute that an object does not have. -/
  | attribute
  /-- A division by zero. -/
  | zeroDivision
  /-- A number too large for its format. -/
  | overflow
  /-- A malformed pattern. -/
  | pattern
  /-- A name without a value. -/
  | name
  /-- A nesting that is too deep. -/
  | depth
  /-- A container that changed while it was walked. -/
  | mutation
  /-- A refusal of the operating system. -/
  | system
  /-- More memory than there is. -/
  | memory
  /-- An argument that breaks what is taken for granted. -/
  | assertion
  /-- An operation on a name that nothing defines. -/
  | undefined
  /-- A text that the grammar of its language does not take. -/
  | grammar
  /-- A template that cannot be read. -/
  | template
  /-- A template that cannot be run. -/
  | run
deriving DecidableEq, Repr, Inhabited

/-- A failed computation on values. -/
structure Failure where
  /-- What was wrong. -/
  kind : FailureKind
  /-- The sentence that says so. -/
  message : String
deriving DecidableEq, Repr, Inhabited

namespace Failure

/-- An operand of the wrong type. -/
def type (message : String) : Failure := ⟨.type, message⟩

/-- An operand of the wrong value. -/
def value (message : String) : Failure := ⟨.value, message⟩

/-- A missing attribute. -/
def noAttribute (message : String) : Failure := ⟨.attribute, message⟩

/-- A position outside a sequence. -/
def index (message : String) : Failure := ⟨.index, message⟩

/-- A missing key; the message is the written form of the key. -/
def key (message : String) : Failure := ⟨.key, message⟩

/-- A division by zero. -/
def zeroDivision (message : String) : Failure := ⟨.zeroDivision, message⟩

/-- A number too large for its format. -/
def overflow (message : String) : Failure := ⟨.overflow, message⟩

/-- A byte in hexadecimal. -/
private def hexByte (b : UInt8) : String :=
  let d (n : Nat) : Char := if n < 10 then Char.ofNat (n + 48) else Char.ofNat (n + 87)
  String.ofList [d (b.toNat / 16), d (b.toNat % 16)]

/-- Bytes that are no text. -/
def ofDecodingFault (f : DecodingFault) : Failure :=
  let place :=
    if f.stop = f.start + 1 then
      "byte 0x" ++ hexByte f.byte ++ " in position " ++ toString f.start
    else "bytes in position " ++ toString f.start ++ "-" ++ toString (f.stop - 1)
  ⟨.decoding, "'" ++ f.encoding ++ "' codec can't decode " ++ place ++ ": " ++ f.reason⟩

/-- A text that is no base 64. -/
def ofBase64Fault (f : Base64.Fault) : Failure := ⟨.base64, f.message⟩

end Failure

end Playbook
