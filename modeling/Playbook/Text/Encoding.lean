import Playbook.Failure
import Playbook.Text.CodePage
import Playbook.Text.CodePoint
import Playbook.Text.Literal
import Playbook.Text.Utf16

/-!
# Encodings

An encoding writes characters as bytes. Most encodings have no bytes for some characters, and none
has any for half of a surrogate pair; what is done then is a matter of choice.

Main definitions:

- `Encoding`: the encodings there are; `Encoding.ofName?`, by name;
- `Encoding.bytes?`: the bytes of a character;
- `Encoding.encode`, `Encoding.decode`: texts as bytes and back, with a way to treat faults.
-/

namespace Playbook

open Utf16 (ByteOrder)

/-- How characters are written as bytes. -/
inductive Encoding where
  /-- One to four bytes a character, perhaps after a signature. -/
  | utf8 (signed : Bool)
  /-- Two or four bytes a character; without an order, after a signature. -/
  | utf16 (order : Option ByteOrder)
  /-- Four bytes a character; without an order, after a signature. -/
  | utf32 (order : Option ByteOrder)
  /-- A byte for each of the first characters there are, so many of them. -/
  | direct (size : Nat)
  /-- A byte for each character of a page. -/
  | page (p : CodePage)
deriving Repr

namespace Encoding

/-! ### Names -/

/-- The letters, digits and points of a name in small letters, with a low line for whatever stands
between them. -/
def plainName (name : String) : String :=
  let isPart (c : Char) : Bool := c.isAlphanum || c == '.'
  let step (state : List Char × Bool) (c : Char) : List Char × Bool :=
    let (done, gap) := state
    if isPart c then (c.toLower :: (if gap && !done.isEmpty then '_' :: done else done), false)
    else (done, true)
  String.ofList (name.toList.foldl step ([], false)).1.reverse

/-- The names of the encodings that are no pages. -/
def named : List (Encoding × List String) :=
  [ (.utf8 false, ["utf_8", "u8", "utf", "utf8", "utf8_ucs2", "utf8_ucs4", "cp65001"]),
    (.utf8 true, ["utf_8_sig"]),
    (.utf16 none, ["utf_16", "u16", "utf16"]),
    (.utf16 (some .little), ["utf_16_le", "unicodelittleunmarked", "utf_16le"]),
    (.utf16 (some .big), ["utf_16_be", "unicodebigunmarked", "utf_16be"]),
    (.utf32 none, ["utf_32", "u32", "utf32"]),
    (.utf32 (some .little), ["utf_32_le", "utf_32le"]),
    (.utf32 (some .big), ["utf_32_be", "utf_32be"]),
    (.direct 128,
      ["ascii", "646", "ansi_x3.4_1968", "ansi_x3_4_1968", "ansi_x3.4_1986", "cp367", "csascii",
        "ibm367", "iso646_us", "iso_646.irv_1991", "iso_ir_6", "us", "us_ascii"]),
    (.direct 256,
      ["latin_1", "8859", "cp819", "csisolatin1", "ibm819", "iso8859", "iso8859_1", "iso_8859_1",
        "iso_8859_1_1987", "iso_ir_100", "l1", "latin", "latin1"]) ]

/-- The encoding of a name. -/
def ofName? (name : String) : Option Encoding :=
  let name := plainName name
  match named.find? fun (_, names) => names.contains name with
  | some (e, _) => some e
  | none => (CodePage.all.find? (·.names.contains name)).map .page

/-- The name of an encoding in messages. -/
def label : Encoding → String
  | .utf8 _ => "utf-8"
  | .utf16 none => "utf-16"
  | .utf16 (some o) => o.encoding
  | .utf32 none => "utf-32"
  | .utf32 (some .little) => "utf-32-le"
  | .utf32 (some .big) => "utf-32-be"
  | .direct size => if size = 128 then "ascii" else "latin-1"
  | .page _ => "charmap"

/-! ### Characters -/

/-- A natural in so many bytes of an order. -/
def wordBytes (order : ByteOrder) (count n : Nat) : List UInt8 :=
  let low := (List.range count).map fun i => UInt8.ofNat (n / Nat.pow 256 i)
  match order with
  | .little => low
  | .big => low.reverse

/-- The bytes of a code point, which may be half of a pair. -/
def codeBytes (e : Encoding) (n : Nat) : List UInt8 :=
  match e with
  | .utf16 order =>
    let o := order.getD .little
    if n < 0x10000 then wordBytes o 2 n
    else
      wordBytes o 2 (0xD800 + (n - 0x10000) / 0x400) ++
        wordBytes o 2 (0xDC00 + (n - 0x10000) % 0x400)
  | .utf32 order => wordBytes (order.getD .little) 4 n
  | _ =>
    if 0xD800 ≤ n ∧ n < 0xE000 then
      [0xED, UInt8.ofNat (0x80 + n / 0x40 % 0x40), UInt8.ofNat (0x80 + n % 0x40)]
    else Utf8.encodeChar (Char.ofNat n)

/-- The bytes of a character, if it has any. -/
def bytes? (e : Encoding) (c : Char) : Option (List UInt8) :=
  match e with
  | .direct size => if c.toNat < size then some [UInt8.ofNat c.toNat] else none
  | .page p => (p.byte? c).map ([·])
  | e => if CodePoint.isHalf c then none else some (e.codeBytes c.toNat)

/-- The bytes before a text. -/
def signature : Encoding → List UInt8
  | .utf8 true => [0xEF, 0xBB, 0xBF]
  | .utf16 none => [0xFF, 0xFE]
  | .utf32 none => [0xFF, 0xFE, 0, 0]
  | _ => []

/-! ### Encoding -/

/-- The position of the first character that has no bytes, and the run of such characters that
starts there. -/
def firstForeign (e : Encoding) : Nat → List Char → Option (Nat × List Char)
  | _, [] => none
  | i, c :: rest =>
    if (e.bytes? c).isSome then firstForeign e (i + 1) rest
    else some (i, c :: rest.takeWhile fun d => (e.bytes? d).isNone)

/-- Why a character has no bytes. -/
def reason : Encoding → String
  | .direct size => "ordinal not in range(" ++ toString size ++ ")"
  | .page _ => "character maps to <undefined>"
  | _ => "surrogates not allowed"

/-- What is said about characters at a position that have no bytes. -/
def complaint (e : Encoding) (i : Nat) (run : List Char) : Failure :=
  let run := match e with
    | .utf16 _ | .utf32 _ => run.take 1
    | _ => run
  let place := match run with
    | [c] => "character '" ++ String.ofList (Literal.escapeForeign c) ++ "' in position " ++
        toString i
    | _ => "characters in position " ++ toString i ++ "-" ++ toString (i + run.length - 1)
  ⟨.decoding, "'" ++ e.label ++ "' codec can't encode " ++ place ++ ": " ++ e.reason⟩

/-- What stands for a character that has no bytes, if there is such a treatment. -/
def substitute? (treatment : String) (c : Char) : Option (List Char) :=
  match treatment with
  | "ignore" => some []
  | "replace" => some ['?']
  | "xmlcharrefreplace" => some ("&#" ++ toString (CodePoint.ofChar c) ++ ";").toList
  | "backslashreplace" => some (Literal.escapeForeign c)
  | _ => none

/-- The bytes of a character that has none of its own, by a treatment that keeps halves. -/
def halfBytes? (e : Encoding) (treatment : String) (c : Char) : Option (List UInt8) :=
  let n := CodePoint.ofChar c
  match treatment, e with
  | "surrogateescape", _ =>
    if 0xDC80 ≤ n ∧ n < 0xDD00 then some [UInt8.ofNat (n - 0xDC00)] else none
  | "surrogatepass", .utf8 _ | "surrogatepass", .utf16 _ | "surrogatepass", .utf32 _ =>
    if CodePoint.isHalf c then some (e.codeBytes n) else none
  | _, _ => none

/-- The failure of a treatment that nobody knows. -/
def unknownTreatment (name : String) : Failure :=
  ⟨.lookup, "unknown error handler name '" ++ name ++ "'"⟩

/-- The bytes of a text. Characters that have none are a fault, or are treated. -/
def encode (e : Encoding) (treatment : String) (s : List Char) : Except Failure (List UInt8) :=
  match e.firstForeign 0 s with
  | none => .ok (e.signature ++ s.flatMap fun c => (e.bytes? c).getD [])
  | some (i, run) =>
    let known := ["ignore", "replace", "xmlcharrefreplace", "backslashreplace"]
    if known.contains treatment then
      let inner (c : Char) : List UInt8 :=
        ((substitute? treatment c).getD []).flatMap fun d => (e.bytes? d).getD []
      .ok (e.signature ++ s.flatMap fun c => (e.bytes? c).getD (inner c))
    else if treatment = "surrogateescape" ∨ treatment = "surrogatepass" then
      let parts := s.map fun c => (e.bytes? c).or (e.halfBytes? treatment c)
      match parts.mapM id with
      | some bs => .ok (e.signature ++ bs.flatten)
      | none => .error (e.complaint i run)
    else if treatment = "strict" then .error (e.complaint i run)
    else .error (unknownTreatment treatment)

/-! ### Decoding -/

/-- The text of bytes in four bytes a character, from a position on. -/
def decodeWords (o : ByteOrder) (label : String) : Nat → List UInt8 →
    Except DecodingFault (List Char)
  | _, [] => .ok []
  | i, a :: b :: c :: d :: rest =>
    let row := match o with
      | .little => [d, c, b, a]
      | .big => [a, b, c, d]
    let n := row.foldl (fun n x => n * 256 + x.toNat) 0
    if n.isValidChar then (Char.ofNat n :: ·) <$> decodeWords o label (i + 4) rest
    else
      .error ⟨label, i, i + 4, a,
        if n < 0x110000 then "code point in surrogate code point range(0xd800, 0xe000)"
        else "code point not in range(0x110000)"⟩
  | i, a :: rest => .error ⟨label, i, i + rest.length + 1, a, "truncated data"⟩

/-- The text of bytes, each of which is a character, from a position on. -/
def decodeBytes (e : Encoding) (char? : UInt8 → Option Char) : Nat → List UInt8 →
    Except DecodingFault (List Char)
  | _, [] => .ok []
  | i, b :: rest =>
    match char? b with
    | some c => (c :: ·) <$> decodeBytes e char? (i + 1) rest
    | none => .error ⟨e.label, i, i + 1, b, e.reason⟩

/-- The text of bytes, or the first fault. -/
def decodeStrictly (e : Encoding) (b : List UInt8) : Except DecodingFault (List Char) :=
  match e with
  | .utf8 signed => Utf8.decode (if signed && e.signature.isPrefixOf b then b.drop 3 else b)
  | .utf16 (some o) => Utf16.decode o b
  | .utf16 none =>
    match b with
    | 0xFF :: 0xFE :: rest => Utf16.decode .little rest
    | 0xFE :: 0xFF :: rest => Utf16.decode .big rest
    | b => Utf16.decode .little b
  | .utf32 (some o) => decodeWords o e.label 0 b
  | .utf32 none =>
    match b with
    | 0xFF :: 0xFE :: 0 :: 0 :: rest => decodeWords .little e.label 0 rest
    | 0 :: 0 :: 0xFE :: 0xFF :: rest => decodeWords .big e.label 0 rest
    | b => decodeWords .little e.label 0 b
  | .direct size =>
    e.decodeBytes (fun x => if x.toNat < size then some (Char.ofNat x.toNat) else none) 0 b
  | .page p => e.decodeBytes p.char? 0 b

/-- What stands for bytes at fault, if there is such a treatment. -/
def decodedSubstitute? (treatment : String) (bad : List UInt8) : Option (List Char) :=
  match treatment with
  | "ignore" => some []
  | "replace" => some ['\ufffd']
  | "backslashreplace" => some (bad.flatMap fun x => '\\' :: 'x' :: Literal.hex 2 x.toNat)
  | "surrogateescape" => some (bad.map fun x => CodePoint.toChar (0xDC00 + x.toNat))
  | _ => none

/-- The text of bytes, in which faults are treated; the number bounds the number of faults. -/
def decodeTreated (e : Encoding) (treatment : String) : Nat → List UInt8 →
    Except Failure (List Char)
  | 0, _ => .ok []
  | fuel + 1, b =>
    match e.decodeStrictly b with
    | .ok s => .ok s
    | .error f =>
      if treatment = "strict" then .error (.ofDecodingFault f)
      else
        match decodedSubstitute? treatment ((b.take f.stop).drop f.start) with
        | none => .error (unknownTreatment treatment)
        | some s => do
          let before := ((e.decodeStrictly (b.take f.start)).toOption).getD []
          return before ++ s ++ (← decodeTreated e treatment fuel (b.drop f.stop))

/-- The text of bytes. Bytes that stand for no character are a fault, or are treated. -/
def decode (e : Encoding) (treatment : String) (b : List UInt8) : Except Failure (List Char) :=
  e.decodeTreated treatment (b.length + 1) b

end Encoding

end Playbook
