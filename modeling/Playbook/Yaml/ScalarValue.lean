import Playbook.Decimal.Numeral
import Playbook.Scalar
import Playbook.Text.Encoding
import Playbook.Yaml.Schema

/-!
# Values of scalar nodes

What the text of a scalar stands for under each of the tags of the language. A text of the wrong
form for its tag is a failure of the conversion, except that base 64 which cannot be read is a
problem of the document itself.

Main definition: `Yaml.ScalarType`, with `ScalarType.ofTag?` and `ScalarType.read`.
-/

namespace Playbook.Yaml

/-- The types of scalar nodes. -/
inductive ScalarType where
  /-- Nothing. -/
  | null
  /-- A truth value. -/
  | bool
  /-- An integer. -/
  | int
  /-- A double. -/
  | float
  /-- A byte string in base 64. -/
  | binary
  /-- A day, or a day and time. -/
  | timestamp
  /-- A text. -/
  | str
deriving DecidableEq, Repr

/-- The type that a tag asks for. -/
def ScalarType.ofTag? (tag : String) : Option ScalarType :=
  if tag = coreTag "null" then some .null
  else if tag = coreTag "bool" then some .bool
  else if tag = coreTag "int" then some .int
  else if tag = coreTag "float" then some .float
  else if tag = coreTag "binary" then some .binary
  else if tag = coreTag "timestamp" then some .timestamp
  else if tag = coreTag "str" then some .str
  else none

/-- Why a text has no value under a tag. -/
inductive ScalarProblem where
  /-- The conversion failed. -/
  | failure (f : Failure)
  /-- The text is no byte string, for this reason. -/
  | binary (problem : String)
deriving Repr

namespace ScalarType

/-- The failure of reading beyond the end of a text. -/
def emptyText : Failure := .index "string index out of range"

/-- Truth values, in any mixture of cases. -/
def readBool (text : String) : Except Failure Scalar :=
  let word := String.ofList (Text.lower text.toList)
  if ["yes", "true", "on"].contains word then .ok (.bool true)
  else if ["no", "false", "off"].contains word then .ok (.bool false)
  else .error (.key (Literal.text word))

/-- Split a text at a character. -/
def splitAt (c : Char) : List Char → List (List Char)
  | [] => [[]]
  | d :: rest =>
    if d = c then [] :: splitAt c rest
    else
      match splitAt c rest with
      | first :: more => (d :: first) :: more
      | [] => [[d]]

/-- Integers: binary, octal, decimal, hexadecimal, of base sixty. Underscores do not count. -/
def readInt (text : String) : Except Failure Scalar := do
  let cs := text.toList.filter (· != '_')
  let negative := cs.head? == some '-'
  if cs.isEmpty then throw emptyText
  let cs := Schema.dropSign cs
  let base (b : Nat) (cs : List Char) : Except Failure Int := Numeral.int b (String.ofList cs)
  let n ← match cs with
    | [] => throw emptyText
    | ['0'] => pure 0
    | '0' :: 'b' :: ds => base 2 ds
    | '0' :: 'x' :: ds => base 16 ds
    | '0' :: _ => base 8 cs
    | _ =>
      if cs.contains ':' then
        let parts ← (splitAt ':' cs).mapM (base 10)
        pure (parts.foldl (fun acc d => acc * 60 + d) 0)
      else base 10 cs
  return .int (if negative then -n else n)

/-- The sum of parts of a double of base sixty, the last of which comes first: each counts sixty
times as much as the one before. -/
def sumSixties : Nat → Binary64 → List Binary64 → Except Failure Binary64
  | _, sum, [] => .ok sum
  | weight, sum, part :: rest =>
    let w := Binary64.ofInt weight
    if w.isInfinite then .error (.overflow "int too large to convert to float")
    else sumSixties (weight * 60) (sum + part * w) rest

/-- The mark of the one double that all documents mean by their word for no number. -/
def nanMark : Nat := 1

/-- Doubles: decimal, of base sixty, the infinities, and no number. -/
def readFloat (text : String) : Except Failure Scalar := do
  let cs := Text.lower (text.toList.filter (· != '_'))
  let negative := cs.head? == some '-'
  if cs.isEmpty then throw emptyText
  let cs := Schema.dropSign cs
  let signed (x : Binary64) : Scalar := .float (if negative then -x else x)
  match String.ofList cs with
  | ".inf" => return signed (Binary64.infinity false)
  | ".nan" => return .float (Binary64.markedNaN nanMark)
  | word =>
    if cs.contains ':' then
      let parts ← (splitAt ':' cs).mapM fun p => Numeral.float (String.ofList p)
      return signed (← sumSixties 1 Binary64.zero parts.reverse)
    else return signed (← Numeral.float word)

/-- Byte strings in base 64. -/
def readBinary (text : String) : Except ScalarProblem Scalar :=
  match (Encoding.direct 128).encode "strict" text.toList with
  | .error f => .error (.binary ("failed to convert base64 data into ascii: " ++ f.message))
  | .ok _ =>
    match Base64.decode text.toList with
    | .ok bytes => .ok (.bytes bytes)
    | .error f => .error (.binary ("failed to decode base64 data: " ++ f.message))

/-- The value of decimal digits. -/
def natural (cs : List Char) : Nat := Numeral.ofDigits 10 (cs.map fun c => c.toNat - 48)

/-- The seconds by which a written distance to universal time is ahead. -/
def zoneSeconds : Option (Bool × List Char × List Char) → Int
  | none => 0
  | some (negative, hours, minutes) =>
    Numeral.signed negative (natural hours * 3600 + natural minutes * 60)

/-- Six digits of a fraction, filled up with zeros. -/
def microseconds (fraction : List Char) : Nat :=
  natural ((fraction.take 6) ++ List.replicate (6 - fraction.length) '0')

/-- The time that parts stand for on a day. -/
def timeOn (year month day : List Char) (t : Schema.TimeParts) : Except Failure Scalar := do
  let offset ← match t.zone with
    | none => pure none
    | some zone => some <$> DateTime.checkOffset (zoneSeconds zone)
  let time ← DateTime.make (natural year) (natural month) (natural day) (natural t.hour)
    (natural t.minute) (natural t.second) (microseconds t.fraction) offset
  return .datetime 0 time

/-- What characters with the form of a day, or of a day with a time, stand for. -/
def timestamp? (cs : List Char) : Option (Except Failure Scalar) := do
  let ((year, month, day), rest) ← Schema.takeDay 1 cs
  if rest.isEmpty then
    return (Date.make (natural year) (natural month) (natural day)).map (.date 0)
  else
    let t ← Schema.time? rest
    return timeOn year month day t

/-- The failure of a text without the form of a day. -/
def noTimestamp : Failure := .noAttribute "'NoneType' object has no attribute 'groupdict'"

/-- Days, and days with times. A line end at the end does not count. -/
def readTimestamp (text : String) : Except Failure Scalar :=
  match timestamp? text.toList with
  | some r => r
  | none => (timestamp? (Schema.dropLineEnd text.toList)).getD (.error noTimestamp)

/-- The scalar a text stands for under a type. -/
def read (type : ScalarType) (text : String) : Except ScalarProblem Scalar :=
  match type with
  | .null => .ok .null
  | .bool => (readBool text).mapError .failure
  | .int => (readInt text).mapError .failure
  | .float => (readFloat text).mapError .failure
  | .binary => readBinary text
  | .timestamp => (readTimestamp text).mapError .failure
  | .str => .ok (.str text)

end ScalarType

end Playbook.Yaml
