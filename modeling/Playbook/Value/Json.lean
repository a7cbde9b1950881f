import Playbook.Value.Print

/-!
# JSON texts of values

A value is written as one JSON document in ASCII: lists and tuples as arrays, mappings as objects
in the order of their entries, whose keys are texts or scalars written as texts. Numbers keep
their own text, and the three doubles that are no finite number have words of their own.

Main definitions:

- `Json.Style`: the layout, on one line or indented, and what becomes of things that JSON lacks;
- `Value.json`: the document of a value, or why there is none.
-/

namespace Playbook

namespace Json

/-- The layout of a document. -/
structure Style where
  /-- How many blanks a level is indented by; `none` keeps the document on one line. -/
  indent : Option Nat
  /-- Whether things that JSON lacks are written as their text, rather than refused. -/
  coerce : Bool
  /-- Whether a key of the wrong type is called by its qualified type name. -/
  qualifiedKeys : Bool

/-- One line, nothing coerced. -/
def compact : Style := ⟨none, false, true⟩

/-- Two blanks a level, things that JSON lacks as texts. -/
def report : Style := ⟨some 2, true, false⟩

/-! ### Texts -/

/-- The escape of a code unit. -/
private def unitEscape (n : Nat) : List Char := '\\' :: 'u' :: Literal.hex 4 n

/-- The form of a character inside a JSON text: all that is not printable ASCII is escaped. -/
def escapeChar (c : Char) : List Char :=
  if c = '"' then ['\\', '"']
  else if c = '\\' then ['\\', '\\']
  else if c = '\n' then ['\\', 'n']
  else if c = '\r' then ['\\', 'r']
  else if c = '\t' then ['\\', 't']
  else if c = '\x08' then ['\\', 'b']
  else if c = '\x0c' then ['\\', 'f']
  else
    let n := CodePoint.ofChar c
    if 0x20 ≤ n ∧ n < 0x7F then [c]
    else if n < 0x10000 then unitEscape n
    else
      let m := n - 0x10000
      unitEscape (0xD800 + m / 0x400) ++ unitEscape (0xDC00 + m % 0x400)

/-- A text as a JSON string. -/
def quote (s : String) : String := String.ofList ('"' :: s.toList.flatMap escapeChar ++ ['"'])

/-- A double as a JSON number or word. -/
def floatText (x : Binary64) : String :=
  match x.classify with
  | .nan => "NaN"
  | .infinite neg => if neg then "-Infinity" else "Infinity"
  | .finite .. => x.text

/-! ### Documents -/

/-- Items between brackets, on one line or one below the other. -/
def layout (style : Style) (depth : Nat) (opening closing : String) (items : List String) :
    String :=
  if items.isEmpty then opening ++ closing
  else
    match style.indent with
    | none => opening ++ String.intercalate ", " items ++ closing
    | some n =>
      let line (k : Nat) : String := "\n" ++ String.ofList (List.replicate (n * k) ' ')
      opening ++ line (depth + 1) ++ String.intercalate ("," ++ line (depth + 1)) items ++
        line depth ++ closing

/-- The text of an integer, which may not have too many digits. -/
def intText (i : Int) : Except Failure String :=
  if Scalar.isTooLong i then .error Scalar.tooLongFailure else .ok (toString i)

/-- A key as a text. -/
def keyText (style : Style) : Value → Except Failure String
  | .str s => .ok s
  | .float x => .ok (floatText x)
  | .bool b => .ok (if b then "true" else "false")
  | .null => .ok "null"
  | .int i => intText i
  | k =>
    let name := match k with
      | .scalar s => if style.qualifiedKeys then s.qualifiedTypeName else s.typeName
      | k => k.typeName
    .error (.type ("keys must be str, int, float, bool or None, not " ++ name))

/-- A thing that JSON lacks: its text, if it has one. -/
def foreign (style : Style) (v : Value) : Except Failure String :=
  if style.coerce then quote <$> v.text?
  else .error (.type ("Object of type " ++ v.typeName ++ " is not JSON serializable"))

end Json

namespace Value

mutual

/-- The JSON text of a value at a depth. -/
def jsonAt (style : Json.Style) (depth : Nat) : Value → Except Failure String
  | .scalar .null => .ok "null"
  | .scalar (.bool b) => .ok (if b then "true" else "false")
  | .scalar (.int i) => Json.intText i
  | .scalar (.float x) => .ok (Json.floatText x)
  | .scalar (.str s) => .ok (Json.quote s)
  | .scalar s => Json.foreign style (.scalar s)
  | .tuple _ items => do
    return Json.layout style depth "[" "]" (← jsonItems style (depth + 1) items)
  | .list _ items => do
    return Json.layout style depth "[" "]" (← jsonItems style (depth + 1) items)
  | .map _ entries => do
    return Json.layout style depth "\x7b" "\x7d" (← jsonEntries style (depth + 1) entries)
  | .set m items => Json.foreign style (.set m items)
  | .again .set m => Json.foreign style (.again .set m)
  | .again .. => .error (.value "Circular reference detected")
  | .opaqueThing type literal text => Json.foreign style (.opaqueThing type literal text)

/-- The JSON texts of values at a depth. -/
def jsonItems (style : Json.Style) (depth : Nat) : List Value → Except Failure (List String)
  | [] => .ok []
  | v :: rest => do
    let one ← jsonAt style depth v
    return one :: (← jsonItems style depth rest)

/-- The members of a JSON object at a depth. -/
def jsonEntries (style : Json.Style) (depth : Nat) :
    List (Value × Value) → Except Failure (List String)
  | [] => .ok []
  | (k, v) :: rest => do
    let name ← Json.keyText style k
    let one ← jsonAt style depth v
    return (Json.quote name ++ ": " ++ one) :: (← jsonEntries style depth rest)

end

/-- The JSON document of a value. -/
def json (style : Json.Style) (v : Value) : Except Failure String := jsonAt style 0 v

end Value

end Playbook
