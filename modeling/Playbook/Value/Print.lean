import Playbook.Value

/-!
# Texts of values

The form of a value: a text on its own is shown as it is, and everything inside a container in its
literal form. A container met again inside itself is shown as three dots between its brackets.

Main definitions: `Value.literal`, `Value.text`, `Entries.literal`.
-/

namespace Playbook

/-- A container met again inside itself. -/
def Shape.dots : Shape → String
  | .tuple => "(...)"
  | .list => "[...]"
  | .map => "\x7b...\x7d"
  | .set => "set(...)"

namespace Value

/-- Texts between brackets, with commas between them. -/
def bracket (opening closing : String) (items : List String) : String :=
  opening ++ String.intercalate ", " items ++ closing

/-- The parts of a tuple, of which a single one keeps its comma. -/
def tupleText (items : List String) : String :=
  match items with
  | [one] => "(" ++ one ++ ",)"
  | _ => bracket "(" ")" items

/-- The members of a set; the empty set has no brackets of its own. -/
def setText (items : List String) : String :=
  if items.isEmpty then "set()" else bracket "\x7b" "\x7d" items

mutual

/-- The form of a value inside a container. -/
def literal : Value → String
  | .scalar s => s.literal
  | .tuple _ items => tupleText (literals items)
  | .list _ items => bracket "[" "]" (literals items)
  | .map _ entries => bracket "\x7b" "\x7d" (entryLiterals entries)
  | .set _ items => setText (literals items)
  | .again shape _ => shape.dots
  | .opaqueThing _ literal _ => literal

/-- The forms of values one by one. -/
def literals : List Value → List String
  | [] => []
  | v :: rest => literal v :: literals rest

/-- The forms of entries one by one. -/
def entryLiterals : List (Value × Value) → List String
  | [] => []
  | (k, v) :: rest => (literal k ++ ": " ++ literal v) :: entryLiterals rest

end

/-- The form of a value on its own. -/
def text : Value → String
  | .scalar s => s.text
  | .opaqueThing _ _ text => text
  | v => v.literal

/-- The form of a mapping given by its entries. -/
def entriesLiteral (es : Entries) : String := bracket "\x7b" "\x7d" (entryLiterals es)

/-! ### Integers with too many digits -/

mutual

/-- Whether a value holds an integer with more digits than may be written. -/
def holdsLong : Value → Bool
  | .scalar (.int i) => Scalar.isTooLong i
  | .tuple _ items | .list _ items | .set _ items => anyHoldsLong items
  | .map _ entries => anyEntryHoldsLong entries
  | _ => false

/-- Whether one of some values holds an integer with too many digits. -/
def anyHoldsLong : List Value → Bool
  | [] => false
  | v :: rest => holdsLong v || anyHoldsLong rest

/-- Whether one of some entries holds an integer with too many digits. -/
def anyEntryHoldsLong : List (Value × Value) → Bool
  | [] => false
  | (k, v) :: rest => holdsLong k || holdsLong v || anyEntryHoldsLong rest

end

/-- The form of a value inside a container, if no integer in it is too long. -/
def literal? (v : Value) : Except Failure String :=
  if v.holdsLong then .error Scalar.tooLongFailure else .ok v.literal

/-- The form of a value on its own, if no integer in it is too long. -/
def text? (v : Value) : Except Failure String :=
  if v.holdsLong then .error Scalar.tooLongFailure else .ok v.text

end Value

/-- The failure of a kind with some arguments: alone, an argument is the message, except that a
missing key is shown in its literal form; several are shown as a tuple. -/
def Failure.ofArguments (kind : FailureKind) (args : List Value) : Failure :=
  match args with
  | [] => ⟨kind, ""⟩
  | [v] => ⟨kind, if kind = .key then v.literal else v.text⟩
  | vs => ⟨kind, (Value.tuple none vs).literal⟩

end Playbook
