import Playbook.Template.Comparison
import Playbook.Template.Filter.Basic
import Playbook.Template.Percent

/-!
# Tests

A test says whether a datum is of some kind, or how it compares with another one.

Main definitions: `Template.testNames`, `Template.applyTest`.
-/

namespace Playbook.Template

/-- The tests there are. -/
def testNames : List String :=
  ["odd", "even", "divisibleby", "defined", "undefined", "filter", "test", "none", "boolean",
    "false", "true", "integer", "float", "lower", "upper", "string", "mapping", "number",
    "sequence", "iterable", "callable", "sameas", "escaped", "in", "==", "eq", "equalto", "!=",
    "ne", ">", "gt", "greaterthan", "ge", ">=", "<", "lt", "lessthan", "<=", "le"]

/-! ### Kinds -/

/-- Whether a datum can be called. -/
def Datum.isCallable (d : Datum) : Eval Bool := do
  match d with
  | .missing _ | .known _ | .method .. | .block .. => return true
  | .cell r =>
    match ← Eval.cell r with
    | .loop _ | .joiner .. | .definition _ => return true
    | _ => return false
  | _ => return false

/-- Whether a datum is a mapping. -/
def Datum.isMapping (d : Datum) : Eval Bool := do
  match d with
  | .cell r =>
    match ← Eval.cell r with
    | .map _ => return true
    | _ => return false
  | _ => return false

/-- Whether a datum has a number of items and gives them by index. -/
def Datum.isSequence (d : Datum) : Eval Bool := do
  match d with
  | .str _ | .bytes _ | .tuple .. | .range .. | .missing _ => return true
  | .cell r =>
    match ← Eval.cell r with
    | .list _ | .map _ => return true
    | _ => return false
  | _ => return false

/-- Whether two data are one and the same. -/
def Datum.isSame (a b : Datum) : Bool :=
  match a, b with
  | .scalar s, .scalar t => s == t
  | .missing _, .missing _ => false
  | a, b => a.sameKey b

/-- The answer of a test of the kind of a datum, by the names of its function and of its
parameter. -/
def kindTest? (name : String) : Option (String × String × (Datum → Eval Bool)) :=
  match name with
  | "defined" =>
    some ("test_defined", "value", fun d => match d with
      | .missing _ => return false
      | _ => return true)
  | "undefined" =>
    some ("test_undefined", "value", fun d => match d with
      | .missing _ => return true
      | _ => return false)
  | "none" =>
    some ("test_none", "value", fun d => match d with
      | .null => return true
      | _ => return false)
  | "boolean" =>
    some ("test_boolean", "value", fun d => match d with
      | .bool _ => return true
      | _ => return false)
  | "false" =>
    some ("test_false", "value", fun d => match d with
      | .bool b => return !b
      | _ => return false)
  | "true" =>
    some ("test_true", "value", fun d => match d with
      | .bool b => return b
      | _ => return false)
  | "integer" =>
    some ("test_integer", "value", fun d => match d with
      | .int _ => return true
      | _ => return false)
  | "float" =>
    some ("test_float", "value", fun d => match d with
      | .float _ => return true
      | _ => return false)
  | "string" =>
    some ("test_string", "value", fun d => match d with
      | .str _ => return true
      | _ => return false)
  | "number" => some ("test_number", "value", fun d => return d.number?.isSome)
  | "mapping" => some ("test_mapping", "value", Datum.isMapping)
  | "sequence" => some ("test_sequence", "value", Datum.isSequence)
  | "iterable" =>
    some ("test_iterable", "value", fun d => do
      match ← Eval.attempt d.cursor with
      | .ok _ => return true
      | .error _ => return false)
  | "lower" => some ("test_lower", "value", fun d => do return Text.isLowerText (← d.text).toList)
  | "upper" => some ("test_upper", "value", fun d => do return Text.isUpperText (← d.text).toList)
  | "escaped" => some ("test_escaped", "value", fun _ => return false)
  | _ => none

/-! ### Comparisons -/

/-- The relation that a test compares by, and the name of its function. -/
def relationTest? (name : String) : Option (String × Relation) :=
  match name with
  | "==" | "eq" | "equalto" => some ("eq", .equal)
  | "!=" | "ne" => some ("ne", .notEqual)
  | ">" | "gt" | "greaterthan" => some ("gt", .greater)
  | ">=" | "ge" => some ("ge", .greaterEqual)
  | "<" | "lt" | "lessthan" => some ("lt", .less)
  | "<=" | "le" => some ("le", .lessEqual)
  | _ => none

/-- Whether a remainder is a number. -/
def remainderIs (d by_ : Datum) (n : Int) : Eval Bool := do
  let r ←
    match d with
    | .str s => pure (Datum.str (← formatPercent s by_))
    | d => d.arithmetic .remainder by_
  r.equal (.int n)

/-- The failure of a wrong number of operands. -/
def checkOperands (name : String) (i : Inputs) : Eval Unit := do
  i.unnamed ("_operator." ++ name)
  if i.plain.length ≠ 2 then
    Eval.typeFault (name ++ " expected 2 arguments, got " ++ toString i.plain.length)

/-- Whether a datum passes a test. `filters` are the names of the filters there are. -/
def applyTest (filters : List String) (name : String) (d : Datum) (i : Inputs) : Eval Bool := do
  match kindTest? name, relationTest? name with
  | some (full, parameter, f), _ => do
    alone full parameter 0 d i
    f d
  | none, some (full, rel) => do
    let i := i.after d
    checkOperands full i
    d.holds rel (i.get 1)
  | none, none =>
    match name with
    | "odd" => do
      alone "test_odd" "value" 0 d i
      remainderIs d (.int 2) 1
    | "even" => do
      alone "test_even" "value" 0 d i
      remainderIs d (.int 2) 0
    | "divisibleby" => do
      let values ← Signature.bind ⟨"test_divisibleby", 0, ["value", "num"], []⟩ (i.after d)
      remainderIs d (given values 1 .null) 0
    | "in" => do
      let values ← Signature.bind ⟨"test_in", 0, ["value", "seq"], []⟩ (i.after d)
      d.isIn (given values 1 .null)
    | "sameas" => do
      let values ← Signature.bind ⟨"test_sameas", 0, ["value", "other"], []⟩ (i.after d)
      return d.isSame (given values 1 .null)
    | "callable" => do
      (← (i.after d).one "callable").isCallable
    | "filter" | "test" => do
      alone ("test_" ++ name) "value" 1 d i
      d.checkKey
      match d with
      | .str s => return (if name = "filter" then filters else testNames).contains s
      | _ => return false
    | _ => Eval.runFault ("No test named " ++ Literal.text name ++ ".")

end Playbook.Template
