import Playbook.Calendar.Span
import Playbook.Failure
import Playbook.Template.Syntax
import Playbook.Value.Print

/-!
# Data of a running template

The values that expressions have while a template runs. A container is a cell of a store, and a
datum only holds its number. A tuple has its items with it, since they do not change, and a number
that tells it from other tuples.

Main definitions:

- `Template.Datum`: what an expression can have as its value;
- `Datum.sameKey`: whether two data are one key of a mapping;
- `Template.Inputs`: the arguments of a call.
-/

namespace Playbook.Template

/-- The number of a cell. -/
abbrev Ref := Nat

/-- The parts of a mapping that can be looked at on their own. -/
inductive View where
  /-- The keys. -/
  | keys
  /-- The values. -/
  | values
  /-- The pairs. -/
  | items
deriving DecidableEq, Repr

/-- The functions that every template knows. -/
inductive Known where
  /-- Rows of integers. -/
  | range
  /-- New mappings. -/
  | dict
  /-- Filler text. -/
  | lipsum
  /-- Values in turn. -/
  | cycler
  /-- A text from the second time on. -/
  | joiner
  /-- Fields that can be assigned to. -/
  | namespace_
deriving DecidableEq, Repr

/-- The value of an expression. -/
inductive Datum where
  /-- A value without parts. -/
  | scalar (s : Scalar)
  /-- A tuple, with the number of the cell that is kept free for it. -/
  | tuple (self : Option Ref) (items : List Datum)
  /-- Something that is kept in a cell. -/
  | cell (r : Ref)
  /-- The value of a name or of a part that is not there, and what is said if it is used. -/
  | missing (why : String)
  /-- The integers from a first one in equal steps up to a last one. -/
  | range (start stop step : Int)
  /-- A function that every template knows. -/
  | known (k : Known)
  /-- A function that belongs to a value. -/
  | method (owner : Datum) (name : String)
  /-- A view of a mapping. -/
  | view (v : View) (r : Ref)
  /-- A span of time. -/
  | span (s : Span)
  /-- The named blocks, and the names that they see. -/
  | blocks (seen : List (String × Datum))
  /-- A named block, and the names that it sees. -/
  | block (name : String) (seen : List (String × Datum))
  /-- Anything else, by the name of its type and its two texts. -/
  | thing (type literal text : String)
deriving Inhabited

namespace Datum

/-- Nothing. -/
@[match_pattern] abbrev null : Datum := .scalar .null
/-- A truth value. -/
@[match_pattern] abbrev bool (b : Bool) : Datum := .scalar (.bool b)
/-- An integer. -/
@[match_pattern] abbrev int (i : Int) : Datum := .scalar (.int i)
/-- A double. -/
@[match_pattern] abbrev float (x : Binary64) : Datum := .scalar (.float x)
/-- A text. -/
@[match_pattern] abbrev str (s : String) : Datum := .scalar (.str s)
/-- A byte string. -/
@[match_pattern] abbrev bytes (b : List UInt8) : Datum := .scalar (.bytes b)

/-- The text with these characters. -/
abbrev chars (cs : List Char) : Datum := .str (String.ofList cs)

/-- Data in a row that is no tuple of the template. -/
abbrev row (items : List Datum) : Datum := .tuple none items

/-! ### Keys -/

mutual

/-- Whether two data are the same key. -/
def sameKey : Datum → Datum → Bool
  | .scalar a, .scalar b => a.sameKey b
  | .tuple _ as, .tuple _ bs => sameKeys as bs
  -- A container in a cell is the same key only as itself.
  | .cell r, .cell s => r == s
  | .missing _, .missing _ => true
  | .range a b c, .range a' b' c' => a == a' && b == b' && c == c'
  | .known k, .known l => k == l
  | .method a m, .method b n => m == n && sameKey a b
  | .view v r, .view w s => v == w && r == s
  | .span s, .span t => s == t
  -- The names that a block sees do not matter.
  | .block m _, .block n _ => m == n
  | .thing t l x, .thing t' l' x' => t == t' && l == l' && x == x'
  | _, _ => false

/-- Whether two lists of data are the same keys one by one. -/
def sameKeys : List Datum → List Datum → Bool
  | [], [] => true
  | a :: as, b :: bs => sameKey a b && sameKeys as bs
  | _, _ => false

end

/-- Whether a datum is a text. -/
def isText : Datum → Bool
  | .str _ => true
  | _ => false

end Datum

/-- Whether a list of data has a key. -/
def hasKey (items : List Datum) (key : Datum) : Bool := items.any (·.sameKey key)

/-- A list of data with a key at its end, unless it is there. -/
def addKey (items : List Datum) (key : Datum) : List Datum :=
  if hasKey items key then items else items ++ [key]

/-- What a name that nothing defines is called. -/
def undefinedName (name : String) : String := Literal.text name ++ " is undefined"

/-- The entries of a mapping of data. -/
abbrev DataEntries := List (Datum × Datum)

namespace DataEntries

/-- The value of a key. -/
def find? (es : DataEntries) (key : Datum) : Option Datum :=
  -- The key of the entry is compared with the one that is looked for.
  (List.find? (fun e => e.1.sameKey key) es).map (·.2)

/-- Set the value of a key, in its place or at the end. -/
def insert (key d : Datum) : DataEntries → DataEntries
  | [] => [(key, d)]
  -- The key that is there stays, and only its value changes.
  | (k, e) :: rest => if k.sameKey key then (k, d) :: rest else (k, e) :: insert key d rest

end DataEntries

/-- The arguments of a call. -/
structure Inputs where
  /-- Those by position. -/
  plain : List Datum
  /-- Those by name. -/
  named : List (String × Datum)
deriving Inhabited

/-- Attributes of attributes, by name or by position. -/
abbrev AttributePath := List Datum

/-! ### Types -/

/-- The name of the type of a view. -/
def View.typeName : View → String
  | .keys => "dict_keys"
  | .values => "dict_values"
  | .items => "dict_items"

/-- The name of the type of what goes through a view backwards. -/
def View.backwardsName : View → String
  | .keys => "dict_reversekeyiterator"
  | .values => "dict_reversevalueiterator"
  | .items => "dict_reverseitemiterator"

namespace Known

/-- What a function is shown as. -/
def literal : Known → String
  | .range => "<class 'range'>"
  | .dict => "<class 'dict'>"
  | .lipsum => "<function generate_lorem_ipsum>"
  | .cycler => "<class 'jinja2.utils.Cycler'>"
  | .joiner => "<class 'jinja2.utils.Joiner'>"
  | .namespace_ => "<class 'jinja2.utils.Namespace'>"

/-- The function of a name. -/
def ofName? : String → Option Known
  | "range" => some .range
  | "dict" => some .dict
  | "lipsum" => some .lipsum
  | "cycler" => some .cycler
  | "joiner" => some .joiner
  | "namespace" => some .namespace_
  | _ => none

end Known

end Playbook.Template
