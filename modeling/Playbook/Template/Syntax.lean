import Playbook.Scalar

/-!
# Templates as trees

A template puts texts and values out in order, with assignments, choices, loops and definitions of
its own between them.

Main definitions:

- `Template.Expr`: expressions;
- `Template.Target`: what a value is assigned to;
- `Template.Node`: what a template consists of.
-/

namespace Playbook.Template

/-! ### Expressions -/

/-- Operations on numbers, of which some also join or repeat sequences. -/
inductive Arithmetic where
  /-- Sum. -/
  | add
  /-- Difference. -/
  | subtract
  /-- Product. -/
  | multiply
  /-- Quotient. -/
  | divide
  /-- Quotient rounded down. -/
  | floorDivide
  /-- Remainder of the quotient rounded down. -/
  | remainder
  /-- Power. -/
  | power
deriving DecidableEq, Repr

/-- Comparisons of two values. -/
inductive Relation where
  /-- Equality. -/
  | equal
  /-- Inequality. -/
  | notEqual
  /-- Strictly before. -/
  | less
  /-- Before or equal. -/
  | lessEqual
  /-- Strictly after. -/
  | greater
  /-- After or equal. -/
  | greaterEqual
  /-- Being a part. -/
  | isIn
  /-- Not being a part. -/
  | isNotIn
deriving DecidableEq, Repr

/-- Signs before a number. -/
inductive Signum where
  /-- The opposite number. -/
  | minus
  /-- The same number. -/
  | plus
deriving DecidableEq, Repr

/-- An expression. -/
inductive Expr where
  /-- A literal. -/
  | constant (s : Scalar)
  /-- The value of a name. -/
  | name (s : String)
  /-- A tuple. -/
  | tuple (items : List Expr)
  /-- A new list. -/
  | list (items : List Expr)
  /-- A new mapping. -/
  | map (pairs : List (Expr × Expr))
  /-- A number with a sign before it. -/
  | signed (p : Signum) (e : Expr)
  /-- An operation on two values. -/
  | arithmetic (op : Arithmetic) (a b : Expr)
  /-- The first value if it counts as false, or else the second. -/
  | both (a b : Expr)
  /-- The first value if it counts as true, or else the second. -/
  | either (a b : Expr)
  /-- Whether a value counts as false. -/
  | opposite (e : Expr)
  /-- Texts one after the other. -/
  | concat (items : List Expr)
  /-- Comparisons of neighbours that must all hold. -/
  | compare (first : Expr) (rest : List (Relation × Expr))
  /-- A choice. Without a second value there may be none, on a line of the template. -/
  | choice (test yes : Expr) (no : Option Expr) (line : Nat)
  /-- An attribute, or the item of that name. -/
  | member (e : Expr) (name : String)
  /-- An item, or the attribute of that name. -/
  | item (e index : Expr)
  /-- The items between two positions. -/
  | slice (e : Expr) (start stop step : Option Expr)
  /-- Positions to cut at, in a place where they mean nothing. -/
  | bounds (start stop step : Option Expr)
  /-- A call. -/
  | call (callee : Expr) (arguments : List Expr) (named : List (String × Expr))
    (more moreNamed : Option Expr)
  /-- A filtered value; without a value, the text of the enclosing block is filtered. -/
  | filter (e : Option Expr) (name : String) (arguments : List Expr)
    (named : List (String × Expr)) (more moreNamed : Option Expr)
  /-- Whether a value passes a test. -/
  | test (e : Expr) (name : String) (arguments : List Expr) (named : List (String × Expr))
    (more moreNamed : Option Expr)
deriving Repr, Inhabited

/-! ### Targets -/

/-- What a value is assigned to. -/
inductive Target where
  /-- A name. -/
  | name (s : String)
  /-- A field of a namespace. -/
  | field (object name : String)
  /-- Several targets, for the items of a value. -/
  | tuple (items : List Target)
deriving Repr, Inhabited

/-- Words that are values and no names. -/
def literalWords : List String := ["true", "false", "none", "True", "False", "None"]

mutual

/-- An expression as a target: a name, or a tuple of targets. -/
def Expr.target? : Expr → Option Target
  | .name s => some (.name s)
  | .tuple items => (targets? items).map .tuple
  | _ => none

/-- Expressions as targets. -/
def targets? : List Expr → Option (List Target)
  | [] => some []
  | e :: rest =>
    match e.target?, targets? rest with
    | some t, some ts => some (t :: ts)
    | _, _ => none

end

/-- What a kind of expression is called in messages. -/
def Expr.kindName : Expr → String
  | .constant _ => "const"
  | .name _ => "name"
  | .tuple _ => "tuple"
  | .list _ => "list"
  | .map _ => "dict"
  | .signed .minus _ => "neg"
  | .signed .plus _ => "pos"
  | .arithmetic op .. =>
    match op with
    | .add => "add"
    | .subtract => "sub"
    | .multiply => "mul"
    | .divide => "div"
    | .floorDivide => "floordiv"
    | .remainder => "mod"
    | .power => "pow"
  | .both .. => "and"
  | .either .. => "or"
  | .opposite _ => "not"
  | .concat _ => "concat"
  | .compare .. => "compare"
  | .choice .. => "condexpr"
  | .member .. => "getattr"
  | .item .. | .slice .. => "getitem"
  | .bounds .. => "slice"
  | .call .. => "call"
  | .filter .. => "filter"
  | .test .. => "test"

mutual

/-- The names that a target binds. -/
def Target.names : Target → List String
  | .name s => [s]
  | .field .. => []
  | .tuple items => targetNames items

/-- The names that targets bind. -/
def targetNames : List Target → List String
  | [] => []
  | t :: rest => t.names ++ targetNames rest

end

mutual

/-- The objects of which a target sets fields. -/
def Target.objects : Target → List String
  | .name _ => []
  | .field object _ => [object]
  | .tuple items => targetObjects items

/-- The objects of which targets set fields. -/
def targetObjects : List Target → List String
  | [] => []
  | t :: rest => t.objects ++ targetObjects rest

end

/-! ### Nodes -/

/-- A part of what is put out. -/
inductive Part where
  /-- Text outside tags. -/
  | data (s : List Char)
  /-- A value. -/
  | value (e : Expr)
deriving Repr, Inhabited

/-- A parameter of a definition, with a value if it may be left out. -/
structure Parameter where
  /-- Its name. -/
  name : String
  /-- Its value if it is left out. -/
  otherwise : Option Expr
deriving Repr, Inhabited

/-- A node of a template. -/
inductive Node where
  /-- Texts and values. -/
  | output (parts : List Part)
  /-- An assignment. -/
  | assign (target : Target) (value : Expr)
  /-- An assignment of the text of a block, filtered if there is a filter. -/
  | capture (target : Target) (filter : Option Expr) (body : List Node)
  /-- A choice between blocks: the first whose test holds, or else the last one. -/
  | branch (test : Expr) (body : List Node) (others : List (Expr × List Node))
    (otherwise : List Node)
  /-- A loop over the items of a value that pass a test, or else another block. -/
  | loop (target : Target) (source : Expr) (test : Option Expr) (recursive : Bool)
    (body otherwise : List Node)
  /-- The definition of a block that can be called. -/
  | definition (name : String) (parameters : List Parameter) (body : List Node)
  /-- A call that is given a block. -/
  | callBlock (parameters : List Parameter) (call : Expr) (body : List Node)
  /-- A filtered block. -/
  | filterBlock (filter : Expr) (body : List Node)
  /-- A block with values of its own. -/
  | bind (bindings : List (Target × Expr)) (body : List Node)
  /-- A block whose values are escaped if an expression holds. -/
  | escaped (e : Expr) (body : List Node)
  /-- A named block, which may see the names around it and may have to be filled in. -/
  | block (name : String) (seesLocals mustFill : Bool) (body : List Node)
  /-- A template to fill in. -/
  | extend (e : Expr)
  /-- A template to put in. -/
  | insert (e : Expr) (optional : Bool)
  /-- A template whose definitions get a name. -/
  | load (e : Expr) (name : String)
  /-- A template of which some definitions get names. -/
  | loadNames (e : Expr) (names : List String)
deriving Repr, Inhabited

end Playbook.Template
