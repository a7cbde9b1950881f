import Playbook.Template.Reader

/-!
# Reading expressions of templates

Operators bind in ten levels, from the choice, which binds least, to attributes, items and calls.
Each level is a reader that asks the next one for its operands. What stands in brackets, and what
follows a sign, starts over, so every reader is given the reader of smaller expressions.

Main definitions:

- `Template.Level`: where reading starts over;
- `Template.expression`: the reader of expressions, and `Template.tuple`, of expressions with commas
  between them;
- `Template.assignTarget`, `Template.signature`: what is assigned to.
-/

namespace Playbook.Template

/-- Where reading starts over. -/
inductive Level where
  /-- Any expression. -/
  | choice
  /-- An expression without a choice outside brackets. -/
  | either
  /-- What a negation stands before. -/
  | opposite
  /-- What a sign stands before. -/
  | signed
deriving DecidableEq, Repr

/-- Readers of expressions from a level on. -/
abbrev ExprReader := Level → Reader Expr

/-- What stands between the parentheses of a call. -/
structure Arguments where
  /-- Values by position. -/
  plain : List Expr
  /-- Values by name. -/
  named : List (String × Expr)
  /-- A sequence of more values by position. -/
  more : Option Expr
  /-- A mapping with more values by name. -/
  moreNamed : Option Expr
deriving Repr, Inhabited

/-- No values. -/
def Arguments.none : Arguments := ⟨[], [], .none, .none⟩

namespace Reader

/-! ### Brackets -/

/-- Items up to a closing sign, with commas between them; a comma may stand at the end. -/
def itemsUntil {α : Type} (closing : Sign) (item : Reader α) : Reader (List α) := do
  let step (items : List α) : Reader (Option (List α)) := do
    if ← seesSign closing then return none
    if !items.isEmpty then expectSign .comma
    if ← seesSign closing then return none
    return some ((← item) :: items)
  let items ← repeatFrom [] step
  expectSign closing
  return items.reverse

/-- Whether the token at hand ends a row of expressions. -/
def atRowEnd (ends : List String) : Reader Bool := do
  match ← current with
  | .outputEnd | .statementEnd | .sign .closeParen => return true
  | .name w => return ends.contains w
  | _ => return false

/-- A row of items with commas between them, and whether there is a comma. -/
def row {α : Type} (ends : List String) (item : Reader α) : Reader (List α × Bool) := do
  let step (s : List α × Bool × Bool) : Reader (Option (List α × Bool × Bool)) := do
    let (items, comma, done) := s
    if done then return none
    if !items.isEmpty then expectSign .comma
    -- A comma may come last, and still makes a tuple of what is before it.
    if ← atRowEnd ends then return some (items, comma, true)
    let i ← item
    if ← seesSign .comma then return some (i :: items, true, false)
    else return some (i :: items, comma, true)
  let (items, comma, _) ← repeatFrom ([], false, false) step
  return (items.reverse, comma)

/-- The failure of finding no expression. -/
def failNoExpression {α : Type} : Reader α := do
  fail ("Expected an expression, got " ++ quoted (← current).describe)

/-- Expressions with commas between them: a tuple, or one expression without a comma. Inside
parentheses there may be none at all. -/
def tuple (item : Reader Expr) (ends : List String) (parenthesized : Bool) : Reader Expr := do
  let (items, comma) ← row ends item
  if comma then return .tuple items
  match items with
  | e :: _ => return e
  | [] => if parenthesized then return .tuple [] else failNoExpression

/-! ### Literals and names -/

/-- Quoted texts one after the other. -/
def texts (first : String) : Reader String :=
  repeatFrom first fun s => do
    match ← current with
    | .text more =>
      advance
      return some (s ++ more)
    | _ => return none

/-- The value of a word that is no name. -/
def wordValue? (w : String) : Option Scalar :=
  if w = "true" ∨ w = "True" then some (.bool true)
  else if w = "false" ∨ w = "False" then some (.bool false)
  else if w = "none" ∨ w = "None" then some .null
  else none

/-- The expression of a word. -/
def wordExpr (w : String) : Expr :=
  match wordValue? w with
  | some s => .constant s
  | none => .name w

/-- A pair of a mapping. -/
def pair (sub : ExprReader) : Reader (Expr × Expr) := do
  let key ← sub .choice
  expectSign .colon
  return (key, ← sub .choice)

/-- A literal, a name, or an expression in brackets. -/
def primary (sub : ExprReader) : Reader Expr := do
  match ← current with
  | .name w =>
    advance
    return wordExpr w
  | .text s =>
    advance
    return .constant (.str (← texts s))
  | .integer n =>
    advance
    return .constant (.int n)
  | .float x =>
    advance
    return .constant (.float x)
  | .sign .openParen =>
    advance
    let e ← tuple (sub .choice) [] true
    expectSign .closeParen
    return e
  | .sign .openBracket =>
    advance
    return .list (← itemsUntil .closeBracket (sub .choice))
  | .sign .openBrace =>
    advance
    return .map (← itemsUntil .closeBrace (pair sub))
  | l => fail ("unexpected " ++ quoted l.describe)

/-! ### Attributes, items and calls -/

/-- A bound of a slice, if there is one. -/
def bound? (sub : ExprReader) : Reader (Option Expr) := do
  match ← current with
  | .sign .closeBracket | .sign .comma | .sign .colon => return none
  | _ => return some (← sub .choice)

/-- What stands between brackets after a value: an index, or the bounds of a slice. -/
def index (sub : ExprReader) : Reader Expr := do
  let start ← if ← seesSign .colon then pure none else some <$> sub .choice
  match start, ← seesSign .colon with
  | some e, false => return e
  | start, _ =>
    advance
    let stop ← bound? sub
    let step ← if ← skipIf (.sign .colon) then bound? sub else pure none
    return .bounds start stop step

/-- The item of a value at an index. -/
def itemOf (e index : Expr) : Expr :=
  match index with
  | .bounds start stop step => .slice e start stop step
  | i => .item e i

/-- An attribute or an item of a value. -/
def subscript (sub : ExprReader) (e : Expr) : Reader Expr := do
  if ← skipIf (.sign .dot) then
    match ← current with
    | .name s =>
      advance
      return .member e s
    | .integer n =>
      advance
      return .item e (.constant (.int n))
    | _ =>
      advance
      fail "expected name or number"
  else
    advance
    -- Here a comma at the end is followed by an index.
    let step (items : List Expr) : Reader (Option (List Expr)) := do
      if ← seesSign .closeBracket then return none
      if !items.isEmpty then expectSign .comma
      return some ((← index sub) :: items)
    let items ← repeatFrom [] step
    expectSign .closeBracket
    match items with
    | [i] => return itemOf e i
    | _ => return .item e (.tuple items.reverse)

/-- The failure of an argument at the wrong place. -/
def failArgument {α : Type} : Reader α := fail "invalid syntax for function call expression"

/-- One more argument of a call. -/
def argument (sub : ExprReader) (a : Arguments) : Reader Arguments := do
  let ensure (b : Bool) : Reader Unit := if b then pure () else failArgument
  match ← current with
  | .sign .star =>
    ensure (a.more.isNone && a.moreNamed.isNone)
    advance
    return { a with more := some (← sub .choice) }
  | .sign .doubleStar =>
    ensure a.moreNamed.isNone
    advance
    return { a with moreNamed := some (← sub .choice) }
  | l =>
    -- A word is the name of an argument only if an equals sign follows it.
    let next ← if l.name?.isSome then look else pure l
    match l, next with
    | .name key, .sign .assign =>
      ensure a.moreNamed.isNone
      advance
      advance
      return { a with named := a.named ++ [(key, ← sub .choice)] }
    | _, _ =>
      ensure (a.more.isNone && a.moreNamed.isNone && a.named.isEmpty)
      return { a with plain := a.plain ++ [← sub .choice] }

/-- The arguments of a call in parentheses. -/
def arguments (sub : ExprReader) : Reader Arguments := do
  expectSign .openParen
  let step (s : Arguments × Bool) : Reader (Option (Arguments × Bool)) := do
    let (a, comma) := s
    if ← seesSign .closeParen then return none
    if comma then expectSign .comma
    if ← seesSign .closeParen then return none
    return some (← argument sub a, true)
  let (a, _) ← repeatFrom (Arguments.none, false) step
  expectSign .closeParen
  return a

/-- A call of a value. -/
def call (sub : ExprReader) (e : Expr) : Reader Expr := do
  let a ← arguments sub
  return .call e a.plain a.named a.more a.moreNamed

/-- Attributes, items and calls of a value. -/
def postfixes (sub : ExprReader) (e : Expr) : Reader Expr :=
  repeatFrom e fun e => do
    match ← current with
    | .sign .dot | .sign .openBracket => some <$> subscript sub e
    | .sign .openParen => some <$> call sub e
    | _ => return none

/-! ### Filters and tests -/

/-- A name with points in it. -/
def dottedName : Reader String := do
  let first ← expectName
  repeatFrom first fun s => do
    if ← skipIf (.sign .dot) then return some (s ++ "." ++ (← expectName)) else return none

/-- A filter, after the bar before it. -/
def filter (sub : ExprReader) (e : Option Expr) : Reader Expr := do
  let name ← dottedName
  let a ← if ← seesSign .openParen then arguments sub else pure Arguments.none
  return .filter e name a.plain a.named a.more a.moreNamed

/-- Filters with bars before them. -/
def filters (sub : ExprReader) (e : Option Expr) : Reader (Option Expr) :=
  repeatFrom e fun e => do
    if ← skipIf (.sign .pipe) then return some (some (← filter sub e)) else return none

/-- Whether an argument without parentheses can start with a token. -/
def startsArgument : Lexeme → Bool
  | .name w => !(["else", "or", "and"].contains w)
  | .text _ | .integer _ | .float _ => true
  | .sign s => s == .openParen || s == .openBracket || s == .openBrace
  | _ => false

/-- A test, after the word before it. -/
def test (sub : ExprReader) (e : Expr) : Reader Expr := do
  let negated ← skipIf (.name "not")
  let name ← dottedName
  let a ←
    if ← seesSign .openParen then arguments sub
    else if startsArgument (← current) then
      -- The word of tests can start an argument, and then it has no meaning.
      if ← seesWord "is" then fail "You cannot chain multiple tests with is"
      let argument ← primary sub
      pure { Arguments.none with plain := [← postfixes sub argument] }
    else pure Arguments.none
  let t := Expr.test e name a.plain a.named a.more a.moreNamed
  return if negated then .opposite t else t

/-- Filters, tests and calls of a value. -/
def refinements (sub : ExprReader) (e : Expr) : Reader Expr :=
  repeatFrom e fun e => do
    match ← current with
    | .sign .pipe =>
      advance
      some <$> filter sub (some e)
    | .name "is" =>
      advance
      some <$> test sub e
    | .sign .openParen => some <$> call sub e
    | _ => return none

/-! ### Operators -/

/-- A value with signs before it and attributes, items and calls after it. -/
def signed (sub : ExprReader) : Reader Expr := do
  let e ←
    match ← current with
    | .sign .minus =>
      advance
      Expr.signed .minus <$> sub .signed
    | .sign .plus =>
      advance
      Expr.signed .plus <$> sub .signed
    | _ => primary sub
  postfixes sub e

/-- A value with signs, and with filters and tests after it. -/
def refined (sub : ExprReader) : Reader Expr := do refinements sub (← signed sub)

/-- Operands of one level with operators between them, grouped from the left. -/
def chain (operand : Reader Expr) (operator? : Lexeme → Option (Expr → Expr → Expr)) :
    Reader Expr := do
  repeatFrom (← operand) fun e => do
    match operator? (← current) with
    | some op =>
      advance
      return some (op e (← operand))
    | none => return none

/-- Powers. -/
def powers (sub : ExprReader) : Reader Expr :=
  chain (refined sub) fun l => if l = .sign .doubleStar then some (.arithmetic .power) else none

/-- Products, quotients and remainders. -/
def products (sub : ExprReader) : Reader Expr :=
  chain (powers sub) fun
    | .sign .star => some (.arithmetic .multiply)
    | .sign .slash => some (.arithmetic .divide)
    | .sign .doubleSlash => some (.arithmetic .floorDivide)
    | .sign .percent => some (.arithmetic .remainder)
    | _ => none

/-- Texts put one after the other. -/
def concats (sub : ExprReader) : Reader Expr := do
  let first ← products sub
  let items ← repeatFrom [first] fun items => do
    if ← skipIf (.sign .tilde) then return some ((← products sub) :: items) else return none
  match items with
  | [e] => return e
  | _ => return .concat items.reverse

/-- Sums and differences. -/
def sums (sub : ExprReader) : Reader Expr :=
  chain (concats sub) fun
    | .sign .plus => some (.arithmetic .add)
    | .sign .minus => some (.arithmetic .subtract)
    | _ => none

/-- The comparison that a token stands for. -/
def relation? : Lexeme → Option Relation
  | .sign .equal => some .equal
  | .sign .notEqual => some .notEqual
  | .sign .less => some .less
  | .sign .lessEqual => some .lessEqual
  | .sign .greater => some .greater
  | .sign .greaterEqual => some .greaterEqual
  | .name "in" => some .isIn
  | _ => none

/-- The comparison at hand, taken from the tokens. -/
def takeRelation? : Reader (Option Relation) := do
  match relation? (← current) with
  | some r =>
    advance
    return some r
  | none =>
    if ← seesWord "not" then
      -- A negation between two operands belongs to a comparison only before this word.
      if (← look) = .name "in" then
        advance
        advance
        return some .isNotIn
    return none

/-- Comparisons of neighbours. -/
def comparisons (sub : ExprReader) : Reader Expr := do
  let first ← sums sub
  let rest ← repeatFrom [] fun rest => do
    match ← takeRelation? with
    | some r => return some ((r, ← sums sub) :: rest)
    | none => return none
  match rest with
  | [] => return first
  | _ => return .compare first rest.reverse

/-- A comparison with negations before it. -/
def negations (sub : ExprReader) : Reader Expr := do
  if ← skipIf (.name "not") then .opposite <$> sub .opposite else comparisons sub

/-- Conjunctions. -/
def conjunctions (sub : ExprReader) : Reader Expr :=
  chain (negations sub) fun l => if l = .name "and" then some .both else none

/-- Disjunctions. -/
def disjunctions (sub : ExprReader) : Reader Expr :=
  chain (conjunctions sub) fun l => if l = .name "or" then some .either else none

/-- Choices. -/
def choices (sub : ExprReader) : Reader Expr := do
  let start ← line
  let first ← disjunctions sub
  let (e, _) ← repeatFrom (first, start) fun (e, start) => do
    if ← skipIf (.name "if") then
      let condition ← disjunctions sub
      let no ← if ← skipIf (.name "else") then some <$> sub .choice else pure none
      -- What has been read so far may be chosen in turn, by another condition behind it.
      return some (.choice condition e no start, ← line)
    else return none
  return e

/-- The reader of a level. -/
def atLevel (sub : ExprReader) : Level → Reader Expr
  | .choice => choices sub
  | .either => disjunctions sub
  | .opposite => negations sub
  | .signed => signed sub

/-- Expressions that start over no more often than a number says. -/
def bounded : Nat → ExprReader
  | 0 => fun _ => exhausted
  | fuel + 1 => atLevel (bounded fuel)

/-- Expressions. -/
def expressionAt (level : Level) : Reader Expr := do
  bounded ((← get).rest.length + 2) level

/-- An expression. -/
def expression : Reader Expr := expressionAt .choice

/-- A row of expressions in a tag. -/
def expressions : Reader Expr := tuple expression [] false

/-! ### Targets -/

/-- An item of what is assigned to: an expression, or a field of a namespace. -/
inductive TargetItem where
  /-- An expression, which is to be a name or a tuple of names. -/
  | plain (e : Expr)
  /-- A field of a namespace. -/
  | field (object name : String)

/-- The target of an item. -/
def TargetItem.target? : TargetItem → Option Target
  | plain e => e.target?
  | field object name => some (.field object name)

/-- The failure of assigning to something that is no target. -/
def failAssign {α : Type} (kind : String) : Reader α :=
  fail ("can't assign to " ++ quoted kind)

/-- An item of what is assigned to. -/
def targetItem (fields : Bool) : Reader TargetItem := do
  match fields, ← current with
  | true, .name w =>
    advance
    match wordValue? w, ← seesSign .dot with
    | none, true =>
      advance
      return .field w (← expectName)
    | _, _ => return .plain (wordExpr w)
  | _, _ => .plain <$> primary (bounded ((← get).rest.length + 2))

/-- What is assigned to: a name, or names with commas between them. -/
def assignTarget (fields : Bool) (ends : List String) : Reader Target := do
  let (items, comma) ← row ends (targetItem fields)
  match items, comma with
  | [], false => failNoExpression
  | [i], false =>
    match i, i.target? with
    | _, some t => return t
    | .plain e, none => failAssign e.kindName
    | .field .., none => failAssign "nsref"
  | items, _ =>
    match items.mapM TargetItem.target? with
    | some ts => return .tuple ts
    | none => failAssign "tuple"

/-- A name that is assigned to. -/
def nameTarget : Reader String := do
  let w ← expectName
  if literalWords.contains w then failAssign "name" else return w

/-- The parameters of a definition in parentheses. -/
def signature : Reader (List Parameter) := do
  expectSign .openParen
  let step (ps : List Parameter) : Reader (Option (List Parameter)) := do
    if ← seesSign .closeParen then return none
    if !ps.isEmpty then expectSign .comma
    let name ← nameTarget
    if ← skipIf (.sign .assign) then return some (⟨name, some (← expression)⟩ :: ps)
    else if ps.any (·.otherwise.isSome) then fail "non-default argument follows default argument"
    else return some (⟨name, none⟩ :: ps)
  let ps ← repeatFrom [] step
  expectSign .closeParen
  return ps.reverse

end Reader

end Playbook.Template
