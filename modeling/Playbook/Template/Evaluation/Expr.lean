import Playbook.Template.Evaluation.Site
import Playbook.Template.Filter
import Playbook.Template.Method

/-!
# Evaluating expressions

The value of an expression at a site. What an expression consists of, and what it calls, is asked of
an evaluator of smaller things.

Main definitions:

- `Template.Request`, `Template.Evaluator`: what can be asked for, and who answers;
- `Template.evalExpr`: the value of an expression.
-/

namespace Playbook.Template

/-- Something to evaluate. -/
inductive Request where
  /-- The value of an expression. -/
  | expr (site : Site) (e : Expr)
  /-- What nodes put out, as a tuple of pieces. -/
  | nodes (site : Site) (ns : List Node)
  /-- The result of a call. -/
  | call (f : Datum) (i : Inputs)
  /-- The result of a filter. -/
  | filter (name : String) (d : Datum) (i : Inputs)
  /-- The next item of the stream in a cell, as a row of at most one. -/
  | pull (r : Ref)

/-- What answers requests. -/
abbrev Evaluator := Request → Eval Datum

namespace Evaluator

/-- The value of an expression. -/
abbrev expr (self : Evaluator) (site : Site) (e : Expr) : Eval Datum := self (.expr site e)

/-- The value of an expression if there is one, or nothing. -/
def exprOr (self : Evaluator) (site : Site) : Option Expr → Eval Datum
  | some e => self.expr site e
  | none => return .null

/-- The values of expressions in order. -/
def exprs (self : Evaluator) (site : Site) (es : List Expr) : Eval (List Datum) :=
  es.mapM (self.expr site)

/-- The values of named expressions in order. -/
def named (self : Evaluator) (site : Site) (es : List (String × Expr)) :
    Eval (List (String × Datum)) :=
  es.mapM fun (k, e) => do return (k, ← self.expr site e)

/-- The pieces that nodes put out. -/
def pieces (self : Evaluator) (site : Site) (ns : List Node) : Eval (List Datum) := do
  match ← self (.nodes site ns) with
  | .tuple _ items => return items
  | d => return [d]

/-- Pieces as one text. -/
def joined (pieces : List Datum) : Eval String := do
  return String.ofList (← joinedTexts 0 pieces).flatten

/-- The text that nodes put out. -/
def text (self : Evaluator) (site : Site) (ns : List Node) : Eval String := do
  joined (← self.pieces site ns)

/-- How streams are asked for items by way of requests. -/
def puller (self : Evaluator) : Puller := fun r =>
  let pulled : Eval (Option Datum) := do
    match ← self (.pull r) with
    | .tuple _ (d :: _) => return some d
    | _ => return none
  pulled fun _ => throw Eval.tooDeep

end Evaluator

/-- How deeply evaluations are nested. -/
def nesting : Nat := 3000

/-- The next item of a stream, as a row of at most one. -/
def pullRow (w : Words) (r : Ref) : Eval Datum := do
  return .row (← pullWith w r).toList

/-! ### Arguments -/

/-- The arguments of a call. -/
def inputsOf (self : Evaluator) (site : Site) (plain : List Expr) (named : List (String × Expr))
    (more moreNamed : Option Expr) : Eval Inputs := do
  let first ← self.exprs site plain
  let names ← self.named site named
  let rest ←
    match more with
    | none => pure []
    | some e => do
      let d ← self.expr site e
      match ← Eval.attempt d.cursor with
      | .ok c => c.rest
      | .error _ =>
        Eval.typeFault ("jinja2.runtime.Context.call() argument after * must be an iterable, " ++
          "not " ++ (← d.typeName))
  let restNames ←
    match moreNamed with
    | none => pure []
    | some e => do
      let d ← self.expr site e
      let refuse : Eval (List (Datum × Datum)) := do
        Eval.typeFault ("jinja2.runtime.Context.call() argument after ** must be a mapping, not " ++
          (← d.typeName))
      let entries ←
        match d with
        | .cell r =>
          match ← Eval.cell r with
          | .map t => pure t.entries
          | _ => refuse
        | _ => refuse
      entries.mapM fun (k, v) =>
        match k with
        | .str s => pure (s, v)
        | _ => Eval.typeFault "keywords must be strings"
  return ⟨first ++ rest, names ++ restNames⟩

/-! ### Operators -/

/-- An operation on two data, of which the first may be a text with percent signs. -/
def evalArithmetic (op : Arithmetic) (a b : Datum) : Eval Datum := do
  match op, a with
  | .remainder, .str s => return .str (← formatPercent s b)
  | op, a => a.arithmetic op b

/-- Whether a datum and others are in the relations between neighbours. -/
def evalChain (self : Evaluator) (site : Site) (a : Datum) :
    List (Relation × Expr) → Eval Datum
  | [] => return .bool true
  | (rel, e) :: rest => do
    let b ← self.expr site e
    if ← a.holds rel b then evalChain self site b rest else return .bool false

/-- A new mapping of pairs. -/
def evalPairs (self : Evaluator) (site : Site) (pairs : List (Expr × Expr)) : Eval Datum := do
  let entries ← pairs.mapM fun (k, e) => do
    let key ← self.expr site k
    return (key, ← self.expr site e)
  entries.forM fun (key, _) => key.checkKey
  Eval.newMap (.ofDisplay entries)

/-- What is said about a choice without a second value. -/
def noSecond (line : Nat) : String :=
  "the inline if-expression on line " ++ toString line ++
    " evaluated to false and no else section was defined."

/-- What is said about an unknown filter or test that is reached. -/
def unknownReached {α : Type} (kind name : String) : Eval α :=
  Eval.runFault ("No " ++ kind ++ " named " ++ Literal.text name ++ " found.")

/-! ### Constants -/

mutual

/-- The value of a constant, or of a tuple of constants. -/
def constantValue? : Expr → Option Value
  | .constant s => some (.scalar s)
  | .tuple items => (constantValues? items).map (.tuple none)
  | _ => none

/-- The values of constants. -/
def constantValues? : List Expr → Option (List Value)
  | [] => some []
  | e :: rest =>
    match constantValue? e, constantValues? rest with
    | some v, some vs => some (v :: vs)
    | _, _ => none

end

/-- A tuple of constants: all tuples that are written in one way are one and the same. -/
def constantTuple (v : Value) : Eval Datum := do
  let key := v.literal
  match (← getThe Store).constants.lookup key with
  | some d => return d
  | none =>
    let d ← Eval.take v
    modifyThe Store fun s => { s with constants := (key, d) :: s.constants }
    return d

/-- The value of a constant. A double that is not finite is written as a name, which has no
value. -/
def evalConstant (s : Scalar) : Eval Datum := do
  match s with
  | .float x =>
    if x.isNaN then throw ⟨.name, "name 'nan' is not defined"⟩
    if x.isInfinite then throw ⟨.name, "name 'inf' is not defined"⟩
    return .scalar s
  | s => return .scalar s

/-! ### Expressions -/

/-- The value of an expression. -/
def evalExpr (self : Evaluator) (setting : Setting) (site : Site) (e : Expr) : Eval Datum := do
  match e with
  | .constant s => evalConstant s
  | .name s => site.lookUp setting s
  | .tuple items =>
    let ds ← self.exprs site items
    match constantValues? items with
    | some vs => constantTuple (.tuple none vs)
    | none => Eval.newTuple ds
  | .list items => Eval.newList (← self.exprs site items)
  | .map pairs => evalPairs self site pairs
  | .signed s e => do (← self.expr site e).signed s
  | .arithmetic op a b => do
    let x ← self.expr site a
    let y ← self.expr site b
    evalArithmetic op x y
  | .both a b => do
    let x ← self.expr site a
    if ← x.isTrue then self.expr site b else return x
  | .either a b => do
    let x ← self.expr site a
    if ← x.isTrue then return x else self.expr site b
  | .opposite e => do return .bool !(← (← self.expr site e).isTrue)
  | .concat items => do
    let ds ← self.exprs site items
    let texts ← ds.mapM Datum.text
    return .str (String.join texts)
  | .compare first rest => do
    let a ← self.expr site first
    evalChain self site a rest
  | .choice test yes no line => do
    if ← (← self.expr site test).isTrue then self.expr site yes
    else
      match no with
      | some e => self.expr site e
      | none => return .missing (noSecond line)
  | .member e name => do (← self.expr site e).member name
  | .item e index => do
    let d ← self.expr site e
    d.item (← self.expr site index)
  | .slice e start stop step => do
    let d ← self.expr site e
    let a ← self.exprOr site start
    let b ← self.exprOr site stop
    let c ← self.exprOr site step
    d.slice a b c
  | .bounds .. => throw ⟨.template, "invalid syntax"⟩
  | .call callee plain named more moreNamed => do
    let f ← self.expr site callee
    let i ← inputsOf self site plain named more moreNamed
    self (.call f i)
  | .filter e name plain named more moreNamed => do
    let d ←
      match e with
      | some e => self.expr site e
      | none => pure (.str site.hole)
    let i ← inputsOf self site plain named more moreNamed
    if filterNames.contains name then self (.filter name d i) else unknownReached "filter" name
  | .test e name plain named more moreNamed => do
    let d ← self.expr site e
    let i ← inputsOf self site plain named more moreNamed
    if testNames.contains name then return .bool (← applyTest filterNames name d i)
    else unknownReached "test" name

end Playbook.Template
