import Playbook.Template.Evaluation.Expr

/-!
# Constants in templates

An expression without names and calls has its value before the template is run, unless it asks for a
filter that looks at what is around it. Such an expression is replaced by its value, provided that
the value can be written down: numbers, texts, and rows and mappings of them. If working it out
fails, it is left as it is and fails when it is reached; but a text that cannot be put together and
a key that no mapping takes are faults at once.

Main definitions:

- `Template.constantly`: the evaluator that knows constants only;
- `Expr.fold`: an expression in which the constant parts are worked out;
- `Template.vocabulary`: the filters and tests that a template may name.
-/

namespace Playbook.Template

/-- The failure of what is not constant. -/
def notConstant : Failure := ⟨.run, "not constant"⟩

/-- The filters that look at what is around them. -/
def lookingAround : List String :=
  ["map", "random", "reject", "rejectattr", "select", "selectattr"]

/-- A place without names. -/
def nowhere : Setting := ⟨⟨fun _ => none, true⟩, []⟩

/-- Answer a request that constants can make with the help of an evaluator. -/
def constantAnswer (self : Evaluator) : Request → Eval Datum
  | .expr site e => do
    match e with
    | .constant s => return .scalar s
    | .tuple items => Eval.newTuple (← self.exprs site items)
    | .name _ | .call .. | .bounds .. | .filter none .. | .choice _ _ none _ => throw notConstant
    | .filter (some _) name .. =>
      if lookingAround.contains name then throw notConstant else evalExpr self nowhere site e
    | e => evalExpr self nowhere site e
  | .filter name d i => applyFilter name d i
  | .pull r => pullRow ⟨fun _ _ _ => throw notConstant, fun _ _ _ => throw notConstant,
      fun _ _ => throw notConstant, fun _ => throw notConstant, fun _ _ _ => throw notConstant⟩ r
  | .nodes .. | .call .. => throw notConstant

/-- The evaluator that nests the evaluation of constants up to a depth. -/
def constantly : Nat → Evaluator
  | 0 => fun _ => throw Eval.tooDeep
  | depth + 1 => fun request =>
    Eval.pulling (constantly depth).puller (constantAnswer (constantly depth) request)

/-- The value of a constant expression. -/
def constantDatum (e : Expr) : Eval Datum := (constantly nesting).expr default e

/-- What a computation with constants gives. -/
def ofConstants {α : Type} (x : Eval α) : Except Failure α :=
  (x (constantly nesting).puller (Store.empty [] 0)).1

/-! ### Writing values down -/

/-- The expression of a datum, if it can be written down; the number bounds the depth. -/
def writtenWithin : Nat → Datum → Eval (Option Expr)
  | 0, _ => return none
  | depth + 1, d => do
    let all (items : List Datum) : Eval (Option (List Expr)) := do
      return (← items.mapM (writtenWithin depth)).mapM id
    match d with
    | .scalar s =>
      match s with
      | .bytes _ | .date .. | .datetime .. => return none
      | s => return some (.constant s)
    | .tuple _ items =>
      if (← d.typeName) ≠ "tuple" then return none
      else return (← all items).map .tuple
    | .cell r =>
      match ← Eval.cell r with
      | .list items => return (← all items).map .list
      | .map t =>
        let keys ← all (t.entries.map (·.1))
        let values ← all (t.entries.map (·.2))
        return keys.bind fun ks => values.map fun vs => .map (ks.zip vs)
      | _ => return none
    | _ => return none

namespace Expr

/-- The expression of the value of a constant expression. -/
def constant? (e : Expr) : Option Expr :=
  match ofConstants (do writtenWithin depthLimit (← constantDatum e)) with
  | .ok found => found
  | .error _ => none

/-- The text that a constant expression puts out. -/
def constantText? (e : Expr) : Option String :=
  (ofConstants (do (← constantDatum e).text)).toOption

/-- A failure that is a fault at once. -/
def firstFault (steps : List (Eval (Option Failure))) : Option Failure :=
  let found : Eval (Option Failure) := steps.foldlM (fun found step => do
    match found with
    | some f => return some f
    | none => step) none
  ((ofConstants found).toOption).join

/-- The failure of putting a text together, or of a key that no mapping takes, where all before it
is constant. -/
def fault? : Expr → Option Failure
  | .concat items =>
    firstFault <| items.map fun e => do
      match ← Eval.attempt (← constantDatum e).text with
      | .ok _ => return none
      | .error f => return some f
  | .map pairs =>
    firstFault <| pairs.map fun (k, e) => do
      let key ← constantDatum k
      discard <| constantDatum e
      match ← Eval.attempt key.checkKey with
      | .ok () => return none
      | .error f => return some f
  | _ => none

/-- An expression whose parts are worked out, itself worked out. The names that it mentions stay
mentioned. -/
def foldWhole (e : Expr) : Except Failure Expr :=
  match e.fault?, e.constant? with
  | some f, _ => .error f
  | none, none => .ok e
  | none, some c =>
    if e.names.isEmpty then .ok c else .ok (.choice (.constant (.bool true)) c (some e) 0)

mutual

/-- An expression in which the constant parts are worked out. -/
def fold : Expr → Except Failure Expr
  | .constant s => .ok (.constant s)
  | .name s => .ok (.name s)
  | .tuple items => do foldWhole (.tuple (← foldAll items))
  | .list items => do foldWhole (.list (← foldAll items))
  | .map pairs => do foldWhole (.map (← foldPairs pairs))
  | .signed s e => do foldWhole (.signed s (← fold e))
  | .arithmetic op a b => do
    let a ← fold a
    foldWhole (.arithmetic op a (← fold b))
  | .both a b => do
    let a ← fold a
    foldWhole (.both a (← fold b))
  | .either a b => do
    let a ← fold a
    foldWhole (.either a (← fold b))
  | .opposite e => do foldWhole (.opposite (← fold e))
  | .concat items => do foldWhole (.concat (← foldAll items))
  | .compare first rest => do
    let first ← fold first
    foldWhole (.compare first (← foldCompared rest))
  | .choice asked yes no line => do
    let asked ← fold asked
    let yes ← fold yes
    foldWhole (.choice asked yes (← foldOption no) line)
  | .member e key => do foldWhole (.member (← fold e) key)
  | .item e index => do
    let e ← fold e
    foldWhole (.item e (← fold index))
  | .slice e start stop step => do
    let e ← fold e
    let start ← foldOption start
    let stop ← foldOption stop
    foldWhole (.slice e start stop (← foldOption step))
  | .bounds start stop step => do
    let start ← foldOption start
    let stop ← foldOption stop
    return .bounds start stop (← foldOption step)
  | .call callee plain named more moreNamed => do
    let callee ← fold callee
    let plain ← foldAll plain
    let named ← foldNamed named
    let more ← foldOption more
    return .call callee plain named more (← foldOption moreNamed)
  | .filter e word plain named more moreNamed => do
    let e ← foldOption e
    let plain ← foldAll plain
    let named ← foldNamed named
    let more ← foldOption more
    foldWhole (.filter e word plain named more (← foldOption moreNamed))
  | .test e word plain named more moreNamed => do
    let e ← fold e
    let plain ← foldAll plain
    let named ← foldNamed named
    let more ← foldOption more
    foldWhole (.test e word plain named more (← foldOption moreNamed))

/-- Expressions in which the constant parts are worked out. -/
def foldAll : List Expr → Except Failure (List Expr)
  | [] => .ok []
  | e :: rest => do
    let e ← fold e
    return e :: (← foldAll rest)

/-- Pairs in which the constant parts are worked out. -/
def foldPairs : List (Expr × Expr) → Except Failure (List (Expr × Expr))
  | [] => .ok []
  | (k, e) :: rest => do
    let k ← fold k
    let e ← fold e
    return (k, e) :: (← foldPairs rest)

/-- Named expressions in which the constant parts are worked out. -/
def foldNamed : List (String × Expr) → Except Failure (List (String × Expr))
  | [] => .ok []
  | (k, e) :: rest => do
    let e ← fold e
    return (k, e) :: (← foldNamed rest)

/-- Compared expressions in which the constant parts are worked out. -/
def foldCompared : List (Relation × Expr) → Except Failure (List (Relation × Expr))
  | [] => .ok []
  | (rel, e) :: rest => do
    let e ← fold e
    return (rel, e) :: (← foldCompared rest)

/-- An expression in which the constant parts are worked out, if there is one. -/
def foldOption : Option Expr → Except Failure (Option Expr)
  | none => .ok none
  | some e => do return some (← fold e)

end

end Expr

/-- The filters and tests that a template may name, and how its constants are worked out. -/
def vocabulary : Vocabulary := ⟨filterNames, testNames, Expr.fold, Expr.constantText?⟩

end Playbook.Template
