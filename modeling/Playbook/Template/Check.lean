import Playbook.Failure
import Playbook.Template.Names
import Playbook.Template.Token

/-!
# Checking templates

Before a template is run, what is constant in it is worked out, and some faults are found, wherever
they stand: two blocks of one name, filters and tests that nobody knows, a loop that binds its own
word, an integer with too many digits. A filter or test inside a choice may be unknown, since it
need not be reached.

Main definitions:

- `Template.Vocabulary`: the filters and tests there are, and how constants are worked out;
- `Template.namedBlocks`: the named blocks of a template;
- `Template.settle`: a template as it is run, or why it is refused.
-/

namespace Playbook.Template

/-- The filters and tests there are, and what is known of constants. -/
structure Vocabulary where
  /-- The filters. -/
  filters : List String
  /-- The tests. -/
  tests : List String
  /-- An expression in which the constant parts are worked out. -/
  fold : Expr → Except Failure Expr
  /-- The text that a constant expression puts out. -/
  text? : Expr → Option String

/-- What is said about a filter or test that nobody knows. -/
def unknownName (kind name : String) : String := "No " ++ kind ++ " named '" ++ name ++ "'."

/-! ### Expressions -/

/-- What the checks depend on besides the node. -/
structure CheckPlace where
  /-- Whether the node is inside a choice. -/
  soft : Bool
  /-- Whether it is outside all blocks with frames of their own. -/
  top : Bool
  /-- Whether it is outside all blocks. -/
  root : Bool
  /-- Whether its output is left out in a template that fills in another one. -/
  yields : Bool
  /-- Whether constants are worked out, which they are not where markup may be escaped. -/
  folds : Bool

/-- Whether a constant settles a conjunction or disjunction on its own. -/
def settles (e : Expr) (b : Bool) : Bool :=
  match e with
  | .constant s => s.isTrue == b
  | _ => false

/-- Refuse a name that is not in a vocabulary. -/
def checkName (kind : String) (known : List String) (soft : Bool) (name : String) :
    Except Failure Unit :=
  if soft || known.contains name then .ok () else .error (malformed (unknownName kind name))

mutual

/-- Refuse the unknown filters and tests of an expression, and integers with too many digits. -/
def checkExpr (v : Vocabulary) (soft : Bool) : Expr → Except Failure Unit
  | .constant (.int i) => if Scalar.isTooLong i then .error Scalar.tooLongFailure else .ok ()
  | .constant _ | .name _ => .ok ()
  | .tuple items | .list items | .concat items => checkExprs v soft items
  | .map pairs => checkPairs v soft pairs
  | .signed _ e | .opposite e | .member e _ => checkExpr v soft e
  | .arithmetic _ a b | .item a b => do
    checkExpr v soft a
    checkExpr v soft b
  | .both a b => do
    checkExpr v soft a
    -- What a constant decides on its own is taken for it, and the rest is left out.
    if settles a false then .ok () else checkExpr v soft b
  | .either a b => do
    checkExpr v soft a
    if settles a true then .ok () else checkExpr v soft b
  | .compare first rest => do
    checkExpr v soft first
    checkCompared v soft rest
  | .choice test yes no _ => do
    checkExpr v true yes
    checkExpr v true test
    checkOption v true no
  | .slice e start stop step => do
    checkExpr v soft e
    checkOption v soft start
    checkOption v soft stop
    checkOption v soft step
  | .bounds start stop step => do
    checkOption v soft start
    checkOption v soft stop
    checkOption v soft step
  | .call callee plain named more moreNamed => do
    checkExpr v soft callee
    checkExprs v soft plain
    checkNamed v soft named
    checkOption v soft more
    checkOption v soft moreNamed
  | .filter e name plain named more moreNamed => do
    checkName "filter" v.filters soft name
    checkOption v soft e
    checkExprs v soft plain
    checkNamed v soft named
    checkOption v soft more
    checkOption v soft moreNamed
  | .test e name plain named more moreNamed => do
    checkName "test" v.tests soft name
    checkExpr v soft e
    checkExprs v soft plain
    checkNamed v soft named
    checkOption v soft more
    checkOption v soft moreNamed

/-- Refuse the unknown filters and tests of expressions. -/
def checkExprs (v : Vocabulary) (soft : Bool) : List Expr → Except Failure Unit
  | [] => .ok ()
  | e :: rest => do
    checkExpr v soft e
    checkExprs v soft rest

/-- Refuse the unknown filters and tests of pairs. -/
def checkPairs (v : Vocabulary) (soft : Bool) : List (Expr × Expr) → Except Failure Unit
  | [] => .ok ()
  | (k, e) :: rest => do
    checkExpr v soft k
    checkExpr v soft e
    checkPairs v soft rest

/-- Refuse the unknown filters and tests of named expressions. -/
def checkNamed (v : Vocabulary) (soft : Bool) : List (String × Expr) → Except Failure Unit
  | [] => .ok ()
  | (_, e) :: rest => do
    checkExpr v soft e
    checkNamed v soft rest

/-- Refuse the unknown filters and tests of compared expressions. -/
def checkCompared (v : Vocabulary) (soft : Bool) : List (Relation × Expr) → Except Failure Unit
  | [] => .ok ()
  | (_, e) :: rest => do
    checkExpr v soft e
    checkCompared v soft rest

/-- Refuse the unknown filters and tests of an expression if there is one. -/
def checkOption (v : Vocabulary) (soft : Bool) : Option Expr → Except Failure Unit
  | none => .ok ()
  | some e => checkExpr v soft e

end

mutual

/-- An expression as it is run, or why it is refused. The parts of a tuple, a list or a mapping are
looked at one by one. -/
def settleExpr (v : Vocabulary) (p : CheckPlace) : Expr → Except Failure Expr
  | .tuple items => .tuple <$> settleExprs v p items
  | .list items => .list <$> settleExprs v p items
  | .map pairs => .map <$> settlePairs v p pairs
  | e => do
    let e ← if p.folds then v.fold e else .ok e
    checkExpr v p.soft e
    return e

/-- Expressions as they are run. -/
def settleExprs (v : Vocabulary) (p : CheckPlace) : List Expr → Except Failure (List Expr)
  | [] => .ok []
  | e :: rest => do
    let e ← settleExpr v p e
    return e :: (← settleExprs v p rest)

/-- Pairs as they are run. -/
def settlePairs (v : Vocabulary) (p : CheckPlace) :
    List (Expr × Expr) → Except Failure (List (Expr × Expr))
  | [] => .ok []
  | (k, e) :: rest => do
    let k ← settleExpr v p k
    let e ← settleExpr v p e
    return (k, e) :: (← settlePairs v p rest)

end

/-- An expression as it is run if there is one. -/
def settleOption (v : Vocabulary) (p : CheckPlace) (e : Option Expr) :
    Except Failure (Option Expr) :=
  e.mapM (settleExpr v p)

/-- A part of an output as it is run. What is constant is put out as text; the names in it count as
mentioned nevertheless. -/
def settlePart (v : Vocabulary) (p : CheckPlace) (part : Part) : Except Failure Part :=
  match part with
  | .data s => .ok (.data s)
  | .value e =>
    match if p.folds then v.text? e else none with
    | none => .value <$> settleExpr v p e
    | some s =>
      -- A choice that never takes its other side keeps the names of the expression.
      if e.names.isEmpty then .ok (.data s.toList)
      else .ok (.value (.choice (.constant (.bool true)) (.constant (.str s)) (some e) 0))

/-- Bindings as they are run. -/
def settleBindings (v : Vocabulary) (p : CheckPlace) (bindings : List (Target × Expr)) :
    Except Failure (List (Target × Expr)) :=
  bindings.mapM fun (target, e) => do return (target, ← settleExpr v p e)

/-! ### Nodes -/

/-- What has been seen of the statements that fill in another template. -/
structure CheckState where
  /-- How many there were. -/
  extensions : Nat
  /-- Whether one of them is outside all blocks. -/
  certain : Bool

/-- A check that goes through the nodes in order. -/
abbrev Check := StateT CheckState (Except Failure)

/-- Refuse a definition that reads the block of its call and asks for it without a value. -/
def checkCaller (parameters : List Parameter) (body : List Node) : Except Failure Unit :=
  let asks := parameters.any fun p => p.name == "caller" && p.otherwise.isNone
  if asks && (undeclared body ["caller", "kwargs", "varargs"]).contains "caller" then
    .error (malformed ("When defining macros or call blocks the special \"caller\" argument " ++
      "must be omitted or be given a default."))
  else .ok ()

/-- Parameters as they are run. -/
def settleParameters (v : Vocabulary) (p : CheckPlace) (ps : List Parameter) :
    Except Failure (List Parameter) :=
  ps.mapM fun q => do return { q with otherwise := ← settleOption v p q.otherwise }

/-- Refuse a loop in which the word of loops is bound. -/
def checkLoopWord (loop : Node) : Except Failure Unit :=
  if (loop.mentions true).contains (.assigns "loop") then
    .error (malformed "Can't assign to special loop variable in for-loop target")
  else .ok ()

/-- The place inside a block with a frame of its own. -/
def CheckPlace.inner (p : CheckPlace) : CheckPlace := ⟨false, false, false, p.yields, p.folds⟩

/-- The place inside a block whose output is kept. -/
def CheckPlace.kept (p : CheckPlace) : CheckPlace := ⟨false, false, false, false, p.folds⟩

/-- The place inside a branch. -/
def CheckPlace.branch (p : CheckPlace) : CheckPlace := { p with soft := true, root := false }

/-- The same place, whether or not a filter or test there may be unknown. -/
def CheckPlace.as (p : CheckPlace) (soft : Bool) : CheckPlace := { p with soft }

mutual

/-- A node as it is run, or why it is refused, and whether the nodes after it in the row are left
out. -/
def settleNode (v : Vocabulary) (p : CheckPlace) : Node → Check (Node × Bool)
  | .output parts => do
    -- The output is never put out, so its parts are not even looked at.
    if p.yields && (← get).certain then return (.output parts, false)
    let parts ← liftM (parts.mapM (settlePart v p))
    return (.output parts, false)
  | .assign target value => do
    return (.assign target (← settleExpr v p value), false)
  | .capture target filter body => do
    let body ← settleNodes v p.kept body
    return (.capture target (← settleOption v (p.as false) filter) body, false)
  | .branch test body others otherwise => do
    let test ← settleExpr v (p.as true) test
    let body ← settleNodes v p.branch body
    let others ← settleArms v p.branch others
    return (.branch test body others (← settleNodes v p.branch otherwise), false)
  | .loop target source test recursive body otherwise => do
    let test' ← settleOption v (p.as false) test
    checkLoopWord (.loop target source test recursive body otherwise)
    -- The source of a loop that may call itself stands behind its block.
    let before ← if recursive then pure source else settleExpr v p source
    let body ← settleNodes v p.inner body
    let otherwise ← settleNodes v p.inner otherwise
    let source ← if recursive then settleExpr v p source else pure before
    return (.loop target source test' recursive body otherwise, false)
  | .definition name parameters body => do
    checkCaller parameters body
    let parameters ← settleParameters v (p.as false) parameters
    return (.definition name parameters (← settleNodes v p.kept body), false)
  | .callBlock parameters call body => do
    checkCaller parameters body
    let parameters ← settleParameters v (p.as false) parameters
    let body ← settleNodes v p.kept body
    return (.callBlock parameters (← settleExpr v p call) body, false)
  | .filterBlock filter body => do
    let body ← settleNodes v p.inner body
    return (.filterBlock (← settleExpr v (p.as false) filter) body, false)
  | .bind bindings body => do
    let bindings ← liftM (settleBindings v p bindings)
    return (.bind bindings (← settleNodes v p.inner body), false)
  | .escaped e body => do
    -- Whether markup is escaped is known only when the template runs.
    let e ← settleExpr v (p.as false) e
    return (.escaped e (← settleNodes v { p.inner with folds := false } body), false)
  | .block name seesLocals mustFill body => return (.block name seesLocals mustFill body, false)
  | .extend e => do
    if !p.top then throw (malformed "cannot use extend from a non top-level scope")
    let s ← get
    -- A second one can only fail when it is reached, and nothing behind it is.
    if 0 < s.extensions ∧ s.certain then return (.extend e, true)
    let e ← settleExpr v p e
    set (CheckState.mk (s.extensions + 1) (s.certain || p.root))
    return (.extend e, false)
  | .insert e optional => do return (.insert (← settleExpr v p e) optional, false)
  | .load e name => do return (.load (← settleExpr v p e) name, false)
  | .loadNames e names => do return (.loadNames (← settleExpr v p e) names, false)

/-- Nodes as they are run, or why one is refused. -/
def settleNodes (v : Vocabulary) (p : CheckPlace) : List Node → Check (List Node)
  | [] => pure []
  | n :: rest => do
    let (n, last) ← settleNode v p n
    if last then return n :: rest else return n :: (← settleNodes v p rest)

/-- Branches as they are run, or why one is refused. -/
def settleArms (v : Vocabulary) (p : CheckPlace) :
    List (Expr × List Node) → Check (List (Expr × List Node))
  | [] => pure []
  | (test, body) :: rest => do
    let test ← settleExpr v (p.as true) test
    let body ← settleNodes v p body
    return (test, body) :: (← settleArms v p rest)

end

/-! ### Templates -/

/-- A named block. -/
structure NamedBlock where
  /-- Its name. -/
  name : String
  /-- What stands in it. -/
  body : List Node
deriving Repr

mutual

/-- The named blocks of a node, with those inside others, in order. -/
def Node.namedBlocks : Node → List NamedBlock
  | .output _ | .assign _ _ => []
  | .capture _ _ body | .definition _ _ body | .callBlock _ _ body | .filterBlock _ body
  | .bind _ body | .escaped _ body => Template.namedBlocks body
  | .branch _ body others otherwise =>
    Template.namedBlocks body ++ namedBlocksOfArms others ++ Template.namedBlocks otherwise
  | .loop _ _ _ _ body otherwise => Template.namedBlocks body ++ Template.namedBlocks otherwise
  | .block name _ _ body => ⟨name, body⟩ :: Template.namedBlocks body
  | .extend _ | .insert _ _ | .load _ _ | .loadNames _ _ => []

/-- The named blocks of nodes in order. -/
def namedBlocks : List Node → List NamedBlock
  | [] => []
  | n :: rest => n.namedBlocks ++ namedBlocks rest

/-- The named blocks of branches in order. -/
def namedBlocksOfArms : List (Expr × List Node) → List NamedBlock
  | [] => []
  | (_, body) :: rest => namedBlocks body ++ namedBlocksOfArms rest

end

/-- Refuse two blocks of one name. -/
def checkBlockNames : List String → List NamedBlock → Except Failure Unit
  | _, [] => .ok ()
  | seen, b :: rest =>
    if seen.contains b.name then
      .error (malformed ("block '" ++ b.name ++ "' defined twice"))
    else checkBlockNames (b.name :: seen) rest

/-- A template that can be run. -/
structure Settled where
  /-- Its outermost nodes. -/
  nodes : List Node
  /-- Its named blocks. -/
  blocks : List NamedBlock

/-- A template as it is run, or why it is refused: for the names of its blocks, for what stands
outside them, or for what stands in one of them. -/
def settle (v : Vocabulary) (nodes : List Node) : Except Failure Settled := do
  let blocks := namedBlocks nodes
  checkBlockNames [] blocks
  let place : CheckPlace := ⟨false, true, true, true, true⟩
  -- What has been seen of extensions goes on from the outermost nodes into the blocks.
  let all : Check Settled := do
    let nodes ← settleNodes v place nodes
    let blocks ← blocks.mapM fun b => do
      return { b with body := ← settleNodes v place.kept b.body }
    return ⟨nodes, blocks⟩
  all.run' ⟨0, false⟩

end Playbook.Template
