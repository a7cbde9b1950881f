import Playbook.Proofs.Evaluation.Words
import Playbook.Template.Evaluation

/-!
# What expressions and nodes fail with

The kinds of failures of a template can be read off its text: those of its operators, filters and
tests, put together over its expressions and nodes. What is called cannot be read off, since a
function is a value like others, so a call may fail in any way; and so may a template that makes
streams, since a stream calls what it was made of.

The objects of which fields are set are read off in the same way.

Main definitions:

- `Expr.faultKinds`, `Node.faultKinds`, `Settled.faultKinds`: what an expression, a node and a
  template fail with;
- `Node.fields`, `Settled.fields`: the objects of which a node and a template set fields;
- `Request.faultKinds`, `Request.fields`: the same for what an evaluator is asked.
-/

namespace Playbook.Template

variable {kinds : List FailureKind} {α : Type}

/-! ### Expressions -/

/-- What a constant fails with: a double that is not finite is written as a name. -/
def constantKinds (s : Scalar) : List FailureKind :=
  match s with
  | .float x => if x.isNaN || x.isInfinite then [.name] else []
  | _ => []

/-- What applying a filter or a test fails with if it is among those that are known. -/
def knownKinds (known : List String) (ofName : String → List FailureKind) (name : String) :
    List FailureKind :=
  if known.contains name then ofName name else [.run]

/-- What handing over the items of a value as arguments fails with. -/
def moreKinds : List FailureKind := .type :: Cursor.faultKinds

mutual

/-- What an expression fails with, besides being nested too deeply. -/
def Expr.faultKinds : Expr → List FailureKind
  | .constant s => constantKinds s
  | .name _ => []
  | .tuple items | .list items => kindsOfAll items
  | .map pairs => .type :: kindsOfPairs pairs
  | .signed _ e => .type :: .undefined :: e.faultKinds
  | .arithmetic op a b => op.faultKinds ++ a.faultKinds ++ b.faultKinds
  | .both a b | .either a b => a.faultKinds ++ b.faultKinds
  | .opposite e => e.faultKinds
  | .concat items => .value :: kindsOfAll items
  | .compare first rest => first.faultKinds ++ kindsOfCompared rest
  | .choice test yes no _ => test.faultKinds ++ yes.faultKinds ++ kindsOfOption no
  | .member e _ => partsKinds ++ e.faultKinds
  | .item e index => partsKinds ++ e.faultKinds ++ index.faultKinds
  | .slice e start stop step =>
    sliceKinds ++ e.faultKinds ++ kindsOfOption start ++ kindsOfOption stop ++ kindsOfOption step
  | .bounds .. => [.template]
  | .call .. => FailureKind.all
  | .filter e name plain named more moreNamed =>
    knownKinds filterNames filterKinds name ++ kindsOfOption e ++ kindsOfAll plain ++
      kindsOfNamed named ++ kindsOfMore more ++ kindsOfMore moreNamed
  | .test e name plain named more moreNamed =>
    knownKinds testNames testKinds name ++ e.faultKinds ++ kindsOfAll plain ++
      kindsOfNamed named ++ kindsOfMore more ++ kindsOfMore moreNamed

/-- What expressions fail with. -/
def kindsOfAll : List Expr → List FailureKind
  | [] => []
  | e :: rest => e.faultKinds ++ kindsOfAll rest

/-- What pairs of expressions fail with. -/
def kindsOfPairs : List (Expr × Expr) → List FailureKind
  | [] => []
  | (k, e) :: rest => k.faultKinds ++ e.faultKinds ++ kindsOfPairs rest

/-- What named expressions fail with. -/
def kindsOfNamed : List (String × Expr) → List FailureKind
  | [] => []
  | (_, e) :: rest => e.faultKinds ++ kindsOfNamed rest

/-- What compared expressions fail with, and comparing them. -/
def kindsOfCompared : List (Relation × Expr) → List FailureKind
  | [] => []
  | (rel, e) :: rest => rel.faultKinds ++ e.faultKinds ++ kindsOfCompared rest

/-- What an expression fails with if there is one. -/
def kindsOfOption : Option Expr → List FailureKind
  | none => []
  | some e => e.faultKinds

/-- What an expression fails with if there is one, and handing over its items. -/
def kindsOfMore : Option Expr → List FailureKind
  | none => []
  | some e => moreKinds ++ e.faultKinds

end

/-! ### Nodes -/

/-- What assigning fails with. -/
def assignKinds : List FailureKind := [.type, .value, .mutation, .run]

/-- What the parts of an output fail with, and showing them. -/
def kindsOfParts (ps : List Part) : List FailureKind :=
  ps.flatMap fun
    | .data _ => []
    | .value e => .value :: e.faultKinds

/-- What bindings fail with. -/
def kindsOfBindings (bs : List (Target × Expr)) : List FailureKind :=
  bs.flatMap fun (_, e) => e.faultKinds

mutual

/-- What a node fails with, besides being nested too deeply. What stands in a named block is run
where the block is, but belongs to the template. -/
def Node.faultKinds : Node → List FailureKind
  | .output parts => kindsOfParts parts
  | .assign _ value => assignKinds ++ value.faultKinds
  | .capture _ filter body => assignKinds ++ kindsOfOption filter ++ nodeKinds body
  | .branch test body others otherwise =>
    test.faultKinds ++ nodeKinds body ++ armKinds others ++ nodeKinds otherwise
  | .loop _ _ (some _) _ _ _ => FailureKind.all
  | .loop _ source none _ body otherwise =>
    assignKinds ++ Cursor.faultKinds ++ source.faultKinds ++ nodeKinds body ++ nodeKinds otherwise
  | .definition .. => []
  | .callBlock .. => FailureKind.all
  | .filterBlock filter body => filter.faultKinds ++ nodeKinds body
  | .bind bindings body => assignKinds ++ kindsOfBindings bindings ++ nodeKinds body
  | .escaped e body => e.faultKinds ++ nodeKinds body
  | .block _ _ mustFill _ => if mustFill then [.run] else []
  | .extend e | .load e _ | .loadNames e _ => .type :: e.faultKinds
  | .insert e _ => .type :: .run :: .mutation :: e.faultKinds

/-- What nodes fail with. -/
def nodeKinds : List Node → List FailureKind
  | [] => []
  | n :: rest => n.faultKinds ++ nodeKinds rest

/-- What branches fail with. -/
def armKinds : List (Expr × List Node) → List FailureKind
  | [] => []
  | (test, body) :: rest => test.faultKinds ++ nodeKinds body ++ armKinds rest

end

mutual

/-- The objects of which a node sets fields. What stands in a definition is run by a call. -/
def Node.fields : Node → List String
  | .assign target _ => target.objects
  | .capture target _ body => target.objects ++ nodeFields body
  | .branch _ body others otherwise => nodeFields body ++ armFields others ++ nodeFields otherwise
  | .loop target _ _ _ body otherwise =>
    target.objects ++ nodeFields body ++ nodeFields otherwise
  | .bind bindings body => bindings.flatMap (·.1.objects) ++ nodeFields body
  | .filterBlock _ body | .escaped _ body => nodeFields body
  | .output _ | .definition .. | .callBlock .. | .block .. | .extend _ | .load .. | .loadNames ..
  | .insert .. => []

/-- The objects of which nodes set fields. -/
def nodeFields : List Node → List String
  | [] => []
  | n :: rest => n.fields ++ nodeFields rest

/-- The objects of which branches set fields. -/
def armFields : List (Expr × List Node) → List String
  | [] => []
  | (_, body) :: rest => nodeFields body ++ armFields rest

end

/-- The objects of which a template sets fields. -/
def Settled.fields (t : Settled) : List String :=
  nodeFields t.nodes ++ t.blocks.flatMap fun b => nodeFields b.body

/-- What a template fails with: its evaluation may be nested too deeply, and what it puts out has to
be text. -/
def Settled.faultKinds (t : Settled) : List FailureKind :=
  .depth :: .type :: nodeKinds t.nodes ++ t.blocks.flatMap fun b => nodeKinds b.body

/-! ### Parts of expressions and nodes -/

theorem kindsOfAll_eq (es : List Expr) : kindsOfAll es = es.flatMap Expr.faultKinds := by
  induction es with
  | nil => rfl
  | cons e rest ih => rw [kindsOfAll, ih, List.flatMap_cons]

theorem kindsOfPairs_eq (ps : List (Expr × Expr)) :
    kindsOfPairs ps = ps.flatMap fun p => p.1.faultKinds ++ p.2.faultKinds := by
  induction ps with
  | nil => rfl
  | cons p rest ih => rw [kindsOfPairs, ih, List.flatMap_cons]

theorem kindsOfNamed_eq (es : List (String × Expr)) :
    kindsOfNamed es = es.flatMap fun e => e.2.faultKinds := by
  induction es with
  | nil => rfl
  | cons e rest ih => rw [kindsOfNamed, ih, List.flatMap_cons]

theorem nodeKinds_eq (ns : List Node) : nodeKinds ns = ns.flatMap Node.faultKinds := by
  induction ns with
  | nil => rfl
  | cons n rest ih => rw [nodeKinds, ih, List.flatMap_cons]

theorem armKinds_eq (arms : List (Expr × List Node)) :
    armKinds arms = arms.flatMap fun a => a.1.faultKinds ++ nodeKinds a.2 := by
  induction arms with
  | nil => rfl
  | cons a rest ih => rw [armKinds, ih, List.flatMap_cons]

theorem nodeFields_eq (ns : List Node) : nodeFields ns = ns.flatMap Node.fields := by
  induction ns with
  | nil => rfl
  | cons n rest ih => rw [nodeFields, ih, List.flatMap_cons]

theorem armFields_eq (arms : List (Expr × List Node)) :
    armFields arms = arms.flatMap fun a => nodeFields a.2 := by
  induction arms with
  | nil => rfl
  | cons a rest ih => rw [armFields, ih, List.flatMap_cons]

/-- What is admitted for all is admitted for each. -/
theorem subset_of_flatMap_subset {f : α → List FailureKind} {xs : List α}
    (h : xs.flatMap f ⊆ kinds) {a : α} (ha : a ∈ xs) : f a ⊆ kinds :=
  fun _ hk => h (List.mem_flatMap_of_mem ha hk)

/-! ### Requests -/

/-- What answering a request fails with. -/
def Request.faultKinds : Request → List FailureKind
  | .expr _ e => e.faultKinds
  | .nodes _ ns => nodeKinds ns
  | .call .. => FailureKind.all
  | .filter name .. => filterKinds name
  | .pull _ => []

/-- The objects of which answering a request sets fields, beside what is called. -/
def Request.fields : Request → List String
  | .nodes _ ns => nodeFields ns
  | .expr .. | .call .. | .filter .. | .pull _ => []

end Playbook.Template
