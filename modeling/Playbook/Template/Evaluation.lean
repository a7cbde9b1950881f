import Playbook.Template.Constant
import Playbook.Template.Evaluation.Node
import Playbook.Template.Reader.Node

/-!
# Evaluating templates

Everything that can be evaluated, with a bound on how deeply evaluations are nested. A template is
read, checked as a whole, and then run in a new store from its outermost nodes on.

Main definitions:

- `Template.evaluate`: the evaluator of a depth;
- `Template.Run`, `Template.run`: what running a template gives, and what it left behind.
-/

namespace Playbook.Template

/-- Answer a request with the help of an evaluator. -/
def answer (self : Evaluator) (setting : Setting) : Request → Eval Datum
  | .expr site e => evalExpr self setting site e
  | .nodes site ns => do return .row (← ns.mapM (runNode self setting site)).flatten
  | .call f i => callDatum self setting f i
  | .filter name d i => applyFilter name d i
  | .pull r => pullRow (self.words setting) r

/-- The evaluator that nests evaluations up to a depth. -/
def evaluate (setting : Setting) : Nat → Evaluator
  | 0 => fun _ => throw Eval.tooDeep
  | depth + 1 => fun request =>
    let self := evaluate setting depth
    Eval.pulling self.puller (answer self setting request)

/-- What the outermost nodes of a template put out. -/
def runNodes (scope : Scope) (t : Settled) : Eval String := do
  let setting : Setting := ⟨scope, t.blocks⟩
  let special := undeclared t.nodes ["self"]
  let f := Frame.ofNodes (fun _ => false) special t.nodes
  let frame ← setting.enter [] none f [("self", some (.blocks []))]
  (evaluate setting nesting).text ⟨frame, [], true, "", false⟩ t.nodes

/-- What a template puts out when its text has been read. -/
def runChecked (scope : Scope) (nodes : List Node) : Eval String := do
  let t ← Eval.ofExcept (settle vocabulary nodes)
  if scope.textual then runNodes scope t else Eval.typeFault "keywords must be strings"

/-- What is left behind by a run. -/
structure Traces where
  /-- The values of the names that the run has looked up around the template. -/
  named : List (String × Value)
  /-- What has marks and has been looked at, by its mark. -/
  current : List (Nat × Value)

/-- What is left behind by the run so far. All of it is given back together, so that what is come to
in several ways has one mark. -/
def tracesAfter : Eval Traces := do
  let s ← getThe Store
  match ← (Datum.row [.row (s.named.map (·.2)), .row (s.marked.map (·.2))]).give with
  | .tuple _ [.tuple _ named, .tuple _ marked] =>
    let current := (s.marked.map (·.1)).zip marked
    let kept := s.current.filter fun (m, _) => !current.any (·.1 == m)
    return ⟨(s.named.map (·.1)).zip named, current ++ kept⟩
  | _ => return ⟨[], s.current⟩

/-- What running a template gives. -/
structure Run where
  /-- The text that is put out. -/
  result : Except Failure String
  /-- What is left behind. -/
  traces : Traces

/-- Run a template. `current` says what has become of values with marks, and marks start from a
number. -/
def run (template : String) (scope : Scope) (current : List (Nat × Value)) (next : Nat) : Run :=
  let noStream : Puller := fun _ => throw Eval.tooDeep
  let (result, store) :=
    (do runChecked scope (← Eval.ofExcept (nodesOf template))) noStream (.empty current next)
  match (tracesAfter noStream store).1 with
  | .ok traces => ⟨result, traces⟩
  | .error _ => ⟨result, ⟨[], current⟩⟩

end Playbook.Template
