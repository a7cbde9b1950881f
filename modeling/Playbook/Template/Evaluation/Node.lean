import Playbook.Template.Evaluation.Expr

/-!
# Running nodes

A node puts pieces of text out, and it may set names. Blocks with names of their own run in new
frames; a definition remembers the frame around it.

Main definitions:

- `Template.runOutput`, `Template.runLoop`, `Template.runDefinition`: what nodes put out;
- `Template.runNode`: what any node puts out;
- `Template.callDatum`: what a call gives.
-/

namespace Playbook.Template

/-! ### Texts and values -/

/-- The text of a value that is put out. -/
def shownValue (site : Site) (d : Datum) : Eval (List Char) := do
  let cs := (← d.text).toList
  return if site.escapes then cs.flatMap escapeMarkup else cs

/-- The pieces of an output. Texts that stand next to each other are one piece. -/
def runOutput (self : Evaluator) (site : Site) (parts : List Part) : Eval (List Datum) := do
  parts.mapM fun
    | .data s => return .chars s
    | .value e => do return .chars (← shownValue site (← self.expr site e))

/-! ### Definitions -/

/-- A new definition at a site. -/
def newDefinition (site : Site) (name : Option String) (parameters : List Parameter)
    (body : List Node) : Eval Datum := do
  let outside ← site.knows
  -- Whether more arguments are taken is read off the body: it is if the body uses them.
  let read := undeclared body ["caller", "kwargs", "varargs"]
  let isParameter (s : String) : Bool := parameters.any (·.name == s)
  let extra := ["caller", "kwargs", "varargs"].filter fun s => read.contains s && !isParameter s
  Eval.alloc <| .definition
    { name, parameters, body
      names := Frame.ofDefinition outside parameters extra body
      frame := site.frame
      seen := site.seen
      takesCaller := read.contains "caller"
      takesNamed := extra.contains "kwargs"
      takesMore := extra.contains "varargs" }

/-- What a definition is called in messages. -/
def Definition.shownName (m : Definition) : String :=
  match m.name with
  | some s => Literal.text s
  | none => "None"

/-- The values of the parameters of a definition, of which `none` has to be filled in, and the
arguments by name that are left. -/
def bindParameters (m : Definition) (i : Inputs) :
    List (String × Option Datum) × List (String × Datum) :=
  let count := m.parameters.length
  -- Only parameters that no position fills are filled by name, so a name given twice is left over.
  let off := min i.plain.length count
  let byPosition := (m.parameters.zip i.plain).map fun (p, d) => (p.name, some d)
  let rest := m.parameters.drop off
  let byName := rest.map fun p => (p.name, i.named.lookup p.name)
  let left := i.named.filter fun (k, _) => !rest.any (·.name == k)
  (byPosition ++ byName, left)

/-- The values that are handed to a definition by a call. -/
def handOver (m : Definition) (i : Inputs) : Eval (List (String × Option Datum)) := do
  let (values, left) := bindParameters m i
  -- A caller that is a parameter has been bound with the others, in the order of the parameters.
  let hasCaller := m.parameters.any (·.name == "caller")
  let (values, left) :=
    if m.takesCaller && !hasCaller then
      let caller := match left.lookup "caller" with
        | some .null | none => Datum.missing "No caller defined"
        | some d => d
      (values ++ [("caller", some caller)], left.filter fun e => e.1 != "caller")
    else (values, left)
  let values ←
    if m.takesNamed then do
      let d ← Eval.newMap (.ofDistinct (left.map fun (k, d) => (.str k, d)))
      pure (values ++ [("kwargs", some d)])
    else
      match left with
      | [] => pure values
      | (k, _) :: _ =>
        if (left.lookup "caller").isSome then
          Eval.typeFault ("macro " ++ m.shownName ++ " was invoked with two values for the " ++
            "special caller argument. This is most likely a bug.")
        else
          Eval.typeFault ("macro " ++ m.shownName ++ " takes no keyword argument " ++
            Literal.text k)
  let count := m.parameters.length
  if m.takesMore then
    return values ++ [("varargs", some (← Eval.newTuple (i.plain.drop count)))]
  else if count < i.plain.length then
    Eval.typeFault ("macro " ++ m.shownName ++ " takes not more than " ++ toString count ++
      " argument(s)")
  else return values

/-- Give the parameters of a definition without a value the values they may have. -/
def fillParameters (self : Evaluator) (site : Site) (ps : List Parameter) : Eval Unit :=
  ps.forM fun p => do
    match ← Eval.valueIn site.frame p.name with
    | some (some _) => return ()
    | _ =>
      let d ←
        match p.otherwise with
        | some e => self.expr site e
        | none => pure (.missing ("parameter " ++ Literal.text p.name ++ " was not provided"))
      Eval.setIn site.frame p.name (some d)

/-- What a call of a definition gives. -/
def callDefinition (self : Evaluator) (setting : Setting) (m : Definition) (i : Inputs) :
    Eval Datum := do
  let values ← handOver m i
  let frame ← setting.enter m.seen (some m.frame) m.names values
  let site : Site := ⟨frame, m.seen, false, "", false⟩
  fillParameters self site m.parameters
  return .str (← self.text site m.body)

/-! ### Loops -/

/-- The frame of the items of a loop. -/
def itemFrame (outside : String → Bool) (b : LoopBody) (watched : Bool) : Frame :=
  let given := if watched then "loop" :: b.target.names else b.target.names
  Frame.ofNodes outside given b.body

/-- The site of the test of a loop. -/
def LoopBody.site (b : LoopBody) (frame : Nat) : Site := ⟨frame, b.seen, false, "", false⟩

/-- A new frame for the test of a loop. -/
def enterTest (setting : Setting) (b : LoopBody) : Eval Nat := do
  let outside ← (b.site b.frame).knows
  let mentions := (b.test.map Expr.mentions).getD []
  -- The test sees the targets of the loop, but neither its body's names nor the loop itself.
  let f := (b.target.names.foldl Frame.declare Frame.empty).mentionAll outside mentions
  setting.enter b.seen (some b.frame) f []

/-- Whether the test of a loop lets an item pass. -/
def admits (self : Evaluator) (b : LoopBody) (frame : Nat) (d : Datum) : Eval Bool := do
  let site := b.site frame
  site.assign b.target d
  match b.test with
  | some test => (← self.expr site test).isTrue
  | none => return true

/-- What streams may call. -/
def Evaluator.words (self : Evaluator) (setting : Setting) : Words where
  filter name d i := self (.filter name d i)
  test name d i := applyTest filterNames name d i
  call f i := self (.call f i)
  enter := enterTest setting
  admits := admits self

/-- What a loop puts out for the items to come; the number bounds their number. -/
def runItems (self : Evaluator) (setting : Setting) (site : Site) (b : LoopBody) (f : Frame)
    (r : Ref) : Nat → List (List Datum) → Eval (List (List Datum))
  | 0, out => return out
  | fuel + 1, out => do
    match ← LoopState.advance r with
    | none => return out
    | some d =>
      let given := ("loop", some (.cell r)) :: b.target.names.map fun s => (s, none)
      let inner := site.inside (← setting.enter site.seen (some site.frame) f given)
      inner.assign b.target d
      let pieces ← self.pieces inner b.body
      runItems self setting site b f r fuel (pieces :: out)

/-- Whether nodes hold a block that sees the names around it. -/
def holdsLocalBlock : Nat → List Node → Bool
  | 0, _ => false
  | depth + 1, ns => ns.any fun
    | .block _ seesLocals _ body => seesLocals || holdsLocalBlock depth body
    | .loop _ _ _ _ body otherwise => holdsLocalBlock depth body || holdsLocalBlock depth otherwise
    | .branch _ body others otherwise =>
      holdsLocalBlock depth body || holdsLocalBlock depth otherwise ||
        others.any fun (_, ns) => holdsLocalBlock depth ns
    | .capture _ _ body | .definition _ _ body | .callBlock _ _ body | .filterBlock _ body
    | .bind _ body | .escaped _ body => holdsLocalBlock depth body
    | _ => false

/-- What a loop over the items of a datum puts out. -/
def runLoop (self : Evaluator) (setting : Setting) (site : Site) (b : LoopBody) (recursive : Bool)
    (depth : Nat) (d : Datum) : Eval (List Datum) := do
  let source ←
    match b.test with
    | some _ => Eval.newStream (.tested b) d
    | none => pure d
  let outside ← site.knows
  -- The body is given the loop only if it can tell: by its name, by a block, or by a call.
  let watched := recursive || !(undeclared b.body ["loop"]).isEmpty || holdsLocalBlock 100 b.body
  let state : LoopState :=
    { (default : LoopState) with
      source, cursor := ← source.cursor, depth, recursion := if recursive then some b else none }
  match ← Eval.alloc (.loop state) with
  | .cell r =>
    let out ← runItems self setting site b (itemFrame outside b watched) r Cursor.itemLimit []
    match out, b.otherwise with
    -- No item has been put out: the other branch runs in a frame of its own.
    | [], _ :: _ =>
      let f := Frame.ofNodes outside [] b.otherwise
      let inner := site.inside (← setting.enter site.seen (some site.frame) f [])
      self.pieces inner b.otherwise
    | out, _ => return out.reverse.flatten
  | _ => return []

/-- What a call of a loop to itself gives. -/
def callLoop (self : Evaluator) (setting : Setting) (r : Ref) (i : Inputs) : Eval Datum := do
  let s ← Eval.loopState r
  let values ← Signature.bind ⟨"LoopContext.__call__", 1, ["iterable"], []⟩ i
  match s.recursion with
  | none =>
    Eval.typeFault
      "The loop must have the 'recursive' marker to be called recursively."
  | some b =>
    -- A recursion runs where the loop was begun, not where it is called.
    let site : Site := ⟨b.frame, b.seen, false, "", false⟩
    let pieces ← runLoop self setting site b true (s.depth + 1) (given values 0 .null)
    return .str (← Evaluator.joined pieces)

/-! ### Named blocks -/

/-- What a named block puts out. -/
def runBlock (self : Evaluator) (setting : Setting) (seen : List (String × Datum)) (name : String) :
    Eval (List Datum) := do
  match setting.blocks.find? (·.name == name) with
  | none => return []
  | some b =>
    let special := undeclared b.body ["self", "super"]
    let f := Frame.ofNodes (fun _ => false) special b.body
    let given :=
      [ ("self", some (Datum.blocks seen)),
        ("super", some (.missing ("there is no parent block called " ++ Literal.text name ++
          "."))) ]
    let frame ← setting.enter seen none f given
    self.pieces ⟨frame, seen, false, "", false⟩ b.body

/-! ### Calls -/

/-- What a call gives. -/
def callDatum (self : Evaluator) (setting : Setting) (f : Datum) (i : Inputs) : Eval Datum := do
  let refuse : Eval Datum := do
    Eval.typeFault ("'" ++ (← f.typeName) ++ "' object is not callable")
  match f with
  | .missing why => Eval.missingFault why
  | .known k => callKnown k i
  | .method owner name => callMethod (fun g i => self (.call g i)) owner name i
  | .block name seen => do return .str (← Evaluator.joined (← runBlock self setting seen name))
  | .cell r =>
    match ← Eval.cell r with
    | .definition m => callDefinition self setting m i
    | .loop _ => callLoop self setting r i
    | .joiner separator used =>
      i.none "Joiner" "__call__"
      Eval.setCell r (.joiner separator true)
      return if used then separator else .str ""
    | _ => refuse
  | _ => refuse

/-! ### Other templates -/

/-- The failure of every template that asks for another one. -/
def noOther {α : Type} : Eval α := Eval.typeFault "no loader for this environment specified"

/-- What is said when no template is asked for. -/
def noneAsked : String := "Tried to select from an empty list of templates."

/-- Put another template in: there is none, unless none is asked for and that is no fault. -/
def runInsert (self : Evaluator) (site : Site) (e : Expr) (optional : Bool) :
    Eval (List Datum) := do
  let d ← self.expr site e
  let select : Eval (List Datum) := do
    if ← d.isTrue then
      match ← (← d.cursor).next with
      | some _ => noOther
      | none =>
        if optional then return []
        else Eval.runFault "none of the templates given were found: "
    else if optional then return []
    else Eval.runFault noneAsked
  match e, d with
  -- A row that is written out is a choice of templates, even if its value were a text.
  | .tuple _, _ | .list _, _ => select
  | _, .str _ | _, .missing _ => noOther
  | _, _ => select

/-! ### Nodes -/

/-- The pieces that a node puts out. -/
def runNode (self : Evaluator) (setting : Setting) (site : Site) (n : Node) :
    Eval (List Datum) := do
  match n with
  | .output parts => runOutput self site parts
  | .assign target value => do
    site.checkObjects target.objects
    site.assign target (← self.expr site value)
    return []
  | .capture target filter body => do
    let f := Frame.ofNodes (← site.knows) [] body
    let inner := site.inside (← setting.enter site.seen (some site.frame) f [])
    let text ← self.text inner body
    let d ←
      match filter with
      | none => pure (Datum.str text)
      | some e => self.expr { inner with hole := text } e
    site.assign target d
    return []
  | .branch test body others otherwise => do
    if ← (← self.expr site test).isTrue then self.pieces site body
    else
      match ← others.findM? fun (test, _) => do (← self.expr site test).isTrue with
      | some (_, body) => self.pieces site body
      | none => self.pieces site otherwise
  | .loop target source test recursive body otherwise => do
    let d ← self.expr site source
    let b : LoopBody := ⟨target, test, body, otherwise, site.frame, site.seen⟩
    runLoop self setting site b recursive 0 d
  | .definition name parameters body => do
    site.setName name (← newDefinition site (some name) parameters body)
    return []
  | .callBlock parameters call body => do
    let caller ← newDefinition site none parameters body
    match call with
    | .call callee plain named more moreNamed =>
      let f ← self.expr site callee
      let i ← inputsOf self site plain named more moreNamed
      return [← self (.call f { i with named := i.named ++ [("caller", caller)] })]
    | _ => return []
  | .filterBlock filter body => do
    let f := Frame.ofNodes (← site.knows) [] body
    let f := f.mentionAll (← site.knows) filter.mentions
    let inner := site.inside (← setting.enter site.seen (some site.frame) f [])
    let text ← self.text inner body
    return [← self.expr { inner with hole := text } filter]
  | .bind bindings body => do
    let given := bindings.flatMap fun b => b.1.names
    let f := Frame.ofNodes (← site.knows) given body
    let inner := site.inside (← setting.enter site.seen (some site.frame) f [])
    bindings.forM fun (target, e) => do inner.assign target (← self.expr site e)
    self.pieces inner body
  | .escaped e body => do
    let f := Frame.visitAll (← site.knows) (Frame.empty.mentionAll (← site.knows) e.mentions) body
    let inner := site.inside (← setting.enter site.seen (some site.frame) f [])
    let escapes ← (← self.expr inner e).isTrue
    self.pieces { inner with escapes } body
  | .block name seesLocals mustFill _ => do
    if mustFill then Eval.runFault ("Required block " ++ Literal.text name ++ " not found")
    let seen ← if seesLocals then site.seenInside else pure site.seen
    runBlock self setting seen name
  | .extend e | .load e _ | .loadNames e _ => do
    discard <| self.expr site e
    noOther
  | .insert e optional => runInsert self site e optional

end Playbook.Template
