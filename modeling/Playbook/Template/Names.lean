import Playbook.Template.Syntax

/-!
# Names in templates

Each block of a template has a frame of names. When the block is entered, every name in its frame
starts with a value of its own: one that is handed to the block, the value from around the
template, the value in the frame outside, or none. Which of these it is follows from the first
mention of the name in the block.

Main definitions:

- `Template.Mention`, `Node.mentions`: the names that a node mentions, in the order of reading;
- `Template.undeclared`: which of some names a row of nodes reads before it binds them;
- `Template.Frame`, `Template.Origin`: the names of a frame and where their first values come from;
- `Template.Frame.ofNodes`: the frame of a row of nodes.
-/

namespace Playbook.Template

/-! ### Mentions -/

/-- A name at a place of a template. -/
inductive Mention where
  /-- Its value is read. -/
  | reads (name : String)
  /-- It is assigned to. -/
  | assigns (name : String)
  /-- It is a parameter. -/
  | declares (name : String)
deriving DecidableEq, Repr

mutual

/-- The names that an expression reads. -/
def Expr.names : Expr → List String
  | .constant _ => []
  | .name s => [s]
  | .tuple items | .list items | .concat items => namesOfAll items
  | .map pairs => namesOfPairs pairs
  | .signed _ e | .opposite e | .member e _ => e.names
  | .arithmetic _ a b | .both a b | .either a b | .item a b => a.names ++ b.names
  -- All operands are read, also those that a run may pass over.
  | .compare first rest => first.names ++ namesOfCompared rest
  | .choice test yes no _ => test.names ++ yes.names ++ namesOfOption no
  | .slice e start stop step =>
    e.names ++ namesOfOption start ++ namesOfOption stop ++ namesOfOption step
  | .bounds start stop step => namesOfOption start ++ namesOfOption stop ++ namesOfOption step
  | .call callee plain named more moreNamed =>
    callee.names ++ namesOfAll plain ++ namesOfNamed named ++ namesOfOption more ++
      namesOfOption moreNamed
  | .filter e _ plain named more moreNamed =>
    namesOfOption e ++ namesOfAll plain ++ namesOfNamed named ++ namesOfOption more ++
      namesOfOption moreNamed
  | .test e _ plain named more moreNamed =>
    e.names ++ namesOfAll plain ++ namesOfNamed named ++ namesOfOption more ++
      namesOfOption moreNamed

/-- The names that expressions read. -/
def namesOfAll : List Expr → List String
  | [] => []
  | e :: rest => e.names ++ namesOfAll rest

/-- The names that pairs of expressions read. -/
def namesOfPairs : List (Expr × Expr) → List String
  | [] => []
  | (k, v) :: rest => k.names ++ v.names ++ namesOfPairs rest

/-- The names that named expressions read. -/
def namesOfNamed : List (String × Expr) → List String
  | [] => []
  | (_, e) :: rest => e.names ++ namesOfNamed rest

/-- The names that compared expressions read. -/
def namesOfCompared : List (Relation × Expr) → List String
  | [] => []
  | (_, e) :: rest => e.names ++ namesOfCompared rest

/-- The names that an expression reads if there is one. -/
def namesOfOption : Option Expr → List String
  | none => []
  | some e => e.names

end

/-- The mentions in an expression. -/
def Expr.mentions (e : Expr) : List Mention := e.names.map .reads

/-- The mentions in an expression if there is one. -/
def mentionsOfOption (e : Option Expr) : List Mention := (namesOfOption e).map .reads

/-- The mentions in the parts of an output. -/
def mentionsOfParts (ps : List Part) : List Mention :=
  ps.flatMap fun
    | .data _ => []
    | .value e => e.mentions

/-- The mentions in the parameters of a definition: their names, then the values they may have. -/
def mentionsOfParameters (ps : List Parameter) : List Mention :=
  -- The names of all parameters come before the values of any.
  ps.map (.declares ·.name) ++ ps.flatMap fun p => mentionsOfOption p.otherwise

mutual

/-- The mentions in a node. Named blocks inside it are left out unless they are asked for. -/
def Node.mentions (blocks : Bool) : Node → List Mention
  | .output parts => mentionsOfParts parts
  -- The target comes first: what a statement assigns to counts as bound in it.
  | .assign target value => target.names.map .assigns ++ value.mentions
  | .capture target filter body =>
    target.names.map .assigns ++ mentionsOfOption filter ++ nodeMentions blocks body
  | .branch test body others otherwise =>
    test.mentions ++ nodeMentions blocks body ++ armMentions blocks others ++
      nodeMentions blocks otherwise
  | .loop target source test _ body otherwise =>
    target.names.map .assigns ++ source.mentions ++ nodeMentions blocks body ++
      nodeMentions blocks otherwise ++ mentionsOfOption test
  | .definition _ parameters body => mentionsOfParameters parameters ++ nodeMentions blocks body
  | .callBlock parameters call body =>
    call.mentions ++ mentionsOfParameters parameters ++ nodeMentions blocks body
  | .filterBlock filter body => nodeMentions blocks body ++ filter.mentions
  | .bind bindings body =>
    (bindings.flatMap fun b => b.1.names.map .declares) ++
      (bindings.flatMap fun b => b.2.mentions) ++ nodeMentions blocks body
  | .escaped e body => e.mentions ++ nodeMentions blocks body
  -- A named block has names of its own wherever it is put.
  | .block _ _ _ body => if blocks then nodeMentions blocks body else []
  | .extend e | .insert e _ | .load e _ | .loadNames e _ => e.mentions

/-- The mentions in nodes. -/
def nodeMentions (blocks : Bool) : List Node → List Mention
  | [] => []
  | n :: rest => n.mentions blocks ++ nodeMentions blocks rest

/-- The mentions in branches. -/
def armMentions (blocks : Bool) : List (Expr × List Node) → List Mention
  | [] => []
  | (test, body) :: rest => test.mentions ++ nodeMentions blocks body ++ armMentions blocks rest

end

/-- Which of some names are read before they are bound. -/
def undeclaredIn : List Mention → List String → List String
  | [], _ => []
  | .reads s :: rest, names =>
    -- A name is read before it is bound only if nothing in front has bound it.
    if names.contains s then s :: undeclaredIn rest names else undeclaredIn rest names
  | .assigns s :: rest, names | .declares s :: rest, names =>
    undeclaredIn rest (names.filter (· != s))

/-- Which of some names a row of nodes reads before it binds them. -/
def undeclared (nodes : List Node) (names : List String) : List String :=
  undeclaredIn (nodeMentions false nodes) names

/-! ### Frames -/

/-- Where the first value of a name in a frame comes from. -/
inductive Origin where
  /-- It is handed to the block. -/
  | given
  /-- It is looked up around the template. -/
  | around
  /-- It is the value in the frame outside. -/
  | outside
  /-- There is none. -/
  | nothing
deriving DecidableEq, Repr

/-- The names of a frame. -/
structure Frame where
  /-- Where their first values come from. -/
  origins : List (String × Origin)
  /-- Those that are bound in the block. -/
  bound : List String
deriving Repr, Inhabited

namespace Frame

/-- No names. -/
def empty : Frame := ⟨[], []⟩

/-- Whether a name has a value in the frame. -/
def knows (f : Frame) (name : String) : Bool := f.origins.any (·.1 == name)

/-- Set an entry of a list of pairs, in its place if the name is there and at the end otherwise. -/
def setOrigin (name : String) (o : Origin) : List (String × Origin) → List (String × Origin)
  | [] => [(name, o)]
  -- The place of a name in the list stays as it is, as it decides about the order of look-ups.
  | (n, p) :: rest => if n = name then (n, o) :: rest else (n, p) :: setOrigin name o rest

/-- Set where a name comes from. -/
def set (f : Frame) (name : String) (o : Origin) : Frame :=
  { f with origins := setOrigin name o f.origins }

/-- Note that a name is bound. -/
def bind (f : Frame) (name : String) : Frame :=
  if f.bound.contains name then f else { f with bound := f.bound ++ [name] }

/-- A name that is handed to the block. -/
def declare (f : Frame) (name : String) : Frame := (f.bind name).set name .given

/-- A name that is read: unless it is known here or outside, it is looked up around the
template. -/
def read (outside : String → Bool) (f : Frame) (name : String) : Frame :=
  if f.knows name || outside name then f else f.set name .around

/-- A name that is assigned to: unless it is known here, it starts with the value outside, or with
none. -/
def assign (outside : String → Bool) (f : Frame) (name : String) : Frame :=
  let f := f.bind name
  -- A name that has been read in front keeps the origin that it has.
  if f.knows name then f else f.set name (if outside name then .outside else .nothing)

/-- A name that is mentioned. -/
def mention (outside : String → Bool) (f : Frame) : Mention → Frame
  | .reads s => f.read outside s
  | .assigns s => f.assign outside s
  | .declares s => f.declare s

/-- Names that are mentioned. -/
def mentionAll (outside : String → Bool) (f : Frame) (ms : List Mention) : Frame :=
  ms.foldl (mention outside) f

/-- The entries of another frame over those of a frame. -/
def absorb (f g : Frame) : Frame :=
  g.bound.foldl bind (g.origins.foldl (fun f (s, o) => f.set s o) f)

/-- A frame after a choice between branches, each of which has read on from it. A name that some
branch binds starts with the value outside, or with that around the template. -/
def join (outside : String → Bool) (f : Frame) (branches : List Frame) : Frame :=
  -- What was bound before the choice is bound in every branch.
  let fresh := (branches.flatMap (·.bound)).filter fun s => !f.bound.contains s
  fresh.foldl (fun g s => g.set s (if outside s then .outside else .around))
    (branches.foldl absorb f)

mutual

/-- A frame after a node of its block. Of blocks with frames of their own only what is evaluated
outside them counts. -/
def visit (outside : String → Bool) (f : Frame) : Node → Frame
  | .output parts => f.mentionAll outside (mentionsOfParts parts)
  | .assign target value =>
    f.mentionAll outside
      -- A value is read before the names of the target are assigned to.
      (value.mentions ++ target.names.map .assigns ++ target.objects.map .reads)
  | .capture target _ _ =>
    -- The body of a capture has a frame of its own.
    f.mentionAll outside (target.names.map .assigns ++ target.objects.map .reads)
  | .branch test body others otherwise =>
    let f := f.mentionAll outside test.mentions
    -- The branches start from the same frame, and none of them sees what another one binds.
    f.join outside
      [visitAll outside f body, visitArms outside f others, visitAll outside f otherwise]
  | .loop _ source _ _ _ _ => f.mentionAll outside source.mentions
  | .definition name _ _ => f.assign outside name
  | .callBlock _ call _ => f.mentionAll outside call.mentions
  | .filterBlock filter _ => f.mentionAll outside filter.mentions
  | .bind bindings _ => f.mentionAll outside (bindings.flatMap fun b => b.2.mentions)
  | .escaped _ _ => f
  | .block .. => f
  | .extend e | .insert e _ => f.mentionAll outside e.mentions
  | .load e name => (f.mentionAll outside e.mentions).assign outside name
  | .loadNames e names => names.foldl (assign outside) (f.mentionAll outside e.mentions)

/-- A frame after nodes of its block. -/
def visitAll (outside : String → Bool) (f : Frame) : List Node → Frame
  | [] => f
  | n :: rest => visitAll outside (f.visit outside n) rest

/-- A frame after the further branches of a choice. -/
def visitArms (outside : String → Bool) (f : Frame) : List (Expr × List Node) → Frame
  | [] => f
  | (test, body) :: rest =>
    let f := f.mentionAll outside test.mentions
    -- The next one reads on from a choice between this one and nothing.
    visitArms outside (f.join outside [visitAll outside f body]) rest

end

/-- The frame of a row of nodes into which some names are handed. -/
def ofNodes (outside : String → Bool) (given : List String) (nodes : List Node) : Frame :=
  visitAll outside (given.foldl declare empty) nodes

/-- The frame of a definition, in which the words for the block of a call and for further
arguments are handed in if the block reads them. -/
def ofDefinition (outside : String → Bool) (parameters : List Parameter) (extra : List String)
    (body : List Node) : Frame :=
  let f := empty.mentionAll outside (mentionsOfParameters parameters)
  extra.foldl declare (visitAll outside f body)

end Frame

end Playbook.Template
