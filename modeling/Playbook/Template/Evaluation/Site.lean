import Playbook.Template.Exchange
import Playbook.Template.Check
import Playbook.Template.Comparison

/-!
# Where templates are evaluated

An expression is evaluated at a site: in a frame, perhaps with names that a named block sees. A name
that no frame knows, and one whose frame takes it from around the template, is looked up among what
the template has set, then in the scope, then among the functions that every template knows.

Main definitions:

- `Template.Setting`, `Template.Site`: what stays the same in a run, and what does not;
- `Site.lookUp`: the value of a name;
- `Site.enter`: a new frame;
- `Site.assign`: assigning to targets.
-/

namespace Playbook.Template

/-- What stays the same while a template runs. -/
structure Setting where
  /-- The names around the template. -/
  scope : Scope
  /-- Its named blocks. -/
  blocks : List NamedBlock

/-- Where an expression or a node is evaluated. -/
structure Site where
  /-- The number of the frame. -/
  frame : Nat
  /-- The names that a named block sees besides those of the template. -/
  seen : List (String × Datum)
  /-- Whether assignments are seen by named blocks. -/
  top : Bool
  /-- The text that a filter without a value filters. -/
  hole : String
  /-- Whether what is put out is escaped. -/
  escapes : Bool
deriving Inhabited

/-- The value of a name that nothing sets. -/
def Datum.undefinedName (name : String) : Datum := .missing (Template.undefinedName name)

namespace Setting

/-- The value of a name in the scope; it is taken over once. -/
def scoped? (setting : Setting) (name : String) : Eval (Option Datum) := do
  match (← getThe Store).named.lookup name with
  | some d => return some d
  | none =>
    match setting.scope.find name with
    | none => return none
    | some v =>
      let d ← Eval.take v
      modifyThe Store fun s => { s with named := s.named ++ [(name, d)] }
      return some d

/-- The value of a name outside all frames. -/
def lookUp (setting : Setting) (seen : List (String × Datum)) (name : String) :
    Eval (Option Datum) := do
  match (seen.lookup name).or ((← getThe Store).exports.lookup name) with
  | some d => return some d
  | none =>
    match ← setting.scoped? name with
    | some d => return some d
    | none => return (Known.ofName? name).map .known

/-- A new frame in which the names have their first values. -/
def enter (setting : Setting) (seen : List (String × Datum)) (outer : Option Nat) (f : Frame)
    (given : List (String × Option Datum)) : Eval Nat := do
  let values ← f.origins.mapM fun (name, origin) => do
    match origin with
    | .given => return (name, (given.lookup name).join)
    | .around => return (name, ← setting.lookUp seen name)
    | .outside =>
      match outer with
      | some o => return (name, (← Eval.valueIn o name).join)
      | none => return (name, none)
    | .nothing => return (name, none)
  Eval.newFrame ⟨outer, values, f.bound⟩

end Setting

namespace Site

/-- The value of a name. -/
def lookUp (site : Site) (setting : Setting) (name : String) : Eval Datum := do
  match ← Eval.valueIn site.frame name with
  | some d => return d.getD (.undefinedName name)
  | none => return (← setting.lookUp site.seen name).getD (.undefinedName name)

/-- Whether a name is known in the frames of a site. -/
def knows (site : Site) : Eval (String → Bool) := do
  return (← Eval.knownIn site.frame).contains

/-- The site inside a new frame. -/
def inside (site : Site) (frame : Nat) : Site := { site with frame, top := false }

/-! ### Assigning -/

/-- Set a name, which named blocks see if the site says so. -/
def setName (site : Site) (name : String) (d : Datum) : Eval Unit := do
  Eval.setIn site.frame name (some d)
  if site.top then
    modifyThe Store fun s =>
      { s with exports := (name, d) :: s.exports.filter fun e => e.1 != name }

/-- Set a field of what a name holds. -/
def setField (site : Site) (object name : String) (d : Datum) : Eval Unit := do
  let refuse (type : String) : Eval Unit :=
    Eval.typeFault ("'" ++ type ++ "' object does not support item assignment")
  match (← Eval.valueIn site.frame object).join with
  | none => refuse "MissingType"
  | some (.cell r) =>
    match ← Eval.cell r with
    | .fields entries => Eval.setCell r (.fields (DataEntries.insert (.str name) d entries))
    | .map t => Eval.setCell r (.map (t.insert (.str name) d))
    | .list _ => Eval.typeFault "list indices must be integers or slices, not str"
    | c => refuse c.typeName
  | some e => refuse (← e.typeName)

mutual

/-- Assign a datum to a target. -/
def assign (site : Site) : Target → Datum → Eval Unit
  | .name s, d => site.setName s d
  | .field object name, d => site.setField object name d
  | .tuple targets, d => do site.assignAll targets (← d.unpack targets.length)

/-- Assign data to targets one by one. -/
def assignAll (site : Site) : List Target → List Datum → Eval Unit
  | t :: ts, d :: ds => do
    site.assign t d
    site.assignAll ts ds
  | _, _ => return ()

end

/-- Refuse to set fields of things that have none to set. -/
def checkObjects (site : Site) (objects : List String) : Eval Unit :=
  objects.forM fun name => do
    let refuse : Eval Unit := Eval.runFault "cannot assign attribute on non-namespace object"
    match (← Eval.valueIn site.frame name).join with
    | some (.cell r) =>
      match ← Eval.cell r with
      | .fields _ => return ()
      | _ => refuse
    | _ => refuse

/-! ### What named blocks see -/

/-- The names that are bound in the frame of a number and in those around it, with their values; the
first number bounds the search. -/
def boundFrom : Nat → Nat → Eval (List (String × Datum))
  | 0, _ => return []
  | fuel + 1, n => do
    let f ← Eval.frame n
    let here := f.bound.filterMap fun name =>
      match (f.values.lookup name).join with
      | some d => some (name, d)
      | none => none
    match f.outer with
    | some o => return here ++ (← boundFrom fuel o)
    | none => return here

/-- The names that a block sees if it sees those around it. -/
def seenInside (site : Site) : Eval (List (String × Datum)) := do
  return (← boundFrom ((← getThe Store).frames.size + 1) site.frame) ++ site.seen

end Site

end Playbook.Template
