import Playbook.Fault
import Playbook.Template.Evaluation
import Playbook.Value.Mark

/-!
# Rendering

Rendering puts, in the place of each text of the arguments of a task, what the text gives as a
template. A text without the marks of expressions and statements is not looked at as a template.

A template can change the values that it finds around it, so these values are the state of a
rendering, which outlives a fault. The arguments may hold some of them: a container that bears a
mark is gone through as it is at each step, and must not change its size if it is a mapping.

Main definitions:

- `Template.isPlain`: whether a text is passed over;
- `Scope.ofEntries`: the names of a mapping;
- `Surroundings`, `Rendering`: what templates find, and computations that change it;
- `Rendering.ofText`, `Rendering.ofValue`, `Rendering.ofEntries`: rendered texts, values and
  arguments.
-/

namespace Playbook

namespace Template

/-- Whether two characters follow each other in a text. -/
def follows (a b : Char) : List Char → Bool
  | c :: d :: rest => c == a && d == b || follows a b (d :: rest)
  | _ => false

/-- Whether a text has neither the mark of an expression nor that of a statement. -/
def isPlain (t : String) : Bool := !follows '{' '{' t.toList && !follows '{' '%' t.toList

/-- The names of a mapping. -/
def Scope.ofEntries (es : Entries) : Scope where
  find name := es.find? (.str name)
  textual := es.all fun (k, _) => match k with
    | .str _ => true
    | _ => false

end Template

open Template

/-- What a failed run of a template is reported as. Only what a template or one of its filters may
be at fault for is a fault of the template. -/
def Fault.ofRun (template : String) (f : Failure) : Fault :=
  match f.kind with
  | .template => .template ("Template syntax error: " ++ f.message) (some template)
  | .undefined | .run => .template f.message (some template)
  | .type | .value | .decoding | .base64 =>
    .template ("Filter error: " ++ f.message) (some template)
  | _ => .failure f

/-- What the templates of a rendering find around them. -/
structure Surroundings where
  /-- The names with their values. -/
  names : Entries
  /-- What has become of containers, by their marks. -/
  changes : Value.Changes
  /-- The least number that is no mark. -/
  next : Nat

namespace Surroundings

/-- The names of a mapping when nothing has happened yet. -/
def ofEntries (es : Entries) : Surroundings := ⟨es, [], max 2 es.endMark⟩

/-- The names of a mapping beside values that are to be rendered, when nothing has happened yet. -/
def beside (es fields : Entries) : Surroundings :=
  ⟨es, [], max 2 (max es.endMark fields.endMark)⟩

/-- Names with the values that a run has left. -/
def renamed (es : Entries) (named : List (String × Value)) : Entries :=
  named.foldl (fun es (name, v) =>
    if (es.find? (.str name)).isSome then es.insert (.str name) v else es) es

/-- What is around templates after a run. What the run has given marks is among the names or among
what has become of containers. -/
def after (s : Surroundings) (traces : Traces) : Surroundings :=
  let names := renamed s.names traces.named
  let changes : Value.Changes := traces.current
  ⟨names, changes, max s.next (max names.endMark changes.endMark)⟩

end Surroundings

/-- A computation that renders; what it does to its surroundings stays when it fails. -/
abbrev Rendering := ExceptT Fault (StateM Surroundings)

namespace Rendering

/-- What a template gives when it is run. -/
def ofTemplate (t : String) : Rendering String := do
  let s ← getThe Surroundings
  let r := Template.run t (.ofEntries s.names) s.changes s.next
  set (s.after r.traces)
  match r.result with
  | .ok text => return text
  | .error f => throw (.ofRun t f)

/-- A rendered text. -/
def ofText (t : String) : Rendering String := if isPlain t then return t else ofTemplate t

/-- A container as it is now. -/
def now (mark : Nat) (v : Value) : Rendering Value := do
  return (← getThe Surroundings).changes.now mark v

/-- Rendered items of a list that may change meanwhile, from a position on; the first number bounds
their number. -/
def itemsFrom (render : Value → Rendering Value) (mark : Nat) (v : Value) :
    Nat → Nat → Rendering (List Value)
  | 0, _ => throw (.failure Eval.tooDeep)
  | left + 1, i => do
    match ← now mark v with
    | .list _ items =>
      match items[i]? with
      | none => return []
      | some item =>
        let w ← render item
        return w :: (← itemsFrom render mark v left (i + 1))
    | _ => return []

/-- The entries of a mapping as it is now. It must have kept its size. -/
def entriesNow (mark : Nat) (v : Value) (size : Nat) : Rendering Entries := do
  match ← now mark v with
  | .map _ es => if es.length = size then return es else throw (.failure Cursor.sizeChanged)
  | _ => return []

/-- Rendered entries of a mapping that may change meanwhile, from a position on. The size is looked
at once more after the last entry; the first number is that of the entries expected. -/
def entriesFrom (render : Value → Rendering Value) (mark : Nat) (v : Value) (size : Nat) :
    Nat → Nat → Rendering Entries
  | 0, _ => do
    let _ ← entriesNow mark v size
    return []
  | left + 1, i => do
    match (← entriesNow mark v size)[i]? with
    | none => return []
    | some (k, item) =>
      let w ← render item
      return (k, w) :: (← entriesFrom render mark v size left (i + 1))

/-- Rendered entries whose values are rendered in a way, in order. -/
def entriesBy (render : Value → Rendering Value) : Entries → Rendering Entries
  | [] => return []
  | (k, v) :: rest => do
    let w ← render v
    return (k, w) :: (← entriesBy render rest)

/-- A rendered value: texts are rendered wherever they stand in mappings and lists, but not as keys,
and nothing else changes. The number bounds the depth. -/
def ofValueWithin : Nat → Value → Rendering Value
  | 0, _ => throw (.failure Eval.tooDeep)
  | depth + 1, v => do
    match v with
    | .str s => return .str (← ofText s)
    | .map none es => return .map none (← entriesBy (ofValueWithin depth) es)
    | .list none items => return .list none (← items.mapM (ofValueWithin depth))
    | .map (some m) es =>
      let size := match ← now m v with
        | .map _ es => es.length
        | _ => es.length
      return .map none (← entriesFrom (ofValueWithin depth) m v size size 0)
    | .list (some m) items =>
      let bound := Cursor.itemLimit + items.length
      return .list none (← itemsFrom (ofValueWithin depth) m v bound 0)
    | .again .map _ | .again .list _ => throw (.failure Eval.tooDeep)
    | v => return v

/-- A rendered value. -/
def ofValue (v : Value) : Rendering Value := ofValueWithin depthLimit v

/-- Rendered arguments, in order. -/
def ofEntries (es : Entries) : Rendering Entries := entriesBy ofValue es

/-- The result of a rendering in some surroundings, and what it leaves behind. -/
def runIn {α : Type} (x : Rendering α) (s : Surroundings) : Except Fault α × Surroundings :=
  x.run.run s

/-- The result of a rendering with the names of a mapping. -/
def result {α : Type} (x : Rendering α) (names : Entries) : Except Fault α :=
  (x.runIn (.ofEntries names)).1

end Rendering

end Playbook
