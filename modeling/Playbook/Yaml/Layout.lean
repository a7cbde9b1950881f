import Playbook.Yaml.Draft
import Playbook.Yaml.Page

/-!
# Layout of documents

A draft is laid out in blocks: an item or a pair on each line, indented by two, and brackets for
empty collections only. What is met more than once is named where it is met first and referred to
where it is met again.

Main definition: `Yaml.text`, the document of a value.
-/

namespace Playbook.Yaml

/-- Where a draft stands. -/
structure Context where
  /-- The document is nothing else. -/
  isRoot : Bool
  /-- In a mapping. -/
  inMapping : Bool
  /-- On the line of a key. -/
  isKey : Bool

namespace Layout

/-- The state of laying out. -/
structure State where
  /-- The page. -/
  page : Page
  /-- The marks of collections that are laid out already. -/
  done : List Nat

/-- The name of a shared collection, by the place of its mark. -/
def anchorName (place : Nat) : String :=
  let ds := toString (place + 1)
  "id" ++ String.ofList (List.replicate (3 - ds.length) '0') ++ ds

/-- The short form of a tag. -/
def shortTag (tag : String) : String :=
  let cs := tag.toList
  "!!" ++ String.ofList (cs.drop tagStem.length)

/-- Write on a page. -/
def State.onPage (s : State) (f : Page → Page) : State := { s with page := f s.page }

/-- The indentation inside a draft: one step more, and none at the root of a document of blocks. -/
def deeper (level : Option Nat) (ofBlock : Bool) : Nat :=
  match level with
  | none => if ofBlock then 0 else Page.step
  | some n => n + Page.step

/-- The style of a scalar. -/
inductive Style where
  /-- Without quotes. -/
  | plain
  /-- Between single quotes. -/
  | single
  /-- Between double quotes. -/
  | double
  /-- As a block of lines. -/
  | block
deriving DecidableEq

/-- Whether a scalar without quotes would be read with its own tag. -/
def isImplied (tag text : String) : Bool := tag == implicitTag text

/-- The style a scalar is written in. -/
def chooseStyle (c : Context) (tag text : String) (block : Bool) (form : ScalarForm) : Style :=
  if !block && isImplied tag text && !(c.isKey && (form.isEmpty || form.isMultiline)) &&
      form.allowsPlain then .plain
  else if block then
    if !c.isKey && form.allowsBlock then .block else .double
  else if form.allowsSingle && !(c.isKey && form.isMultiline) then .single
  else .double

/-- The most characters a key on one line with its value may have. -/
def keyLimit : Nat := 128

/-- Lay out a scalar without a name. -/
def scalar (c : Context) (level : Option Nat) (tag text : String) (block : Bool) (p : Page) :
    Page :=
  let cs := text.toList
  let form := ScalarForm.ofText cs
  let style := chooseStyle c tag text block form
  let isUnderstood := if style = .plain then isImplied tag text else tag == coreTag "str"
  let p := if isUnderstood then p else p.indicator (shortTag tag) true
  let inner := deeper level false
  match style with
  | .plain => p.plain inner (!c.isKey) c.isRoot cs
  | .single => p.single inner (!c.isKey) cs
  | .double => p.double inner (!c.isKey) cs
  | .block => p.block inner cs

/-- The name that goes before a collection or instead of it, and whether it goes instead. -/
def anchor (shared : List Nat) (s : State) (mark : Option Nat) : Option (String × Bool) :=
  match mark with
  | none => none
  | some m => (shared.idxOf? m).map fun i => (anchorName i, s.done.contains m)

/-- The length of the first line of a draft used as a key; none if it needs more than one line. -/
def keyLength? (shared : List Nat) (s : State) : Draft → Option Nat
  | .scalar mark tag text _ =>
    let form := ScalarForm.ofText text.toList
    match anchor shared s mark with
    | some (name, true) => some name.length
    | found =>
      let name := (found.map (·.1)).getD ""
      if form.isEmpty || form.isMultiline then none
      else some (name.length + (shortTag tag).length + text.length)
  | .sequence mark tag items => collection mark tag items.isEmpty
  | .mapping mark tag pairs => collection mark tag pairs.isEmpty
  | .again _ => some 0
where
  /-- The length of a reference, or of an empty collection. -/
  collection (mark : Option Nat) (tag : String) (empty : Bool) : Option Nat :=
    match anchor shared s mark with
    | some (name, true) => some name.length
    | some (name, false) => if empty then some (name.length + (shortTag tag).length) else none
    | none => if empty then some (shortTag tag).length else none

/-- Whether a draft can stand on one line with its value. -/
def isShortKey (shared : List Nat) (s : State) (d : Draft) : Bool :=
  match keyLength? shared s d with
  | some n => n < keyLimit
  | none => false

/-- Write the name of something that is laid out for the first time. -/
def naming (shared : List Nat) (s : State) (mark : Option Nat) : State :=
  let s := match anchor shared s mark with
    | some (name, _) => s.onPage (·.indicator ("&" ++ name) true)
    | none => s
  match mark with
  | some m => { s with done := m :: s.done }
  | none => s

/-- Write what goes before the items of a collection. -/
def opening (shared : List Nat) (s : State) (mark : Option Nat) (tag type : String) : State :=
  let s := naming shared s mark
  if tag = coreTag type then s else s.onPage (·.indicator (shortTag tag) true)

/-- Write a reference. -/
def reference (s : State) (name : String) : State := s.onPage (·.indicator ("*" ++ name) true)

/-- Write an empty collection. -/
def brackets (s : State) (opening closing : String) : State :=
  s.onPage fun p => (p.indicator opening true true).indicator closing false

mutual

/-- Lay out a draft. -/
def node (shared : List Nat) (c : Context) (level : Option Nat) (s : State) : Draft → State
  | .scalar mark tag text block =>
    match anchor shared s mark with
    | some (name, true) => reference s name
    | _ => (naming shared s mark).onPage (scalar c level tag text block)
  | .again mark =>
    match anchor shared s (some mark) with
    | some (name, _) => reference s name
    | none => s
  | .sequence mark tag items =>
    match anchor shared s mark with
    | some (name, true) => reference s name
    | _ =>
      let s := opening shared s mark tag "seq"
      if items.isEmpty then brackets s "[" "]"
      else
        -- In a mapping, items stand at the indentation of their key.
        let level := if c.inMapping && !s.page.indention then level.getD 0 else deeper level true
        sequenceItems shared level s items
  | .mapping mark tag pairs =>
    match anchor shared s mark with
    | some (name, true) => reference s name
    | _ =>
      let s := opening shared s mark tag "map"
      if pairs.isEmpty then brackets s "\x7b" "\x7d"
      else mappingPairs shared (deeper level true) s pairs

/-- Lay out the items of a sequence. -/
def sequenceItems (shared : List Nat) (level : Nat) (s : State) : List Draft → State
  | [] => s
  | d :: rest =>
    let s := s.onPage fun p => (p.indent level).indicator "-" true false true
    sequenceItems shared level (node shared ⟨false, false, false⟩ (some level) s d) rest

/-- Lay out the pairs of a mapping. -/
def mappingPairs (shared : List Nat) (level : Nat) (s : State) : List (Draft × Draft) → State
  | [] => s
  | (k, v) :: rest =>
    let s := s.onPage (·.indent level)
    let s :=
      if isShortKey shared s k then
        (node shared ⟨false, true, true⟩ (some level) s k).onPage (·.indicator ":" false)
      else
        let s := s.onPage (·.indicator "?" true false true)
        let s := node shared ⟨false, true, false⟩ (some level) s k
        s.onPage fun p => (p.indent level).indicator ":" true false true
    mappingPairs shared level (node shared ⟨false, true, false⟩ (some level) s v) rest

end

end Layout

/-- The document of a draft. A text at the root that could go on is closed by three dots. -/
def Draft.text (d : Draft) : String :=
  let s := Layout.node d.sharedMarks ⟨true, false, false⟩ none ⟨Page.empty, []⟩ d
  let p := s.page.indent 0
  let p := if p.openEnded then (p.indicator "..." true).indent 0 else p
  String.ofList p.written.reverse

/-- The document of a value. -/
def text (v : Value) : Except Failure String := do return (← Draft.ofValue v).text

end Playbook.Yaml
