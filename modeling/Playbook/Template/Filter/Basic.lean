import Playbook.Decimal.Numeral
import Playbook.Template.Access
import Playbook.Template.Arguments
import Playbook.Text.Search

/-!
# Parts of filters

What the filters of templates have in common: how their arguments are read, and how they look at
one attribute of every item.

Main definitions:

- `Template.Words`: the filters and tests that other filters call by name;
- `Template.pathOf`, `Template.follow`: attributes of attributes.
-/

namespace Playbook.Template

/-- What a filter may call. -/
structure Words where
  /-- A filter by name. -/
  filter : String → Datum → Inputs → Eval Datum
  /-- A test by name. -/
  test : String → Datum → Inputs → Eval Bool
  /-- A function. -/
  call : Caller
  /-- A new frame for the test of a loop. -/
  enter : LoopBody → Eval Nat
  /-- Whether the test of a loop lets an item pass, in a frame. -/
  admits : LoopBody → Nat → Datum → Eval Bool

/-! ### Arguments -/

/-- The arguments of a filter, with the value first. -/
def Inputs.after (d : Datum) (i : Inputs) : Inputs := ⟨d :: i.plain, i.named⟩

/-- The value of a parameter that may be left out. -/
def given (values : List (Option Datum)) (n : Nat) (otherwise : Datum) : Datum :=
  (values.getD n none).getD otherwise

/-- Whether a parameter that may be left out counts as true. -/
def givenTrue (values : List (Option Datum)) (n : Nat) (otherwise : Bool) : Eval Bool :=
  (given values n (.bool otherwise)).isTrue

/-- The only parameter of a filter that takes no arguments. -/
def alone (name parameter : String) (implicit : Nat) (d : Datum) (i : Inputs) : Eval Unit := do
  discard <| Signature.bind ⟨name, implicit, [parameter], []⟩ (i.after d)

/-! ### Attributes -/

/-- A part between points: a position if it consists of digits, and a name otherwise. -/
def pathPart (part : List Char) : Except Failure Datum :=
  if !part.isEmpty && part.all Unicode.isDigit then
    .int <$> Numeral.int 10 (String.ofList part)
  else .ok (.chars part)

/-- Attributes with points between them. -/
def dottedPath (s : List Char) : Except Failure AttributePath :=
  (Text.split ['.'] none s).mapM pathPart

/-- The attributes that an argument asks for. -/
def pathOf (d : Datum) : Eval AttributePath :=
  match d with
  | .null => return []
  | .str s => Eval.ofExcept (dottedPath s.toList)
  | d => return [d]

/-- The attributes that an argument with commas in it asks for. -/
def pathsOf (d : Datum) : Eval (List AttributePath) :=
  match d with
  | .str s => Eval.ofExcept ((Text.split [','] none s.toList).mapM dottedPath)
  | d => return [← pathOf d]

/-- A part of a datum, or else a value that stands for it. -/
def partOr (otherwise : Option Datum) (d key : Datum) : Eval Datum := do
  match ← d.item key, otherwise with
  | .missing _, some e => return e
  | found, _ => return found

/-- The attribute of an attribute of a datum. -/
def follow (path : AttributePath) (otherwise : Option Datum) (d : Datum) : Eval Datum :=
  path.foldlM (partOr otherwise) d

/-- A text in small letters, or another datum as it is. -/
def ignoreCase (d : Datum) : Datum :=
  match d with
  | .str s => .chars (Text.lower s.toList)
  | d => d

/-- A datum, in small letters unless case counts. -/
def withCase (exact : Bool) (d : Datum) : Datum := if exact then d else ignoreCase d

/-- A failure of the arguments of a filter. -/
def argumentFault {α : Type} (message : String) : Eval α := Eval.runFault message

end Playbook.Template
