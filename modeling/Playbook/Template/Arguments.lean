import Playbook.Template.Arithmetic

/-!
# Arguments of calls

Functions say how many arguments they take, and some also under which names. Which sentence refuses
a wrong call depends on how a function says it.

Main definitions:

- `Template.Caller`: ways to call a datum;
- `Template.Signature`, `Signature.bind`: parameters with names, some of which may be left out;
- `Inputs.none`, `Inputs.one`, `Inputs.between`: functions that only count.
-/

namespace Playbook.Template

/-- Ways to call a datum. -/
abbrev Caller := Datum → Inputs → Eval Datum

/-! ### Counted arguments -/

namespace Inputs

/-- The argument at a position. -/
def at? (i : Inputs) (n : Nat) : Option Datum := i.plain[n]?

/-- The argument at a position, or nothing. -/
def get (i : Inputs) (n : Nat) : Datum := (i.plain[n]?).getD .null

/-- Refuse arguments by name. -/
def unnamed (name : String) (i : Inputs) : Eval Unit :=
  if i.named.isEmpty then pure ()
  else Eval.typeFault (name ++ "() takes no keyword arguments")

/-- Refuse all arguments of a function of a type. -/
def none (type name : String) (i : Inputs) : Eval Unit := do
  i.unnamed (type ++ "." ++ name)
  if !i.plain.isEmpty then
    Eval.typeFault (type ++ "." ++ name ++ "() takes no arguments (" ++
      toString i.plain.length ++ " given)")

/-- The only argument of a function. -/
def one (name : String) (i : Inputs) : Eval Datum := do
  i.unnamed name
  match i.plain with
  | [d] => return d
  | ds =>
    Eval.typeFault (name ++ "() takes exactly one argument (" ++ toString ds.length ++ " given)")

/-- A number of things of a kind. -/
def counted (n : Nat) : String := toString n ++ (if n = 1 then " argument" else " arguments")

/-- Refuse too few or too many arguments of a function of a type. -/
def between (type name : String) (least most : Nat) (i : Inputs) : Eval Unit := do
  i.unnamed (if type = "" then name else type ++ "." ++ name)
  let n := i.plain.length
  let got := ", got " ++ toString n
  if least = most then
    if n ≠ least then Eval.typeFault (name ++ " expected " ++ counted least ++ got)
  else if n < least then Eval.typeFault (name ++ " expected at least " ++ counted least ++ got)
  else if most < n then Eval.typeFault (name ++ " expected at most " ++ counted most ++ got)

/-- Refuse too few or too many arguments of a function that says how many were given. -/
def given (type name : String) (least most : Nat) (i : Inputs) : Eval Unit := do
  i.unnamed (if type = "" then name else type ++ "." ++ name)
  let n := i.plain.length
  let got := " (" ++ toString n ++ " given)"
  if n < least then
    Eval.typeFault (name ++ "() takes at least " ++ counted least ++ got)
  else if most < n then
    Eval.typeFault (name ++ "() takes at most " ++ counted most ++ got)

/-- The arguments of a function with these parameters, all of which may be left out. -/
def optional (name : String) (names : List String) (i : Inputs) : Eval (List (Option Datum)) := do
  let n := i.plain.length + i.named.length
  if names.length < n then
    Eval.typeFault (name ++ "() takes at most " ++ counted names.length ++ " (" ++ toString n ++
      " given)")
  match i.named.find? fun (k, _) => !names.contains k with
  | some (k, _) =>
    Eval.typeFault ("'" ++ k ++ "' is an invalid keyword argument for " ++ name ++ "()")
  | Option.none =>
    return names.zipIdx.map fun (k, n) => (i.plain[n]?).or (i.named.lookup k)

end Inputs

/-! ### Named parameters -/

/-- The parameters of a function. -/
structure Signature where
  /-- The name of the function. -/
  name : String
  /-- How many parameters are filled in before the arguments of a call. -/
  implicit : Nat
  /-- The parameters that must be given. -/
  needed : List String
  /-- The parameters that may be left out. -/
  optional : List String

namespace Signature

/-- Names with commas between them and a word before the last. -/
def listed : List String → String
  | [] => ""
  | [a] => a
  | [a, b] => a ++ " and " ++ b
  | a :: b :: rest =>
    let init := (a :: b :: rest).dropLast
    String.intercalate ", " init ++ ", and " ++ ((b :: rest).getLast?.getD "")

/-- The failure of too many arguments by position. -/
def tooMany {α : Type} (s : Signature) (given : Nat) : Eval α :=
  let least := s.implicit + s.needed.length
  let most := least + s.optional.length
  let n := s.implicit + given
  let takes :=
    if s.optional.isEmpty then
      toString most ++ " positional argument" ++ (if most = 1 then "" else "s")
    else
      "from " ++ toString least ++ " to " ++ toString most ++ " positional arguments"
  let were := if n = 1 then " was given" else " were given"
  Eval.typeFault (s.name ++ "() takes " ++ takes ++ " but " ++ toString n ++ were)

/-- The values of the parameters in order; what is left out is `none`. -/
def bind (s : Signature) (i : Inputs) : Eval (List (Option Datum)) := do
  let names := s.needed ++ s.optional
  for (k, _) in i.named do
    match names.idxOf? k with
    | none =>
      Eval.typeFault (s.name ++ "() got an unexpected keyword argument '" ++ k ++ "'")
    | some n =>
      if n < i.plain.length then
        Eval.typeFault (s.name ++ "() got multiple values for argument '" ++ k ++ "'")
  if names.length < i.plain.length then s.tooMany i.plain.length
  let values := names.zipIdx.map fun (k, n) => (i.plain[n]?).or (i.named.lookup k)
  let missing := (s.needed.zip values).filterMap fun (k, v) =>
    if v.isNone then some ("'" ++ k ++ "'") else none
  if !missing.isEmpty then
    Eval.typeFault (s.name ++ "() missing " ++ toString missing.length ++
      " required positional argument" ++ (if missing.length = 1 then "" else "s") ++ ": " ++
      listed missing)
  return values

end Signature

end Playbook.Template
