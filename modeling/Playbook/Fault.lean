import Playbook.FileSystem
import Playbook.Yaml.Document

/-!
# Faults

Why resolving, reading or rendering failed. A fault of resolution says for which file it was raised
and what caused it, so that its text reads from the outer context down to the first cause.

Main definitions:

- `Fault`, with `Fault.headline` for the own sentence and `Fault.message` for the whole text;
- `Fault.exitCode?`: the exit code of a run that ends with the fault; a fault without one is no
  answer to the user's input but a defect of a computation.
-/

namespace Playbook

/-- The kinds of faults of resolution that have nothing but a sentence of their own. -/
inductive ResolutionKind where
  /-- No kind in particular. -/
  | general
  /-- A document that is malformed or of another shape than records have. -/
  | decode
  /-- A field that is missing or of the wrong type. -/
  | shape
  /-- A file that cannot be opened. -/
  | taskFile
deriving DecidableEq, Repr

/-- Why something failed. -/
inductive Fault where
  /-- A fault of resolution. -/
  | resolution (kind : ResolutionKind) (headline : String) (file : Option String)
      (cause : Option Fault)
  /-- A file or role that includes itself, with the chain that leads back to it. -/
  | includeCycle (chain : List String) (file : Option String)
  /-- A role that cannot be resolved. -/
  | role (name : String) (cause : Option Fault)
  /-- A template that cannot be rendered. -/
  | template (problem : String) (template : Option String)
  /-- Any other fault. -/
  | general (headline : String) (details : Option String)
  /-- A source that holds no document. -/
  | document (e : Yaml.Error)
  /-- A refusal of the operating system. -/
  | system (e : SystemError)
  /-- A failed computation on values. -/
  | failure (f : Failure)

namespace Fault

/-! ### Texts -/

/-- At most a hundred characters of a template, with dots for the rest. -/
def shorten (template : String) : String :=
  if template.length ≤ 100 then template else String.ofList (template.toList.take 100) ++ "..."

/-- The details below the sentence of a fault. -/
def details : Fault → Option String
  | template _ (some t) => if t = "" then none else some ("Template: " ++ shorten t)
  | general _ d => d
  | _ => none

/-- The own sentence of a fault. -/
def headline : Fault → String
  | resolution _ h _ _ => h
  | includeCycle chain _ => "include cycle detected: " ++ String.intercalate " -> " chain
  | role name _ => "failed to load role " ++ Literal.text name
  | template problem _ => "Template error: " ++ problem
  | general h _ => h
  | document e => e.message
  | system e => e.message
  | failure f => f.message

/-- The file a fault was raised for. -/
def file : Fault → Option String
  | resolution _ _ file _ => file
  | includeCycle _ file => file
  | _ => none

/-- What caused a fault. -/
def cause : Fault → Option Fault
  | resolution _ _ _ cause => cause
  | role _ cause => cause
  | _ => none

/-- The file of a sentence, unless it has no name. -/
def inFile (file : Option String) : String :=
  match file with
  | some f => if f = "" then "" else " (in " ++ f ++ ")"
  | none => ""

/-- A sentence with details below it, unless they are empty. -/
def withDetails (headline : String) (details : Option String) : String :=
  match details with
  | some d => if d = "" then headline else headline ++ "\n  Details: " ++ d
  | none => headline

/-- The whole text of a fault: its sentence, its file, and the text of its cause. -/
def message : Fault → String
  | resolution _ h file cause =>
    h ++ inFile file ++ (match cause with
      | some c => ": " ++ c.message
      | none => "")
  | includeCycle chain file => (includeCycle chain file).headline ++ inFile file
  | role name cause =>
    (role name none).headline ++ (match cause with
      | some c => ": " ++ c.message
      | none => "")
  | template p t => withDetails (template p t).headline (template p t).details
  | general h d => withDetails h d
  | document e => e.message
  | system e => e.message
  | failure f => f.message

/-! ### Classes -/

/-- Whether a fault is one of resolution. -/
def isResolution : Fault → Bool
  | resolution .. | includeCycle .. | role .. => true
  | _ => false

/-- The exit code of a run that ends with a fault. -/
def exitCode? : Fault → Option Nat
  | resolution .. | includeCycle .. | role .. | template .. => some 3
  | general .. => some 1
  | document _ | system _ | failure _ => none

/-! ### Building -/

/-- A field that is missing or of the wrong type. -/
def shape (headline : String) (file : String) : Fault :=
  .resolution .shape headline (some file) none

/-- The fault of a source without a value. -/
def ofLoadFault : Yaml.LoadFault → Fault
  | .document e => .document e
  | .failure f => .failure f

@[simp] theorem message_failure (f : Failure) : (failure f).message = f.message := by
  simp [message]
@[simp] theorem exitCode?_resolution (k : ResolutionKind) (h : String) (f : Option String)
    (c : Option Fault) : (resolution k h f c).exitCode? = some 3 := rfl

end Fault

end Playbook
