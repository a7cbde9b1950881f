import Playbook.Record
import Playbook.Value.Mark

/-!
# Variables on the command line

Variables are given as items: `@` and a path for a file of variables, a name and a text with `=`
between them, or a document that is a mapping. Later items win. A file that does not exist, a
document of another kind, and a malformed document given as such are passed over.

Main definitions: `ExtraVars.Item`, `ExtraVars.ofItems`, `ExtraVars.apart`.
-/

namespace Playbook

namespace ExtraVars

/-- What an item gives. -/
inductive Item where
  /-- The variables of a file. -/
  | file (path : String)
  /-- One variable with its text. -/
  | assignment (name value : String)
  /-- The variables of a document. -/
  | document (text : String)
deriving DecidableEq, Repr

/-- A text without blanks at its ends. -/
def strip (cs : List Char) : String :=
  String.ofList ((cs.dropWhile Unicode.isBlank).reverse.dropWhile Unicode.isBlank).reverse

/-- What an item gives, by its first character and by whether it holds `=`. -/
def Item.ofText (s : String) : Item :=
  match s.toList with
  | '@' :: path => .file (String.ofList path)
  | cs =>
    if cs.contains '=' then
      .assignment (strip (cs.takeWhile (· ≠ '='))) (strip ((cs.dropWhile (· ≠ '=')).drop 1))
    else .document s

/-- Lines that end in a carriage return, alone or before a line feed, end in a line feed. -/
def plainLineEnds : List Char → List Char
  | '\r' :: '\n' :: rest => '\n' :: plainLineEnds rest
  | '\r' :: rest => '\n' :: plainLineEnds rest
  | c :: rest => c :: plainLineEnds rest
  | [] => []

/-- The entries of a value; none if it is no mapping. -/
def entriesOf (v : Value) : Entries := v.entries?.getD []

/-- The variables of a file. A path that leads nowhere gives none. -/
def ofFile (fs : FileSystem) (path : String) : Except Fault Entries :=
  match fs.read (Path.tidy path) with
  | .error .nullCharacter => .ok []
  | .error (.system e) =>
    -- Nothing of that name, or a file in place of a folder.
    if e.number = 2 ∨ e.number = 20 then .ok [] else .error (.system e)
  | .ok content =>
    match Utf8.decode content with
    | .error f => .error (.failure (.ofDecodingFault f))
    | .ok text =>
      match Yaml.ofText (String.ofList (plainLineEnds text)) with
      | .ok v => .ok (entriesOf v)
      | .error f => .error (.ofLoadFault f)

/-- The variables of an item. -/
def ofItem (fs : FileSystem) : Item → Except Fault Entries
  | .file path => ofFile fs path
  | .assignment name value => .ok [(.str name, .str value)]
  | .document text =>
    match Yaml.ofText text with
    | .ok v => .ok (entriesOf v)
    | .error (.document _) => .ok []
    | .error (.failure f) => .error (.failure f)

/-- The variables of items, of which later ones win. -/
def ofItems (fs : FileSystem) (items : List String) : Except Fault Entries :=
  items.foldlM (fun vars item => do return Entries.update vars (← ofItem fs (Item.ofText item))) []

/-- Variables of items in which what different items give is told apart by its marks. A key comes
from the first item that has it, and its value from the last one. -/
def apart (fs : FileSystem) (items : List String) (vars : Entries) : Entries :=
  let given := items.map fun item => (ofItem fs (Item.ofText item)).toOption.getD []
  vars.map fun (k, v) =>
    let has (es : Entries) : Bool := (Entries.find? es k).isSome
    let first := given.findIdx has
    let last := given.length - 1 - given.reverse.findIdx has
    (k.relabel (markIn given.length first), v.relabel (markIn given.length last))

end ExtraVars

end Playbook
