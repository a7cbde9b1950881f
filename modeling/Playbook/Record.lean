import Playbook.Directive
import Playbook.Fault
import Playbook.Value.Print

/-!
# Records

Playbooks and task files are documents whose top level is a list of mappings, the records. The keys
of a record are texts. A field is read by the kind of its value, and a value of another kind counts
as an empty one.

Main definitions:

- `Record`, with `Record.text` and `Record.mapping` for fields;
- `Value.records?`: the mappings of a list;
- `Document`, `Document.records`: the records of a source.
-/

namespace Playbook

/-- A mapping that describes a play or a task. -/
abbrev Record := Entries

namespace Record

/-- The value of a field. -/
def field? (r : Record) (key : Value) : Option Value := Entries.find? r key

/-- The text of a field; empty if it holds no text. -/
def text (r : Record) (key : Value) : String :=
  match field? r key with
  | some (.str s) => s
  | _ => ""

/-- The mapping of a field; empty if it holds none. -/
def mapping (r : Record) (key : Value) : Entries := ((field? r key).bind Value.entries?).getD []

end Record

namespace Value

/-- The name of the type that keeps a value from being a key. -/
def keyObstacle? : Value → Option String
  | .scalar _ => none
  | .tuple _ items => obstacleAmong items
  | .opaqueThing .. => none
  | v => some v.typeName
where
  /-- The name of the first type among values that keeps them from being keys. -/
  obstacleAmong : List Value → Option String
    | [] => none
    | v :: rest => (keyObstacle? v).or (obstacleAmong rest)

/-- The failure of using a value as a key. -/
def keyFailure? (v : Value) : Option Failure :=
  v.keyObstacle?.map fun name => .type ("unhashable type: '" ++ name ++ "'")

/-- The mappings among the items of a list; items of other kinds are dropped. -/
def recordValues? (v : Value) : Option (List Value) :=
  v.items?.map fun items => items.filter fun item => item.kind = .mapping

/-- The records of a list: its mappings; items of other kinds are dropped. -/
def records? (v : Value) : Option (List Record) :=
  v.items?.map fun items => items.filterMap entries?

/-! ### Parts -/

/-- The name of the type of a value with that of the module that defines it. -/
def qualifiedTypeName : Value → String
  | .scalar s => s.qualifiedTypeName
  | v => v.typeName

/-- What a walk through a value meets: items, members, keys, characters or bytes. -/
def parts (v : Value) : Except Failure (List Value) :=
  match v with
  | .tuple _ items | .set _ items => .ok items
  | .str s => .ok (s.toList.map fun c => .str (String.singleton c))
  | .bytes b => .ok (b.map fun x => .int x.toNat)
  | v =>
    match v.items?, v.entries? with
    | some items, _ => .ok items
    | none, some es => .ok (Entries.keys es)
    | none, none => .error (.type ("'" ++ v.qualifiedTypeName ++ "' object is not iterable"))

/-- The item of a list at a position, which counts from the end if it is negative. -/
def itemAt? {α : Type} (items : List α) (i : Int) : Option α :=
  let j := if i < 0 then i + items.length else i
  if j < 0 then none else items[j.toNat]?

/-- The part of a sequence at a position. -/
def partAt (v index : Value) : Except Failure Value :=
  let position? : Option Int := match index with
    | .int i => some i
    | .bool b => some (if b then 1 else 0)
    | _ => none
  let sequence (name : String) : Except Failure Value := do
    match position? with
    | none =>
      throw (.type (name ++ " indices must be integers or slices, not " ++ index.qualifiedTypeName))
    | some i =>
      match itemAt? (← v.parts) i with
      | some item => return item
      | none => throw (.index (name ++ " index out of range"))
  match v with
  | .tuple .. => sequence "tuple"
  | .list .. => sequence "list"
  | .bytes b =>
    match position? with
    | none =>
      .error (.type ("byte indices must be integers or slices, not " ++ index.qualifiedTypeName))
    | some i =>
      match itemAt? b i with
      | some x => .ok (.int x.toNat)
      | none => .error (.index "index out of range")
  | .str _ =>
    .error (.type ("string indices must be integers, not '" ++ index.qualifiedTypeName ++ "'"))
  | v => .error (.type ("'" ++ v.qualifiedTypeName ++ "' object is not subscriptable"))

end Value

/-! ### Records of documents -/

/-- A source of records: a text, or the bytes of a file. -/
inductive Document where
  /-- A text. -/
  | text (s : String)
  /-- Bytes. -/
  | bytes (b : Bytes)
deriving Repr

namespace Document

/-- The value of a document. -/
def value : Document → Except Yaml.LoadFault Value
  | text s => Yaml.ofText s
  | bytes b => Yaml.ofBytes b

/-- The entries with their keys as texts. Keys with the same text become one. -/
def textKeys (es : Entries) : Except Failure Record := do
  return Entries.ofList (← es.mapM fun (k, v) => do return (.str (← k.text?), v))

/-- The records of the items of a list, the first of which has a position. Nothing counts as the
empty record. -/
def recordsFrom : Nat → List Value → Except Yaml.LoadFault (List Record)
  | _, [] => .ok []
  | i, item :: rest =>
    if item.kind = .null then do return [] :: (← recordsFrom (i + 1) rest)
    else
      match item.entries? with
      | some es => do
        let r ← (textKeys es).mapError .failure
        return r :: (← recordsFrom (i + 1) rest)
      | none =>
        .error (.document (.shape ("item " ++ toString i ++ " must be a mapping, got " ++
          item.kind.name)))

/-- The records of a value. Nothing holds no record. -/
def recordsOf (v : Value) : Except Yaml.LoadFault (List Record) :=
  if v.kind = .null then .ok []
  else
    match v.items? with
    | some items => recordsFrom 0 items
    | none => .error (.document (.shape ("expected a sequence of mappings, got " ++ v.kind.name)))

/-- The records of a document. A malformed document, or one of another shape, is a fault with a
sentence and a file; a failed conversion is passed on as it is. -/
def records (d : Document) (headline : String) (file : Option String) :
    Except Fault (List Record) :=
  match d.value.bind recordsOf with
  | .ok rs => .ok rs
  | .error (.document e) => .error (.resolution .decode headline file (some (.document e)))
  | .error (.failure f) => .error (.failure f)

end Document

end Playbook
