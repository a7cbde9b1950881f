import Playbook.Filter
import Playbook.Template.Filter.Number
import Playbook.Template.Filter.Sequence
import Playbook.Template.Filter.Stream
import Playbook.Template.Filter.Text
import Playbook.Template.Exchange
import Playbook.Template.Test

/-!
# Filters of templates

All filters that a template can name: those of texts, numbers and sequences, those of any datum, and
the ones that playbooks bring along, which work on values.

Main definitions: `Template.filterNames`, `Template.applyFilter`.
-/

namespace Playbook.Template

/-- The filters there are. -/
def filterNames : List String :=
  ["abs", "attr", "batch", "capitalize", "center", "count", "d", "default", "dictsort", "e",
    "escape", "filesizeformat", "first", "float", "forceescape", "format", "groupby", "indent",
    "int", "items", "join", "last", "length", "list", "lower", "map", "max", "min", "pprint",
    "random", "reject", "rejectattr", "replace", "reverse", "round", "safe", "select",
    "selectattr", "slice", "sort", "string", "striptags", "sum", "title", "tojson", "trim",
    "truncate", "unique", "upper", "urlencode", "urlize", "wordcount", "wordwrap", "xmlattr",
    "bool", "to_json", "to_yaml", "basename", "dirname", "regex_replace", "b64decode",
    "b64encode"]

/-! ### Filters of any datum -/

/-- A datum, or another one if it is missing, or counts as false where that is asked for. -/
def defaultFilter (d : Datum) (i : Inputs) : Eval Datum := do
  let values ← Signature.bind
    ⟨"do_default", 0, ["value"], ["default_value", "boolean"]⟩ (i.after d)
  let otherwise := given values 1 (.str "")
  match d with
  | .missing _ => return otherwise
  | d =>
    let boolean ← givenTrue values 2 false
    let true_ ← d.isTrue
    return if boolean && !true_ then otherwise else d

/-- An attribute of a datum, without its items. -/
def attrFilter (d : Datum) (i : Inputs) : Eval Datum := do
  let values ← Signature.bind ⟨"do_attr", 1, ["obj", "name"], []⟩ (i.after d)
  match given values 1 .null with
  | .str name =>
    match ← d.attribute? name with
    | some found => return found
    | none => d.absent (.str name)
  | name =>
    Eval.typeFault ("attribute name must be string, not '" ++ (← name.typeName) ++ "'")

mutual

/-- A value whose mappings are sorted by their keys. -/
def sortedKeys : Value → Value
  | .list m items => .list m (sortedKeysAll items)
  | .tuple m items => .tuple m (sortedKeysAll items)
  | .map m entries =>
    .map m ((sortedKeysEntries entries).mergeSort fun a b => match a.1, b.1 with
      | .str s, .str t => Scalar.compareChars s.toList t.toList != .gt
      | _, _ => true)
  | v => v

/-- Values whose mappings are sorted by their keys. -/
def sortedKeysAll : List Value → List Value
  | [] => []
  | v :: rest => sortedKeys v :: sortedKeysAll rest

/-- Entries in whose values mappings are sorted by their keys. -/
def sortedKeysEntries : List (Value × Value) → List (Value × Value)
  | [] => []
  | (k, v) :: rest => (k, sortedKeys v) :: sortedKeysEntries rest

end

/-- A character as JSON shows it inside markup. -/
def escapeJson (c : Char) : List Char :=
  if ['<', '>', '&', '\''].contains c then '\\' :: 'u' :: Literal.hex 4 c.toNat else [c]

/-- A datum as JSON inside markup. -/
def tojsonFilter (d : Datum) (i : Inputs) : Eval Datum := do
  let values ← Signature.bind ⟨"do_tojson", 1, ["value"], ["indent"]⟩ (i.after d)
  let indent ←
    match given values 1 .null with
    | .null => pure none
    | n => do pure (some (← asIndex n).toNat)
  let text ← Eval.ofExcept ((sortedKeys (← d.give)).json { Json.compact with indent })
  return .chars (text.toList.flatMap escapeJson)

/-! ### Filters of values -/

/-- The failure of writing something as YAML that has no parts to write. -/
def noYamlParts : Failure :=
  .value "dictionary update sequence element #0 has length 1; 2 is required"

/-- A filter of values; a datum is given to it as a value. -/
def valueFilter (f : Filter) (d : Datum) : Eval Datum := do
  match f, d with
  | .truth, .str s => return .bool (Filter.isYes (.str s))
  | .truth, d => return .bool (← d.isTrue)
  | .encode64, .missing why => Eval.missingFault why
  | .yaml, .missing _ => throw noYamlParts
  | .yaml, .range start stop step =>
    let line (n : Int) : String := "- " ++ toString n ++ "\n"
    return .str ("!!python/object/apply:builtins.range\n" ++ line start ++ line stop ++ line step)
  | f, d => Eval.take (← Eval.ofExcept (f.apply (← d.give)))

/-- The filter that puts a text in the place of what a pattern matches. Something missing in the
place of the text is only used if there is a match. -/
def substituteFilter (d : Datum) (i : Inputs) : Eval Datum := do
  let values ← Signature.bind
    ⟨"_filter_regex_replace", 0, ["value", "pattern", "replacement"], []⟩ (i.after d)
  let pattern ← (given values 1 .null).give
  match given values 2 .null with
  | .missing why =>
    let p ← Eval.ofExcept (Filter.patternOf pattern)
    let subject ← d.text
    if (p.matches subject.toList).isEmpty then return .str subject else Eval.missingFault why
  | replacement => valueFilter (.substitute pattern (← replacement.give)) d

/-- The filters of values that take no arguments, by the names of their functions and of their
parameters. -/
def valueFilter? : String → Option (String × String × Filter)
  | "bool" => some ("_filter_bool", "value", .truth)
  | "to_json" => some ("<lambda>", "x", .json)
  | "to_yaml" => some ("_filter_to_yaml", "value", .yaml)
  | "basename" => some ("<lambda>", "p", .baseName)
  | "dirname" => some ("<lambda>", "p", .folderName)
  | "b64decode" => some ("_filter_b64decode", "value", .decode64)
  | "b64encode" => some ("_filter_b64encode", "value", .encode64)
  | _ => none

/-! ### All of them -/

/-- Apply a filter by name. -/
def applyFilter (name : String) (d : Datum) (i : Inputs) : Eval Datum := do
  match valueFilter? name, textFilter? name, sequenceFilter? name with
  | some (full, parameter, f), _, _ =>
    alone full parameter 0 d i
    valueFilter f d
  | none, some f, _ => f d i
  | none, none, some f => f d i
  | none, none, none =>
    match name with
    | "default" | "d" => defaultFilter d i
    | "attr" => attrFilter d i
    | "abs" => absoluteFilter d i
    | "round" => roundFilter d i
    | "int" => intFilter d i
    | "float" => floatFilter d i
    | "sum" => sumFilter d i
    | "tojson" => tojsonFilter d i
    | "regex_replace" => substituteFilter d i
    | "pprint" => do
      alone "do_pprint" "value" 0 d i
      return .str (← d.literal)
    | _ =>
      if filterNames.contains name then
        throw ⟨.system, "the filter " ++ name ++ " is not available"⟩
      else Eval.runFault ("No filter named " ++ Literal.text name ++ ".")

end Playbook.Template
