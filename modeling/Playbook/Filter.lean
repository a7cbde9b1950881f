import Playbook.Path
import Playbook.Pattern.Replacement
import Playbook.Record
import Playbook.Text.Encoding
import Playbook.Value.Json
import Playbook.Yaml.Layout

/-!
# Filters of values

The filters that playbooks use beyond those of the template language: truth by word, documents in
JSON and YAML, parts of paths, replacement by pattern, and base 64.

Main definitions: `Filter`, `Filter.ofCall?`, `Filter.apply`.
-/

namespace Playbook

/-- A filter of values. -/
inductive Filter where
  /-- Whether a text is a word for yes, or another value counts as true. -/
  | truth
  /-- The JSON document of a value. -/
  | json
  /-- The YAML document of a value. -/
  | yaml
  /-- The last part of a path. -/
  | baseName
  /-- A path without its last part. -/
  | folderName
  /-- A text with what a pattern matches replaced. -/
  | substitute (pattern replacement : Value)
  /-- The text of bytes in base 64. -/
  | decode64
  /-- A text in base 64. -/
  | encode64
deriving Repr

namespace Filter

/-- The filter that a name calls with some arguments after the value. -/
def ofCall? (name : String) (arguments : List Value) : Option Filter :=
  match name, arguments with
  | "bool", [] => some .truth
  | "to_json", [] => some .json
  | "to_yaml", [] => some .yaml
  | "basename", [] => some .baseName
  | "dirname", [] => some .folderName
  | "regex_replace", [pattern, replacement] => some (.substitute pattern replacement)
  | "b64decode", [] => some .decode64
  | "b64encode", [] => some .encode64
  | _, _ => none

/-! ### Truth -/

/-- The words for yes. -/
def yesWords : List String := ["true", "yes", "1", "on"]

/-- Whether a text is a word for yes, or another value counts as true. -/
def isYes (v : Value) : Bool :=
  match v with
  | .str s => yesWords.contains (String.ofList (Text.lower s.toList))
  | v => v.isTrue

/-! ### Replacement -/

/-- The pattern that a value stands for; a byte string is read like a text. -/
def patternOf (v : Value) : Except Failure Pattern := do
  if let some f := v.keyFailure? then throw f
  match v with
  | .str s => Pattern.ofText s
  | .bytes b => Pattern.ofText (String.ofList (b.map fun x => Char.ofNat x.toNat))
  | _ => throw (.type "first argument must be string or compiled pattern")

/-- The failure of putting bytes into a text, at a place of its parts. -/
def mixedParts (place : Nat) : Failure :=
  .type ("sequence item " ++ toString place ++ ": expected str instance, bytes found")

/-- A text with the matches of a pattern replaced. -/
def replaceIn (subject : String) (pattern replacement : Value) : Except Failure String := do
  let p ← patternOf pattern
  if let some f := replacement.keyFailure? then throw f
  let checkSubject : Except Failure Unit :=
    match pattern with
    | .bytes _ => .error (.type "cannot use a bytes pattern on a string-like object")
    | _ => .ok ()
  match replacement with
  | .str text =>
    let r ← Pattern.Replacement.ofText p text
    checkSubject
    return Pattern.replaceAll p r subject
  | .bytes b =>
    let r ← Pattern.Replacement.ofText p (String.ofList (b.map fun x => Char.ofNat x.toNat))
    checkSubject
    match p.matches subject.toList with
    | [] => return subject
    | m :: _ =>
      let whole := r.all fun piece => match piece with
        | .chars _ => true
        | .group _ => false
      throw (mixedParts (if whole ∧ 0 < m.start.position then 1 else 0))
  | v =>
    throw (.type ("decoding to str: need a bytes-like object, " ++ v.qualifiedTypeName ++
      " found"))

/-! ### Base 64 -/

/-- A value in base 64. -/
def encoded (v : Value) : Except Failure String :=
  match v with
  | .str s => do
    return String.ofList (Base64.encode (← (Encoding.utf8 false).encode "strict" s.toList))
  | .bytes b => .ok (String.ofList (Base64.encode b))
  | v =>
    .error (.noAttribute ("'" ++ v.qualifiedTypeName ++ "' object has no attribute 'encode'"))

/-- The text that a value in base 64 stands for. -/
def decoded (v : Value) : Except Failure String := do
  let source ← match v with
    | .str s =>
      if s.toList.all Unicode.isAscii then pure s.toList
      else throw (.value "string argument should contain only ASCII characters")
    | .bytes b => pure (b.map fun x => Char.ofNat x.toNat)
    | v =>
      throw (.type ("argument should be a bytes-like object or ASCII string, not '" ++
        v.typeName ++ "'"))
  let bytes ← (Base64.decode source).mapError .ofBase64Fault
  let text ← (Utf8.decode bytes).mapError .ofDecodingFault
  return String.ofList text

/-! ### Applying filters -/

/-- Apply a filter to a value. -/
def apply (f : Filter) (v : Value) : Except Failure Value :=
  match f with
  | .truth => .ok (.bool (isYes v))
  | .json => .str <$> v.json Json.compact
  | .yaml => .str <$> Yaml.text v
  | .baseName => (fun s => .str (Path.name s)) <$> v.text?
  | .folderName => (fun s => .str (Path.parent s)) <$> v.text?
  | .substitute pattern replacement => do
    let subject ← v.text?
    return .str (← replaceIn subject pattern replacement)
  | .decode64 => .str <$> decoded v
  | .encode64 => .str <$> encoded v

end Filter

end Playbook
