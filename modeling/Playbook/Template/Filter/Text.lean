import Playbook.Template.Filter.Basic
import Playbook.Template.Method.Text

/-!
# Filters of texts

Filters that show a datum as a text and change it: case, edges, replacement, indentation, filling.

Main definitions: `Template.textFilter?`.
-/

namespace Playbook.Template

/-- The characters of a datum as it is shown. -/
def shownChars (d : Datum) : Eval (List Char) := do return (← d.text).toList

/-! ### Words and their starts -/

/-- Whether a character stands between words that start with a capital letter. -/
def separatesWords (c : Char) : Bool := "-([<".toList.contains c || c == '\x7b' || Unicode.isBlank c

/-- A text in which every word starts with a capital letter and goes on in small ones; `start` says
whether a word starts here, and `word` holds the word so far, the last character first. -/
def titleFrom (word : List Char) : List Char → List Char
  | [] => shown word.reverse
  | c :: rest =>
    if separatesWords c then shown word.reverse ++ c :: titleFrom [] rest
    else titleFrom (c :: word) rest
where
  /-- A word that starts with a capital letter. -/
  shown : List Char → List Char
    | [] => []
    | c :: rest => Text.upper [c] ++ Text.lower rest

/-- How many words of letters, digits and underscores there are. -/
def countWords : Bool → List Char → Nat
  | _, [] => 0
  | inWord, c :: rest =>
    if Unicode.isWord c then (if inWord then 0 else 1) + countWords true rest
    else countWords false rest

/-! ### Lines -/

/-- A text with blanks before its lines. -/
def indentFilter (d : Datum) (i : Inputs) : Eval Datum := do
  let values ← Signature.bind
    ⟨"do_indent", 0, ["s"], ["width", "first", "blank"]⟩ (i.after d)
  let margin ←
    match given values 1 (.int 4) with
    | .str s => pure s.toList
    | width =>
      match width.int? with
      | some n => pure (repeated [' '] n)
      | none =>
        match width with
        | .missing why => Eval.missingFault why
        | width =>
          Eval.typeFault ("can't multiply sequence by non-int of type '" ++
            (← width.typeName) ++ "'")
  let text ←
    match d with
    | .str s => pure s.toList
    | .missing why => Eval.missingFault why
    | .bytes _ => Eval.typeFault "can't concat str to bytes"
    | .tuple .. => Eval.typeFault "can only concatenate tuple (not \"str\") to tuple"
    | d =>
      let type ← d.typeName
      if type = "list" then d.refuseField "splitlines"
      else Eval.typeFault ("unsupported operand type(s) for +=: '" ++ type ++ "' and 'str'")
  let lines := Text.lines false (text ++ ['\n'])
  let blank ← givenTrue values 3 false
  let shown :=
    if blank then List.intercalate ('\n' :: margin) lines
    else
      match lines with
      | [] => []
      | first :: rest =>
        first ++ rest.flatMap fun line =>
          '\n' :: (if line.isEmpty then line else margin ++ line)
  return .chars (if ← givenTrue values 2 false then margin ++ shown else shown)

/-! ### Cutting and filling -/

/-- A text with its end cut off if it is too long. -/
def truncateFilter (d : Datum) (i : Inputs) : Eval Datum := do
  let values ← Signature.bind
    ⟨"do_truncate", 1, ["s"], ["length", "killwords", "end", "leeway"]⟩ (i.after d)
  let length ← asIndex (given values 1 (.int 255))
  let mark ← expectText (given values 3 (.str "..."))
  let leeway ←
    match given values 4 .null with
    | .null => pure 5
    | n => asIndex n
  let insist (limit n : Int) (what : String) : Eval Unit := do
    if n < limit then
      throw ⟨.assertion, "expected " ++ what ++ " >= " ++ toString limit ++ ", got " ++ toString n⟩
  insist mark.length length "length"
  insist 0 leeway "leeway"
  let s ← shownChars d
  if (s.length : Int) ≤ length + leeway then return .chars s
  let kept := s.take (length - mark.length).toNat
  if ← givenTrue values 2 false then return .chars (kept ++ mark)
  let whole := (Text.splitRight [' '] (some 1) kept).headD []
  return .chars (whole ++ mark)

/-- A text with another one in the place of a third. -/
def replaceFilter (d : Datum) (i : Inputs) : Eval Datum := do
  let values ← Signature.bind ⟨"do_replace", 1, ["s", "old", "new"], ["count"]⟩ (i.after d)
  let limit ←
    match given values 3 .null with
    | .null => pure none
    | n => limitOf (some n)
  let s ← shownChars d
  let old ← shownChars (given values 1 .null)
  let new ← shownChars (given values 2 .null)
  return .chars (Text.replace old new limit s)

/-- A text without the blanks, or other characters, at its edges. -/
def trimFilter (d : Datum) (i : Inputs) : Eval Datum := do
  let values ← Signature.bind ⟨"do_trim", 0, ["value"], ["chars"]⟩ (i.after d)
  let s ← shownChars d
  match given values 1 .null with
  | .null => return .chars (Text.trim Unicode.isBlank s)
  | .str cs => return .chars (Text.trim cs.toList.contains s)
  | _ => Eval.typeFault "strip arg must be None or str"

/-- A text with conversions filled in. -/
def formatFilter (d : Datum) (i : Inputs) : Eval Datum := do
  if !i.plain.isEmpty ∧ !i.named.isEmpty then
    argumentFault "can't handle positional and keyword arguments at the same time"
  let operands ←
    if i.named.isEmpty then pure (Datum.row i.plain)
    else Eval.newMap (.ofDistinct (i.named.map fun (k, d) => (.str k, d)))
  return .str (← formatPercent (← d.text) operands)

/-! ### Markup -/

/-- A character as markup shows it. -/
def escapeMarkup : Char → List Char
  | '&' => "&amp;".toList
  | '<' => "&lt;".toList
  | '>' => "&gt;".toList
  | '\'' => "&#39;".toList
  | '"' => "&#34;".toList
  | c => [c]

/-- A byte in an address, or in a question that follows one. -/
def addressByte (question : Bool) (b : UInt8) : List Char :=
  let c := Char.ofNat b.toNat
  if b.toNat < 128 ∧ (c.isAlphanum ∨ "_.-~".toList.contains c) then [c]
  else if question ∧ c = ' ' then ['+']
  else if !question ∧ c = '/' then ['/']
  else '%' :: (Literal.hex 2 b.toNat).map Char.toUpper

/-- A datum in an address, or in a question that follows one. -/
def addressChars (question : Bool) (d : Datum) : Eval (List Char) := do
  let bytes ←
    match d with
    | .bytes b => pure b
    | d => Eval.ofExcept ((Encoding.utf8 false).encode "strict" (← shownChars d))
  return bytes.flatMap (addressByte question)

/-- A datum in an address; pairs are put as a question. -/
def addressFilter (d : Datum) (i : Inputs) : Eval Datum := do
  alone "do_urlencode" "value" 0 d i
  let pairs : Eval (Option (List Datum)) := do
    match d with
    | .str _ => return none
    | .cell r =>
      match ← Eval.cell r with
      | .map t => return some (← t.entries.mapM fun (k, e) => Eval.newTuple [k, e])
      | _ => return some (← d.items)
    | d =>
      match ← Eval.attempt d.items with
      | .ok items => return some items
      | .error _ => return none
  match ← pairs with
  | none => return .chars (← addressChars false d)
  | some ds =>
    let parts ← ds.mapM fun d => do
      match ← d.unpack 2 with
      | [k, e] => return (← addressChars true k) ++ '=' :: (← addressChars true e)
      | _ => return []
    return .chars (List.intercalate ['&'] parts)

/-! ### All of them -/

/-- A filter that takes no arguments and changes the characters of a datum as it is shown. -/
def plainTextFilter? : String → Option (String × String × (List Char → List Char))
  | "upper" => some ("do_upper", "s", Text.upper)
  | "lower" => some ("do_lower", "s", Text.lower)
  | "capitalize" => some ("do_capitalize", "s", Text.capitalize)
  | "title" => some ("do_title", "s", titleFrom [])
  | "string" => some ("soft_str", "s", id)
  | "forceescape" => some ("do_forceescape", "value", (·.flatMap escapeMarkup))
  | "safe" => some ("do_mark_safe", "value", id)
  | _ => none

/-- A filter of texts. -/
def textFilter? (name : String) : Option (Datum → Inputs → Eval Datum) :=
  match plainTextFilter? name with
  | some (full, parameter, f) =>
    some fun d i => do
      alone full parameter 0 d i
      return .chars (f (← shownChars d))
  | none =>
    match name with
    | "escape" | "e" =>
      some fun d i => do
        let d ← (i.after d).one "escape"
        return .chars ((← shownChars d).flatMap escapeMarkup)
    | "trim" => some trimFilter
    | "replace" => some replaceFilter
    | "indent" => some indentFilter
    | "truncate" => some truncateFilter
    | "format" => some formatFilter
    | "center" =>
      some fun d i => do
        let values ← Signature.bind ⟨"do_center", 0, ["value"], ["width"]⟩ (i.after d)
        let s ← shownChars d
        return .chars (Text.center (← widthOf (given values 1 (.int 80))) ' ' s)
    | "urlencode" => some addressFilter
    | "wordcount" =>
      some fun d i => do
        alone "do_wordcount" "s" 0 d i
        return .int (countWords false (← shownChars d))
    | _ => none

end Playbook.Template
