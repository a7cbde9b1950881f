import Playbook.Text.Utf16
import Playbook.Text.Literal

/-!
# Sources of documents

A source is a text with a name by which messages refer to it. A text that comes as bytes is decoded
first, as UTF-16 if it starts with the byte order mark of that encoding and as UTF-8 otherwise; and
a source may hold printable characters and line ends only.

Main definitions:

- `Yaml.Source`, `Yaml.Mark`: the text and a place in it;
- `Yaml.Trouble`, `Yaml.Error`: why a source holds no document, with `Yaml.Error.message`;
- `Yaml.Source.ofText`, `Yaml.Source.ofBytes`: sources of admissible texts.
-/

namespace Playbook.Yaml

/-- A named text. -/
structure Source where
  /-- The name by which messages refer to the text. -/
  name : String
  /-- The text. -/
  text : List Char

/-- A place in a source. -/
structure Mark where
  /-- How many characters come before. -/
  index : Nat
  /-- How many lines come before. -/
  line : Nat
  /-- How many characters of the line come before. -/
  column : Nat
deriving DecidableEq, Repr, Inhabited

namespace Mark

/-- The start of a source. -/
def start : Mark := ⟨0, 0, 0⟩

end Mark

/-! ### Character classes -/

/-- Whether a character ends a line. -/
def isBreak (c : Char) : Bool :=
  c == '\n' || c == '\r' || c.toNat == 0x85 || c.toNat == 0x2028 || c.toNat == 0x2029

/-- Whether a source may hold a character. -/
def isAdmissible (c : Char) : Bool :=
  let n := c.toNat
  n == 0x09 || n == 0x0A || n == 0x0D || (0x20 ≤ n && n ≤ 0x7E) || n == 0x85 ||
    (0xA0 ≤ n && n ≤ 0xD7FF) || (0xE000 ≤ n && n ≤ 0xFFFD) || 0x10000 ≤ n

/-! ### Errors -/

/-- The stage of reading a document at which an error is found. -/
inductive Stage where
  /-- Finding the tokens. -/
  | tokens
  /-- Finding the structure of the tokens. -/
  | events
  /-- Building the nodes. -/
  | nodes
  /-- Finding the values of the nodes. -/
  | values
deriving DecidableEq, Repr

/-- A problem at a place, perhaps while something that began at another place was read. -/
structure Trouble where
  /-- What was being read. -/
  context : Option String
  /-- Where that began. -/
  contextMark : Option Mark
  /-- The problem. -/
  problem : String
  /-- Where the problem is. -/
  mark : Mark
deriving DecidableEq, Repr

namespace Trouble

/-- A problem in its own right. -/
def plain (problem : String) (mark : Mark) : Trouble := ⟨none, none, problem, mark⟩

/-- A problem while something was read that began at a place. -/
def within (context : String) (began : Mark) (problem : String) (mark : Mark) : Trouble :=
  ⟨some context, some began, problem, mark⟩

end Trouble

/-- Why a source holds no document. -/
inductive Error where
  /-- A character or byte that no source may hold. -/
  | unreadable (source : String) (position : Nat) (code : Nat) (reason : String)
  /-- A problem at a place. -/
  | marked (stage : Stage) (source : Source) (trouble : Trouble)
  /-- A document of another shape than the one asked for. -/
  | shape (problem : String)

namespace Source

/-- The line around a place: at most as much of it as fits, indented by four, and a caret under
the place. Longer sides are cut to thirty-two characters. -/
def snippet (s : Source) (m : Mark) : String :=
  let before := ((s.text.take m.index).reverse).takeWhile fun c => !isBreak c
  let after := (s.text.drop m.index).takeWhile fun c => !isBreak c
  let (headText, before) := if before.length ≥ 37 then (" ... ", before.take 32) else ("", before)
  let (tailText, after) := if after.length ≥ 37 then (" ... ", after.take 32) else ("", after)
  "    " ++ headText ++ String.ofList before.reverse ++ String.ofList after ++ tailText ++ "\n" ++
    String.ofList (List.replicate (4 + before.length + headText.length) ' ') ++ "^"

/-- A place as messages show it. -/
def place (s : Source) (m : Mark) : String :=
  "  in \"" ++ s.name ++ "\", line " ++ toString (m.line + 1) ++ ", column " ++
    toString (m.column + 1) ++ ":\n" ++ s.snippet m

end Source

/-- A natural in hexadecimal with at least four digits. -/
private def hex4 (n : Nat) : String :=
  let ds := Nat.toDigits 16 n
  String.ofList (List.replicate (4 - ds.length) '0' ++ ds)

/-- What the error is and where. -/
def Error.message : Error → String
  | .unreadable source position code reason =>
    "unacceptable character #x" ++ hex4 code ++ ": " ++ reason ++ "\n  in \"" ++ source ++
      "\", position " ++ toString position
  | .marked _ source t =>
    -- The two places are shown as one if they are the same.
    let began := match t.contextMark with
      | some m =>
        if m.line = t.mark.line ∧ m.column = t.mark.column then [] else [source.place m]
      | none => []
    String.intercalate "\n" (t.context.toList ++ began ++ [t.problem, source.place t.mark])
  | .shape problem => problem

namespace Source

/-! ### Reading texts -/

/-- The first character that no source may hold, with its position. -/
def firstInadmissible : Nat → List Char → Option (Nat × Char)
  | _, [] => none
  | i, c :: rest => if isAdmissible c then firstInadmissible (i + 1) rest else some (i, c)

/-- The source of a name and text, if all its characters are admissible. -/
def check (name : String) (text : List Char) : Except Error Source :=
  match firstInadmissible 0 text with
  | some (i, c) => .error (.unreadable name i c.toNat "special characters are not allowed")
  | none => .ok ⟨name, text⟩

/-- The source of a text. -/
def ofText (s : String) : Except Error Source := check "<unicode string>" s.toList

/-- The source of bytes. -/
def ofBytes (bytes : List UInt8) : Except Error Source :=
  let name := "<byte string>"
  let decoded := match bytes with
    | 0xFF :: 0xFE :: _ => Utf16.decode .little bytes
    | 0xFE :: 0xFF :: _ => Utf16.decode .big bytes
    | _ => Utf8.decode bytes
  match decoded with
  | .ok text => check name text
  | .error f => .error (.unreadable name f.start f.byte.toNat f.reason)

end Source

end Playbook.Yaml
