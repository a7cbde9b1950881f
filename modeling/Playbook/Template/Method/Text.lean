import Playbook.Template.Arguments
import Playbook.Template.Braces
import Playbook.Template.Comparison
import Playbook.Text.Encoding
import Playbook.Text.Search

/-!
# Functions of texts

The functions that a template can call on a text: changes of case, searching, cutting, filling and
joining, and questions about the characters.

Main definitions: `Template.textMethod`.
-/

namespace Playbook.Template

/-! ### Arguments -/

/-- The text that an argument is. -/
def expectText (d : Datum) : Eval (List Char) := do
  match d with
  | .str s => return s.toList
  | d => Eval.typeFault ("must be str, not " ++ (← d.typeName))

/-- A bound of the part of a text that is searched. -/
def searchBound (d : Option Datum) : Eval (Option Int) := do
  match d with
  | none => return none
  | some d => d.bound?

/-- The part of a text that is searched, and its first place; nothing if it ends before it
starts. -/
def searched (s : List Char) (i : Inputs) : Eval (Option (List Char × Nat)) := do
  let start ← searchBound (i.at? 1)
  let stop ← searchBound (i.at? 2)
  let fromEnd (n : Int) : Nat := (if n < 0 then n + s.length else n).toNat
  let first := fromEnd (start.getD 0)
  let last := min (fromEnd (stop.getD s.length)) s.length
  return if last < first then none else some ((s.take last).drop first, first)

/-- A count of which a negative one means that there is no limit. -/
def limitOf (d : Option Datum) : Eval (Option Nat) := do
  match d with
  | none => return none
  | some d =>
    let n ← asSize d
    return if n < 0 then none else some n.toNat

/-- The character that fills a width. -/
def fillOf (d : Option Datum) : Eval Char := do
  match d with
  | none => return ' '
  | some (.str s) =>
    match s.toList with
    | [c] => return c
    | _ => Eval.typeFault "The fill character must be exactly one character long"
  | some d =>
    Eval.typeFault ("The fill character must be a unicode character, not " ++ (← d.typeName))

/-- A width as a natural. -/
def widthOf (d : Datum) : Eval Nat := do
  let n := (← asSize d).toNat
  if memoryBound < n then throw noMemory else return n

/-- A small integer. -/
def asSmall (d : Datum) : Eval Int := do
  let n ← asIndex d
  if -Int.pow 2 31 ≤ n ∧ n < Int.pow 2 31 then return n
  else throw (.overflow "Python int too large to convert to C int")

/-- The characters that are taken from the edges of a text. -/
def edgeOf (name : String) (i : Inputs) : Eval (Char → Bool) := do
  i.between "str" name 0 1
  match i.get 0 with
  | .null => return Unicode.isBlank
  | .str cs => return cs.toList.contains
  | _ => Eval.typeFault (name ++ " arg must be None or str")

/-- A list of texts. -/
def newTexts (parts : List (List Char)) : Eval Datum := Eval.newList (parts.map .chars)

/-! ### Joining -/

/-- The texts that are joined, the next of which is at a position. -/
def joinedTexts : Nat → List Datum → Eval (List (List Char))
  | _, [] => return []
  | n, .str s :: rest => do return s.toList :: (← joinedTexts (n + 1) rest)
  | n, d :: _ => do
    Eval.typeFault ("sequence item " ++ toString n ++ ": expected str instance, " ++
      (← d.typeName) ++ " found")

/-- Texts with a text between them. -/
def joinTexts (between : List Char) (d : Datum) : Eval Datum := do
  match ← Eval.attempt d.cursor with
  | .error _ => Eval.typeFault "can only join an iterable"
  | .ok c => return .chars (List.intercalate between (← joinedTexts 0 (← c.rest)))

/-! ### Searching -/

/-- The place of a text in another one. -/
def findText (last : Bool) (s : List Char) (i : Inputs) (name : String) : Eval (Option Int) := do
  i.given "str" name 1 3
  let part? ← searched s i
  let part ← expectText (i.get 0)
  match part? with
  | none => return none
  | some (within, offset) =>
    let place := if last then Text.findLast? part within else Text.find? part within
    return place.map fun n => (n + offset : Nat)

/-- Whether a text starts or ends with another one, or with one of several. -/
def edgeIs (atEnd : Bool) (s : List Char) (i : Inputs) (name : String) : Eval Datum := do
  i.given "str" name 1 3
  let part? ← searched s i
  let test (part : List Char) : Bool :=
    match part? with
    | none => false
    | some (within, _) => if atEnd then part.isSuffixOf within else part.isPrefixOf within
  match i.get 0 with
  | .str part => return .bool (test part.toList)
  | .tuple _ parts =>
    let ok ← parts.anyM fun d => do
      match d with
      | .str part => return test part.toList
      | d =>
        Eval.typeFault ("tuple for " ++ name ++ " must only contain str, not " ++ (← d.typeName))
    return .bool ok
  | d =>
    Eval.typeFault (name ++ " first arg must be str or a tuple of str, not " ++ (← d.typeName))

/-! ### Cutting -/

/-- The parts of a text. -/
def splitText (fromRight : Bool) (s : List Char) (i : Inputs) (name : String) : Eval Datum := do
  let values ← i.optional name ["sep", "maxsplit"]
  let limit ← limitOf (values.getD 1 none)
  match (values.getD 0 none).getD .null with
  | .null => newTexts (if fromRight then Text.wordsRight limit s else Text.words limit s)
  | .str sep =>
    if sep.isEmpty then Eval.valueFault "empty separator"
    newTexts (if fromRight then Text.splitRight sep.toList limit s
      else Text.split sep.toList limit s)
  | d => Eval.typeFault ("must be str or None, not " ++ (← d.typeName))

/-- What stands before a separator, the separator, and what stands after it. -/
def partitionText (fromRight : Bool) (s : List Char) (d : Datum) : Eval Datum := do
  let sep ← expectText d
  if sep.isEmpty then Eval.valueFault "empty separator"
  let place := if fromRight then Text.findLast? sep s else Text.find? sep s
  match place with
  | some n => Eval.newTuple [.chars (s.take n), .chars sep, .chars (s.drop (n + sep.length))]
  | none =>
    Eval.newTuple (if fromRight then [.str "", .str "", .chars s]
      else [.chars s, .str "", .str ""])

/-! ### Characters -/

/-- Whether a text has characters, all of a kind. -/
def allAre (p : Char → Bool) (s : List Char) : Bool := !s.isEmpty && s.all p

/-- Whether capital letters stand at the starts of words and nowhere else. -/
def isTitleText (s : List Char) : Bool :=
  let step (state : Bool × Bool × Bool) (c : Char) : Bool × Bool × Bool :=
    let (ok, inWord, seen) := state
    if Unicode.isUpper c || Unicode.isTitle c then (ok && !inWord, true, true)
    else if Unicode.isLower c then (ok && inWord, true, true)
    else (ok, false, seen)
  let (ok, _, seen) := s.foldl step (true, false, false)
  ok && seen

/-- A text in which differences of case are gone: its capitals in small letters. Some letters keep
their form: those whose capitals are their form without case, and the one without a dot. -/
def foldCase (s : List Char) : List Char :=
  s.flatMap fun c =>
    let n := c.toNat
    if c = 'ı' ∨ (0x13A0 ≤ n ∧ n < 0x13F6) then [c]
    else if (0xAB70 ≤ n ∧ n < 0xABC0) ∨ (0x13F8 ≤ n ∧ n < 0x13FE) then Text.upper [c]
    else Text.lower (Text.upper (Text.lower [c]))

/-- The answer to a question about the characters of a text. -/
def question? : String → Option (List Char → Bool)
  | "isalnum" => some (allAre Unicode.isAlphanumeric)
  | "isalpha" => some (allAre Unicode.isLetter)
  | "isascii" => some (·.all Unicode.isAscii)
  | "isdecimal" => some (allAre Unicode.isDecimal)
  | "isdigit" => some (allAre Unicode.isDigit)
  | "isidentifier" => some Unicode.isIdentifier
  | "islower" => some Text.isLowerText
  | "isnumeric" => some (allAre Unicode.isNumeral)
  | "isprintable" => some (·.all Unicode.isPrintable)
  | "isspace" => some (allAre Unicode.isBlank)
  | "istitle" => some isTitleText
  | "isupper" => some Text.isUpperText
  | _ => none

/-- A change of a whole text that takes no arguments. -/
def change? : String → Option (List Char → List Char)
  | "capitalize" => some Text.capitalize
  | "casefold" => some foldCase
  | "lower" => some Text.lower
  | "swapcase" => some Text.swapCase
  | "title" => some Text.title
  | "upper" => some Text.upper
  | _ => none

/-- The failure of naming an encoding that nobody knows. -/
def unknownEncoding (name : String) : Failure := ⟨.lookup, "unknown encoding: " ++ name⟩

/-- The encoding and the treatment of faults that arguments ask for. -/
def encodingOf (method : String) (i : Inputs) : Eval (Encoding × String) := do
  let values ← i.optional method ["encoding", "errors"]
  let name ← expectName "encoding" ((values.getD 0 none).getD (.str "utf-8"))
  let errors ← expectName "errors" ((values.getD 1 none).getD (.str "strict"))
  match Encoding.ofName? name with
  | some e => return (e, errors)
  | none => throw (unknownEncoding name)
where
  /-- An argument that is a text. -/
  expectName (parameter : String) (d : Datum) : Eval String := do
    match d with
    | .str s => return s
    | d =>
      Eval.typeFault (method ++ "() argument '" ++ parameter ++ "' must be str, not " ++
        (← d.typeName))

/-- A text in bytes of an encoding. -/
def encodeText (s : List Char) (i : Inputs) : Eval Datum := do
  let (e, errors) ← encodingOf "encode" i
  return .bytes (← Eval.ofExcept (e.encode errors s))

/-- The text of bytes in an encoding. -/
def decodeBytes (b : List UInt8) (i : Inputs) : Eval Datum := do
  let (e, errors) ← encodingOf "decode" i
  return .chars (← Eval.ofExcept (e.decode errors b))

/-! ### Characters by a table -/

/-- What a character becomes by a table of characters, or of their numbers. -/
def translateChar (table : Datum) (c : Char) : Eval (List Char) := do
  match ← Eval.attempt (table.subscript (.int (CodePoint.ofChar c))) with
  | .error f => if f.kind = .key ∨ f.kind = .index then return [c] else throw f
  | .ok .null => return []
  | .ok (.str t) => return t.toList
  | .ok d =>
    match d.int? with
    | some n =>
      if 0 ≤ n ∧ n < 0x110000 then return [CodePoint.toChar n.toNat]
      else Eval.valueFault "character mapping must be in range(0x110000)"
    | none => Eval.typeFault "character mapping must return integer, None or str"

/-- A key of a table of characters: a number, or a character by its number. -/
def tableKey (d : Datum) : Eval Datum := do
  match d with
  | .str s =>
    match s.toList with
    | [c] => return .int (CodePoint.ofChar c)
    | _ => Eval.valueFault "string keys in translate table must be of length 1"
  | d =>
    if d.int?.isSome then return d
    else Eval.typeFault "keys in translate table must be strings or integers"

/-- A table of characters: of a mapping, or of two texts of one length and a third one whose
characters are left out. -/
def newTable (i : Inputs) : Eval Datum := do
  i.between "str" "maketrans" 1 3
  let number (c : Char) : Datum := .int (CodePoint.ofChar c)
  match i.plain with
  | [d] =>
    let wrong : Eval Datum :=
      Eval.typeFault "if you give only one argument to maketrans it must be a dict"
    match d with
    | .cell r =>
      match ← Eval.cell r with
      | .map given =>
        let t ← given.entries.foldlM (fun (t : Table) (k, e) => do
          return t.insert (← tableKey k) e) .empty
        Eval.newMap t
      | _ => wrong
    | _ => wrong
  | first :: second :: rest => do
    let text (n : Nat) (d : Datum) : Eval (List Char) := do
      match d with
      | .str s => return s.toList
      | d =>
        if n = 1 then
          Eval.typeFault "first maketrans argument must be a string if there is a second argument"
        else
          Eval.typeFault ("maketrans() argument " ++ toString n ++ " must be str, not " ++
            (← d.typeName))
    let target ← text 2 second
    let out ← match rest with
      | [] => pure []
      | d :: _ => text 3 d
    let source ← text 1 first
    if source.length ≠ target.length then
      Eval.valueFault "the first two maketrans arguments must have equal length"
    let pairs := source.zipWith (fun a b => (number a, number b)) target
    Eval.newMap (.ofEntries (pairs ++ out.map fun c => (number c, .null)))
  | [] => return .null

/-- A function of a text. -/
def textMethod (text name : String) (i : Inputs) : Eval Datum := do
  let s := text.toList
  match change? name, question? name with
  | some f, _ =>
    i.none "str" name
    return .chars (f s)
  | none, some p =>
    i.none "str" name
    return .bool (p s)
  | none, none =>
    match name with
    | "center" | "ljust" | "rjust" =>
      i.between "str" name 1 2
      let width ← widthOf (i.get 0)
      let fill ← fillOf (i.at? 1)
      return .chars (match name with
        | "center" => Text.center width fill s
        | "ljust" => Text.padRight width fill s
        | _ => Text.padLeft width fill s)
    | "count" =>
      i.given "str" name 1 3
      let part? ← searched s i
      let part ← expectText (i.get 0)
      return .int ((part?.map fun (within, _) => Text.occurrences part within).getD 0)
    | "encode" => encodeText s i
    | "endswith" => edgeIs true s i name
    | "startswith" => edgeIs false s i name
    | "expandtabs" =>
      let values ← i.optional name ["tabsize"]
      let size ← asSmall ((values.getD 0 none).getD (.int 8))
      return .chars (Text.expandTabs size.toNat 0 s)
    | "find" => return .int ((← findText false s i name).getD (-1))
    | "rfind" => return .int ((← findText true s i name).getD (-1))
    | "index" | "rindex" =>
      match ← findText (name == "rindex") s i name with
      | some n => return .int n
      | none => Eval.valueFault "substring not found"
    | "format" => return .str (← formatBraces text (some i.plain) (namedOperand i.named))
    | "format_map" =>
      let d ← i.one "str.format_map"
      return .str (← formatBraces text none fun name => d.subscript (.str name))
    | "maketrans" => newTable i
    | "join" => joinTexts s (← i.one "str.join")
    | "lstrip" => return .chars (Text.trimLeft (← edgeOf name i) s)
    | "rstrip" => return .chars (Text.trimRight (← edgeOf name i) s)
    | "strip" => return .chars (Text.trim (← edgeOf name i) s)
    | "partition" => partitionText false s (← i.one "str.partition")
    | "rpartition" => partitionText true s (← i.one "str.rpartition")
    | "removeprefix" | "removesuffix" =>
      match ← i.one ("str." ++ name) with
      | .str part =>
        let part := part.toList
        if name = "removeprefix" then
          return .chars (if part.isPrefixOf s then s.drop part.length else s)
        else
          return .chars (if part.isSuffixOf s then s.take (s.length - part.length) else s)
      | d =>
        Eval.typeFault (name ++ "() argument must be str, not " ++ (← d.typeName))
    | "replace" =>
      i.between "str" name 2 3
      let part (n : Nat) : Eval (List Char) := do
        match i.get n with
        | .str t => return t.toList
        | d =>
          Eval.typeFault ("replace() argument " ++ toString (n + 1) ++ " must be str, not " ++
            (← d.typeName))
      let old ← part 0
      let new ← part 1
      return .chars (Text.replace old new (← limitOf (i.at? 2)) s)
    | "split" => splitText false s i name
    | "rsplit" => splitText true s i name
    | "splitlines" =>
      let values ← i.optional name ["keepends"]
      let keep ← asSmall ((values.getD 0 none).getD (.bool false))
      newTexts (Text.lines (keep ≠ 0) s)
    | "zfill" =>
      return .chars (Text.zeroFill (← widthOf (← i.one "str.zfill")) s)
    | "translate" =>
      let table ← i.one "str.translate"
      return .chars (← s.mapM (translateChar table)).flatten
    | _ => (Datum.str text).refuseField name

end Playbook.Template
