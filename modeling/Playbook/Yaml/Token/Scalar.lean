import Playbook.Yaml.Token.Name

/-!
# Scalars

Reading of scalars in their five styles. Lines are folded: a line end between two words becomes a
space, and further ones are kept. In a block scalar the indentation of its first line is dropped
from every line, and its last line ends are kept, dropped or reduced to one.

Main definitions: `Yaml.readQuoted`, `Yaml.readBlock`, `Yaml.readPlain`.
-/

namespace Playbook.Yaml

/-! ### Quoted scalars -/

/-- The character an escape of one letter stands for. -/
def simpleEscape? : Char → Option Char
  | '0' => some '\x00'
  | 'a' => some '\x07'
  | 'b' => some '\x08'
  | 't' => some '\t'
  | '\t' => some '\t'
  | 'n' => some '\n'
  | 'v' => some '\x0b'
  | 'f' => some '\x0c'
  | 'r' => some '\r'
  | 'e' => some '\x1b'
  | ' ' => some ' '
  | '"' => some '"'
  | '\\' => some '\\'
  | '/' => some '/'
  | 'N' => some '\u0085'
  | '_' => some '\u00a0'
  | 'L' => some '\u2028'
  | 'P' => some '\u2029'
  | _ => none

/-- How many digits an escape by number has. -/
def escapeWidth? : Char → Option Nat
  | 'x' => some 2
  | 'u' => some 4
  | 'U' => some 8
  | _ => none

/-- The first of the next characters that is no hexadecimal digit. -/
def firstNonHex? (c : Cursor) (count : Nat) : Option Char :=
  ((List.range count).map fun k => c.peek k).find? fun ch => !isHexDigit ch

/-- The failure of naming a character beyond the last one. -/
def noCharacter (code : Nat) : Failure :=
  if code < Nat.pow 2 31 then .value "chr() arg not in range(0x110000)"
  else .overflow "Python int too large to convert to C int"

/-- Read line ends with the blanks between them. A document may not begin or end here. -/
def readQuotedBreaks (began : Mark) : Nat → Cursor → Except Trouble (List Char × Cursor)
  | 0, c => .ok ([], c)
  | fuel + 1, c =>
    if c.atAnySeparator then
      .error (.within "while scanning a quoted scalar" began "found unexpected document separator"
        c.mark)
    else
      let c := c.skipWhile fun ch => ch == ' ' || ch == '\t'
      if isBreak c.peek then do
        let (b, c) := c.lineBreak
        let (rest, c) ← readQuotedBreaks began fuel c
        .ok (b ++ rest, c)
      else .ok ([], c)

/-- Read blanks and line ends between two words. -/
def readQuotedSpaces (began : Mark) (c : Cursor) : Except Trouble (List Char × Cursor) :=
  let blanks := c.upTo fun ch => ch == ' ' || ch == '\t'
  let after := c.advance blanks.length
  if after.peek = ending then
    .error (.within "while scanning a quoted scalar" began "found unexpected end of stream"
      after.mark)
  else if isBreak after.peek then do
    let (b, after) := after.lineBreak
    let (breaks, after) ← readQuotedBreaks began (after.rest.length + 1) after
    if b ≠ ['\n'] then .ok (b ++ breaks, after)
    else if breaks.isEmpty then .ok ([' '], after)
    else .ok (breaks, after)
  else .ok (blanks, after)

/-- Read the escape after a backslash. -/
def readEscape (began : Mark) (c : Cursor) : Except ScalarFault (List Char × Cursor) :=
  let ch := c.peek
  match simpleEscape? ch, escapeWidth? ch with
  | some e, _ => .ok ([e], c.next)
  | none, some width =>
    let c := c.next
    match firstNonHex? c width with
    | some bad =>
      .error (.trouble (.within "while scanning a double-quoted scalar" began
        ("expected escape sequence of " ++ toString width ++ " hexadecimal numbers, but found " ++
          shown bad) c.mark))
    | none =>
      let code := (c.rest.take width).foldl (fun n d => n * 16 + hexValue d) 0
      if 0x110000 ≤ code then .error (.failure (noCharacter code))
      else
        .ok ([CodePoint.toChar code], c.advance width)
  | none, none =>
    if isBreak ch then
      let c := c.lineBreak.2
      match readQuotedBreaks began (c.rest.length + 1) c with
      | .ok r => .ok r
      | .error t => .error (.trouble t)
    else
      .error (.trouble (.within "while scanning a double-quoted scalar" began
        ("found unknown escape character " ++ shown ch) c.mark))

/-- Whether a character stands for itself inside quotes of either kind. -/
def isQuotedPlain (c : Char) : Bool :=
  !(c == '\'' || c == '"' || c == '\\' || isBreakOrBlank c)

/-- Read up to the closing quote. -/
def readQuotedFrom (double : Bool) (began : Mark) :
    Nat → Cursor → Except ScalarFault (List Char × Cursor)
  | 0, c => .ok ([], c)
  | fuel + 1, c =>
    let ch := c.peek
    let quote := if double then '"' else '\''
    let run := c.upTo isQuotedPlain
    if ¬ run.isEmpty then do
      let (rest, c) ← readQuotedFrom double began fuel (c.advance run.length)
      .ok (run ++ rest, c)
    else if ¬ double ∧ ch = '\'' ∧ c.peek 1 = '\'' then do
      let (rest, c) ← readQuotedFrom double began fuel (c.advance 2)
      .ok ('\'' :: rest, c)
    else if ch = quote then .ok ([], c)
    else if (double ∧ ch = '\'') ∨ (¬ double ∧ (ch = '"' ∨ ch = '\\')) then do
      let (rest, c) ← readQuotedFrom double began fuel c.next
      .ok (ch :: rest, c)
    else if double ∧ ch = '\\' then do
      let (e, c) ← readEscape began c.next
      let (rest, c) ← readQuotedFrom double began fuel c
      .ok (e ++ rest, c)
    else
      match readQuotedSpaces began c with
      | .error t => .error (.trouble t)
      | .ok (spaces, c) => do
        let (rest, c) ← readQuotedFrom double began fuel c
        .ok (spaces ++ rest, c)

/-- Read a scalar between quotes. -/
def readQuoted (c : Cursor) : Except ScalarFault (Token × Cursor) := do
  let began := c.mark
  let double := c.peek == '"'
  let (text, c) ← readQuotedFrom double began (2 * c.rest.length + 2) c.next
  let c := c.next
  .ok (⟨.scalar (String.ofList text) (if double then .double else .single), began, c.mark⟩, c)

/-! ### Block scalars -/

/-- What becomes of the line ends at the end of a block scalar. -/
inductive Chomping where
  /-- One is kept. -/
  | clip
  /-- None is kept. -/
  | strip
  /-- All are kept. -/
  | keep
deriving DecidableEq, Repr

/-- Read the sign that says what becomes of the last line ends. -/
def readChomping (c : Cursor) : Option Chomping × Cursor :=
  if c.peek = '+' then (some .keep, c.next)
  else if c.peek = '-' then (some .strip, c.next)
  else (none, c)

/-- Read the digit that says how far the lines are indented. -/
def readIncrement (began : Mark) (c : Cursor) : Except Trouble (Option Nat × Cursor) :=
  if c.peek = '0' then
    .error (.within "while scanning a block scalar" began
      "expected indentation indicator in the range 1-9, but found 0" c.mark)
  else if c.peek.isDigit then .ok (some (c.peek.toNat - 48), c.next)
  else .ok (none, c)

/-- Read the sign and the digit after the indicator, in either order. -/
def readBlockHeader (began : Mark) (c : Cursor) :
    Except Trouble ((Chomping × Option Nat) × Cursor) := do
  let (first, c) := readChomping c
  let (increment, c) ← readIncrement began c
  let (chomping, c) := match first, increment with
    | none, some _ => readChomping c
    | _, _ => (first, c)
  if ¬ isBreakOrSpace c.peek then
    .error (.within "while scanning a block scalar" began
      ("expected chomping or indentation indicators, but found " ++ shown c.peek) c.mark)
  else .ok ((chomping.getD .clip, increment), c)

/-- Read the empty lines before the first line: the line ends, and the widest indentation seen. -/
def readFirstIndent : Nat → Nat → Cursor → (List Char × Nat) × Cursor
  | 0, widest, c => (([], widest), c)
  | fuel + 1, widest, c =>
    if c.peek = ' ' then
      let c := c.next
      readFirstIndent fuel (max widest c.column) c
    else if isBreak c.peek then
      let (b, c) := c.lineBreak
      let ((breaks, widest), c) := readFirstIndent fuel widest c
      ((b ++ breaks, widest), c)
    else (([], widest), c)

/-- Step over at most the spaces of an indentation. -/
def skipIndent (indent : Nat) (c : Cursor) : Cursor :=
  c.advance ((c.upTo (· == ' ')).length.min (indent - c.column))

/-- Read empty lines and the indentation of the next line. -/
def readBlockBreaks (indent : Nat) : Nat → Cursor → List Char × Cursor
  | 0, c => ([], c)
  | fuel + 1, c =>
    let c := skipIndent indent c
    if isBreak c.peek then
      let (b, c) := c.lineBreak
      let (rest, c) := readBlockBreaks indent fuel c
      (b ++ rest, c)
    else ([], c)

/-- Read the lines of a block scalar. The arguments are the line end that waits to be written and
the empty lines after it. -/
def readBlockLines (folded : Bool) (indent : Nat) (chomping : Chomping) :
    Nat → List Char → List Char → Cursor → List Char × Cursor
  | 0, _, _, c => ([], c)
  | fuel + 1, waiting, breaks, c =>
    if c.column = indent ∧ c.peek ≠ ending then
      let leads := !(c.peek == ' ' || c.peek == '\t')
      let line := c.upTo fun ch => !isBreak ch
      let c := c.advance line.length
      let (b, c) := c.lineBreak
      let (more, c) := readBlockBreaks indent (c.rest.length + 1) c
      -- A single line end between two lines that begin with no blank is folded to a space.
      let follows := decide (c.column = indent) && c.peek != ending
      let joined :=
        if folded && b == ['\n'] && leads && !(c.peek == ' ' || c.peek == '\t') then
          if more.isEmpty then [' '] else []
        else b
      let (rest, c) := readBlockLines folded indent chomping fuel b more c
      (breaks ++ line ++ (if follows then joined else []) ++ rest, c)
    else
      let tail := match chomping with
        | .clip => waiting
        | .strip => []
        | .keep => waiting ++ breaks
      (tail, c)

/-- Read a block scalar inside a block of the given indentation. -/
def readBlock (enclosing : Int) (c : Cursor) : Except Trouble (Token × Cursor) := do
  let began := c.mark
  let folded := c.peek == '>'
  let ((chomping, increment), c) ← readBlockHeader began c.next
  let ((), c) ← skipRestOfLine "while scanning a block scalar" began c
  let least := (max (enclosing + 1) 1).toNat
  let (indent, breaks, c) := match increment with
    | none =>
      let ((breaks, widest), c) := readFirstIndent (c.rest.length + 1) 0 c
      (max least widest, breaks, c)
    | some n =>
      let indent := least + n - 1
      let (breaks, c) := readBlockBreaks indent (c.rest.length + 1) c
      (indent, breaks, c)
  let (text, c) := readBlockLines folded indent chomping (c.rest.length + 1) [] breaks c
  .ok (⟨.scalar (String.ofList text) (if folded then .folded else .literal), began, c.mark⟩, c)

/-! ### Plain scalars -/

/-- The characters of a plain scalar up to the next blank, comment or indicator. -/
def plainRun (inFlow : Bool) : List Char → List Char
  | [] => []
  | ch :: rest =>
    let next := rest.headD ending
    let stops := isBreakOrBlank ch ||
      (ch == ':' && (isBreakOrBlank next || (inFlow && ",[]\x7b\x7d".toList.contains next))) ||
      (inFlow && ",?[]\x7b\x7d".toList.contains ch)
    if stops then [] else ch :: plainRun inFlow rest

/-- Read further line ends with the spaces between them; `none` where a document begins or
ends. -/
def readPlainBreaks : Nat → Cursor → Option (List Char) × Cursor
  | 0, c => (some [], c)
  | fuel + 1, c =>
    if c.peek = ' ' then readPlainBreaks fuel c.next
    else if isBreak c.peek then
      let (b, c) := c.lineBreak
      if c.atAnySeparator then (none, c)
      else
        let (rest, c) := readPlainBreaks fuel c
        (rest.map (b ++ ·), c)
    else (some [], c)

/-- Read the blanks after a word of a plain scalar: what they stand for, and whether a line ended.
Nothing is left of them where a document begins or ends. -/
def readPlainSpaces (c : Cursor) : (List Char × Bool) × Cursor :=
  let blanks := c.upTo (· == ' ')
  let c := c.advance blanks.length
  if isBreak c.peek then
    let (b, c) := c.lineBreak
    if c.atAnySeparator then (([], true), c)
    else
      match readPlainBreaks (c.rest.length + 1) c with
      | (none, c) => (([], true), c)
      | (some breaks, c) =>
        if b ≠ ['\n'] then ((b ++ breaks, true), c)
        else if breaks.isEmpty then (([' '], true), c)
        else ((breaks, true), c)
  else ((blanks, false), c)

/-- What reading a plain scalar gives: its text, where its last word ends, and whether a line
ended after it. -/
structure PlainText where
  /-- The text. -/
  text : List Char
  /-- Where the last word ends. -/
  stop : Mark
  /-- Whether a line ended after the last word. -/
  atLineStart : Bool

/-- Read the words of a plain scalar; `spaces` is what separates the next one. -/
def readPlainFrom (inFlow : Bool) (indent : Int) :
    Nat → List Char → PlainText → Cursor → PlainText × Cursor
  | 0, _, p, c => (p, c)
  | fuel + 1, spaces, p, c =>
    if c.peek = '#' then (p, c)
    else
      let run := plainRun inFlow c.rest
      if run.isEmpty then (p, c)
      else
        let c := c.advance run.length
        let stop := c.mark
        let ((blanks, lineEnded), c) := readPlainSpaces c
        let p : PlainText := ⟨p.text ++ spaces ++ run, stop, lineEnded⟩
        if blanks.isEmpty ∨ c.peek = '#' ∨ (¬ inFlow ∧ (c.column : Int) < indent) then (p, c)
        else readPlainFrom inFlow indent fuel blanks p c

/-- Read a plain scalar: also whether a line ended after it. -/
def readPlain (inFlow : Bool) (enclosing : Int) (c : Cursor) : (Token × Bool) × Cursor :=
  let began := c.mark
  let (p, c) := readPlainFrom inFlow (enclosing + 1) (c.rest.length + 1) [] ⟨[], began, false⟩ c
  ((⟨.scalar (String.ofList p.text) .plain, began, p.stop⟩, p.atLineStart), c)

end Playbook.Yaml
