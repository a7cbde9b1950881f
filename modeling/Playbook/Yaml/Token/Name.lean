import Playbook.Decimal.Numeral
import Playbook.Yaml.Cursor
import Playbook.Yaml.Token

/-!
# Directives, anchors and tags

Reading of the words that begin with an indicator: directives, the names of nodes and references
to them, and tags with the escapes they are written with.

Main definitions: `Yaml.ScalarFault`, `Yaml.readDirective`, `Yaml.readAnchor`, `Yaml.readTag`.
-/

namespace Playbook.Yaml

/-- Why reading stopped. -/
inductive ScalarFault where
  /-- A problem in the source. -/
  | trouble (t : Trouble)
  /-- A failed conversion of a number. -/
  | failure (f : Failure)
deriving Repr

/-- Problems of readers that know no other fault. -/
def lift {α : Type} : Except Trouble α → Except ScalarFault α
  | .ok a => .ok a
  | .error t => .error (.trouble t)

/-! ### Tags -/

/-- Whether a character may stand in a tag as it is. -/
def isUriChar (c : Char) : Bool :=
  c.isAlphanum || "-;/?:@&=+$,_.!~*'()[]%".toList.contains c

/-- Read the two digits of an escape. -/
def readEscapeDigits (name : String) (began : Mark) (c : Cursor) : Except Trouble (Nat × Cursor) :=
  if ¬ isHexDigit (c.peek 0) then
    .error (.within ("while scanning a " ++ name) began
      ("expected URI escape sequence of 2 hexadecimal numbers, but found " ++ shown (c.peek 0))
      c.mark)
  else if ¬ isHexDigit (c.peek 1) then
    .error (.within ("while scanning a " ++ name) began
      ("expected URI escape sequence of 2 hexadecimal numbers, but found " ++ shown (c.peek 1))
      c.mark)
  else .ok (hexValue (c.peek 0) * 16 + hexValue (c.peek 1), c.advance 2)

/-- Read a run of escapes as bytes. -/
def readEscapes (name : String) (began : Mark) : Nat → Cursor → Except Trouble (List UInt8 × Cursor)
  | 0, c => .ok ([], c)
  | fuel + 1, c =>
    if c.peek = '%' then do
      let (b, c) ← readEscapeDigits name began c.next
      let (rest, c) ← readEscapes name began fuel c
      .ok (UInt8.ofNat b :: rest, c)
    else .ok ([], c)

/-- Read the characters of a tag, with escapes resolved. -/
def readUriFrom (name : String) (began : Mark) : Nat → Cursor → Except Trouble (List Char × Cursor)
  | 0, c => .ok ([], c)
  | fuel + 1, c =>
    if c.peek = '%' then
      match readEscapes name began c.rest.length c with
      | .error e => .error e
      | .ok (bytes, after) =>
        match Utf8.decode bytes with
        | .error f =>
          .error (.within ("while scanning a " ++ name) began (Failure.ofDecodingFault f).message
            c.mark)
        | .ok text => do
          let (rest, c) ← readUriFrom name began fuel after
          .ok (text ++ rest, c)
    else
      let run := c.upTo fun ch => isUriChar ch && ch != '%'
      if run.isEmpty then .ok ([], c)
      else do
        let (rest, c) ← readUriFrom name began fuel (c.advance run.length)
        .ok (run ++ rest, c)

/-- Read the characters of a tag, of which there must be one at least. -/
def readUri (name : String) (began : Mark) (c : Cursor) : Except Trouble (String × Cursor) := do
  let (text, after) ← readUriFrom name began (c.rest.length + 1) c
  if after.mark.index = c.mark.index then
    .error (.within ("while parsing a " ++ name) began
      ("expected URI, but found " ++ shown (c.peek)) c.mark)
  else .ok (String.ofList text, after)

/-- Read a handle: an exclamation mark, or a name between two. -/
def readHandle (name : String) (began : Mark) (c : Cursor) : Except Trouble (String × Cursor) :=
  if c.peek ≠ '!' then
    .error (.within ("while scanning a " ++ name) began
      ("expected '!', but found " ++ shown c.peek) c.mark)
  else if c.peek 1 = ' ' then .ok ("!", c.next)
  else
    let word := c.next.upTo isNameChar
    let after := c.next.advance word.length
    if after.peek ≠ '!' then
      .error (.within ("while scanning a " ++ name) began
        ("expected '!', but found " ++ shown after.peek) after.mark)
    else .ok (String.ofList ('!' :: word ++ ['!']), after.next)

/-- Whether an exclamation mark follows before the next space or line end. -/
def hasSecondMark (c : Cursor) : Bool :=
  (c.next.upTo fun ch => !(ch == ' ' || isBreakOrEnd ch)).contains '!'

/-- Read a tag: `<uri>`, a lone mark, a handle with a suffix, or a suffix. -/
def readTag (c : Cursor) : Except Trouble (Token × Cursor) := do
  let began := c.mark
  let second := c.peek 1
  let ((handle, suffix), after) ←
    if second = '<' then do
      let (uri, c) ← readUri "tag" began (c.advance 2)
      if c.peek ≠ '>' then
        .error (.within "while parsing a tag" began ("expected '>', but found " ++ shown c.peek)
          c.mark)
      else .ok ((none, uri), c.next)
    else if isBreakOrBlank second then .ok ((none, "!"), c.next)
    else if hasSecondMark c then do
      let (handle, c) ← readHandle "tag" began c
      let (uri, c) ← readUri "tag" began c
      .ok ((some handle, uri), c)
    else do
      let (uri, c) ← readUri "tag" began c.next
      .ok ((some "!", uri), c)
  if ¬ isBreakOrSpace after.peek then
    .error (.within "while scanning a tag" began ("expected ' ', but found " ++ shown after.peek)
      after.mark)
  else .ok (⟨.tag handle suffix, began, after.mark⟩, after)

/-! ### Anchors -/

/-- Whether a character may follow the name of a node. -/
def mayFollowName (c : Char) : Bool := isBreakOrBlank c || "?:,]\x7d%@\x60".toList.contains c

/-- Read a reference or the name of a node. -/
def readAnchor (c : Cursor) : Except Trouble (Token × Cursor) :=
  let began := c.mark
  let isAlias := c.peek == '*'
  let context := "while scanning an " ++ (if isAlias then "alias" else "anchor")
  let name := c.next.upTo isNameChar
  let after := c.next.advance name.length
  if name.isEmpty ∨ ¬ mayFollowName after.peek then
    .error (.within context began
      ("expected alphabetic or numeric character, but found " ++ shown after.peek) after.mark)
  else
    let text := String.ofList name
    .ok (⟨if isAlias then .alias text else .anchor text, began, after.mark⟩, after)

/-! ### Directives -/

/-- A problem in a directive. -/
private def inDirective {α : Type} (began : Mark) (expected : String) (c : Cursor) :
    Except Trouble (α × Cursor) :=
  .error (.within "while scanning a directive" began
    ("expected " ++ expected ++ ", but found " ++ shown c.peek) c.mark)

/-- Read a decimal number, which must not have too many digits. -/
def readNumber (began : Mark) (c : Cursor) : Except ScalarFault (Nat × Cursor) :=
  let ds := c.upTo Char.isDigit
  if ds.isEmpty then lift (inDirective began "a digit" c)
  else
    match Numeral.int 10 (String.ofList ds) with
    | .ok n => .ok (n.toNat, c.advance ds.length)
    | .error f => .error (.failure f)

/-- Read the version of the language. -/
def readVersion (began : Mark) (c : Cursor) : Except ScalarFault (Directive × Cursor) := do
  let (major, c) ← readNumber began c.skipSpaces
  if c.peek ≠ '.' then lift (inDirective began "a digit or '.'" c)
  else
    let (minor, c) ← readNumber began c.next
    if ¬ isBreakOrSpace c.peek then lift (inDirective began "a digit or ' '" c)
    else .ok (.version major minor, c)

/-- Read a handle and what it stands for. -/
def readTagHandle (began : Mark) (c : Cursor) : Except Trouble (Directive × Cursor) := do
  let (handle, c) ← readHandle "directive" began c.skipSpaces
  if c.peek ≠ ' ' then inDirective began "' '" c
  else
    let (stem, c) ← readUri "directive" began c.skipSpaces
    if ¬ isBreakOrSpace c.peek then inDirective began "' '" c
    else .ok (.tagHandle handle stem, c)

/-- Step over the rest of a line, which may hold a comment. -/
def skipRestOfLine (context : String) (began : Mark) (c : Cursor) :
    Except Trouble (Unit × Cursor) :=
  let c := c.skipSpaces.skipComment
  if ¬ isBreakOrEnd c.peek then
    .error (.within context began
      ("expected a comment or a line break, but found " ++ shown c.peek) c.mark)
  else .ok ((), c.lineBreak.2)

/-- Read a directive with the rest of its line. -/
def readDirective (c : Cursor) : Except ScalarFault (Token × Cursor) := do
  let began := c.mark
  let name := c.next.upTo isNameChar
  let after := c.next.advance name.length
  if name.isEmpty ∨ ¬ isBreakOrSpace after.peek then
    lift (inDirective began "alphabetic or numeric character" after)
  else
    let (d, c) ←
      if name = "YAML".toList then readVersion began after
      else if name = "TAG".toList then lift (readTagHandle began after)
      else .ok (.reserved, after)
    let stop := c.mark
    let c := if d = .reserved then c.skipWhile fun ch => !isBreak ch else c
    let ((), c) ← lift (skipRestOfLine "while scanning a directive" began c)
    .ok (⟨.directive d, began, stop⟩, c)

end Playbook.Yaml
