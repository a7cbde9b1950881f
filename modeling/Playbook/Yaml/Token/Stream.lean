import Playbook.Yaml.Token.Scalar

/-!
# Token streams

The tokens of a source in order. Where a value shows that a scalar or collection before it is a
key, the key token goes in front of that; so a token is released only once nothing can be put in
front of it any more. A fault ends the stream: the tokens released before it stand.

Main definitions:

- `Yaml.Lexer`: the state of reading: position, tokens not yet released, indentations, and the
  places where a key may have begun;
- `Yaml.Lexer.fetch`: read on to the next token;
- `Yaml.Tokens`, `Yaml.tokens`: the tokens of a source up to its end or a fault.
-/

namespace Playbook.Yaml

/-- A place where a key may have begun. -/
structure PossibleKey where
  /-- The number of the token that would be the key. -/
  token : Nat
  /-- Whether a key must begin there, because its line starts a block's entry. -/
  required : Bool
  /-- The place. -/
  mark : Mark
deriving Repr

/-- The state of reading tokens. -/
structure Lexer where
  /-- The reading position. -/
  cursor : Cursor
  /-- Tokens not yet released. -/
  waiting : List Token
  /-- How many tokens have been released. -/
  released : Nat
  /-- How many brackets and braces are open. -/
  flowLevel : Nat
  /-- The indentation of the current block; minus one outside of blocks. -/
  indent : Int
  /-- The indentations of the enclosing blocks, innermost first. -/
  indents : List Int
  /-- Whether a key may begin at the position. -/
  keyAllowed : Bool
  /-- The places where a key may have begun, by the count of open brackets. -/
  keys : List (Nat × PossibleKey)
  /-- Whether the source has ended. -/
  done : Bool

namespace Lexer

/-- The start of a source. -/
def ofSource (s : Source) : Lexer where
  cursor := Cursor.ofSource s
  waiting := [⟨.streamStart, Mark.start, Mark.start⟩]
  released := 0
  flowLevel := 0
  indent := -1
  indents := []
  keyAllowed := true
  keys := []
  done := false

/-- The place of the position. -/
def mark (l : Lexer) : Mark := l.cursor.mark

/-- Whether the position lies outside of all brackets. -/
def inBlock (l : Lexer) : Bool := l.flowLevel == 0

/-- Put a token at the end of the queue. -/
def push (l : Lexer) (t : Token) : Lexer := { l with waiting := l.waiting ++ [t] }

/-- Put a token into the queue in front of the token of a number. -/
def insertAt (l : Lexer) (number : Nat) (t : Token) : Lexer :=
  { l with waiting := l.waiting.insertIdx (number - l.released) t }

/-! ### Places where a key may have begun -/

/-- A key that had to begin at a place did not. -/
def noValue (k : PossibleKey) (at_ : Mark) : Trouble :=
  .within "while scanning a simple key" k.mark "could not find expected ':'" at_

/-- Forget the places on other lines and those too far back. -/
def dropStaleKeys (l : Lexer) : Except Trouble Lexer := do
  let isStale (k : PossibleKey) : Bool :=
    k.mark.line != l.mark.line || l.mark.index - k.mark.index > 1024
  match l.keys.find? fun (_, k) => isStale k && k.required with
  | some (_, k) => .error (noValue k l.mark)
  | none => .ok { l with keys := l.keys.filter fun (_, k) => !isStale k }

/-- Forget the place at the current count of brackets. -/
def dropKey (l : Lexer) : Except Trouble Lexer :=
  match l.keys.find? fun (level, _) => level == l.flowLevel with
  | some (_, k) =>
    if k.required then .error (noValue k l.mark)
    else .ok { l with keys := l.keys.filter fun (level, _) => level != l.flowLevel }
  | none => .ok l

/-- Remember that a key may begin at the position. -/
def saveKey (l : Lexer) : Except Trouble Lexer := do
  if l.keyAllowed then
    let required := l.inBlock && decide (l.indent = l.cursor.column)
    let k : PossibleKey := ⟨l.released + l.waiting.length, required, l.mark⟩
    let level := l.flowLevel
    let l ← l.dropKey
    return { l with keys := l.keys ++ [(level, k)] }
  else return l

/-! ### Indentation -/

/-- End the blocks that are indented further than a column. -/
def unwindFrom (column : Int) (mark : Mark) :
    List Int → Int → List Token → List Int × Int × List Token
  | [], indent, ended => ([], indent, ended)
  | outer :: rest, indent, ended =>
    if indent > column then unwindFrom column mark rest outer (⟨.blockEnd, mark, mark⟩ :: ended)
    else (outer :: rest, indent, ended)

/-- End the blocks that are indented further than a column. Inside brackets nothing ends. -/
def unwind (l : Lexer) (column : Int) : Lexer :=
  if l.inBlock then
    let (indents, indent, ended) := unwindFrom column l.mark l.indents l.indent []
    { l with indents, indent, waiting := l.waiting ++ ended }
  else l

/-- Start a block at a column that is indented further than the current one. -/
def startBlock (l : Lexer) (column : Nat) : Option Lexer :=
  if l.indent < column then some { l with indents := l.indent :: l.indents, indent := column }
  else none

/-- Start a block at the position with a token of a kind, unless one starts there already. -/
def startBlockHere (l : Lexer) (kind : TokenKind) : Lexer :=
  match l.startBlock l.cursor.column with
  | some l => l.push ⟨kind, l.mark, l.mark⟩
  | none => l

/-! ### Tokens -/

/-- Read an indicator of a number of characters. -/
def indicator (l : Lexer) (kind : TokenKind) (width : Nat := 1) : Lexer :=
  let after := l.cursor.advance width
  { l.push ⟨kind, l.mark, after.mark⟩ with cursor := after }

/-- Step over spaces, comments and line ends to the next token. After a line end outside of
brackets a key may begin. -/
def skipToToken : Nat → Lexer → Lexer
  | 0, l => l
  | fuel + 1, l =>
    let c := l.cursor.skipSpaces.skipComment
    if isBreak c.peek then
      skipToToken fuel
        { l with cursor := c.lineBreak.2, keyAllowed := l.keyAllowed || l.inBlock }
    else { l with cursor := c }

/-- The end of the source. -/
def fetchEnd (l : Lexer) : Except Trouble Lexer := do
  let l ← (l.unwind (-1)).dropKey
  return { l.push ⟨.streamEnd, l.mark, l.mark⟩ with keyAllowed := false, keys := [], done := true }

/-- A directive. -/
def fetchDirective (l : Lexer) : Except ScalarFault Lexer := do
  let l ← lift (l.unwind (-1)).dropKey
  let (t, c) ← readDirective l.cursor
  return { l.push t with keyAllowed := false, cursor := c }

/-- The start or the end of a document. -/
def fetchSeparator (l : Lexer) (kind : TokenKind) : Except Trouble Lexer := do
  let l ← (l.unwind (-1)).dropKey
  return { l.indicator kind 3 with keyAllowed := false }

/-- An opening bracket or brace, which may begin a key. -/
def fetchOpening (l : Lexer) (kind : TokenKind) : Except Trouble Lexer := do
  let l ← l.saveKey
  return { l.indicator kind with flowLevel := l.flowLevel + 1, keyAllowed := true }

/-- A closing bracket or brace. -/
def fetchClosing (l : Lexer) (kind : TokenKind) : Except Trouble Lexer := do
  let l ← l.dropKey
  return { l.indicator kind with flowLevel := l.flowLevel - 1, keyAllowed := false }

/-- A comma. -/
def fetchComma (l : Lexer) : Except Trouble Lexer := do
  let l ← l.dropKey
  return { l.indicator .flowEntry with keyAllowed := true }

/-- The hyphen of a block's item. -/
def fetchEntry (l : Lexer) : Except Trouble Lexer := do
  if l.inBlock && !l.keyAllowed then
    .error (.plain "sequence entries are not allowed here" l.mark)
  else
    let l := if l.inBlock then l.startBlockHere .blockSequenceStart else l
    let l ← l.dropKey
    return { l.indicator .blockEntry with keyAllowed := true }

/-- The question mark of a key. -/
def fetchKey (l : Lexer) : Except Trouble Lexer := do
  if l.inBlock && !l.keyAllowed then
    .error (.plain "mapping keys are not allowed here" l.mark)
  else
    let l := if l.inBlock then l.startBlockHere .blockMappingStart else l
    let l ← l.dropKey
    return { l.indicator .key with keyAllowed := l.inBlock }

/-- The colon of a value: what it follows may turn out to be a key. -/
def fetchValue (l : Lexer) : Except Trouble Lexer := do
  match l.keys.find? fun (level, _) => level == l.flowLevel with
  | some (_, k) =>
    let l := { l with keys := l.keys.filter fun (level, _) => level != l.flowLevel }
    let l := l.insertAt k.token ⟨.key, k.mark, k.mark⟩
    let l :=
      if l.inBlock then
        match l.startBlock k.mark.column with
        | some l => l.insertAt k.token ⟨.blockMappingStart, k.mark, k.mark⟩
        | none => l
      else l
    return { l.indicator .value with keyAllowed := false }
  | none =>
    if l.inBlock && !l.keyAllowed then
      .error (.plain "mapping values are not allowed here" l.mark)
    else
      let l := if l.inBlock then l.startBlockHere .blockMappingStart else l
      let l ← l.dropKey
      return { l.indicator .value with keyAllowed := l.inBlock }

/-- A word that may be a key, read by a function. -/
def fetchWord (l : Lexer) (read : Cursor → Except ScalarFault (Token × Cursor)) :
    Except ScalarFault Lexer :=
  match l.saveKey with
  | .error t => .error (.trouble t)
  | .ok l => do
    let (t, c) ← read l.cursor
    return { l.push t with cursor := c, keyAllowed := false }

/-- A block scalar, after which a key may begin. -/
def fetchBlock (l : Lexer) : Except Trouble Lexer := do
  let l ← l.dropKey
  let (t, c) ← readBlock l.indent l.cursor
  return { l.push t with cursor := c, keyAllowed := true }

/-- A plain scalar. -/
def fetchPlain (l : Lexer) : Except Trouble Lexer := do
  let l ← l.saveKey
  let ((t, lineEnded), c) := readPlain (!l.inBlock) l.indent l.cursor
  return { l.push t with cursor := c, keyAllowed := lineEnded }

/-- Whether a plain scalar may begin with a character that another one follows. -/
def startsPlain (inBlock : Bool) (c next : Char) : Bool :=
  !(isBreakOrBlank c || "-?:,[]\x7b\x7d#&*!|>'\"%@\x60".toList.contains c) ||
    (!isBreakOrBlank next && (c == '-' || (inBlock && (c == '?' || c == ':'))))

/-- The token at the position, by its first characters. -/
def fetchHere (l : Lexer) : Except ScalarFault Lexer :=
  let c := l.cursor
  let ch := c.peek
  let next := c.peek 1
  let atStart := c.column == 0
  if ch = ending then lift l.fetchEnd
  else if ch = '%' ∧ atStart then l.fetchDirective
  else if atStart ∧ c.atSeparator '-' then lift (l.fetchSeparator .documentStart)
  else if atStart ∧ c.atSeparator '.' then lift (l.fetchSeparator .documentEnd)
  else if ch = '[' then lift (l.fetchOpening .flowSequenceStart)
  else if ch = '\x7b' then lift (l.fetchOpening .flowMappingStart)
  else if ch = ']' then lift (l.fetchClosing .flowSequenceEnd)
  else if ch = '\x7d' then lift (l.fetchClosing .flowMappingEnd)
  else if ch = ',' then lift l.fetchComma
  else if ch = '-' ∧ isBreakOrBlank next then lift l.fetchEntry
  else if ch = '?' ∧ (¬ l.inBlock ∨ isBreakOrBlank next) then lift l.fetchKey
  else if ch = ':' ∧ (¬ l.inBlock ∨ isBreakOrBlank next) then lift l.fetchValue
  else if ch = '*' ∨ ch = '&' then l.fetchWord fun c => lift (readAnchor c)
  else if ch = '!' then l.fetchWord fun c => lift (readTag c)
  else if l.inBlock ∧ (ch = '|' ∨ ch = '>') then lift l.fetchBlock
  else if ch = '\'' ∨ ch = '"' then l.fetchWord readQuoted
  else if startsPlain l.inBlock ch next then lift l.fetchPlain
  else
    .error (.trouble ⟨some "while scanning for the next token", none,
      "found character " ++ shown ch ++ " that cannot start any token", l.mark⟩)

/-- Read on to the next token. The recursion on tokens below only has to know that this is a result
or a fault, so it is kept from looking inside. -/
@[irreducible]
def fetch (l : Lexer) : Except ScalarFault Lexer := do
  -- A byte order mark at the very start is passed over.
  let l :=
    if l.mark.index = 0 ∧ l.cursor.peek.toNat = 0xFEFF then { l with cursor := l.cursor.next }
    else l
  let l := skipToToken (l.cursor.rest.length + 1) l
  let l ← lift l.dropStaleKeys
  fetchHere (l.unwind l.cursor.column)

/-- Whether the first token waiting may still get a key in front of it. -/
def isHeld (l : Lexer) : Bool :=
  match (l.keys.map fun (_, k) => k.token).min? with
  | some n => n == l.released
  | none => false

end Lexer

/-! ### Streams -/

/-- The tokens of a source, and the fault that ended them, if one did. -/
structure Tokens where
  /-- The tokens. -/
  list : List Token
  /-- What ended them before their time. -/
  fault : Option ScalarFault

/-- Release tokens and fetch further ones until the source ends or a fault. -/
def tokensFrom : Nat → Lexer → Tokens
  | 0, _ => ⟨[], none⟩
  | fuel + 1, l =>
    if l.done then ⟨l.waiting, none⟩
    else
      match l.waiting with
      | [] =>
        match l.fetch with
        | .ok l => tokensFrom fuel l
        | .error e => ⟨[], some e⟩
      | t :: rest =>
        match l.dropStaleKeys with
        | .error e => ⟨[], some (.trouble e)⟩
        | .ok l =>
          if l.isHeld then
            match l.fetch with
            | .ok l => tokensFrom fuel l
            | .error e => ⟨[], some e⟩
          else
            let more := tokensFrom fuel { l with waiting := rest, released := l.released + 1 }
            { more with list := t :: more.list }

/-- The tokens of a source. -/
def tokens (s : Source) : Tokens := tokensFrom (6 * s.text.length + 16) (Lexer.ofSource s)

end Playbook.Yaml
