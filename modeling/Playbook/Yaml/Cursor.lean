import Playbook.Yaml.Source

/-!
# Reading positions

A reading position is the rest of a source with the place where it starts. The end of the source
reads as the character zero, which no source holds.

Main definitions: `Yaml.Cursor`, `Yaml.Cursor.peek`, `Yaml.Cursor.advance`, `Yaml.Cursor.line`.
-/

namespace Playbook.Yaml

/-- A reading position. -/
structure Cursor where
  /-- What is still to be read. -/
  rest : List Char
  /-- Where that starts. -/
  mark : Mark
deriving Inhabited

/-- The character that stands for the end of the source. -/
def ending : Char := '\x00'

/-- Whether a line ends here. -/
def isBreakOrEnd (c : Char) : Bool := c == ending || isBreak c

/-- Whether a line ends or a space stands here. -/
def isBreakOrSpace (c : Char) : Bool := c == ' ' || isBreakOrEnd c

/-- Whether a line ends or a space or tab stands here. -/
def isBreakOrBlank (c : Char) : Bool := c == '\t' || isBreakOrSpace c

/-- Letters and digits of ASCII, the hyphen and the underscore. -/
def isNameChar (c : Char) : Bool := c.isAlphanum || c == '-' || c == '_'

/-- Hexadecimal digits. -/
def isHexDigit (c : Char) : Bool :=
  c.isDigit || ('A' ≤ c && c ≤ 'F') || ('a' ≤ c && c ≤ 'f')

/-- The value of a hexadecimal digit; zero for other characters. -/
def hexValue (c : Char) : Nat :=
  if c.isDigit then c.toNat - 48
  else if 'a' ≤ c && c ≤ 'f' then c.toNat - 87
  else if 'A' ≤ c && c ≤ 'F' then c.toNat - 55
  else 0

/-- A character as messages show it. -/
def shown (c : Char) : String := Literal.text (String.singleton c)

namespace Cursor

/-- The start of a source. -/
def ofSource (s : Source) : Cursor := ⟨s.text, Mark.start⟩

/-- The character `k` places on. -/
def peek (c : Cursor) (k : Nat := 0) : Char := c.rest.getD k ending

/-- The column of the position. -/
def column (c : Cursor) : Nat := c.mark.column

/-- Step over one character: a line end starts a line, and a byte order mark has no width. -/
def next (c : Cursor) : Cursor :=
  match c.rest with
  | [] => c
  | ch :: rest =>
    let m := c.mark
    if ch = '\r' ∧ rest.head? = some '\n' then ⟨rest, ⟨m.index + 1, m.line, m.column + 1⟩⟩
    else if isBreak ch then ⟨rest, ⟨m.index + 1, m.line + 1, 0⟩⟩
    else if ch.toNat = 0xFEFF then ⟨rest, ⟨m.index + 1, m.line, m.column⟩⟩
    else ⟨rest, ⟨m.index + 1, m.line, m.column + 1⟩⟩

/-- Step over a number of characters. -/
def advance (c : Cursor) : Nat → Cursor
  | 0 => c
  | n + 1 => c.next.advance n

/-- The characters up to the first that fails a test. -/
def upTo (c : Cursor) (p : Char → Bool) : List Char := c.rest.takeWhile p

/-- Step over the characters up to the first that fails a test. -/
def skipWhile (c : Cursor) (p : Char → Bool) : Cursor := c.advance (c.upTo p).length

/-- Step over spaces. -/
def skipSpaces (c : Cursor) : Cursor := c.skipWhile (· == ' ')

/-- Step over a comment, if one starts here. -/
def skipComment (c : Cursor) : Cursor :=
  if c.peek = '#' then c.skipWhile fun ch => !isBreak ch else c

/-- Step over a line end, if there is one: the text it stands for. -/
def lineBreak (c : Cursor) : List Char × Cursor :=
  let ch := c.peek
  if ch = '\r' ∧ c.peek 1 = '\n' then (['\n'], c.advance 2)
  else if ch = '\r' ∨ ch = '\n' ∨ ch.toNat = 0x85 then (['\n'], c.next)
  else if isBreak ch then ([ch], c.next)
  else ([], c)

/-- Whether a line starts here that begins or ends a document. -/
def atSeparator (c : Cursor) (mark : Char) : Bool :=
  c.peek 0 == mark && c.peek 1 == mark && c.peek 2 == mark && isBreakOrBlank (c.peek 3)

/-- Whether a line starts here that begins or ends a document. -/
def atAnySeparator (c : Cursor) : Bool := c.atSeparator '-' || c.atSeparator '.'

end Cursor

end Playbook.Yaml
