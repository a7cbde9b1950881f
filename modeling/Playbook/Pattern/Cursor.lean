import Playbook.Failure
import Playbook.Text.Literal

/-!
# Places in the text of a pattern

The text of a pattern is met token by token: a token is a character, or a backslash with the
character after it. A backslash at the very end is refused when it becomes the next token.

Main definitions:

- `Pattern.Token`, `Pattern.Cursor`;
- `Cursor.skip`, `Cursor.while`, `Cursor.until`: moving on;
- `Cursor.failure`: a failure with the place it is found at.
-/

namespace Playbook.Pattern

/-- A unit of the text of a pattern. -/
inductive Token where
  /-- A character. -/
  | char (c : Char)
  /-- A character after a backslash. -/
  | escape (c : Char)
deriving DecidableEq, Repr

namespace Token

/-- The characters of a token. -/
def chars : Token → List Char
  | char c => [c]
  | escape c => ['\\', c]

/-- How many characters a token has. -/
def size : Token → Nat
  | char _ => 1
  | escape _ => 2

/-- The text of a token. -/
def text (t : Token) : String := String.ofList t.chars

/-- The character of a token that is no escape. -/
def plain? : Token → Option Char
  | char c => some c
  | escape _ => none

end Token

/-- A place in the text of a pattern. -/
structure Cursor where
  /-- The whole text. -/
  source : List Char
  /-- The token at the place; none at the end. -/
  next : Option Token
  /-- The number of characters up to the end of that token. -/
  index : Nat
  /-- The characters after that token. -/
  rest : List Char

namespace Cursor

/-- The number of characters before a place. -/
def position (c : Cursor) : Nat := c.index - (c.next.map Token.size).getD 0

/-- Where a character of a text stands: its line and column, from one on. -/
def lineAndColumn (source : List Char) (position : Nat) : Nat × Nat :=
  let before := source.take position
  (before.count '\n' + 1, (before.reverse.takeWhile (· ≠ '\n')).length + 1)

/-- A failure at a place of a pattern; the line is told if the pattern has several. -/
def failureAt (source : List Char) (message : String) (position : Nat) : Failure :=
  let lines :=
    if source.contains '\n' then
      let (line, column) := lineAndColumn source position
      " (line " ++ toString line ++ ", column " ++ toString column ++ ")"
    else ""
  ⟨.pattern, message ++ " at position " ++ toString position ++ lines⟩

/-- A failure some characters before a place. -/
def failure (c : Cursor) (message : String) (back : Nat := 0) : Failure :=
  failureAt c.source message (c.position - back)

/-- The place after the next token. -/
def skip (c : Cursor) : Except Failure Cursor :=
  match c.rest with
  | [] => .ok { c with next := none }
  | ['\\'] => .error (failureAt c.source "bad escape (end of pattern)" (c.source.length - 1))
  | '\\' :: d :: rest => .ok { c with next := some (.escape d), index := c.index + 2, rest := rest }
  | d :: rest => .ok { c with next := some (.char d), index := c.index + 1, rest := rest }

/-- The first place of a text. -/
def start (source : List Char) : Except Failure Cursor := skip ⟨source, none, 0, source⟩

/-- The next token if it is an expected character, and the place after it. -/
def take? (c : Cursor) (expected : Char) : Except Failure (Bool × Cursor) := do
  if c.next = some (.char expected) then return (true, ← c.skip) else return (false, c)

/-- At most `count` characters of a class, and the place after them. -/
def «while» (p : Char → Bool) : Nat → Cursor → Except Failure (List Char × Cursor)
  | 0, c => .ok ([], c)
  | count + 1, c =>
    match c.next with
    | some (.char d) =>
      if p d then do
        let (ds, c) ← «while» p count (← c.skip)
        return (d :: ds, c)
      else .ok ([], c)
    | _ => .ok ([], c)

/-- The characters up to a closing one, and the place after it; `found` holds, last first, those
met so far. -/
def untilFrom (closing : Char) (what : String) (found : List Char) :
    Nat → Cursor → Except Failure (List Char × Cursor)
  | 0, c => .error (c.failure ("missing " ++ what))
  | fuel + 1, c => do
    let after ← c.skip
    match c.next with
    | none =>
      if found.isEmpty then throw (after.failure ("missing " ++ what))
      throw (after.failure ("missing " ++ String.singleton closing ++ ", unterminated name")
        found.length)
    | some t =>
      if t = .char closing then
        if found.isEmpty then throw (after.failure ("missing " ++ what) 1)
        return (found.reverse, after)
      else untilFrom closing what (t.chars.reverse ++ found) fuel after

/-- The characters up to a closing one, of which there must be some, and the place after it. -/
def «until» (closing : Char) (what : String) (c : Cursor) :
    Except Failure (List Char × Cursor) :=
  untilFrom closing what [] (c.rest.length + 2) c

end Cursor

end Playbook.Pattern
