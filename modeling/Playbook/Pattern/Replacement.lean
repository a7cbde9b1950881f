import Playbook.Pattern.Match
import Playbook.Pattern.Read

/-!
# Replacing what a pattern matches

A replacement is a text in which a backslash refers to a group or escapes a character. Every match
is replaced, from left to right and without overlaps; a match that takes no character may follow
another match, but not one that takes no character at the same place.

Main definitions:

- `Pattern.Replacement`, `Pattern.Replacement.ofText`: what stands in place of a match;
- `Pattern.matches`, `Pattern.replaceAll`.
-/

namespace Playbook.Pattern

/-- A part of a replacement. -/
inductive Piece where
  /-- Characters. -/
  | chars (s : List Char)
  /-- The text of a group. -/
  | group (number : Nat)
deriving DecidableEq, Repr

/-- What stands in place of a match. -/
abbrev Replacement := List Piece

/-! ### Reading -/

/-- A reference to a group of a pattern. -/
def groupPiece (p : Pattern) (number back : Nat) : Reader Piece := do
  if p.groups < number then
    Reader.fail ("invalid group reference " ++ toString number) back
  return .group number

/-- A reference to a group by name or number between angles. -/
def angledPiece (p : Pattern) : Reader Piece := do
  unless ← Reader.take '<' do Reader.fail "missing <"
  let name ← Reader.takeUntil '>' "group name"
  let text := String.ofList name
  if Unicode.isIdentifier name then
    match p.names.lookup text with
    | some number => groupPiece p number (name.length + 1)
    | none => throw (.index ("unknown group name " ++ Literal.text text))
  else
    let bad {α : Type} : Reader α :=
      Reader.fail ("bad character in group name " ++ Literal.text text) (name.length + 1)
    match Numeral.int 10 text with
    | .ok i =>
      if i < 0 then bad
      if groupLimit ≤ i.toNat then
        Reader.fail ("invalid group reference " ++ toString i) (name.length + 1)
      groupPiece p i.toNat (name.length + 1)
    | .error _ => bad

/-- A reference to a group by digits, or a character by three octal ones. -/
def digitPiece (p : Pattern) (c : Char) : Reader Piece := do
  match ← Reader.takeWhile Char.isDigit 1 with
  | [] => groupPiece p (numberOf 10 [c]) 1
  | d :: _ =>
    let third ← if isOctal c && isOctal d then Reader.takeWhile isOctal 1 else pure []
    match third with
    | [] => groupPiece p (numberOf 10 [c, d]) 2
    | e :: _ => return .chars [Char.ofNat (← octalEscape ['\\', c, d, e])]

/-- The piece of an escape. -/
def escapePiece (p : Pattern) (c : Char) : Reader Piece := do
  if c = 'g' then angledPiece p
  else if c = '0' then
    let ds ← Reader.takeWhile isOctal 2
    return .chars [Char.ofNat (numberOf 8 ds % 256)]
  else if c.isDigit then digitPiece p c
  else
    match control? c with
    | some n => return .chars [Char.ofNat n]
    | none =>
      if c.isAlpha then badEscape ['\\', c]
      return .chars ['\\', c]

/-- The pieces of a replacement. -/
def pieces (p : Pattern) : Nat → Reader Replacement
  | 0 => return []
  | fuel + 1 => do
    match ← Reader.next with
    | none => return []
    | some (.char c) => return .chars [c] :: (← pieces p fuel)
    | some (.escape c) =>
      let one ← escapePiece p c
      return one :: (← pieces p fuel)

/-- The replacement of a text; a text without a backslash stands for itself. -/
def Replacement.ofText (p : Pattern) (text : String) : Except Failure Replacement := do
  let source := text.toList
  if source.contains '\\' then
    let cursor ← Cursor.start source
    let (r, _) ← (pieces p (source.length + 1)).run ⟨cursor, .empty, [none], [], none, []⟩
    return r
  else return [.chars source]

/-! ### Replacing -/

/-- What a replacement puts in place of a match. -/
def Replacement.expand (r : Replacement) (m : Match) : List Char :=
  r.flatMap fun piece =>
    match piece with
    | .chars s => s
    | .group number => m.group number

/-- The matches from a place on; `fuel` bounds their number. -/
def matchesFrom (p : Pattern) : Nat → Bool → Place → List Match
  | 0, _, _ => []
  | fuel + 1, advance, place =>
    match search? p advance place with
    | none => []
    | some m =>
      let empty := m.stop.place.position = m.start.position
      m :: matchesFrom p fuel (decide empty) m.stop.place

/-- All matches of a pattern in a text. There are at most two for each place. -/
def «matches» (p : Pattern) (s : List Char) : List Match :=
  matchesFrom p (2 * s.length + 2) false (Place.start s)

/-- A text from a position on, with its matches replaced. -/
def splice (replace : Match → List Char) : Nat → List Char → List Match → List Char
  | _, s, [] => s
  | position, s, m :: rest =>
    let before := m.start.position - position
    s.take before ++ replace m ++
      splice replace m.stop.place.position (s.drop (before + m.text.length)) rest

/-- A text with all matches of a pattern replaced. -/
def replaceAll (p : Pattern) (r : Replacement) (s : String) : String :=
  String.ofList (splice r.expand 0 s.toList (p.matches s.toList))

end Playbook.Pattern
