import Playbook.Unicode.Char

/-!
# Searching and cutting texts

Finding a text in another one, cutting a text at blanks, at a separator or at line ends, and putting
one text in the place of another.

Main definitions:

- `Text.find?`, `Text.occurrences`: the first place of a text, and how often it occurs;
- `Text.words`, `Text.split`, `Text.lines`: the parts of a text;
- `Text.replace`: a text with another one in the place of a third;
- `Text.padLeft`, `Text.padRight`, `Text.center`: texts of a least width.
-/

namespace Playbook.Text

/-! ### Places -/

/-- The first place of a text. -/
def find? (part : List Char) : List Char → Option Nat
  | [] => if part.isEmpty then some 0 else none
  | c :: rest => if part.isPrefixOf (c :: rest) then some 0 else (find? part rest).map (· + 1)

/-- The last place of a text. -/
def findLast? (part s : List Char) : Option Nat :=
  (find? part.reverse s.reverse).map fun n => s.length - part.length - n

/-- The characters before the first place of a separator, and those after it. -/
def cut? (separator : List Char) : List Char → Option (List Char × List Char)
  | [] => if separator.isEmpty then some ([], []) else none
  | c :: rest =>
    if separator.isPrefixOf (c :: rest) then some ([], (c :: rest).drop separator.length)
    else (cut? separator rest).map fun (before, after) => (c :: before, after)

/-- How often a text occurs, without overlaps; the number bounds the search. -/
def occurrencesWithin (part : List Char) : Nat → List Char → Nat
  | 0, _ => 0
  | fuel + 1, s =>
    match cut? part s with
    | some (_, after) => occurrencesWithin part fuel after + 1
    | none => 0

/-- How often a text occurs, without overlaps; the empty text occurs before every character and at
the end. -/
def occurrences (part s : List Char) : Nat :=
  if part.isEmpty then s.length + 1 else occurrencesWithin part (s.length + 1) s

/-! ### Parts -/

/-- The parts between the first separators, no more than a number of them. -/
def splitWithin (separator : List Char) : Nat → List Char → List (List Char)
  | 0, s => [s]
  | fuel + 1, s =>
    match cut? separator s with
    | some (before, after) => before :: splitWithin separator fuel after
    | none => [s]

/-- The parts between separators; a limit on the number of cuts counts from the left. -/
def split (separator : List Char) (limit : Option Nat) (s : List Char) : List (List Char) :=
  splitWithin separator (limit.getD (s.length + 1)) s

/-- The parts between separators; a limit on the number of cuts counts from the right. -/
def splitRight (separator : List Char) (limit : Option Nat) (s : List Char) : List (List Char) :=
  ((split separator.reverse limit s.reverse).map List.reverse).reverse

/-- The words between blanks, after a number of which the rest is one part; the first number bounds
the search. -/
def wordsWithin : Nat → Nat → List Char → List (List Char)
  | 0, _, _ => []
  | fuel + 1, limit, s =>
    match s.dropWhile Unicode.isBlank, limit with
    | [], _ => []
    | rest, 0 => [rest]
    | rest, limit + 1 =>
      rest.takeWhile (!Unicode.isBlank ·) ::
        wordsWithin fuel limit (rest.dropWhile (!Unicode.isBlank ·))

/-- The words between blanks; after as many cuts as a limit allows the rest is one part. -/
def words (limit : Option Nat) (s : List Char) : List (List Char) :=
  wordsWithin (s.length + 1) (limit.getD (s.length + 1)) s

/-- The words between blanks, with the limit counted from the right. -/
def wordsRight (limit : Option Nat) (s : List Char) : List (List Char) :=
  ((words limit s.reverse).map List.reverse).reverse

/-- Whether a character ends a line. -/
def isLineEnd (c : Char) : Bool :=
  let n := c.toNat
  (10 ≤ n && n ≤ 13) || (0x1C ≤ n && n ≤ 0x1E) || n == 0x85 || n == 0x2028 || n == 0x2029

/-- The lines of a text from a place in a line on; `current` has the characters of that line so far,
the last one first. -/
def linesFrom (keep : Bool) (current : List Char) : List Char → List (List Char)
  | [] => if current.isEmpty then [] else [current.reverse]
  | '\r' :: '\n' :: rest =>
    (current.reverse ++ if keep then ['\r', '\n'] else []) :: linesFrom keep [] rest
  | c :: rest =>
    if isLineEnd c then (current.reverse ++ if keep then [c] else []) :: linesFrom keep [] rest
    else linesFrom keep (c :: current) rest

/-- The lines of a text, with their ends or without them. -/
def lines (keep : Bool) (s : List Char) : List (List Char) := linesFrom keep [] s

/-! ### Replacing -/

/-- A text before every character, no more often than a number says, and at the end. -/
def interleave (new : List Char) : Nat → List Char → List Char
  | 0, s => s
  | _ + 1, [] => new
  | n + 1, c :: rest => new ++ c :: interleave new n rest

/-- A text with another one in the place of a third, no more often than a limit says. -/
def replace (old new : List Char) (limit : Option Nat) (s : List Char) : List Char :=
  let n := limit.getD (s.length + 1)
  if old.isEmpty then interleave new n s
  else List.intercalate new (splitWithin old n s)

/-! ### Edges -/

/-- A text without the characters of a kind at its start. -/
def trimLeft (isEdge : Char → Bool) (s : List Char) : List Char := s.dropWhile isEdge

/-- A text without the characters of a kind at its end. -/
def trimRight (isEdge : Char → Bool) (s : List Char) : List Char :=
  (s.reverse.dropWhile isEdge).reverse

/-- A text without the characters of a kind at its edges. -/
def trim (isEdge : Char → Bool) (s : List Char) : List Char := trimRight isEdge (trimLeft isEdge s)

/-- A text of a least width, at the left. -/
def padRight (width : Nat) (fill : Char) (s : List Char) : List Char :=
  s ++ List.replicate (width - s.length) fill

/-- A text of a least width, at the right. -/
def padLeft (width : Nat) (fill : Char) (s : List Char) : List Char :=
  List.replicate (width - s.length) fill ++ s

/-- A text of a least width, in the middle; of an odd number of fillings the left side has the
greater half if the width is odd. -/
def center (width : Nat) (fill : Char) (s : List Char) : List Char :=
  let free := width - s.length
  let left := free / 2 + (if free % 2 = 1 ∧ width % 2 = 1 then 1 else 0)
  List.replicate left fill ++ s ++ List.replicate (free - left) fill

/-- A number with zeros between its sign and its digits. -/
def zeroFill (width : Nat) (s : List Char) : List Char :=
  match s with
  | '-' :: rest => '-' :: padLeft (width - 1) '0' rest
  | '+' :: rest => '+' :: padLeft (width - 1) '0' rest
  | s => padLeft width '0' s

/-- A text in which tabs are filled up with blanks to the next column that is a multiple. -/
def expandTabs (size : Nat) : Nat → List Char → List Char
  | _, [] => []
  | column, c :: rest =>
    if c = '\t' then
      let n := if size = 0 then 0 else size - column % size
      List.replicate n ' ' ++ expandTabs size (column + n) rest
    else if c = '\n' ∨ c = '\r' then c :: expandTabs size 0 rest
    else c :: expandTabs size (column + 1) rest

end Playbook.Text
