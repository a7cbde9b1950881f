import Playbook.Text.CodePoint

/-!
# Pages

The lines of a document while they are written. The page knows its column, whether a blank stands
before the next word, whether only indentation and indicators stand on the line so far, and whether
the document so far could go on.

Main definitions:

- `Yaml.Page`, with `Page.indicator`, `Page.indent` and `Page.write`;
- `Yaml.ScalarForm`: what styles a text can be written in;
- `Page.plain`, `Page.single`, `Page.double`, `Page.block`: texts in the four styles.
-/

namespace Playbook.Yaml

/-- The state of writing. -/
structure Page where
  /-- What is written, last character first. -/
  written : List Char
  /-- How many characters stand on the line. -/
  column : Nat
  /-- Whether a blank or the start of the line comes before the next word. -/
  whitespace : Bool
  /-- Whether only indentation and indicators of blocks stand on the line. -/
  indention : Bool
  /-- Whether the document could go on after what is written. -/
  openEnded : Bool

namespace Page

/-- An empty page. -/
def empty : Page := ⟨[], 0, true, true, false⟩

/-- How long a line should be at most. -/
def width : Nat := 80

/-- By how much each level is indented. -/
def step : Nat := 2

/-- Write characters. -/
def write (p : Page) (cs : List Char) : Page :=
  { p with written := cs.reverse ++ p.written, column := p.column + cs.length }

/-- Start a line. -/
def newLine (p : Page) : Page :=
  { p with written := '\n' :: p.written, column := 0, whitespace := true, indention := true }

/-- Go to an indentation, on a new line if the page is past it. -/
def indent (p : Page) (level : Nat) : Page :=
  let p :=
    if !p.indention || level < p.column || (p.column == level && !p.whitespace) then p.newLine
    else p
  if p.column < level then
    { p.write (List.replicate (level - p.column) ' ') with whitespace := true }
  else p

/-- Write an indicator, after a blank if it needs one. An indicator of a block can stand in an
indentation. -/
def indicator (p : Page) (text : String) (needsBlank : Bool) (blankAfter : Bool := false)
    (ofBlock : Bool := false) : Page :=
  let cs := if p.whitespace || !needsBlank then text.toList else ' ' :: text.toList
  { p.write cs with
    whitespace := blankAfter, indention := p.indention && ofBlock, openEnded := false }

/-- No blank before the next word, and no more indentation. -/
def midWord (p : Page) : Page := { p with whitespace := false, indention := false }

end Page

/-! ### What a text can be written as -/

/-- Line ends inside texts. -/
def isTextBreak (c : Char) : Bool :=
  c == '\n' || c.toNat == 0x85 || c.toNat == 0x2028 || c.toNat == 0x2029

/-- Characters after which a word starts. -/
def isGap (c : Char) : Bool :=
  c == '\x00' || c == ' ' || c == '\t' || c == '\r' || isTextBreak c

/-- What decides the style of a text. -/
structure ScalarForm where
  /-- Whether it is empty. -/
  isEmpty : Bool
  /-- Whether it has several lines. -/
  isMultiline : Bool
  /-- Whether it can be written without quotes. -/
  allowsPlain : Bool
  /-- Whether it can be written between single quotes. -/
  allowsSingle : Bool
  /-- Whether it can be written as a block of lines. -/
  allowsBlock : Bool
deriving DecidableEq, Repr

namespace ScalarForm

/-- Whether a character at the start of a text would be taken for an indicator. -/
def startsLikeIndicator (c : Char) (beforeGap : Bool) : Bool :=
  "#,[]\x7b\x7d&*!|>'\"%@\x60".toList.contains c ||
    ((c == '?' || c == ':' || c == '-') && beforeGap)

/-- Whether a character inside a text would be taken for an indicator. -/
def isInnerIndicator (c : Char) (afterGap beforeGap : Bool) : Bool :=
  (c == ':' && beforeGap) || (c == '#' && afterGap)

/-- Whether an indicator stands inside a text, after a character. -/
def hasInnerIndicator : Char → List Char → Bool
  | _, [] => false
  | previous, c :: rest =>
    isInnerIndicator c (isGap previous) (rest.head?.all isGap) || hasInnerIndicator c rest

/-- Whether two characters that pass two tests follow one another. -/
def hasPair (p q : Char → Bool) : List Char → Bool
  | a :: b :: rest => (p a && q b) || hasPair p q (b :: rest)
  | _ => false

/-- The form of a text. -/
def ofText (cs : List Char) : ScalarForm :=
  match cs with
  | [] => ⟨true, false, true, true, false⟩
  | c :: rest =>
    let isSpace (c : Char) : Bool := c == ' '
    let last := (c :: rest).getLastD ' '
    let hasIndicator :=
      String.ofList (cs.take 3) == "---" || String.ofList (cs.take 3) == "..." ||
        startsLikeIndicator c (rest.head?.all isGap) || hasInnerIndicator c rest
    let isMultiline := cs.any isTextBreak
    let hasSpecial := cs.any fun c => !(c == '\n' || (' ' ≤ c && c ≤ '~'))
    let gapAtEnd := isSpace c || isTextBreak c || isSpace last || isTextBreak last
    let breakSpace := hasPair isTextBreak isSpace cs
    let spaceBreak := hasPair isSpace isTextBreak cs || hasSpecial
    ⟨false, isMultiline,
      !gapAtEnd && !breakSpace && !spaceBreak && !isMultiline && !hasIndicator,
      !breakSpace && !spaceBreak,
      !isSpace last && !spaceBreak⟩

end ScalarForm

/-! ### Texts -/

/-- The longest part at the start of a text whose characters pass a test, if it is not empty. -/
def spanOf (p : Char → Bool) (cs : List Char) : List Char × List Char :=
  (cs.takeWhile p, cs.dropWhile p)

namespace Page

/-- Words and the gaps between them: a single space in a line that is long enough may become a line
end, and line ends are written twice. The fuel is the length of the text. -/
def flow (level : Nat) (split : Bool) (word : List Char → List Char) (fold : Page → Page) :
    Nat → Bool → Page → List Char → Page
  | 0, _, p, _ => p
  | _, _, p, [] => p
  | fuel + 1, first, p, c :: rest =>
    if c = ' ' then
      let (spaces, after) := spanOf (· == ' ') (c :: rest)
      let p :=
        if spaces.length = 1 ∧ width < p.column ∧ split ∧ !first ∧ !after.isEmpty then
          fold (p.indent level)
        else p.write spaces
      flow level split word fold fuel false p after
    else if isTextBreak c then
      let (breaks, after) := spanOf isTextBreak (c :: rest)
      let p := if c = '\n' then p.newLine else p
      let p := breaks.foldl (fun p b =>
        if b = '\n' then p.newLine else { p.newLine with written := b :: p.written }) p
      flow level split word fold fuel false (p.indent level) after
    else
      let (letters, after) := spanOf (fun c => c != ' ' && !isTextBreak c) (c :: rest)
      flow level split word fold fuel false (p.write (word letters)) after

/-- A text without quotes. -/
def plain (p : Page) (level : Nat) (split root : Bool) (cs : List Char) : Page :=
  let p := if root then { p with openEnded := true } else p
  if cs.isEmpty then p
  else
    let p := if p.whitespace then p else p.write [' ']
    flow level split id midWord cs.length true p.midWord cs

/-- A text between single quotes, in which a quote is written twice. -/
def single (p : Page) (level : Nat) (split : Bool) (cs : List Char) : Page :=
  let double (letters : List Char) : List Char :=
    letters.flatMap fun c => if c = '\'' then ['\'', '\''] else [c]
  (flow level split double id cs.length true (p.indicator "'" true) cs).indicator "'" false

/-- A natural in hexadecimal with just `width` capital digits. -/
def capitalHex : Nat → Nat → List Char
  | 0, _ => []
  | width + 1, n =>
    let d := n % 16
    capitalHex width (n / 16) ++ [Char.ofNat (if d < 10 then d + 48 else d + 55)]

/-- The escape of a character between double quotes; none if it needs none. -/
def escape? (c : Char) : Option (List Char) :=
  let n := CodePoint.ofChar c
  let short? : Option Char := match n with
    | 0 => some '0' | 7 => some 'a' | 8 => some 'b' | 9 => some 't' | 10 => some 'n'
    | 11 => some 'v' | 12 => some 'f' | 13 => some 'r' | 0x1B => some 'e' | 0x22 => some '"'
    | 0x5C => some '\\' | 0x85 => some 'N' | 0xA0 => some '_' | 0x2028 => some 'L'
    | 0x2029 => some 'P'
    | _ => none
  match short? with
  | some s => some ['\\', s]
  | none =>
    if 0x20 ≤ n ∧ n ≤ 0x7E then none
    else if n ≤ 0xFF then some ('\\' :: 'x' :: capitalHex 2 n)
    else if n ≤ 0xFFFF then some ('\\' :: 'u' :: capitalHex 4 n)
    else some ('\\' :: 'U' :: capitalHex 8 n)

/-- Break a line inside double quotes: a space after the break is escaped. -/
def breakDouble (p : Page) (level : Nat) (next : Option Char) : Page :=
  let p := ((p.write ['\\']).indent level).midWord
  if next = some ' ' then p.write ['\\'] else p

/-- The characters between double quotes. Characters that need no escape wait until the next one
that does, or until the line is broken before a space. -/
def doubleFrom (level : Nat) (split : Bool) (length : Nat) :
    Nat → List Char → Page → List Char → Page
  | _, waiting, p, [] => p.write waiting.reverse
  | i, waiting, p, c :: rest =>
    let inside := split && decide (0 < i) && decide (i + 1 < length)
    match escape? c with
    | some cs =>
      let p := (p.write waiting.reverse).write cs
      let p := if inside && decide (width + 1 < p.column) then p.breakDouble level rest.head? else p
      doubleFrom level split length (i + 1) [] p rest
    | none =>
      if inside && (c == ' ' || waiting.isEmpty) && decide (width < p.column + waiting.length) then
        let p := (p.write waiting.reverse).breakDouble level (some c)
        doubleFrom level split length (i + 1) [c] p rest
      else doubleFrom level split length (i + 1) (c :: waiting) p rest

/-- A text between double quotes. -/
def double (p : Page) (level : Nat) (split : Bool) (cs : List Char) : Page :=
  (doubleFrom level split cs.length 0 [] (p.indicator "\"" true) cs).indicator "\"" false

/-- The lines of a text. -/
def splitLines : List Char → List (List Char)
  | [] => []
  | c :: rest =>
    if c = '\n' then [] :: splitLines rest
    else
      match splitLines rest with
      | [] => [[c]]
      | line :: more => (c :: line) :: more

/-- A text as a block of lines, each at the indentation of the block. -/
def block (p : Page) (level : Nat) (cs : List Char) : Page :=
  let hint := match cs.reverse with
    | [] => ""
    | last :: before =>
      if !isTextBreak last then "-"
      else if before.head?.all isTextBreak then "+"
      else ""
  let p := p.indicator ("|" ++ hint) true
  let p := { p with openEnded := hint == "+" }
  let lines (p : Page) (line : List Char) : Page := ((p.indent level).write line).newLine
  (splitLines cs).foldl lines p.newLine

end Page

end Playbook.Yaml
