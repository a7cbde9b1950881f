import Playbook.Decimal.Numeral
import Playbook.Pattern.Cursor
import Playbook.Pattern.Syntax

/-!
# Reading patterns

The pattern that a text denotes, or the first thing wrong with the text and where it stands.

Main definitions: `Pattern.ofText`.
-/

namespace Playbook.Pattern

/-! ### The state of reading -/

/-- Where reading a pattern has come to. -/
structure Reading where
  /-- The place. -/
  cursor : Cursor
  /-- The settings of the whole pattern. -/
  flags : Flags
  /-- The widths of the groups met so far, that of number zero first; an open group has none. -/
  widths : List (Option Width)
  /-- The names of groups. -/
  names : List (String × Nat)
  /-- The count of groups before the outermost condition on what comes before. -/
  behind : Option Nat
  /-- The groups that choices go by, and where they are named first. -/
  mentioned : List (Nat × Nat)

/-- A step of reading. -/
abbrev Reader := StateT Reading (Except Failure)

namespace Reader

/-- Fail some characters before the place. -/
def fail {α : Type} (message : String) (back : Nat := 0) : Reader α := do
  throw ((← get).cursor.failure message back)

/-- Fail at a place that was met before. -/
def failFrom {α : Type} (message : String) (position : Nat) : Reader α := do
  throw (Cursor.failureAt (← get).cursor.source message position)

/-- The next token, which is not passed. -/
def peek : Reader (Option Token) := return (← get).cursor.next

/-- The number of characters before the place. -/
def position : Reader Nat := return (← get).cursor.position

/-- Move to a place. -/
def move (c : Cursor) : Reader Unit := modify fun r => { r with cursor := c }

/-- Pass the next token. -/
def next : Reader (Option Token) := do
  let c := (← get).cursor
  move (← c.skip)
  return c.next

/-- Pass the next token if it is an expected character. -/
def take (expected : Char) : Reader Bool := do
  let (found, c) ← (← get).cursor.take? expected
  move c
  return found

/-- Pass at most `count` characters of a class. -/
def takeWhile (p : Char → Bool) (count : Nat) : Reader (List Char) := do
  let (ds, c) ← (← get).cursor.while p count
  move c
  return ds

/-- Pass the characters up to a closing one. -/
def takeUntil (closing : Char) (what : String) : Reader (List Char) := do
  let (ds, c) ← (← get).cursor.until closing what
  move c
  return ds

/-- How many characters are left, which bounds every loop. -/
def left : Reader Nat := return (← get).cursor.rest.length + 2

end Reader

open Reader

/-- The most a count of a repetition, and a group number, may be. -/
def countLimit : Nat := 4294967295

/-- The most groups a pattern may have. -/
def groupLimit : Nat := 1073741823

/-- Whether a character is an octal digit. -/
def isOctal (c : Char) : Bool := '0' ≤ c && c ≤ '7'

/-- Whether a character is a hexadecimal digit. -/
def isHex (c : Char) : Bool := (Numeral.digitValue? 16 c).isSome

/-- The number that digits of a base stand for. -/
def numberOf (base : Nat) (ds : List Char) : Nat :=
  Numeral.ofDigits base (ds.map fun d => (Numeral.digitValue? base d).getD 0)

/-! ### Escapes -/

/-- What an escape means. -/
inductive Meaning where
  /-- A character, by number. -/
  | char (n : Nat)
  /-- A class. -/
  | category (negated : Bool) (c : Category)

/-- The escapes of control characters and of the backslash. -/
def control? (c : Char) : Option Nat :=
  match c with
  | 'a' => some 7
  | 'b' => some 8
  | 'f' => some 12
  | 'n' => some 10
  | 'r' => some 13
  | 't' => some 9
  | 'v' => some 11
  | '\\' => some 92
  | _ => none

/-- The escapes of classes. -/
def category? (c : Char) : Option Meaning :=
  match c with
  | 'd' => some (.category false .digit)
  | 'D' => some (.category true .digit)
  | 's' => some (.category false .blank)
  | 'S' => some (.category true .blank)
  | 'w' => some (.category false .word)
  | 'W' => some (.category true .word)
  | _ => none

/-- The escapes of conditions. -/
def anchor? (c : Char) : Option Anchor :=
  match c with
  | 'A' => some .textStart
  | 'Z' => some .textEnd
  | 'b' => some .edge
  | 'B' => some .noEdge
  | _ => none

/-- An escape that means nothing. -/
def badEscape {α : Type} (written : List Char) : Reader α :=
  fail ("bad escape " ++ String.ofList written) written.length

/-- A character by exactly `count` hexadecimal digits. -/
def hexEscape (letter : Char) (count : Nat) : Reader Meaning := do
  let ds ← takeWhile isHex count
  let written := '\\' :: letter :: ds
  if ds.length ≠ count then
    fail ("incomplete escape " ++ String.ofList written) written.length
  let n := numberOf 16 ds
  if n < 0x110000 then return .char n else badEscape written

/-- A character by its name, of which none is known. -/
def namedEscape : Reader Meaning := do
  unless ← take '{' do fail "missing \x7b"
  let name ← takeUntil '}' "character name"
  fail ("undefined character name " ++ Literal.text (String.ofList name)) (name.length + 4)

/-- A character by octal digits. -/
def octalEscape (written : List Char) : Reader Nat := do
  let n := numberOf 8 (written.drop 1)
  if 0o377 < n then
    fail ("octal escape value " ++ String.ofList written ++ " outside of range 0-0o377")
      written.length
  return n

/-- An escape that means the same in and out of a class, and is no octal one. -/
def commonEscape (c : Char) : Reader Meaning := do
  match c with
  | 'x' => hexEscape c 2
  | 'u' => hexEscape c 4
  | 'U' => hexEscape c 8
  | 'N' => namedEscape
  | c =>
    if c.isAlphanum then badEscape ['\\', c]
    return .char c.toNat

/-- The meaning of an escape in a class of characters. -/
def classEscape (c : Char) : Reader Meaning := do
  match control? c, category? c with
  | some n, _ => return .char n
  | none, some m => return m
  | none, none =>
    if isOctal c then
      let ds ← takeWhile isOctal 2
      return .char (← octalEscape ('\\' :: c :: ds))
    else commonEscape c

/-! ### Groups -/

/-- Refuse a name that is no identifier. -/
def checkName (name : List Char) (back : Nat) : Reader Unit := do
  unless Unicode.isIdentifier name do
    fail ("bad character in group name " ++ Literal.text (String.ofList name)) (name.length + back)

/-- Whether a group is closed. -/
def isClosed (number : Nat) : Reader Bool := return (((← get).widths[number]?).bind id).isSome

/-- Refuse a group that a condition on what comes before cannot refer to. -/
def checkBehind (number : Nat) : Reader Unit := do
  match (← get).behind with
  | none => return
  | some first =>
    unless ← isClosed number do fail "cannot refer to an open group"
    if first ≤ number then fail "cannot refer to group defined in the same lookbehind subpattern"

/-- A reference to a group that must be closed. -/
def referTo (number back : Nat) : Reader Node := do
  unless ← isClosed number do fail "cannot refer to an open group" back
  checkBehind number
  return .reference number

/-- Open a group. -/
def openGroup (name : Option (List Char)) : Reader Nat := do
  let r ← get
  -- Group zero is the whole pattern, so the count of widths is the number of the next group.
  let number := r.widths.length
  set { r with widths := r.widths ++ [none] }
  match name with
  | none => return number
  | some name =>
    let text := String.ofList name
    if let some earlier := r.names.lookup text then
      fail ("redefinition of group name " ++ Literal.text text ++ " as group " ++
        toString number ++ "; was group " ++ toString earlier) (name.length + 1)
    modify fun r => { r with names := r.names ++ [(text, number)] }
    return number

/-- Close a group. -/
def closeGroup (number : Nat) (body : List Node) : Reader Unit :=
  modify fun r => { r with widths := r.widths.set number (some (rowWidth r.widths body)) }

/-- An escape of digits: a reference to a group or a character by octal digits. -/
def digitEscape (c : Char) : Reader Node := do
  let asReference (written : List Char) : Reader Node := do
    let number := numberOf 10 (written.drop 1)
    if number < (← get).widths.length then referTo number written.length
    else fail ("invalid group reference " ++ toString number) (written.length - 1)
  let second ← takeWhile Char.isDigit 1
  match second with
  | [] => asReference ['\\', c]
  | d :: _ =>
    -- Three octal digits are a character; anything shorter is the number of a group.
    let third ← if isOctal c && isOctal d then takeWhile isOctal 1 else pure []
    match third with
    | [] => asReference ['\\', c, d]
    | e :: _ => return .char (← octalEscape ['\\', c, d, e])

/-- The part an escape denotes outside a class. -/
def escape (c : Char) : Reader Node := do
  match anchor? c, category? c, control? c with
  | some a, _, _ => return .anchor a
  | none, some (.category negated k), _ => return .members false [.category negated k]
  | none, some (.char n), _ => return .char n
  | none, none, some n => return .char n
  | none, none, none =>
    if c = '0' then return .char (numberOf 8 (← takeWhile isOctal 2))
    else if c.isDigit then digitEscape c
    else
      match ← commonEscape c with
      | .char n => return .char n
      | .category negated k => return .members false [.category negated k]

/-! ### Classes -/

/-- One end of a range or a member of its own. -/
def memberOf (t : Token) : Reader Meaning := do
  match t with
  | .char c => return .char c.toNat
  | .escape c => classEscape c

/-- A meaning as a member. -/
def Meaning.member : Meaning → Member
  | .char n => .char n
  | .category negated k => .category negated k

/-- The members up to the closing bracket; `found` holds, last first, those met so far. -/
def members (here : Nat) (found : List Member) : Nat → Reader (List Member)
  | 0 => fail "unterminated character set"
  | fuel + 1 => do
    let unclosed {α : Type} : Reader α := failFrom "unterminated character set" here
    let some this ← next | unclosed
    -- A closing bracket that comes first is a member like others.
    if this = .char ']' ∧ ¬ found.isEmpty then return found.reverse
    let first ← memberOf this
    unless ← take '-' do return ← members here (first.member :: found) fuel
    let some that ← next | unclosed
    -- A hyphen before the closing bracket is no range but a member.
    if that = .char ']' then return (.char 45 :: first.member :: found).reverse
    let last ← memberOf that
    let bad {α : Type} : Reader α :=
      fail ("bad character range " ++ this.text ++ "-" ++ that.text) (this.size + 1 + that.size)
    match first, last with
    | .char a, .char b =>
      if b < a then bad
      members here (.range a b :: found) fuel
    | _, _ => bad

/-- A class of characters after its opening bracket. -/
def characterClass : Reader Node := do
  let here := (← position) - 1
  let negated ← take '^'
  let ms ← members here [] (← left)
  match negated, ms.eraseDups with
  | false, [.char n] => return .char n
  | _, distinct => return .members negated distinct

/-! ### Repetitions -/

/-- A count of a repetition. -/
def countOf (ds : List Char) : Reader (Option Nat) := do
  if ds.isEmpty then return none
  let n ← Numeral.int 10 (String.ofList ds)
  if countLimit ≤ n.toNat then throw (.overflow "the repetition number is too large")
  return some n.toNat

/-- The counts in braces, after the opening one; none if what follows is no count. -/
def braces (here : Nat) : Reader (Option (Nat × Option Nat)) := do
  let start := (← get).cursor
  if (← peek) = some (.char '}') then return none
  let lo ← takeWhile Char.isDigit (← left)
  let hi ← if ← take ',' then takeWhile Char.isDigit (← left) else pure lo
  -- Braces that hold no count are characters, so reading goes back to where they open.
  unless ← take '}' do
    move start
    return none
  let least := (← countOf lo).getD 0
  let most ← countOf hi
  match most with
  | some m =>
    if m < least then failFrom "min repeat greater than max repeat" here
    return some (least, some m)
  | none => return some (least, none)

/-- The last part of a row in a repetition whose sign stands at a place. -/
def repeatLast (row : List Node) (least : Nat) (most : Option Nat) (place : Nat) :
    Reader (List Node) := do
  match row with
  | [] | .anchor _ :: _ => failFrom "nothing to repeat" place
  | .repeated .. :: _ => failFrom "multiple repeat" place
  | item :: before =>
    -- A group that is not remembered is repeated as the row in it.
    let body := match item with
      | .group none body => body
      | item => [item]
    if ← take '?' then return .repeated .least least most body :: before
    if ← take '+' then return .repeated .possessive least most body :: before
    return .repeated .most least most body :: before

/-! ### Settings -/

/-- The message about a letter that is no setting. -/
def flagProblem (t : Token) (otherwise : String) : String :=
  match t with
  | .char c => if Unicode.isLetter c then "unknown flag" else otherwise
  | .escape _ => otherwise

/-- A setting that is turned on, after those turned on before. -/
def turnOn (on : Flags) (c : Char) : Reader Flags := do
  if c = 'L' then fail "bad inline flags: cannot use 'L' flag with a str pattern"
  let on := on.union ((Flags.ofLetter? c).getD .empty)
  if (c = 'a' ∨ c = 'u') ∧ on.ascii ∧ on.unicode then
    fail "bad inline flags: flags 'a', 'u' and 'L' are incompatible"
  return on

/-- Whether a character is the letter of a setting. -/
def isFlag (c : Char) : Bool := c == 'L' || (Flags.ofLetter? c).isSome

/-- The settings turned on, from a first letter on, and the character that ends them. -/
def flagsOn (on : Flags) (c : Char) : Nat → Reader (Flags × Char)
  | 0 => fail "missing -, : or )"
  | fuel + 1 => do
    let on ← turnOn on c
    match ← next with
    | none => fail "missing -, : or )"
    | some t =>
      match t.plain? with
      | some d =>
        if d = ')' ∨ d = '-' ∨ d = ':' then return (on, d)
        if isFlag d then flagsOn on d fuel
        else fail (flagProblem t "missing -, : or )") t.size
      | none => fail (flagProblem t "missing -, : or )") t.size

/-- The settings turned off, from a first letter on, up to the colon. -/
def flagsOff (off : Flags) (c : Char) : Nat → Reader Flags
  | 0 => fail "missing :"
  | fuel + 1 => do
    if c = 'a' ∨ c = 'u' ∨ c = 'L' then
      fail "bad inline flags: cannot turn off flags 'a', 'u' and 'L'"
    let off := off.union ((Flags.ofLetter? c).getD .empty)
    match ← next with
    | none => fail "missing :"
    | some t =>
      match t.plain? with
      | some d =>
        if d = ':' then return off
        if isFlag d then flagsOff off d fuel else fail (flagProblem t "missing :") t.size
      | none => fail (flagProblem t "missing :") t.size

/-- The settings turned on and off, from a first character on; none if they are those of the whole
pattern. -/
def settings (c : Char) : Reader (Option (Flags × Flags)) := do
  -- The settings may begin with those that are turned off.
  let (on, ending) ← if c = '-' then pure (Flags.empty, '-') else flagsOn .empty c (← left)
  if ending = ')' then
    modify fun r => { r with flags := r.flags.union on }
    return none
  if on.rigid then fail "bad inline flags: cannot turn on global flag" 1
  let off ← if ending = '-' then do
      match ← next with
      | none => fail "missing flag"
      | some t =>
        match t.plain? with
        | some d =>
          if isFlag d then flagsOff .empty d (← left)
          else fail (flagProblem t "missing flag") t.size
        | none => fail (flagProblem t "missing flag") t.size
    else pure Flags.empty
  if off.rigid then fail "bad inline flags: cannot turn off global flag" 1
  if on.meets off then fail "bad inline flags: flag turned on and off" 1
  return some (on, off)

/-! ### Rows and alternatives -/

/-- Whether a character is a blank of a pattern whose blanks do not count. -/
def isPatternBlank (c : Char) : Bool :=
  c == ' ' || c == '\t' || c == '\n' || c == '\r' || c == '\x0b' || c == '\x0c'

/-- Pass a comment up to the end of the line. -/
def lineComment : Nat → Reader Unit
  | 0 => return
  | fuel + 1 => do
    match ← next with
    | none | some (.char '\n') => return
    | some _ => lineComment fuel

/-- Pass a comment up to the closing parenthesis. -/
def groupComment (start : Nat) : Nat → Reader Unit
  | 0 => failFrom "missing ), unterminated comment" start
  | fuel + 1 => do
    match ← peek with
    | none => failFrom "missing ), unterminated comment" start
    | some t =>
      let _ ← next
      unless t = .char ')' do groupComment start fuel

/-- Pass the closing parenthesis of a group. -/
def close (start : Nat) : Reader Unit := do
  unless ← take ')' do failFrom "missing ), unterminated subpattern" start

/-- The group a choice goes by. -/
def conditionGroup : Reader Nat := do
  let name ← takeUntil ')' "group name"
  let text := String.ofList name
  let number ←
    if Unicode.isIdentifier name then
      match (← get).names.lookup text with
      | some number => pure number
      | none => fail ("unknown group name " ++ Literal.text text) (name.length + 1)
    else do
      let bad {α : Type} : Reader α :=
        fail ("bad character in group name " ++ Literal.text text) (name.length + 1)
      let number ← match Numeral.int 10 text with
        | .ok i => if i < 0 then bad else pure i.toNat
        | .error _ => bad
      if number = 0 then fail "bad group number" (name.length + 1)
      if groupLimit ≤ number then
        fail ("invalid group reference " ++ toString number) (name.length + 1)
      -- The group may yet be opened, so whether there is one is checked when all has been read.
      let place := (← position) - name.length - 1
      modify fun r =>
        if (r.mentioned.lookup number).isSome then r
        else { r with mentioned := r.mentioned ++ [(number, place)] }
      pure number
  checkBehind number
  return number

/-- What opens after a parenthesis. -/
inductive Opening where
  /-- A group to be remembered, with its name if it has one. -/
  | capture (name : Option (List Char))
  /-- A group that is not remembered. -/
  | plain
  /-- A group of which only the first way to match counts. -/
  | atomic
  /-- A group with settings of its own. -/
  | scoped (on off : Flags)
  /-- A condition on the text around. -/
  | look (negated back : Bool)
  /-- A choice by a group. -/
  | conditional
  /-- A part that is complete. -/
  | whole (n : Node)
  /-- A comment or settings of the whole pattern. -/
  | nothing

/-- The name of a group or a reference by name. -/
def named : Reader Opening := do
  if ← take '<' then
    let name ← takeUntil '>' "group name"
    checkName name 1
    return .capture (some name)
  if ← take '=' then
    let name ← takeUntil ')' "group name"
    checkName name 1
    match (← get).names.lookup (String.ofList name) with
    | none =>
      fail ("unknown group name " ++ Literal.text (String.ofList name)) (name.length + 1)
    | some number => return .whole (← referTo number (name.length + 1))
  match ← next with
  | none => fail "unexpected end of pattern"
  | some t => fail ("unknown extension ?P" ++ t.text) (t.size + 2)

/-- What opens after a parenthesis at `start`. Settings of the whole pattern may stand at its
start only. -/
def opening (start : Nat) (atStart : Bool) : Reader Opening := do
  unless ← take '?' do return .capture none
  let some t ← next | fail "unexpected end of pattern"
  match t.plain? with
  | some 'P' => named
  | some ':' => return .plain
  | some '#' =>
    groupComment start (← left)
    return .nothing
  | some '=' => return .look false false
  | some '!' => return .look true false
  | some '<' =>
    match ← next with
    | none => fail "unexpected end of pattern"
    | some (.char '=') => return .look false true
    | some (.char '!') => return .look true true
    | some u => fail ("unknown extension ?<" ++ u.text) (u.size + 2)
  | some '(' => return .conditional
  | some '>' => return .atomic
  | some c =>
    if isFlag c ∨ c = '-' then
      match ← settings c with
      | some (on, off) => return .scoped on off
      | none =>
        unless atStart do failFrom "global flags not at the start of the expression" start
        return .nothing
    else fail ("unknown extension ?" ++ t.text) (t.size + 1)
  | none => fail ("unknown extension ?" ++ t.text) (t.size + 1)

mutual

/-- Alternatives. -/
def alternatives (verbose nested : Bool) (found : List (List Node)) :
    Nat → Reader (List Node)
  | 0 => fail "too many groups"
  | fuel + 1 => do
    let parts ← row verbose (!nested && found.isEmpty) [] fuel
    if ← take '|' then
      -- Settings of the whole pattern hold for the alternatives behind them as well.
      let r ← get
      alternatives (if nested then verbose else r.flags.verbose) nested (parts :: found) fuel
    else
      match found with
      | [] => return parts
      | _ => return [.branch (parts :: found).reverse]

/-- Parts in a row; `found` holds, last first, those met so far. -/
def row (verbose first : Bool) (found : List Node) : Nat → Reader (List Node)
  | 0 => fail "too many groups"
  | fuel + 1 => do
    match ← peek with
    | none | some (.char '|') | some (.char ')') => return found.reverse
    | some t =>
      let _ ← next
      match t with
      | .escape c => row verbose first ((← escape c) :: found) fuel
      | .char c =>
        if verbose ∧ isPatternBlank c then row verbose first found fuel
        else if verbose ∧ c = '#' then do
          lineComment (← left)
          row verbose first found fuel
        else
          let here ← position
          match c with
          | '[' => row verbose first ((← characterClass) :: found) fuel
          | '?' => row verbose first (← repeatLast found 0 (some 1) (here - 1)) fuel
          | '*' => row verbose first (← repeatLast found 0 none (here - 1)) fuel
          | '+' => row verbose first (← repeatLast found 1 none (here - 1)) fuel
          | '{' =>
            match ← braces here with
            | none => row verbose first (.char c.toNat :: found) fuel
            | some (least, most) =>
              row verbose first (← repeatLast found least most (here - 1)) fuel
          | '.' => row verbose first (.any :: found) fuel
          | '^' => row verbose first (.anchor .start :: found) fuel
          | '$' => row verbose first (.anchor .stop :: found) fuel
          | '(' =>
            -- A comment or settings leave no part, and what repeats behind them is about the
            -- part before them.
            let (part, verbose) ← parenthesis verbose (here - 1) (first && found.isEmpty) fuel
            row verbose first (part.toList ++ found) fuel
          | c => row verbose first (.char c.toNat :: found) fuel

/-- What stands in a parenthesis that opens at `start`, if it is a part, and whether blanks count
after it. -/
def parenthesis (verbose : Bool) (start : Nat) (atStart : Bool) :
    Nat → Reader (Option Node × Bool)
  | 0 => fail "too many groups"
  | fuel + 1 => do
    match ← opening start atStart with
    | .nothing =>
      -- Settings of the whole pattern can turn blanks and comments on.
      let r ← get
      return (none, verbose || (atStart && r.flags.verbose))
    | .whole n => return (some n, verbose)
    | .capture name =>
      let number ← openGroup name
      let body ← alternatives verbose true [] fuel
      close start
      closeGroup number body
      return (some (.group (some number) body), verbose)
    | .plain =>
      let body ← alternatives verbose true [] fuel
      close start
      return (some (.group none body), verbose)
    | .atomic =>
      let body ← alternatives verbose true [] fuel
      close start
      return (some (.atomic body), verbose)
    | .scoped on off =>
      let body ← alternatives ((verbose || on.verbose) && !off.verbose) true [] fuel
      close start
      return (some (.scoped on off body), verbose)
    | .look negated back =>
      -- Only the outermost condition on what comes before says which groups are out of reach.
      let before := (← get).behind
      if back ∧ before.isNone then
        modify fun r => { r with behind := some r.widths.length }
      let body ← alternatives verbose true [] fuel
      if back then modify fun r => { r with behind := before }
      close start
      let r ← get
      let width := if back then some (rowWidth r.widths body) else none
      return (some (.look negated width body), verbose)
    | .conditional =>
      let number ← conditionGroup
      let yes ← row verbose false [] fuel
      let no ← if ← take '|' then do
          let no ← row verbose false [] fuel
          -- A choice has two sides at most.
          if (← peek) = some (.char '|') then
            fail "conditional backref with more than two branches"
          pure no
        else pure []
      close start
      return (some (.conditional number yes no), verbose)

end

/-! ### Checks of the whole -/

/-- The name of a repetition by its greed. -/
def Greed.name : Greed → String
  | .most => "MAX_REPEAT"
  | .least => "MIN_REPEAT"
  | .possessive => "POSSESSIVE_REPEAT"

mutual

/-- Refuse what a part cannot be, though it is well written. -/
def Node.check (rigid : Bool) : Node → Except Failure Unit
  | .char _ | .any | .members .. | .anchor _ | .reference _ => .ok ()
  | .group _ body | .scoped _ _ body | .atomic body => checkRow rigid body
  | .look _ behind body => do
    if let some w := behind then
      if countLimit < w.least then throw ⟨.pattern, "looks too much behind"⟩
      if w.least ≠ w.most then throw ⟨.pattern, "look-behind requires fixed-width pattern"⟩
    checkRow rigid body
  | .conditional _ yes no => do
    checkRow rigid yes
    checkRow rigid no
  | .branch alternatives => checkRows rigid alternatives
  | .repeated greed _ _ body => do
    if rigid then
      throw ⟨.pattern, "internal: unsupported template operator " ++ greed.name⟩
    checkRow rigid body

/-- Refuse what parts in a row cannot be. -/
def checkRow (rigid : Bool) : List Node → Except Failure Unit
  | [] => .ok ()
  | n :: rest => do
    n.check rigid
    checkRow rigid rest

/-- Refuse what alternatives cannot be. -/
def checkRows (rigid : Bool) : List (List Node) → Except Failure Unit
  | [] => .ok ()
  | r :: rest => do
    checkRow rigid r
    checkRows rigid rest

end

/-- A whole pattern. -/
def whole : Reader Pattern := do
  -- Rows, alternatives and parentheses take from one bound, a few times for each character.
  let body ← alternatives false false [] (4 * (← left) + 4)
  let r ← get
  if r.flags.ascii ∧ r.flags.unicode then
    throw (.value "ASCII and UNICODE flags are incompatible")
  if (← peek).isSome then fail "unbalanced parenthesis"
  for (number, place) in r.mentioned do
    if r.widths.length ≤ number then
      failFrom ("invalid group reference " ++ toString number) place
  return ⟨r.flags, r.widths.length - 1, r.names, body⟩

/-- The pattern of a text. -/
def ofText (text : String) : Except Failure Pattern := do
  let cursor ← Cursor.start text.toList
  let (p, _) ← whole.run ⟨cursor, .empty, [none], [], none, []⟩
  checkRow p.flags.rigid p.body
  return p

end Playbook.Pattern
