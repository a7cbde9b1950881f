import Playbook.Decimal.Binary64
import Playbook.Unicode.Char
import Playbook.Text.Literal
import Playbook.Failure

/-!
# Reading numbers

Integers in a base and doubles from texts. Blanks around a number do not count, digits of any
script will do, and single underscores may stand between digits.

Main definitions: `Numeral.int`, `Numeral.float`.
-/

namespace Playbook

namespace Numeral

/-- Blanks that may stand around a number: all but the information separators. -/
def isBlank (c : Char) : Bool :=
  if Unicode.isAscii c then (9 ≤ c.toNat && c.toNat ≤ 13) || c == ' ' else Unicode.isBlank c

/-- The text without blanks at its ends. -/
def trim (cs : List Char) : List Char :=
  ((cs.dropWhile isBlank).reverse.dropWhile isBlank).reverse

/-- Digits of other scripts as those of ASCII. -/
def asciiDigits (cs : List Char) : List Char :=
  cs.map fun c =>
    match Unicode.decimalValue? c with
    | some n => Char.ofNat (n + 48)
    | none => c

/-- Split off the sign: whether it is negative. -/
def sign : List Char → Bool × List Char
  | '-' :: rest => (true, rest)
  | '+' :: rest => (false, rest)
  | cs => (false, cs)

/-- The value of a digit of a base up to thirty-six. -/
def digitValue? (base : Nat) (c : Char) : Option Nat :=
  let n :=
    if c.isDigit then c.toNat - 48
    else if 'a' ≤ c ∧ c ≤ 'z' then c.toNat - 87
    else if 'A' ≤ c ∧ c ≤ 'Z' then c.toNat - 55
    else base
  if n < base then some n else none

/-- The values of digits between which single underscores may stand. -/
def digitRun (base : Nat) : List Char → Option (List Nat)
  | [] => none
  | [c] => (digitValue? base c).map ([·])
  | c :: '_' :: d :: rest => do
    let n ← digitValue? base c
    let ns ← digitRun base (d :: rest)
    return n :: ns
  | c :: d :: rest => do
    let n ← digitValue? base c
    let ns ← digitRun base (d :: rest)
    return n :: ns

/-- The letter that marks a base in front of its digits. -/
def baseMark? : Nat → Option Char
  | 2 => some 'b'
  | 8 => some 'o'
  | 16 => some 'x'
  | _ => none

/-- The digits after the mark of their base, if there is one. -/
def dropBaseMark (base : Nat) (cs : List Char) : List Char :=
  match cs, baseMark? base with
  | '0' :: m :: rest, some mark =>
    if m.toLower = mark then
      match rest with
      | '_' :: digits => digits
      | digits => digits
    else cs
  | _, _ => cs

/-- The most digits an integer may be read with in a base that is no power of two. -/
def digitLimit : Nat := 4300

/-- The failure of reading an integer with too many digits. -/
def tooLongFailure (count : Nat) : Failure :=
  .value ("Exceeds the limit (4300 digits) for integer string conversion: value has " ++
    toString count ++ " digits; use sys.set_int_max_str_digits() to increase the limit")

/-- The failure of reading an integer; it shows two hundred characters of the text at most. -/
def noInteger (base : Nat) (literal : String) : Failure :=
  .value ("invalid literal for int() with base " ++ toString base ++ ": " ++
    String.ofList (literal.toList.take 200))

/-- The value of digits in a base. -/
def ofDigits (base : Nat) (ns : List Nat) : Nat := ns.foldl (fun acc d => acc * base + d) 0

/-- A natural with a sign. -/
def signed (negative : Bool) (n : Nat) : Int := if negative then -(n : Int) else n

/-- The integer that characters stand for in a base; the literal is for the message. -/
def intOf (base : Nat) (literal : String) (cs : List Char) : Except Failure Int :=
  let (negative, cs) := sign (asciiDigits (trim cs))
  match digitRun base (dropBaseMark base cs) with
  | none => .error (noInteger base literal)
  | some ns =>
    if baseMark? base = none ∧ digitLimit < ns.length then .error (tooLongFailure ns.length)
    else .ok (signed negative (ofDigits base ns))

/-- The integer a text stands for in a base. -/
def int (base : Nat) (s : String) : Except Failure Int := intOf base (Literal.text s) s.toList

/-! ### Doubles -/

/-- Whether every underscore stands between two digits. -/
def underscoresBetweenDigits : List Char → Bool
  | [] => true
  | '_' :: _ => false
  | [_] => true
  | c :: '_' :: d :: rest => c.isDigit && d.isDigit && underscoresBetweenDigits (d :: rest)
  | _ :: d :: rest => underscoresBetweenDigits (d :: rest)

/-- An exponent at the end of a number; without a mark there is none. -/
def exponent? : List Char → Option Int
  | [] => some 0
  | e :: rest =>
    if e = 'e' ∨ e = 'E' then
      let (negative, ds) := sign rest
      match digitRun 10 ds with
      | some ns => some (signed negative (ofDigits 10 ns))
      | none => none
    else none

/-- The double an unsigned text without underscores stands for. -/
def unsigned? (negative : Bool) (cs : List Char) : Option Binary64 :=
  let word := String.ofList (cs.map Char.toLower)
  if word = "inf" ∨ word = "infinity" then some (Binary64.infinity negative)
  else if word = "nan" then some Binary64.nan
  else
    let whole := cs.takeWhile Char.isDigit
    let rest := cs.dropWhile Char.isDigit
    let (fraction, rest) := match rest with
      | '.' :: tail => (tail.takeWhile Char.isDigit, tail.dropWhile Char.isDigit)
      | rest => ([], rest)
    if whole.isEmpty ∧ fraction.isEmpty then none
    else
      match exponent? rest with
      | none => none
      | some e =>
        let n := ofDigits 10 ((whole ++ fraction).map fun d => d.toNat - 48)
        some (Binary64.ofDecimal negative n (e - (fraction.length : Int)))

/-- The double a text stands for. -/
def float? (cs : List Char) : Option Binary64 :=
  let cs := asciiDigits (trim cs)
  if ¬ underscoresBetweenDigits cs then none
  else
    let (negative, cs) := sign (cs.filter (· != '_'))
    unsigned? negative cs

/-- The failure of reading a double. -/
def noFloat (literal : String) : Failure :=
  .value ("could not convert string to float: " ++ literal)

/-- The double a text stands for. -/
def float (s : String) : Except Failure Binary64 :=
  match float? s.toList with
  | some x => .ok x
  | none => .error (noFloat (Literal.text s))

end Numeral

end Playbook
