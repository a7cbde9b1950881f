import Playbook.Decimal.Numeral
import Playbook.Template.Token
import Playbook.Text.Literal

/-!
# Literals of templates

The numbers and quoted texts of a template. Each reader takes the characters from a place on and
gives what the literal is made of and the characters after it.

Main definitions:

- `Template.float?`, `Template.integer?`: the longest number at a place;
- `Template.quoted?`, `Template.unescape`: a quoted text and what its escapes mean.
-/

namespace Playbook.Template

/-! ### Numbers -/

/-- Digits of a kind, before each of which an underscore may stand, and the characters after
them. -/
def moreDigits (isDigit : Char → Bool) : List Char → List Char × List Char
  | [] => ([], [])
  | c :: rest =>
    if isDigit c then
      let (ds, after) := moreDigits isDigit rest
      (c :: ds, after)
    -- An underscore counts only between two digits.
    else if c = '_' ∧ rest.head?.any isDigit then moreDigits isDigit rest
    else ([], c :: rest)

/-- At least one digit, with underscores between digits left out. -/
def someDigits? (isDigit : Char → Bool) : List Char → Option (List Char × List Char)
  | c :: rest => if isDigit c then some (moreDigits isDigit (c :: rest)) else none
  | [] => none

/-- The value of decimal digits. -/
def decimalOf (ds : List Char) : Nat :=
  Numeral.ofDigits 10 (ds.map fun d => (Unicode.decimalValue? d).getD 0)

/-- An exponent: a letter, a sign if there is one, and digits. -/
def exponent? : List Char → Option (Int × List Char)
  | [] => none
  | e :: rest =>
    -- A letter without digits after it is no exponent, and ends the number.
    if e = 'e' ∨ e = 'E' then
      let (negative, rest) := Numeral.sign rest
      (someDigits? Unicode.isDecimal rest).map fun (ds, after) =>
        (Numeral.signed negative (decimalOf ds), after)
    else none

/-- A point with digits after it. -/
def fraction? : List Char → Option (List Char × List Char)
  | '.' :: rest => someDigits? Unicode.isDecimal rest
  | _ => none

/-- What is wrong with the letters of a double that are not all ASCII: the first one, the zeros in
front of a whole number that another letter ends, or the letter after a part of the number. -/
def foreignDigits (cs : List Char) : Failure :=
  let problem : String :=
    match cs.find? fun c => c ≠ '0' with
    | some c =>
      let afterZeros := cs.dropWhile (· == '0')
      let next := afterZeros.dropWhile Char.isDigit
      if cs.head? = some c ∧ ¬ Unicode.isAscii c then
        "invalid character '" ++ String.singleton c ++ "' (U+" ++
          (String.ofList (Literal.hex (if c.toNat < 0x10000 then 4 else 5) c.toNat)).toUpper ++ ")"
      else if cs.head? = some '0' ∧ c.isDigit ∧ next.head?.any (¬ Unicode.isAscii ·) then
        "leading zeros in decimal integer literals are not permitted; " ++
          "use an 0o prefix for octal integers"
      else "invalid decimal literal"
    | none => "invalid decimal literal"
  ⟨.grammar, problem ++ " (<unknown>, line 1)"⟩

/-- The double at a place: digits with a fraction, an exponent or both. Digits that are not ASCII
make it longer, but give it no value. -/
def float? (cs : List Char) : Option (Except Failure Binary64 × List Char) := do
  let (whole, afterWhole) ← someDigits? Unicode.isDecimal cs
  let (part, afterPart) := (fraction? afterWhole).getD ([], afterWhole)
  -- Without a fraction there must be an exponent, as else it would be an integer.
  let (e, after) ← (exponent? afterPart).or
    (if part.isEmpty then none else some (0, afterPart))
  let letters := (cs.take (cs.length - after.length)).filter (· ≠ '_')
  if letters.all Unicode.isAscii then
    -- The digits of the fraction are put behind the others, and the exponent is smaller by their
    -- number.
    return (.ok (Binary64.ofDecimal false (decimalOf (whole ++ part)) (e - part.length)), after)
  else return (.error (foreignDigits letters), after)

/-- The integer of digits in a base; decimal ones may not be too many. -/
def integerOf (base : Nat) (ds : List Char) : Except Failure Nat :=
  if base = 10 ∧ Numeral.digitLimit < ds.length then .error (Numeral.tooLongFailure ds.length)
  else
    .ok (Numeral.ofDigits base (ds.map fun d =>
      ((Unicode.decimalValue? d).or (Numeral.digitValue? base d)).getD 0))

/-- Whether a character is a digit of a base that a letter stands for. -/
def isBaseDigit (base : Nat) (c : Char) : Bool :=
  if base = 16 then Unicode.isDecimal c || (Numeral.digitValue? 16 c).isSome
  else (Numeral.digitValue? base c).isSome

/-- The integer at a place: a base by letter, a decimal that does not start with zero, or zeros. -/
def integer? (cs : List Char) : Option (Except Failure Nat × List Char) :=
  let based (base : Nat) (rest : List Char) : Option (Except Failure Nat × List Char) :=
    match moreDigits (isBaseDigit base) rest with
    | ([], _) => none
    | (ds, after) => some (integerOf base ds, after)
  match cs with
  -- A zero may be followed by more zeros, or by the letter of a base and digits of it.
  | '0' :: b :: rest =>
    let zeros := some (.ok 0, (moreDigits (· == '0') (b :: rest)).2)
    if b = 'b' ∨ b = 'B' then (based 2 rest).or zeros
    else if b = 'o' ∨ b = 'O' then (based 8 rest).or zeros
    else if b = 'x' ∨ b = 'X' then (based 16 rest).or zeros
    else zeros
  | ['0'] => some (.ok 0, [])
  | c :: rest =>
    if '1' ≤ c ∧ c ≤ '9' then
      let (ds, after) := moreDigits Unicode.isDecimal rest
      some (integerOf 10 (c :: ds), after)
    else none
  | [] => none

/-! ### Quoted texts -/

/-- The characters up to a closing quote, and those after it. A backslash takes the next character
with it. -/
def quotedBody? (quote : Char) : List Char → Option (List Char × List Char)
  | [] => none
  | '\\' :: c :: rest =>
    (quotedBody? quote rest).map fun (body, after) => ('\\' :: c :: body, after)
  | c :: rest =>
    if c = quote then some ([], rest)
    -- A backslash at the end takes nothing with it, so the quote is not closed.
    else if c = '\\' then none
    else (quotedBody? quote rest).map fun (body, after) => (c :: body, after)

/-- The characters between quotes at a place, and those after the closing quote. -/
def quoted? : List Char → Option (List Char × List Char)
  | c :: rest => if c = '\'' ∨ c = '"' then quotedBody? c rest else none
  | [] => none

/-- The character of an escape by one letter. -/
def simpleEscape? : Char → Option Char
  | '\\' => some '\\'
  | '\'' => some '\''
  | '"' => some '"'
  | 'a' => some '\x07'
  | 'b' => some '\x08'
  | 'f' => some '\x0c'
  | 'n' => some '\n'
  | 'r' => some '\r'
  | 't' => some '\t'
  | 'v' => some '\x0b'
  | _ => none

/-- How many digits an escape by number has, and what is wrong if they are missing. -/
def numericEscape? : Char → Option (Nat × String)
  | 'x' => some (2, "truncated \\xXX escape")
  | 'u' => some (4, "truncated \\uXXXX escape")
  | 'U' => some (8, "truncated \\UXXXXXXXX escape")
  | _ => none

/-- Whether a character is an octal digit. -/
def isOctalDigit (c : Char) : Bool := '0' ≤ c && c ≤ '7'

/-- Whether a character is a hexadecimal digit. -/
def isHexDigit (c : Char) : Bool := (Numeral.digitValue? 16 c).isSome

/-- The number of digits of a base. -/
def valueOfDigits (base : Nat) (ds : List Char) : Nat :=
  Numeral.ofDigits base (ds.map fun d => (Numeral.digitValue? base d).getD 0)

/-- What the escapes of ASCII characters mean; `fuel` bounds the number of characters. -/
def unescapeAscii : Nat → List Char → Except Failure (List Char)
  | 0, _ => .ok []
  | _, [] => .ok []
  | fuel + 1, '\\' :: c :: rest =>
    if c = '\n' then unescapeAscii fuel rest
    else
      match simpleEscape? c, numericEscape? c with
      | some d, _ => (d :: ·) <$> unescapeAscii fuel rest
      | none, some (count, problem) =>
        let ds := (rest.take count).takeWhile isHexDigit
        let n := valueOfDigits 16 ds
        if ds.length < count then .error (malformed problem)
        else if 0x110000 ≤ n then .error (malformed "illegal Unicode character")
        else (CodePoint.toChar n :: ·) <$> unescapeAscii fuel (rest.drop count)
      | none, none =>
        if isOctalDigit c then
          let ds := c :: (rest.take 2).takeWhile isOctalDigit
          (Char.ofNat (valueOfDigits 8 ds) :: ·) <$> unescapeAscii fuel (rest.drop (ds.length - 1))
        else if c = 'N' then
          match rest with
          | '\x7b' :: name =>
            if name.contains '\x7d' then .error (malformed "unknown Unicode character name")
            else .error (malformed "malformed \\N character escape")
          | _ => .error (malformed "malformed \\N character escape")
        else ('\\' :: c :: ·) <$> unescapeAscii fuel rest
  | fuel + 1, c :: rest => (c :: ·) <$> unescapeAscii fuel rest

/-- What the escapes of a quoted text mean. Other characters than ASCII stand for themselves, but
one after a backslash is shown by its number. -/
def unescape (body : List Char) : Except Failure (List Char) :=
  let ascii := body.flatMap fun c => if Unicode.isAscii c then [c] else Literal.escapeForeign c
  unescapeAscii ascii.length ascii

end Playbook.Template
