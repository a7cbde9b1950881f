import Playbook.Unicode.Letters
import Playbook.Unicode.Printable
import Playbook.Unicode.Numerals
import Playbook.Unicode.Identifiers
import Playbook.Unicode.Case

/-!
# Character classes and case mapping

The classes of characters that the program's texts are read by. Each class answers for the ASCII
characters without a table.

Main definitions:

- `Char.isLetter`, `Char.isNumeral`, `Char.isWord`, `Char.isBlank`, `Char.isPrintable`;
- `Char.decimalValue?`: the value of a decimal digit of any script;
- `Text.lower`, `Text.upper`, `Text.title`, `Text.capitalize`: case mapping of whole texts.
-/

namespace Playbook.Unicode

/-- Whether a character is ASCII. -/
def isAscii (c : Char) : Bool := c.toNat < 128

/-- Digits and letters of ASCII are in three ranges. -/
theorem isAlphanum_cases {c : Char} (h : c.isAlphanum = true) :
    (48 ≤ c.toNat ∧ c.toNat ≤ 57) ∨ (65 ≤ c.toNat ∧ c.toNat ≤ 90) ∨
      (97 ≤ c.toNat ∧ c.toNat ≤ 122) := by
  change (decide (65 ≤ c.val ∧ c.val ≤ 90) || decide (97 ≤ c.val) && decide (c.val ≤ 122) ||
    decide (48 ≤ c.val) && decide (c.val ≤ 57)) = true at h
  simp only [Bool.or_eq_true, Bool.and_eq_true, decide_eq_true_eq, UInt32.le_iff_toNat_le] at h
  change ((65 ≤ c.toNat ∧ c.toNat ≤ 90) ∨ (97 ≤ c.toNat ∧ c.toNat ≤ 122)) ∨
    (48 ≤ c.toNat ∧ c.toNat ≤ 57) at h
  omega

/-- Letters. -/
def isLetter (c : Char) : Bool :=
  if isAscii c then c.isAlpha else letters.contains c

/-- Characters with a numeric value. -/
def isNumeral (c : Char) : Bool :=
  if isAscii c then c.isDigit else numerals.contains c

/-- Characters that stand for a single digit. -/
def isDigit (c : Char) : Bool :=
  if isAscii c then c.isDigit else digits.contains c

/-- Decimal digits. -/
def isDecimal (c : Char) : Bool :=
  if isAscii c then c.isDigit else decimals.contains c

/-- The value of a decimal digit. -/
def decimalValue? (c : Char) : Option Nat :=
  if isAscii c then
    if c.isDigit then some (c.toNat - '0'.toNat) else none
  else if decimals.contains c then some ((c.toNat - (decimals.rangeOf c.toNat).1) % 10)
  else none

/-- The natural that decimal digits denote. -/
def naturalOf (ds : List Char) : Nat := ds.foldl (fun n c => n * 10 + (decimalValue? c).getD 0) 0

/-- Letters and numerals. -/
def isAlphanumeric (c : Char) : Bool := isLetter c || isNumeral c

/-- Letters, numerals and the underscore. -/
def isWord (c : Char) : Bool := c == '_' || isAlphanumeric c

/-- White space: the blanks and line ends of ASCII, the four information separators, and the
space separators and line ends beyond ASCII. -/
def isBlank (c : Char) : Bool :=
  let n := c.toNat
  (9 ≤ n && n ≤ 13) || (28 ≤ n && n ≤ 32) || n == 0x85 || n == 0xA0 || n == 0x1680 ||
    (0x2000 ≤ n && n ≤ 0x200A) || n == 0x2028 || n == 0x2029 || n == 0x202F || n == 0x205F ||
    n == 0x3000

/-- Characters that a quoted text shows as they are. -/
def isPrintable (c : Char) : Bool :=
  if isAscii c then 32 ≤ c.toNat && c.toNat < 127 else printable.contains c

/-- Characters an identifier may start with. -/
def isIdentifierStart (c : Char) : Bool :=
  if isAscii c then c == '_' || c.isAlpha else identifierStarts.contains c

/-- Characters an identifier may contain after its first. -/
def isIdentifierPart (c : Char) : Bool :=
  if isAscii c then c == '_' || c.isAlphanum else identifierParts.contains c

/-- Whether a text is an identifier. -/
def isIdentifier : List Char → Bool
  | [] => false
  | c :: rest => isIdentifierStart c && rest.all isIdentifierPart

/-- Lower case letters. -/
def isLower (c : Char) : Bool := if isAscii c then c.isLower else lowercase.contains c

/-- Upper case letters. -/
def isUpper (c : Char) : Bool := if isAscii c then c.isUpper else uppercase.contains c

/-- Title case letters. -/
def isTitle (c : Char) : Bool := !isAscii c && titlecase.contains c

/-- Characters of some case. -/
def isCased (c : Char) : Bool := isLower c || isUpper c || isTitle c

/-- Characters that are passed over when the neighbours of a letter are looked for. -/
def isCaseIgnorable (c : Char) : Bool :=
  c == '\'' || c == '.' || c == ':' || c == '^' || c == '\x60' || c.toNat == 0xAD ||
    c.toNat == 0xB7 || c.toNat == 0x2019 ||
    (!isAscii c && isIdentifierPart c && !isWord c)

/-- The lower case of one character, out of context. -/
def lowerChar (c : Char) : List Char :=
  if isAscii c then [c.toLower] else toLowerTable.map c

/-- The upper case of one character. -/
def upperChar (c : Char) : List Char :=
  if isAscii c then [c.toUpper] else toUpperTable.map c

/-- The title case of one character. -/
def titleChar (c : Char) : List Char :=
  if isAscii c then [c.toUpper] else toTitleTable.map c

end Playbook.Unicode

namespace Playbook.Text

open Playbook.Unicode

/-! ### Case mapping of texts -/

/-- The lower case of a character between the reversed text before it and the text after it. A
capital sigma that ends a word has a form of its own. -/
def lowerIn (before after : List Char) (c : Char) : List Char :=
  if c.toNat = 0x3A3 then
    let ends := match after.dropWhile isCaseIgnorable with
      | [] => true
      | d :: _ => !isCased d
    let follows := match before.dropWhile isCaseIgnorable with
      | [] => false
      | d :: _ => isCased d
    [Char.ofNat (if follows && ends then 0x3C2 else 0x3C3)]
  else lowerChar c

/-- Map a text with a function of the reversed text before a character and of the text after. -/
def mapInContext (f : List Char → List Char → Char → List Char) : List Char → List Char → List Char
  | _, [] => []
  | before, c :: after => f before after c ++ mapInContext f (c :: before) after

/-- The lower case of a text. -/
def lower (s : List Char) : List Char := mapInContext lowerIn [] s

/-- The upper case of a text. -/
def upper (s : List Char) : List Char := s.flatMap upperChar

/-- Upper case for the first letter of every run of cased characters, lower case for the rest. -/
def title (s : List Char) : List Char :=
  mapInContext (fun before after c =>
    match before with
    | d :: _ => if isCased d then lowerIn before after c else titleChar c
    | [] => titleChar c) [] s

/-- Title case for the first character, lower case for the rest. -/
def capitalize : List Char → List Char
  | [] => []
  | c :: rest => titleChar c ++ mapInContext lowerIn [c] rest

/-- Upper case for lower case characters and the other way round. -/
def swapCase (s : List Char) : List Char :=
  mapInContext (fun before after c =>
    if isUpper c then lowerIn before after c
    else if isLower c then upperChar c
    else [c]) [] s

/-- Whether a text is in lower case. -/
def isLowerText (s : List Char) : Bool :=
  s.any isLower && s.all fun c => !(isUpper c || isTitle c)

/-- Whether a text is in upper case. -/
def isUpperText (s : List Char) : Bool :=
  s.any isUpper && s.all fun c => !(isLower c || isTitle c)

end Playbook.Text
