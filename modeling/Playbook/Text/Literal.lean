import Playbook.Text.CodePoint
import Playbook.Unicode.Char

/-!
# Quoted texts

The quoted form in which a text or a byte string is shown inside a container: between single
quotes, or between double quotes when the text holds a single quote and no double one. The quote
in use and the backslash are escaped, and so is every character that does not print.

Main definitions: `Literal.text`, `Literal.bytes`.
-/

namespace Playbook

namespace Literal

/-- A hexadecimal digit. -/
def hexDigit (n : Nat) : Char :=
  if n < 10 then Char.ofNat (n + '0'.toNat) else Char.ofNat (n - 10 + 'a'.toNat)

/-- A natural in hexadecimal with just `width` digits. -/
def hex : Nat → Nat → List Char
  | 0, _ => []
  | width + 1, n => hex width (n / 16) ++ [hexDigit (n % 16)]

/-- The quote to put around a text. -/
def quoteFor (s : List Char) : Char :=
  if s.contains '\'' && !s.contains '"' then '"' else '\''

/-- A character by its number, in as few digits of two, four or eight as will do. -/
def escapeForeign (c : Char) : List Char :=
  let n := CodePoint.ofChar c
  if n < 0x100 then '\\' :: 'x' :: hex 2 n
  else if n < 0x10000 then '\\' :: 'u' :: hex 4 n
  else '\\' :: 'U' :: hex 8 n

/-- The form of one character between quotes of a kind. -/
def escapeChar (quote c : Char) : List Char :=
  if c = quote || c = '\\' then ['\\', c]
  else if c = '\t' then ['\\', 't']
  else if c = '\n' then ['\\', 'n']
  else if c = '\r' then ['\\', 'r']
  else if Unicode.isPrintable c then [c]
  else escapeForeign c

/-- The quoted form of a text. -/
def chars (s : List Char) : List Char :=
  let q := quoteFor s
  q :: s.flatMap (escapeChar q) ++ [q]

/-- The quoted form of a text. -/
def text (s : String) : String := String.ofList (chars s.toList)

/-- The quoted form of a byte string, marked by a `b`; bytes outside ASCII are escaped. -/
def bytes (b : List UInt8) : String :=
  let s := b.map fun x => Char.ofNat x.toNat
  let q := quoteFor s
  let one (c : Char) : List Char :=
    if c.toNat < 0x80 then escapeChar q c else '\\' :: 'x' :: hex 2 c.toNat
  String.ofList ('b' :: q :: s.flatMap one ++ [q])

end Literal

end Playbook
