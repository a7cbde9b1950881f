import Playbook.Decimal.Notation
import Playbook.Template.Access

/-!
# Texts with percent signs

In a text that is put before data with a percent sign, every conversion takes the next datum, or the
one of a key, and shows it as a text, as an integer or as a decimal of some width.

Main definitions:

- `Template.Conversion`: a percent sign with what follows it;
- `Template.formatPercent`: a text with its conversions filled in.
-/

namespace Playbook.Template

/-! ### Conversions -/

/-- How a datum is shown. -/
structure Conversion where
  /-- Whether it stands at the left. -/
  left : Bool
  /-- Whether a plus sign is shown. -/
  plus : Bool
  /-- Whether a blank stands in the place of a plus sign. -/
  blank : Bool
  /-- Whether the base of an integer is shown. -/
  marked : Bool
  /-- Whether zeros fill the width. -/
  zeros : Bool
  /-- The least width. -/
  width : Nat
  /-- The number of digits, or of characters at most. -/
  precision : Option Nat
deriving Repr

namespace Conversion

/-- No demands. -/
def plain : Conversion := ⟨false, false, false, false, false, 0, none⟩

/-- The conversion with the demand of a sign. -/
def withFlag? (c : Conversion) : Char → Option Conversion
  | '-' => some { c with left := true }
  | '+' => some { c with plus := true }
  | ' ' => some { c with blank := true }
  | '#' => some { c with marked := true }
  | '0' => some { c with zeros := true }
  | _ => none

/-- The conversion with the demands of the signs at the start of a text, and the rest. -/
def flags (c : Conversion) : List Char → Conversion × List Char
  | [] => (c, [])
  | f :: rest =>
    match c.withFlag? f with
    | some c => flags c rest
    | none => (c, f :: rest)

/-- Blanks that a text lacks to a width. -/
def lack (width : Nat) (fill : Char) (text : List Char) : List Char :=
  List.replicate (width - text.length) fill

/-- A text, filled up with blanks. -/
def placeText (c : Conversion) (text : List Char) : List Char :=
  if c.left then text ++ lack c.width ' ' text else lack c.width ' ' text ++ text

/-- A number whose sign, mark of the base and digits are given, filled up. -/
def placeNumber (c : Conversion) (negative : Bool) (mark digits : List Char) : List Char :=
  let sign :=
    -- A minus stands for itself, a plus or a blank only if it is asked for.
    if negative then ['-'] else if c.plus then ['+'] else if c.blank then [' '] else []
  let whole := sign ++ mark ++ digits
  if c.left then whole ++ lack c.width ' ' whole
  -- Zeros come between the sign and the digits, blanks in front of both.
  else if c.zeros then sign ++ mark ++ lack c.width '0' whole ++ digits
  else lack c.width ' ' whole ++ whole

end Conversion

/-! ### Digits -/

/-- The digits of a number in a base, in small or in capital letters. -/
def digitsIn (base : Nat) (capital : Bool) (n : Nat) : List Char :=
  let ds := Nat.toDigits base n
  if capital then ds.map Char.toUpper else ds

/-- An integer in the notation of a letter. -/
def Conversion.integer (c : Conversion) (letter : Char) (i : Int) : List Char :=
  let (base, mark, capital) : Nat × List Char × Bool := match letter with
    | 'o' => (8, ['0', 'o'], false)
    | 'x' => (16, ['0', 'x'], false)
    | 'X' => (16, ['0', 'X'], true)
    | _ => (10, [], false)
  let ds := digitsIn base capital i.natAbs
  -- A precision asks for more digits, which are zeros in front.
  let ds := List.replicate (c.precision.getD 0 - ds.length) '0' ++ ds
  c.placeNumber (i < 0) (if c.marked then mark else []) ds

/-- The digits of a double in the notation of a letter, without a sign. -/
def doubleDigits (letter : Char) (precision : Nat) (marked : Bool) (x : Binary64) : List Char :=
  let x := x.magnitude
  let text := match letter with
    | 'e' => x.scientific precision 'e' marked
    | 'E' => x.scientific precision 'E' marked
    | 'g' => x.general precision 'e' marked
    | 'G' => x.general precision 'E' marked
    | _ => x.fixed precision marked
  if letter.isUpper then text.toList.map Char.toUpper else text.toList

/-- A double in the notation of a letter. -/
def Conversion.double (c : Conversion) (letter : Char) (x : Binary64) : List Char :=
  -- What is no number has no sign.
  c.placeNumber (x.isNegative && !x.isNaN) []
    (doubleDigits letter (c.precision.getD 6) c.marked x)

/-- A text in which characters other than ASCII are shown by their numbers. -/
def escapeForeign (s : String) : List Char :=
  s.toList.flatMap fun c => if Unicode.isAscii c then [c] else Literal.escapeForeign c

/-! ### Operands -/

/-- What there is to fill in. -/
inductive Operands where
  /-- A row, of which every conversion takes the next one. -/
  | row (rest : List Datum)
  /-- One datum, of which keys may be asked for. -/
  | single (d : Datum) (taken keyed : Bool)

/-- The failure of too few operands. -/
def tooFew {α : Type} : Eval α := Eval.typeFault "not enough arguments for format string"

/-- The next operand, and those after it. -/
def Operands.next : Operands → Eval (Datum × Operands)
  | .row (d :: rest) => return (d, .row rest)
  | .row [] => tooFew
  -- A single datum is taken once, unless a key asks for another one.
  | .single d false keyed => return (d, .single d true keyed)
  | .single _ true _ => tooFew

/-- The operand that is an integer for a width or a number of digits. -/
def Operands.nextCount (o : Operands) : Eval (Int × Operands) := do
  let (d, o) ← o.next
  match d.int? with
  | some i => return (i, o)
  | none => Eval.typeFault "* wants int"

/-- Whether keys may be asked of a datum. -/
def Datum.isKeyed (d : Datum) : Eval Bool := do
  match d with
  | .missing _ | .range .. | .bytes _ => return true
  | .cell r =>
    match ← Eval.cell r with
    | .list _ | .map _ => return true
    | _ => return false
  | _ => return false

/-- The integer that a conversion shows. -/
def Datum.asInteger (d : Datum) (letter : Char) : Eval Int := do
  let whole := letter = 'o' ∨ letter = 'x' ∨ letter = 'X'
  let refuse : Eval Int := do
    let wanted := if whole then "an integer" else "a real number"
    Eval.typeFault ("%" ++ String.singleton letter ++ " format: " ++ wanted ++
      " is required, not " ++ (← d.typeName))
  match d, d.number? with
  -- An undefined value is refused by type where only integers are taken, and fails by itself
  -- otherwise.
  | .missing why, _ => if whole then refuse else Eval.missingFault why
  | _, some (.int i) => return i
  | _, some (.float x) =>
    if whole then refuse
    else
      match x.truncate? with
      | some i => return i
      | none =>
        if x.isNaN then Eval.valueFault "cannot convert float NaN to integer"
        else throw (.overflow "cannot convert float infinity to integer")
  | _, none => refuse

/-- The double that a conversion shows. -/
def Datum.asDouble (d : Datum) : Eval Binary64 := do
  match d, d.number? with
  | .missing why, _ => Eval.missingFault why
  | _, some n => Eval.ofExcept (Number.double n)
  | _, none => Eval.typeFault ("must be real number, not " ++ (← d.typeName))

/-- The character that a conversion shows. -/
def Datum.asChar (d : Datum) : Eval (List Char) := do
  match d, d.int? with
  | .str s, _ =>
    match s.toList with
    | [c] => return [c]
    | _ => Eval.typeFault "%c requires int or char"
  | _, some i =>
    if 0 ≤ i ∧ i < 0x110000 then return [CodePoint.toChar i.toNat]
    else throw (.overflow "%c arg not in range(0x110000)")
  | _, none => Eval.typeFault "%c requires int or char"

/-! ### Filling in -/

/-- The characters up to the parenthesis that closes a key, and those after it. -/
def keyText? (depth : Nat) : List Char → Option (List Char × List Char)
  | [] => none
  | ')' :: rest =>
    match depth with
    -- Parentheses inside of a key are part of it.
    | 0 => some ([], rest)
    | depth + 1 => (keyText? depth rest).map fun (k, after) => (')' :: k, after)
  | '(' :: rest => (keyText? (depth + 1) rest).map fun (k, after) => ('(' :: k, after)
  | c :: rest => (keyText? depth rest).map fun (k, after) => (c :: k, after)

/-- The natural that decimal digits denote. -/
def countOf (ds : List Char) : Nat := ds.foldl (fun n d => n * 10 + (d.toNat - 48)) 0

/-- A datum as a conversion with a letter shows it. -/
def Conversion.show? (c : Conversion) (letter : Char) (d : Datum) : Eval (Option (List Char)) := do
  -- Of a text a precision leaves as many characters.
  let cut (s : List Char) : List Char := match c.precision with
    | some n => s.take n
    | none => s
  match letter with
  | 's' => return some (c.placeText (cut (← d.text).toList))
  | 'r' => return some (c.placeText (cut (← d.literal).toList))
  | 'a' => return some (c.placeText (cut (escapeForeign (← d.literal))))
  | 'c' => return some (c.placeText (← d.asChar))
  | 'd' | 'i' | 'u' | 'o' | 'x' | 'X' =>
    let i ← d.asInteger letter
    -- Only decimal digits are limited in their number.
    if Scalar.isTooLong i ∧ (letter = 'd' ∨ letter = 'i' ∨ letter = 'u') then
      throw Scalar.tooLongFailure
    return some (c.integer letter i)
  | 'e' | 'E' | 'f' | 'F' | 'g' | 'G' => return some (c.double letter (← d.asDouble))
  | _ => return none

/-- The failure of a conversion that breaks off. -/
def breaksOff {α : Type} : Eval α := Eval.valueFault "incomplete format"

/-- The greatest width. -/
def widthLimit : Nat := Nat.pow 2 63 - 1

/-- The greatest number of digits. -/
def precisionLimit : Nat := Nat.pow 2 31 - 1

/-- The failure of an integer that a machine word does not hold. -/
def tooLargeFor {α : Type} (word : String) : Eval α :=
  throw (.overflow ("Python int too large to convert to C " ++ word))

/-- The width at the start of a text, the rest of the text and of the operands. -/
def takeWidth (c : Conversion) (o : Operands) : List Char → Eval (Conversion × Operands × List Char)
  | '*' :: rest => do
    let (i, o) ← o.nextCount
    if widthLimit < i.natAbs then tooLargeFor "ssize_t"
    -- A negative width means that the datum stands at the left.
    return ({ c with left := c.left || i < 0, width := i.natAbs }, o, rest)
  | cs => do
    let width := countOf (cs.takeWhile Char.isDigit)
    if widthLimit < width then Eval.valueFault "width too big"
    return ({ c with width }, o, cs.dropWhile Char.isDigit)

/-- The number of digits at the start of a text, the rest of the text and of the operands. -/
def takePrecision (c : Conversion) (o : Operands) :
    List Char → Eval (Conversion × Operands × List Char)
  | '.' :: '*' :: rest => do
    let (i, o) ← o.nextCount
    if precisionLimit < i.natAbs then tooLargeFor "int"
    -- A negative number of digits counts as none.
    return ({ c with precision := some i.toNat }, o, rest)
  | '.' :: cs => do
    let precision := countOf (cs.takeWhile Char.isDigit)
    if precisionLimit < precision then Eval.valueFault "precision too big"
    return ({ c with precision := some precision }, o, cs.dropWhile Char.isDigit)
  | cs => return (c, o, cs)

/-- A text without a letter for a size at its start. -/
def dropSize : List Char → List Char
  | c :: rest => if c = 'h' ∨ c = 'l' ∨ c = 'L' then rest else c :: rest
  | [] => []

/-- A text with its conversions filled in, and the operands that are left. `length` is the length of
the whole text, and the number bounds the number of steps. -/
def fillPercent (whole : Datum) (length : Nat) :
    Nat → Operands → List Char → Eval (List Char × Operands)
  | 0, o, _ => return ([], o)
  | _, o, [] => return ([], o)
  | fuel + 1, o, '%' :: '%' :: rest => do
    let (text, o) ← fillPercent whole length fuel o rest
    return ('%' :: text, o)
  | fuel + 1, o, '%' :: cs => do
    let (o, cs) ←
      match cs with
      | '(' :: rest =>
        match o with
        | .single _ _ true =>
          match keyText? 0 rest with
          | some (key, after) =>
            let d ← whole.subscript (.chars key)
            -- The value of a key is one datum, which the rest of the conversion takes.
            pure (Operands.single d false true, after)
          | none => Eval.valueFault "incomplete format key"
        | _ => Eval.typeFault "format requires a mapping"
      | cs => pure (o, cs)
    let (c, cs) := Conversion.plain.flags cs
    let (c, o, cs) ← takeWidth c o cs
    let (c, o, cs) ← takePrecision c o cs
    match dropSize cs with
    | [] => breaksOff
    | letter :: rest =>
      let (d, o) ← o.next
      match ← c.show? letter d with
      | some shown =>
        let (text, o) ← fillPercent whole length fuel o rest
        return (shown ++ text, o)
      | none =>
        -- A character that cannot be printed is shown as a question mark, but with its number.
        let shown := if 31 ≤ letter.toNat ∧ letter.toNat ≤ 126 then letter else '?'
        Eval.valueFault ("unsupported format character '" ++ String.singleton shown ++ "' (0x" ++
          String.ofList (Nat.toDigits 16 letter.toNat) ++ ") at index " ++
          toString (length - rest.length - 1))
  | fuel + 1, o, ch :: cs => do
    let (text, o) ← fillPercent whole length fuel o cs
    return (ch :: text, o)

/-- A text with its conversions filled in from a tuple of data, or from one datum. -/
def formatPercent (text : String) (d : Datum) : Eval String := do
  let o ←
    match d with
    | .tuple _ items => pure (Operands.row items)
    | d => pure (Operands.single d false (← d.isKeyed))
  let cs := text.toList
  let (filled, left) ← fillPercent d cs.length (cs.length + 1) o cs
  -- Nothing may be left of a row, and a datum whose keys may be asked for need not be taken.
  match left with
  | .row (_ :: _) | .single _ false false =>
    Eval.typeFault "not all arguments converted during string formatting"
  | _ => return String.ofList filled

end Playbook.Template
