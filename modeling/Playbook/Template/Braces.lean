import Playbook.Calendar.Pattern
import Playbook.Template.Percent

/-!
# Texts with fields in braces

In a text that is filled in by its own function, a field in braces names an operand by position or
by name, then perhaps a part of it, and says how it is shown: at which side, with what sign, how
wide and with how many digits.

Main definitions:

- `Template.FieldStyle`: how a field is shown; `FieldStyle.ofSpec`;
- `Datum.shown`: a datum in a style;
- `Template.formatBraces`: a text with its fields filled in.
-/

namespace Playbook.Template

/-! ### Styles -/

/-- The side at which a text stands in its width. -/
inductive Side where
  /-- At the left. -/
  | left
  /-- At the right. -/
  | right
  /-- In the middle. -/
  | middle
  /-- At the right, with the sign at the left. -/
  | spread
deriving DecidableEq, Repr

/-- The side of a sign. -/
def Side.ofChar? : Char → Option Side
  | '<' => some .left
  | '>' => some .right
  | '^' => some .middle
  | '=' => some .spread
  | _ => none

/-- How a field is shown. -/
structure FieldStyle where
  /-- What fills the width. -/
  fill : Char
  /-- Where the text stands. -/
  side : Side
  /-- The sign of a number that is not negative, if it is set. -/
  sign : Option Char
  /-- Whether a number that is shown as zero has no sign. -/
  coerced : Bool
  /-- Whether the base of an integer is shown, and the point of a double in any case. -/
  marked : Bool
  /-- The least width. -/
  width : Nat
  /-- What stands between groups of digits. -/
  group : Option Char
  /-- The number of digits or characters. -/
  precision : Option Nat
  /-- The notation. -/
  letter : Option Char
deriving Repr

namespace FieldStyle

/-! #### Reading -/

/-- No demands: what stands at a side in a notation. -/
def plain (side : Side) (letter : Option Char) : FieldStyle :=
  ⟨' ', side, none, false, false, 0, none, none, letter⟩

/-- The number at the start of a specification, if there is one, and the rest. -/
def takeNumber (cs : List Char) : Except Failure (Option Nat × List Char) :=
  let ds := cs.takeWhile Unicode.isDecimal
  let n := Unicode.naturalOf ds
  if widthLimit < n then .error (.value "Too many decimal digits in format string")
  else .ok (if ds.isEmpty then none else some n, cs.dropWhile Unicode.isDecimal)

/-- The side at the start of a specification and what fills the width, each if it is given, and the
rest. -/
def takeSide : List Char → Option Char × Option Side × List Char
  | f :: a :: rest =>
    match Side.ofChar? a, Side.ofChar? f with
    | some side, _ => (some f, some side, rest)
    | none, some side => (none, some side, a :: rest)
    | none, none => (none, none, f :: a :: rest)
  | [a] =>
    match Side.ofChar? a with
    | some side => (none, some side, [])
    | none => (none, none, [a])
  | [] => (none, none, [])

/-- Whether a character stands at the start, and the rest after it. -/
def takeMark (mark : Char) : List Char → Bool × List Char
  | c :: rest => if c = mark then (true, rest) else (false, c :: rest)
  | [] => (false, [])

/-- The sign at the start of a specification, and the rest. -/
def takeSign : List Char → Option Char × List Char
  | c :: rest => if c = '+' ∨ c = '-' ∨ c = ' ' then (some c, rest) else (none, c :: rest)
  | [] => (none, [])

/-- What stands between groups of digits, and the rest. -/
def takeGroup (cs : List Char) : Except Failure (Option Char × List Char) :=
  let both : Except Failure (Option Char × List Char) :=
    .error (.value "Cannot specify both ',' and '_'.")
  match cs with
  | ',' :: '_' :: _ | '_' :: ',' :: _ => both
  | ',' :: rest => .ok (some ',', rest)
  | '_' :: rest => .ok (some '_', rest)
  | cs => .ok (none, cs)

/-- A character as messages show it: by its number if it is not one of ASCII. -/
def shownChar (c : Char) : String :=
  if 32 < c.toNat ∧ c.toNat < 128 then String.singleton c
  else "\\x" ++ String.ofList (Nat.toDigits 16 c.toNat)

/-- Refuse groups of digits in a notation that has none. -/
def checkGroup (s : FieldStyle) : Except Failure Unit :=
  match s.group, s.letter with
  | none, _ | _, none => .ok ()
  | some g, some c =>
    if ['d', 'e', 'f', 'g', 'E', 'G', '%', 'F'].contains c then .ok ()
    else if g = '_' ∧ ['b', 'o', 'x', 'X'].contains c then .ok ()
    else
      .error (.value ("Cannot specify '" ++ String.singleton g ++ "' with '" ++ shownChar c ++
        "'."))

/-- The style of a specification for a value of a type that usually stands at a side and is shown in
a notation. -/
def ofSpec (type : String) (usual : Side) (letter : Option Char) (spec : List Char) :
    Except Failure FieldStyle := do
  let (fill, side, cs) := takeSide spec
  let (sign, cs) := takeSign cs
  let (coerced, cs) := takeMark 'z' cs
  let (marked, cs) := takeMark '#' cs
  -- A zero before the width fills it, after the sign of a number, unless the fill is given.
  let (zeros, cs) := if fill.isSome then (false, cs) else takeMark '0' cs
  let side := side.getD (if zeros ∧ usual = .right then .spread else usual)
  let (width, cs) ← takeNumber cs
  let (group, cs) ← takeGroup cs
  let (precision, cs) ← match cs with
    | '.' :: rest => do
      let (n, rest) ← takeNumber rest
      if n.isNone then throw (.value "Format specifier missing precision")
      pure (n, rest)
    | cs => pure (none, cs)
  let fill := fill.getD (if zeros then '0' else ' ')
  let s : FieldStyle :=
    ⟨fill, side, sign, coerced, marked, width.getD 0, group, precision, letter⟩
  let s ← match cs with
    | [] => pure s
    | [c] => pure { s with letter := some c }
    | _ =>
      throw (.value ("Invalid format specifier '" ++ String.ofList spec ++
        "' for object of type '" ++ type ++ "'"))
  s.checkGroup
  return s

/-! #### Laying out -/

/-- A text in its width, after a sign. -/
def place (s : FieldStyle) (sign text : List Char) : List Char :=
  let free := s.width - (sign.length + text.length)
  let fill (n : Nat) : List Char := List.replicate n s.fill
  match s.side with
  | .left => sign ++ text ++ fill free
  | .right => fill free ++ sign ++ text
  | .middle => fill (free / 2) ++ sign ++ text ++ fill (free - free / 2)
  | .spread => sign ++ fill free ++ text

/-- Digits in groups of a size, the last digit first, with zeros up to a width; the number bounds
the number of groups. -/
def groupedFrom (mark : Char) (size : Nat) : Nat → Nat → List Char → List Char
  | 0, _, ds => ds
  | fuel + 1, width, ds =>
    let n := min size (max (max ds.length width) 1)
    let group := ds.take n ++ List.replicate (n - ds.length) '0'
    let rest := ds.drop n
    if rest.isEmpty && width ≤ n then group
    else group ++ mark :: groupedFrom mark size fuel (width - n - 1) rest

/-- Digits in groups, if groups are wanted, with zeros up to a width. -/
def groupDigits (s : FieldStyle) (size width : Nat) (ds : List Char) : List Char :=
  match s.group with
  | none => List.replicate (width - ds.length) '0' ++ ds
  | some mark => (groupedFrom mark size (ds.length + width) width ds.reverse).reverse

/-- A number in its width: a sign, digits before the point, and the rest. Where zeros fill the width
after the sign, they belong to the digits. -/
def placeNumber (s : FieldStyle) (size : Nat) (sign digits rest : List Char) : List Char :=
  -- Only zeros between the sign and the digits count for the groups of digits.
  let zeros := s.fill = '0' ∧ s.side = .spread
  let width := if zeros then s.width - (sign.length + rest.length) else 0
  s.place sign ((if digits.isEmpty then [] else s.groupDigits size width digits) ++ rest)

/-- The sign of a number. -/
def signOf (s : FieldStyle) (negative : Bool) : List Char :=
  if negative then ['-']
  else
    match s.sign with
    | some '+' => ['+']
    | some ' ' => [' ']
    | _ => []

/-! #### Showing -/

/-- The failure of a notation that a type does not have. -/
def unknownLetter {α : Type} (letter : Char) (type : String) : Except Failure α :=
  .error (.value ("Unknown format code '" ++ shownChar letter ++ "' for object of type '" ++ type ++
    "'"))

/-- The failure of a demand that a type does not meet. -/
def refuse {α : Type} (what : String) : Except Failure α :=
  .error (.value (what ++ " format specifier"))

/-- A text in a style. -/
def text (s : FieldStyle) (t : String) : Except Failure String := do
  match s.letter with
  | some c => if c ≠ 's' then unknownLetter c "str"
  | none => pure ()
  match s.sign with
  | some ' ' => refuse "Space not allowed in string"
  | some _ => refuse "Sign not allowed in string"
  | none => pure ()
  if s.coerced then refuse "Negative zero coercion (z) not allowed in string"
  if s.marked then refuse "Alternate form (#) not allowed in string"
  if s.side = .spread then refuse "'=' alignment not allowed in string"
  let cs := match s.precision with
    | some n => t.toList.take n
    | none => t.toList
  return String.ofList (s.place [] cs)

/-- The shortest digits of a double; where its point is shown in any case, also before an
exponent. -/
def shortest (s : FieldStyle) (x : Binary64) : List Char :=
  let cs := x.text.toList
  if s.marked && !cs.contains '.' then
    cs.flatMap fun c => if c = 'e' then ['.', 'e'] else [c]
  else cs

/-- The greatest number of digits that a double is shown with. -/
def checkPrecision (s : FieldStyle) : Except Failure Unit :=
  if precisionLimit < s.precision.getD 0 then .error (.value "precision too big") else .ok ()

/-- A double in a style. -/
def double (s : FieldStyle) (type : String) (x : Binary64) : Except Failure String := do
  let count := s.precision.getD 6
  let body : List Char ← match s.letter with
    | none => do
      s.checkPrecision
      match s.precision with
      | none => pure (s.shortest x.magnitude)
      | some n => pure (x.magnitude.general n 'e' s.marked true).toList
    | some '%' => do
      s.checkPrecision
      pure (((x.magnitude.multiply (.ofInt 100)).fixed count s.marked) ++ "%").toList
    | some c =>
      if ['e', 'E', 'f', 'F', 'g', 'G', 'n'].contains c then do
        s.checkPrecision
        pure (doubleDigits (if c = 'n' then 'g' else c) count s.marked x)
      else unknownLetter c type
  -- The sign of a zero is dropped, if it is to be, by the digits that are shown.
  let mantissa := body.takeWhile fun c => c != 'e' && c != 'E' && c != '%'
  let isZero := mantissa.all fun c => c == '0' || c == '.'
  let negative := x.isNegative && !x.isNaN && !(s.coerced && isZero)
  return String.ofList (s.placeNumber 3 (s.signOf negative) (body.takeWhile Char.isDigit)
    (body.dropWhile Char.isDigit))

/-- The character of an integer in a style. -/
def character (s : FieldStyle) (i : Int) : Except Failure String := do
  if s.sign.isSome then
    throw (.value "Sign not allowed with integer format specifier 'c'")
  if s.marked then
    throw (.value "Alternate form (#) not allowed with integer format specifier 'c'")
  if i < -Int.pow 2 63 ∨ Int.pow 2 63 ≤ i then
    throw (.overflow "Python int too large to convert to C long")
  if 0 ≤ i ∧ i < 0x110000 then
    return String.ofList (s.placeNumber 3 [] [] [CodePoint.toChar i.toNat])
  else throw (.overflow "%c arg not in range(0x110000)")

/-- An integer in a style. -/
def integer (s : FieldStyle) (type : String) (i : Int) : Except Failure String := do
  let letter := s.letter.getD 'd'
  if ['e', 'E', 'f', 'F', 'g', 'G', '%'].contains letter then
    double s type (← doubleOf i)
  else
    let (base, mark, capital) : Nat × List Char × Bool ← match letter with
      | 'd' | 'n' | 'c' => pure (10, [], false)
      | 'b' => pure (2, ['0', 'b'], false)
      | 'o' => pure (8, ['0', 'o'], false)
      | 'x' => pure (16, ['0', 'x'], false)
      | 'X' => pure (16, ['0', 'X'], true)
      | c => unknownLetter c type
    if s.precision.isSome then refuse "Precision not allowed in integer"
    if s.coerced then refuse "Negative zero coercion (z) not allowed in integer"
    if letter = 'c' then s.character i
    else
      if base = 10 ∧ Scalar.isTooLong i then throw Scalar.tooLongFailure
      let sign := s.signOf (i < 0) ++ (if s.marked then mark else [])
      let size := if base = 10 then 3 else 4
      return String.ofList (s.placeNumber size sign (digitsIn base capital i.natAbs) [])

end FieldStyle

/-- A datum in the style of a specification. -/
def Datum.shown (d : Datum) (spec : List Char) : Eval String := do
  if spec.isEmpty then d.text
  else
    let type ← d.typeName
    let style (usual : Side) (letter : Option Char) : Eval FieldStyle :=
      Eval.ofExcept (FieldStyle.ofSpec type usual letter spec)
    match d, d.number? with
    | .str s, _ => do Eval.ofExcept ((← style .left (some 's')).text s)
    | .scalar (.date _ d), _ => return (DateTime.ofDate d).fill (String.ofList spec)
    | .scalar (.datetime _ t), _ => return t.fill (String.ofList spec)
    | _, some (.int i) => do Eval.ofExcept ((← style .right (some 'd')).integer type i)
    | _, some (.float x) => do Eval.ofExcept ((← style .right none).double type x)
    | _, none =>
      Eval.typeFault ("unsupported format string passed to " ++ type ++ ".__format__")

/-! ### Fields -/

/-- A field in braces. -/
structure BraceField where
  /-- The operand and its parts. -/
  name : List Char
  /-- The letter that says in which form it is shown. -/
  form : Option Char
  /-- The specification of its style, in which there may be fields. -/
  spec : List Char
deriving Repr

/-- The characters of the name of a field, the character that ends it, and those after it. -/
def fieldName : Bool → List Char → Except Failure (List Char × Option Char × List Char)
  | _, [] => .ok ([], none, [])
  | true, c :: rest => do
    -- Between brackets every other character belongs to the name.
    let (name, stop, after) ← fieldName (c != ']') rest
    return (c :: name, stop, after)
  | false, c :: rest =>
    if c = '\x7b' then .error (.value "unexpected '\x7b' in field name")
    else if c = '\x7d' ∨ c = ':' ∨ c = '!' then .ok ([], some c, rest)
    else do
      let (name, stop, after) ← fieldName (c == '[') rest
      return (c :: name, stop, after)

/-- The characters of a specification up to the brace that ends its field, and those after it. -/
def fieldSpec : Nat → List Char → Except Failure (List Char × List Char)
  | _, [] => .error (.value "unmatched '\x7b' in format spec")
  | depth, c :: rest =>
    if c = '\x7d' ∧ depth = 0 then .ok ([], rest)
    else do
      let depth' := if c = '\x7b' then depth + 1 else if c = '\x7d' then depth - 1 else depth
      let (spec, after) ← fieldSpec depth' rest
      return (c :: spec, after)

/-- The field whose opening brace stands before some characters, and the characters after it. -/
def takeField (cs : List Char) : Except Failure (BraceField × List Char) := do
  let (name, stop, after) ← fieldName false cs
  let withSpec (form : Option Char) (cs : List Char) : Except Failure (BraceField × List Char) := do
    let (spec, after) ← fieldSpec 0 cs
    return (⟨name, form, spec⟩, after)
  match stop with
  | some '\x7d' => return (⟨name, none, []⟩, after)
  | some ':' => withSpec none after
  | some '!' =>
    match after with
    | [] => throw (.value "end of string while looking for conversion specifier")
    | form :: '\x7d' :: rest => return (⟨name, some form, []⟩, rest)
    | form :: ':' :: rest => withSpec (some form) rest
    | [form] => withSpec (some form) []
    | _ => throw (.value "expected ':' after conversion specifier")
  | _ => throw (.value "expected '\x7d' before end of string")

/-- The operands of fields, and how many of them have been taken without a number; `none` once a
number has been given. -/
structure FieldOperands where
  /-- Operands by position, if there may be any. -/
  plain : Option (List Datum)
  /-- The operand of a name. -/
  named : String → Eval Datum
  /-- How fields without a number are counted. -/
  count : Option Nat

/-- The position that a part of the name of a field denotes, if it does. -/
def fieldIndex? (part : List Char) : Except Failure (Option Nat) := do
  if part.isEmpty || !part.all Unicode.isDecimal then return none
  else return (← FieldStyle.takeNumber part).1

/-- The parts of an operand that the rest of the name of a field asks for; the number bounds their
number. -/
def fieldParts : Nat → List Char → Datum → Eval Datum
  | 0, _, d => return d
  | _, [], d => return d
  | fuel + 1, '.' :: rest, d => do
    let isEnd (c : Char) : Bool := c == '.' || c == '['
    let name := rest.takeWhile (!isEnd ·)
    if name.isEmpty then Eval.valueFault "Empty attribute in format string"
    match ← d.attribute? (String.ofList name) with
    | some found => fieldParts fuel (rest.dropWhile (!isEnd ·)) found
    | none => d.refuseField (String.ofList name)
  | fuel + 1, '[' :: rest, d => do
    let key := rest.takeWhile (· != ']')
    match rest.dropWhile (· != ']') with
    | ']' :: after =>
      if key.isEmpty then Eval.valueFault "Empty attribute in format string"
      let index : Datum ← match ← Eval.ofExcept (fieldIndex? key) with
        | some n => pure (.int n)
        | none => pure (.chars key)
      fieldParts fuel after (← d.subscript index)
    | _ => Eval.valueFault "Missing ']' in format string"
  | _ + 1, _ :: _, _ =>
    Eval.valueFault "Only '.' or '[' may follow ']' in format field specifier"

/-- The operand of a field, and how fields are counted after it. -/
def FieldOperands.find (o : FieldOperands) (name : List Char) : Eval (Datum × FieldOperands) := do
  let isEnd (c : Char) : Bool := c == '.' || c == '['
  let first := name.takeWhile (!isEnd ·)
  let rest := name.dropWhile (!isEnd ·)
  let at_ (n : Nat) : Eval Datum := do
    match o.plain with
    | none => Eval.valueFault "Format string contains positional fields"
    | some ds =>
      match ds[n]? with
      | some d => return d
      | none =>
        throw (.index ("Replacement index " ++ toString n ++
          " out of range for positional args tuple"))
  let (d, o) ←
    -- Fields are counted until one gives a number, and after that each has to give one.
    match first, ← Eval.ofExcept (fieldIndex? first), o.count with
    | [], _, some n => pure (← at_ n, { o with count := some (n + 1) })
    | [], _, none =>
      Eval.valueFault
        "cannot switch from manual field specification to automatic field numbering"
    | _, some _, some (_ + 1) =>
      Eval.valueFault
        "cannot switch from automatic field numbering to manual field specification"
    | _, some n, _ => pure (← at_ n, { o with count := none })
    | first, none, _ => pure (← o.named (String.ofList first), o)
  return (← fieldParts (rest.length + 1) rest d, o)

/-- A datum in the form of a letter. -/
def Datum.inForm (d : Datum) : Option Char → Eval Datum
  | none => return d
  | some 's' => do return .str (← d.text)
  | some 'r' => do return .str (← d.literal)
  | some 'a' => do return .chars (escapeForeign (← d.literal))
  | some c => Eval.valueFault ("Unknown conversion specifier " ++ FieldStyle.shownChar c)

/-- A text with its fields filled in, inside fields of a depth; the first number bounds the number
of steps. -/
def fillBraces : Nat → Nat → FieldOperands → List Char → Eval (List Char × FieldOperands)
  | 0, _, o, _ => return ([], o)
  | _ + 1, _, o, [] => return ([], o)
  | fuel + 1, depth, o, c :: cs => do
    let literal (cs : List Char) : Eval (List Char × FieldOperands) := do
      let (text, o) ← fillBraces fuel depth o cs
      return (c :: text, o)
    if c = '\x7b' then
      match cs with
      | '\x7b' :: rest => literal rest
      | [] => Eval.valueFault "Single '\x7b' encountered in format string"
      | cs =>
        let (f, after) ← Eval.ofExcept (takeField cs)
        let (d, o) ← o.find f.name
        let d ← d.inForm f.form
        -- The fields of a style are filled in first, and take from the same count.
        let (spec, o) ←
          if f.spec.contains '\x7b' then
            match depth with
            | 0 => Eval.valueFault "Max string recursion exceeded"
            | depth + 1 => fillBraces fuel depth o f.spec
          else pure (f.spec, o)
        let shown ← d.shown spec
        let (text, o) ← fillBraces fuel depth o after
        return (shown.toList ++ text, o)
    else if c = '\x7d' then
      match cs with
      | '\x7d' :: rest => literal rest
      | _ => Eval.valueFault "Single '\x7d' encountered in format string"
    else literal cs

/-- A text with its fields filled in from operands. -/
def formatBraces (text : String) (plain : Option (List Datum)) (named : String → Eval Datum) :
    Eval String := do
  let cs := text.toList
  return String.ofList (← fillBraces (cs.length + 1) 1 ⟨plain, named, some 0⟩ cs).1

/-- The operand of a name among named ones. -/
def namedOperand (named : List (String × Datum)) (name : String) : Eval Datum :=
  match named.lookup name with
  | some d => return d
  | none => throw (.key (Literal.text name))

end Playbook.Template
