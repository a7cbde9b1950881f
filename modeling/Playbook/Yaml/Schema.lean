/-!
# Implicit tags

The type of a scalar without a tag follows from its text: truth values, numbers in several
notations, nothing, days and times, and the two keys with a meaning of their own. All other texts
are strings.

Main definition: `Yaml.implicitTag`.
-/

namespace Playbook.Yaml

/-- The common stem of the tags of the language. -/
def tagStem : String := "tag:yaml.org,2002:"

/-- The tag of a type of the language. -/
def coreTag (name : String) : String := tagStem ++ name

namespace Schema

/-! ### Parts of numbers -/

/-- The text without a sign in front. -/
def dropSign : List Char → List Char
  | '+' :: rest => rest
  | '-' :: rest => rest
  | cs => cs

/-- Whether all characters pass a test and there is one at least. -/
def allSome (p : Char → Bool) (cs : List Char) : Bool := !cs.isEmpty && cs.all p

/-- A digit or an underscore. -/
def isSpaced (c : Char) : Bool := c.isDigit || c == '_'

/-- A number of base sixty after its first part: groups of one or two digits below sixty, each
after a colon; what remains after at least one group, read as far as possible. -/
def dropSixties : Nat → List Char → Option (List Char)
  | 0, _ => none
  | fuel + 1, cs =>
    match cs with
    | ':' :: a :: b :: rest =>
      if '0' ≤ a ∧ a ≤ '5' ∧ b.isDigit then
        some ((dropSixties fuel rest).getD rest)
      else if a.isDigit then some ((dropSixties fuel (b :: rest)).getD (b :: rest))
      else none
    | [':', a] => if a.isDigit then some [] else none
    | _ => none

/-- An exponent: a mark, a sign and digits; nothing at all will do. -/
def isExponent : List Char → Bool
  | [] => true
  | e :: sign :: ds =>
    (e == 'e' || e == 'E') && (sign == '-' || sign == '+') && allSome Char.isDigit ds
  | _ => false

/-! ### Types -/

/-- Truth values. -/
def isBool (cs : List Char) : Bool :=
  ["yes", "Yes", "YES", "no", "No", "NO", "true", "True", "TRUE", "false", "False", "FALSE",
    "on", "On", "ON", "off", "Off", "OFF"].contains (String.ofList cs)

/-- Numbers with a point: decimal with an optional exponent, of base sixty, the infinities, and no
number. -/
def isFloat (cs : List Char) : Bool :=
  let unsigned := dropSign cs
  let whole := unsigned.takeWhile isSpaced
  let rest := unsigned.dropWhile isSpaced
  let startsDigit := (unsigned.headD ' ').isDigit
  let afterPoint (tail : List Char) : List Char := tail.dropWhile isSpaced
  let decimal := startsDigit && match rest with
    | '.' :: tail => isExponent (afterPoint tail)
    | _ => false
  let fraction := match cs with
    | '.' :: d :: tail => d.isDigit && isExponent (afterPoint tail)
    | _ => false
  let sixties := startsDigit && !whole.isEmpty && match dropSixties rest.length rest with
    | some ('.' :: tail) => (afterPoint tail).isEmpty
    | _ => false
  let infinite := [".inf", ".Inf", ".INF"].contains (String.ofList unsigned)
  let nan := [".nan", ".NaN", ".NAN"].contains (String.ofList cs)
  decimal || fraction || sixties || infinite || nan

/-- Integers: binary, octal, decimal, hexadecimal, of base sixty. -/
def isInt (cs : List Char) : Bool :=
  match dropSign cs with
  | '0' :: 'b' :: ds => allSome (fun c => c == '0' || c == '1' || c == '_') ds
  | '0' :: 'x' :: ds =>
    allSome (fun c => c.isDigit || ('a' ≤ c && c ≤ 'f') || ('A' ≤ c && c ≤ 'F') || c == '_') ds
  | '0' :: ds => ds.all fun c => ('0' ≤ c && c ≤ '7') || c == '_'
  | d :: ds =>
    '1' ≤ d && d ≤ '9' &&
      match ds.dropWhile isSpaced with
      | [] => true
      | rest => dropSixties rest.length rest == some []
  | [] => false

/-- Nothing. -/
def isNull (cs : List Char) : Bool :=
  ["", "~", "null", "Null", "NULL"].contains (String.ofList cs)

/-- The digits at the start, between a least and a greatest count. -/
def takeDigits (least greatest : Nat) (cs : List Char) : Option (List Char × List Char) :=
  let ds := (cs.takeWhile Char.isDigit).take greatest
  if ds.length < least then none else some (ds, cs.drop ds.length)

/-- The rest after an expected character. -/
def expect (c : Char) : List Char → Option (List Char)
  | d :: rest => if c = d then some rest else none
  | [] => none

/-- A day as year, month and day of month, with two digits for each of the last or with one or
two; and the rest. -/
def takeDay (least : Nat) (cs : List Char) :
    Option ((List Char × List Char × List Char) × List Char) := do
  let (year, cs) ← takeDigits 4 4 cs
  let cs ← expect '-' cs
  let (month, cs) ← takeDigits least 2 cs
  let cs ← expect '-' cs
  let (day, cs) ← takeDigits least 2 cs
  return ((year, month, day), cs)

/-- The parts of a time, as they are written. -/
structure TimeParts where
  /-- The hour. -/
  hour : List Char
  /-- The minute. -/
  minute : List Char
  /-- The second. -/
  second : List Char
  /-- The digits after the point. -/
  fraction : List Char
  /-- The distance to universal time: none, `Z`, or a sign with hours and minutes. -/
  zone : Option (Option (Bool × List Char × List Char))

/-- Blanks in a time. -/
def isTimeBlank (c : Char) : Bool := c == ' ' || c == '\t'

/-- A distance to universal time at the end of a text. -/
def zone? (cs : List Char) : Option (Option (Bool × List Char × List Char)) :=
  match cs with
  | ['Z'] => some none
  | sign :: rest =>
    if sign = '+' ∨ sign = '-' then do
      let (hours, rest) ← takeDigits 1 2 rest
      match rest with
      | [] => return some (sign == '-', hours, [])
      | rest =>
        let rest ← expect ':' rest
        let (minutes, rest) ← takeDigits 2 2 rest
        if rest.isEmpty then return some (sign == '-', hours, minutes) else none
    else none
  | [] => none

/-- A time after a day, up to the end of the text. -/
def time? (cs : List Char) : Option TimeParts := do
  let cs ← match cs with
    | 'T' :: rest => some rest
    | 't' :: rest => some rest
    | c :: rest => if isTimeBlank c then some (rest.dropWhile isTimeBlank) else none
    | [] => none
  let (hour, cs) ← takeDigits 1 2 cs
  let cs ← expect ':' cs
  let (minute, cs) ← takeDigits 2 2 cs
  let cs ← expect ':' cs
  let (second, cs) ← takeDigits 2 2 cs
  let (fraction, cs) := match cs with
    | '.' :: rest => (rest.takeWhile Char.isDigit, rest.dropWhile Char.isDigit)
    | cs => ([], cs)
  if cs.isEmpty then return ⟨hour, minute, second, fraction, none⟩
  else
    let zone ← zone? (cs.dropWhile isTimeBlank)
    return ⟨hour, minute, second, fraction, some zone⟩

/-- Days, and days with times. -/
def isTimestamp (cs : List Char) : Bool :=
  (match takeDay 2 cs with
    | some (_, rest) => rest.isEmpty
    | none => false) ||
  (match takeDay 1 cs with
    | some (_, rest) => (time? rest).isSome
    | none => false)

/-- The types a text can have by its first character, in the order they are tried, and the test
for each. -/
def candidates (first : Option Char) : List (String × (List Char → Bool)) :=
  let bool := ("bool", isBool)
  let float := ("float", isFloat)
  let int := ("int", isInt)
  let null := ("null", isNull)
  match first with
  | none => [null]
  | some c =>
    if c.isDigit then [float, int, ("timestamp", isTimestamp)]
    else if c = '-' ∨ c = '+' then [float, int]
    else if c = '.' then [float]
    else if c = '~' then [null]
    else if c = 'n' ∨ c = 'N' then [bool, null]
    else if "yYtTfFoO".toList.contains c then [bool]
    else if c = '<' then [("merge", fun cs => cs == ['<', '<'])]
    else if c = '=' then [("value", fun cs => cs == ['='])]
    else if c = '!' ∨ c = '&' ∨ c = '*' then [("yaml", fun cs => cs.length == 1)]
    else []

/-- The text without a line end at its end. -/
def dropLineEnd (cs : List Char) : List Char :=
  match cs.getLast? with
  | some '\n' => cs.dropLast
  | _ => cs

end Schema

/-- The tag of a scalar without one. A line end at the end of the text does not count. -/
def implicitTag (text : String) : String :=
  let cs := text.toList
  let tried := Schema.candidates cs.head?
  match tried.find? fun (_, test) => test cs || test (Schema.dropLineEnd cs) with
  | some (name, _) => coreTag name
  | none => coreTag "str"

end Playbook.Yaml
