import Playbook.Template.Method.Container
import Playbook.Template.Method.Text

/-!
# Functions that belong to data

Which function a template gets when it calls one by the name of an attribute, and the functions that
every template knows.

Main definitions: `Template.callMethod`, `Template.callKnown`.
-/

namespace Playbook.Template

/-! ### Functions of scalars -/

/-- The text of bytes in hexadecimal. -/
def hexText (b : List UInt8) : String :=
  String.ofList (b.flatMap fun x => Literal.hex 2 x.toNat)

/-- A function of a byte string. -/
def bytesMethod (b : List UInt8) (name : String) (i : Inputs) : Eval Datum := do
  match name with
  | "decode" => decodeBytes b i
  | "hex" => return .str (hexText b)
  | _ => (Datum.bytes b).refuseField name

/-- A day, or a time on it, in a pattern. -/
def fillMethod (t : DateTime) (i : Inputs) : Eval Datum := do
  let values ← i.optional "strftime" ["format"]
  match values.getD 0 none with
  | some (.str pattern) => return .str (t.fill pattern)
  | some d =>
    Eval.typeFault ("strftime() argument 1 must be str, not " ++ (← d.typeName))
  | none => Eval.typeFault "strftime() missing required argument 'format' (pos 1)"

/-- The day with these parts. -/
def dayWith (year month day : Int) : Eval Date :=
  if year < 1 then Eval.valueFault ("year " ++ toString year ++ " is out of range")
  else if month < 1 then Eval.valueFault "month must be in 1..12"
  else if day < 1 then
    if 12 < month then Eval.valueFault "month must be in 1..12"
    else if 9999 < year then Eval.valueFault ("year " ++ toString year ++ " is out of range")
    else Eval.valueFault "day is out of range for month"
  else Eval.ofExcept (Date.make year.toNat month.toNat day.toNat)

/-- A new day. -/
def newDay (d : Date) : Eval Datum := Eval.fresh (.date 0 d)

/-- A time with other parts. -/
def replaceTime (t : DateTime) (i : Inputs) : Eval Datum := do
  let values ← i.optional "replace"
    ["year", "month", "day", "hour", "minute", "second", "microsecond"]
  let part (n old : Nat) : Eval Int := asIndex ((values.getD n none).getD (.int old))
  let year ← part 0 t.date.year
  let month ← part 1 t.date.month
  let date ← dayWith year month (← part 2 t.date.day)
  let hour ← part 3 t.hour
  let minute ← part 4 t.minute
  let second ← part 5 t.second
  let micro ← part 6 t.micro
  if hour < 0 ∨ 23 < hour then Eval.valueFault "hour must be in 0..23"
  if minute < 0 ∨ 59 < minute then Eval.valueFault "minute must be in 0..59"
  if second < 0 ∨ 59 < second then Eval.valueFault "second must be in 0..59"
  if micro < 0 ∨ 999999 < micro then Eval.valueFault "microsecond must be in 0..999999"
  Eval.fresh (.datetime 0
    ⟨date, hour.toNat, minute.toNat, second.toNat, micro.toNat, t.offset⟩)

/-- A function of a day, or of a time on it. -/
def timeMethod (s : Scalar) (d : Date) (name : String) (i : Inputs) : Eval Datum := do
  match name with
  | "isoformat" =>
    match s with
    | .datetime _ t =>
      let values ← i.optional name ["sep"]
      match (values.getD 0 none).getD (.str "T") with
      | .str sep => return .str (t.iso sep)
      | _ => Eval.typeFault "isoformat() argument 1 must be a unicode character"
    | _ => return .str d.iso
  | "strftime" =>
    match s with
    | .datetime _ t => fillMethod t i
    | _ => fillMethod (.ofDate d) i
  | "ctime" =>
    match s with
    | .datetime _ t => return .str (t.fill "%c")
    | _ => return .str ((DateTime.ofDate d).fill "%c")
  | "weekday" => return .int d.weekday
  | "isoweekday" => return .int (d.weekday + 1 : Nat)
  | "toordinal" => return .int d.ordinal
  | "replace" =>
    match s with
    | .datetime _ t => replaceTime t i
    | _ =>
      let values ← i.optional name ["year", "month", "day"]
      let part (n old : Nat) : Eval Int := asIndex ((values.getD n none).getD (.int old))
      let year ← part 0 d.year
      let month ← part 1 d.month
      newDay (← dayWith year month (← part 2 d.day))
  | "utcoffset" =>
    match s with
    | .datetime _ t => return (t.offset.map fun n => Datum.span ⟨n * 1000000⟩).getD .null
    | _ => return .null
  | "date" => Eval.fresh (.date 0 d)
  | _ => (Datum.scalar s).refuseField name

/-- The bytes of a natural, the least one first. -/
def bytesOfNat : Nat → Nat → List UInt8
  | 0, _ => []
  | length + 1, n => UInt8.ofNat (n % 256) :: bytesOfNat length (n / 256)

/-- An integer in bytes. -/
def bytesOfInt (n : Int) (i : Inputs) : Eval Datum := do
  let values ← Signature.bind ⟨"to_bytes", 0, [], ["length", "byteorder", "signed"]⟩ i
  let length ← asSize ((values.getD 0 none).getD (.int 1))
  let signed ← ((values.getD 2 none).getD (.bool false)).isTrue
  let little ←
    match (values.getD 1 none).getD (.str "big") with
    | .str "little" => pure true
    | .str "big" => pure false
    | .str _ => Eval.valueFault "byteorder must be either 'little' or 'big'"
    | d =>
      Eval.typeFault ("to_bytes() argument 'byteorder' must be str, not " ++ (← d.typeName))
  if length < 0 then Eval.valueFault "length argument must be non-negative"
  let size := Int.pow 256 length.toNat
  if !signed ∧ n < 0 then throw (.overflow "can't convert negative int to unsigned")
  let fits := if signed then -size ≤ 2 * n ∧ 2 * n < size else n < size
  if !fits then throw (.overflow "int too big to convert")
  let bytes := bytesOfNat length.toNat (if n < 0 then n + size else n).toNat
  return .bytes (if little then bytes else bytes.reverse)

/-- The ratio of integers that a number is. -/
def ratioOf (n : Scalar.Number) : Eval Datum := do
  let pair (a b : Int) : Eval Datum := Eval.newTuple [.int a, .int b]
  match n with
  | .int i => pair i 1
  | .float x =>
    if x.isNaN then Eval.valueFault "cannot convert NaN to integer ratio"
    match x.toRatio? with
    | some (a, b) => pair a b
    | none => throw (.overflow "cannot convert Infinity to integer ratio")

/-- The text of a double in hexadecimal digits. -/
def hexOfDouble (x : Binary64) : String :=
  let sign := if x.isNegative then "-" else ""
  let e : Int := x.exponentField
  let power (n : Int) : String := "p" ++ (if n < 0 then "" else "+") ++ toString n
  let digits := String.ofList (Literal.hex 13 x.fractionField)
  if x.isNaN ∨ x.isInfinite then x.text
  else if x.isZero then sign ++ "0x0.0p+0"
  else if e = 0 then sign ++ "0x0." ++ digits ++ power (-1022)
  else sign ++ "0x1." ++ digits ++ power (e - 1023)

/-- A function of a number. -/
def numberMethod (s : Scalar) (name : String) (i : Inputs) : Eval Datum := do
  match name, s.number? with
  | "to_bytes", some (.int n) => bytesOfInt n i
  | "as_integer_ratio", some n => ratioOf n
  | "hex", some (.float x) => return .str (hexOfDouble x)
  | "bit_length", some (.int n) =>
    return .int (if n = 0 then 0 else n.natAbs.log2 + 1 : Nat)
  | "bit_count", some (.int n) =>
    return .int ((Nat.toDigits 2 n.natAbs).count '1')
  | "conjugate", some (.int n) => return .int n
  | "conjugate", some (.float x) => return .float x
  | "is_integer", some (.float x) => return .bool x.toInt?.isSome
  | _, _ => (Datum.scalar s).refuseField name

/-! ### Functions of loops and of things that change -/

/-- A function of a loop. -/
def loopMethod (r : Ref) (name : String) (i : Inputs) : Eval Datum := do
  let s ← Eval.loopState r
  match name with
  | "cycle" =>
    i.unnamed "cycle"
    match i.plain[s.index % i.plain.length]? with
    | some d => return d
    | none => Eval.typeFault "no items for cycling given"
  | "changed" =>
    let same ← match s.changed with
      | some ds => (Datum.row ds).equal (.row i.plain)
      | none => pure false
    if same then return .bool false
    Eval.setLoop r { s with changed := some i.plain }
    return .bool true
  | _ => (Datum.cell r).refuseField name

/-- A function of values in turn. -/
def cyclerMethod (r : Ref) (items : List Datum) (position : Nat) (name : String) (i : Inputs) :
    Eval Datum := do
  i.none "Cycler" name
  match name with
  | "next" =>
    Eval.setCell r (.cycler items ((position + 1) % items.length))
    return (items[position]?).getD .null
  | "reset" =>
    Eval.setCell r (.cycler items 0)
    return .null
  | _ => (Datum.cell r).refuseField name

/-- A function of a stream. -/
def streamMethod (r : Ref) (flow : Flow) (name : String) (i : Inputs) : Eval Datum := do
  let next : Eval Datum := do
    match ← Eval.pull r with
    | some d => return d
    -- The end of a stream may not leave a template.
    | none => throw ⟨.mutation, "generator raised StopIteration"⟩
  match name with
  | "__next__" => next
  | "send" =>
    match ← i.one "generator.send", flow with
    | .null, _ => next
    | _, .waiting .. =>
      Eval.typeFault "can't send non-None value to a just-started generator"
    | _, _ => next
  | "close" =>
    let type := (← Eval.cell r).typeName
    Eval.setCell r (.stream type .done)
    return .null
  | _ => (Datum.cell r).refuseField name

/-- A function of a view of a mapping. -/
def viewMethod (v : View) (r : Ref) (name : String) (i : Inputs) : Eval Datum := do
  match name with
  | "isdisjoint" =>
    let others ← (← i.one "dict_keys.isdisjoint").items
    let own ← (Datum.view v r).items
    return .bool (!(← own.anyM fun d => others.anyM d.same))
  | _ => (Datum.view v r).refuseField name

/-! ### Calls -/

/-- Call a function that belongs to a datum; `call` calls other functions. -/
def callMethod (call : Caller) (owner : Datum) (name : String) (i : Inputs) : Eval Datum := do
  match owner with
  | .str s => textMethod s name i
  | .bytes b => bytesMethod b name i
  | .scalar (.date m d) => timeMethod (.date m d) d name i
  | .scalar (.datetime m t) => timeMethod (.datetime m t) t.date name i
  | .scalar s => numberMethod s name i
  | .tuple _ items => rowMethod "tuple" owner items name i
  | .range start stop step =>
    rowMethod "range" owner (rangeItems start step (rangeLength start stop step)) name i
  | .known _ => mapFromKeys i
  | .cell r =>
    match ← Eval.cell r with
    | .list _ => listMethod call r name i
    | .map _ => mapMethod r name i
    | .set _ => setMethod r name i
    | .loop _ => loopMethod r name i
    | .cycler items position => cyclerMethod r items position name i
    | .stream _ flow => streamMethod r flow name i
    | _ => owner.refuseField name
  | .view v r => viewMethod v r name i
  | .span s =>
    if name = "total_seconds" then
      return .float (← Eval.ofExcept (quotient s.micros 1000000))
    else owner.refuseField name
  | owner => owner.refuseField name

/-- The integers from one up to another in steps. -/
def newRange (i : Inputs) : Eval Datum := do
  i.unnamed "range"
  match i.plain with
  | [] => Eval.typeFault "range expected at least 1 argument, got 0"
  | [stop] => return .range 0 (← asIndex stop) 1
  | [start, stop] => do
    let a ← asIndex start
    return .range a (← asIndex stop) 1
  | [start, stop, step] => do
    let a ← asIndex start
    let b ← asIndex stop
    let c ← asIndex step
    if c = 0 then Eval.valueFault "range() arg 3 must not be zero"
    return .range a b c
  | ds =>
    Eval.typeFault ("range expected at most 3 arguments, got " ++ toString ds.length)

/-- Call a function that every template knows. -/
def callKnown (k : Known) (i : Inputs) : Eval Datum := do
  match k with
  | .range => newRange i
  | .dict => do Eval.newMap (← newMapOf "dict" i)
  | .namespace_ => do Eval.alloc (.fields (← newMapOf "dict" i).entries)
  | .cycler =>
    if i.plain.isEmpty then throw ⟨.mutation, "at least one item has to be provided"⟩
    Eval.alloc (.cycler i.plain 0)
  | .joiner =>
    let separator := ((i.at? 0).or (i.named.lookup "sep")).getD (.str ", ")
    Eval.alloc (.joiner separator false)
  | .lipsum => throw ⟨.system, "no filler text"⟩

end Playbook.Template
