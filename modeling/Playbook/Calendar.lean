import Playbook.Failure

/-!
# Dates and times

Days of the Gregorian calendar and times of day, with an optional distance to universal time.

Main definitions:

- `Date`, `Time`, `DateTime`: the types;
- `Date.make`, `DateTime.make`: checked construction, which names the first field out of range;
- `Date.iso`, `DateTime.iso`: the standard text; `Date.literal`, `DateTime.literal`: the form
  shown inside a container;
- `DateTime.instant`: the count of microseconds by which times of known distance are compared.
-/

namespace Playbook

/-- A day of the Gregorian calendar. -/
structure Date where
  /-- The year. -/
  year : Nat
  /-- The month, from one. -/
  month : Nat
  /-- The day of the month, from one. -/
  day : Nat
deriving DecidableEq, Repr, Inhabited

/-- A day and a time, and how far local time is ahead of universal time. -/
structure DateTime where
  /-- The day. -/
  date : Date
  /-- The hour. -/
  hour : Nat
  /-- The minute. -/
  minute : Nat
  /-- The second. -/
  second : Nat
  /-- The microsecond. -/
  micro : Nat
  /-- Seconds by which local time is ahead of universal time, if that is known. -/
  offset : Option Int
deriving DecidableEq, Repr, Inhabited

/-! ### Checked construction -/

namespace Date

/-- Whether a year has a day more. -/
def isLeap (year : Nat) : Bool := year % 4 == 0 && (year % 100 != 0 || year % 400 == 0)

/-- How many days a month has. -/
def daysIn (year month : Nat) : Nat :=
  match month with
  | 2 => if isLeap year then 29 else 28
  | 4 | 6 | 9 | 11 => 30
  | _ => 31

/-- The day, if its fields are in range. -/
def make (year month day : Nat) : Except Failure Date :=
  if year < 1 ∨ 9999 < year then .error (.value ("year " ++ toString year ++ " is out of range"))
  else if month < 1 ∨ 12 < month then .error (.value "month must be in 1..12")
  else if day < 1 ∨ daysIn year month < day then
    .error (.value "day is out of range for month")
  else .ok ⟨year, month, day⟩

/-- How many days lie between a fixed day before the calendar and the start of a year. -/
def daysBeforeYear (year : Nat) : Nat :=
  let y := year - 1
  y * 365 + y / 4 - y / 100 + y / 400

/-- The number of a day, counted from the first day of the year one. -/
def ordinal (d : Date) : Nat :=
  let full := (List.range (d.month - 1)).map fun m => daysIn d.year (m + 1)
  daysBeforeYear d.year + full.foldl (· + ·) 0 + d.day

end Date

/-- A natural with at least `width` digits, filled up with zeros. -/
def padded (width n : Nat) : String :=
  let ds := Nat.toDigits 10 n
  String.ofList (List.replicate (width - ds.length) '0' ++ ds)

namespace DateTime

/-- The written form of a span of time below a day, in days and seconds. -/
def spanLiteral (seconds : Int) : String :=
  let days := Int.fdiv seconds 86400
  let rest := Int.fmod seconds 86400
  let parts := (if days = 0 then [] else ["days=" ++ toString days]) ++
    (if rest = 0 then [] else ["seconds=" ++ toString rest])
  "datetime.timedelta(" ++ (if parts.isEmpty then "0" else String.intercalate ", " parts) ++ ")"

/-- The distance to universal time, if it is less than a day. -/
def checkOffset (seconds : Int) : Except Failure Int :=
  if -86400 < seconds ∧ seconds < 86400 then .ok seconds
  else .error (.value ("offset must be a timedelta strictly between -timedelta(hours=24) and " ++
    "timedelta(hours=24), not " ++ spanLiteral seconds))

/-- The day and time, if its fields are in range. -/
def make (year month day hour minute second micro : Nat) (offset : Option Int) :
    Except Failure DateTime := do
  let date ← Date.make year month day
  if 23 < hour then .error (.value "hour must be in 0..23")
  else if 59 < minute then .error (.value "minute must be in 0..59")
  else if 59 < second then .error (.value "second must be in 0..59")
  else if 999999 < micro then .error (.value "microsecond must be in 0..999999")
  else .ok ⟨date, hour, minute, second, micro, offset⟩

/-- Microseconds since the start of the calendar: of universal time where the distance to it is
known, of local time otherwise. -/
def instant (t : DateTime) : Int :=
  (((t.date.ordinal * 24 + t.hour) * 60 + t.minute) * 60 + t.second : Nat) * 1000000 + t.micro -
    t.offset.getD 0 * 1000000

/-- Whether two times are the same moment; of times with and without a known distance to
universal time none are. -/
def sameMoment (t u : DateTime) : Bool :=
  t.offset.isSome == u.offset.isSome && t.instant == u.instant

end DateTime

/-! ### Texts -/

/-- The standard text of a day. -/
def Date.iso (d : Date) : String :=
  padded 4 d.year ++ "-" ++ padded 2 d.month ++ "-" ++ padded 2 d.day

/-- The form of a day inside a container. -/
def Date.literal (d : Date) : String :=
  "datetime.date(" ++ toString d.year ++ ", " ++ toString d.month ++ ", " ++ toString d.day ++ ")"

namespace DateTime

/-- The distance to universal time as a sign with hours and minutes, and seconds if there are
any. -/
def offsetText (seconds : Int) : String :=
  let n := seconds.natAbs
  (if seconds < 0 then "-" else "+") ++ padded 2 (n / 3600) ++ ":" ++ padded 2 (n / 60 % 60) ++
    (if n % 60 = 0 then "" else ":" ++ padded 2 (n % 60))

/-- The standard text of a day and time, with a separator between them. -/
def iso (t : DateTime) (separator : String := "T") : String :=
  t.date.iso ++ separator ++ padded 2 t.hour ++ ":" ++ padded 2 t.minute ++ ":" ++
    padded 2 t.second ++ (if t.micro = 0 then "" else "." ++ padded 6 t.micro) ++
    (t.offset.map offsetText).getD ""

/-- The form of a distance to universal time inside a container. -/
def offsetLiteral (seconds : Int) : String :=
  if seconds = 0 then "datetime.timezone.utc"
  else "datetime.timezone(" ++ spanLiteral seconds ++ ")"

/-- The form of a day and time inside a container: seconds and microseconds only if needed. -/
def literal (t : DateTime) : String :=
  let fields := [t.date.year, t.date.month, t.date.day, t.hour, t.minute] ++
    (if t.second = 0 ∧ t.micro = 0 then [] else [t.second]) ++
    (if t.micro = 0 then [] else [t.micro])
  "datetime.datetime(" ++ String.intercalate ", " (fields.map toString) ++
    (t.offset.map fun o => ", tzinfo=" ++ offsetLiteral o).getD "" ++ ")"

end DateTime

end Playbook
