import Playbook.Calendar

/-!
# Spans of time

The time between two moments, and between two days: whole microseconds, shown as days and a time of
day. A span that is less than nothing has days less than nothing and a time of day as usual.

Main definitions: `Span`, `Span.days`, `Span.text`, `Span.literal`, `Date.later`, `DateTime.later`.
-/

namespace Playbook

/-- A span of time. -/
structure Span where
  /-- Its microseconds. -/
  micros : Int
deriving DecidableEq, Repr, Inhabited

namespace Span

/-- The microseconds of a day. -/
def microsInDay : Int := 86400000000

/-- The span of a number of days. -/
def ofDays (n : Int) : Span := ⟨n * microsInDay⟩

/-- The days of a span. -/
def days (s : Span) : Int := s.micros.fdiv microsInDay

/-- The seconds of a span beyond its days. -/
def seconds (s : Span) : Int := (s.micros.fmod microsInDay) / 1000000

/-- The microseconds of a span beyond its seconds. -/
def micro (s : Span) : Int := s.micros.fmod 1000000

/-- The text of a span. -/
def text (s : Span) : String :=
  let n := s.seconds.toNat
  let time := toString (n / 3600) ++ ":" ++ padded 2 (n / 60 % 60) ++ ":" ++ padded 2 (n % 60)
  let days := if s.days = 0 then ""
    else toString s.days ++ (if s.days.natAbs = 1 then " day, " else " days, ")
  days ++ time ++ (if s.micro = 0 then "" else "." ++ padded 6 s.micro.toNat)

/-- The form of a span inside a container. -/
def literal (s : Span) : String :=
  let part (name : String) (n : Int) : List String :=
    if n = 0 then [] else [name ++ "=" ++ toString n]
  let parts := part "days" s.days ++ part "seconds" s.seconds ++ part "microseconds" s.micro
  "datetime.timedelta(" ++ (if parts.isEmpty then "0" else String.intercalate ", " parts) ++ ")"

end Span

/-! ### Days by number -/

namespace Date

/-- The last year whose first day is not after a day, at or below a year. -/
def yearOf (ordinal : Nat) : Nat → Nat
  | 0 => 0
  | year + 1 =>
    if daysBeforeYear (year + 1) < ordinal then year + 1 else yearOf ordinal year

/-- The month and the day of a day of a year, from a month on. -/
def monthOf (year : Nat) : Nat → Nat → Nat → Nat × Nat
  | 0, month, day => (month, day)
  | fuel + 1, month, day =>
    if day ≤ daysIn year month then (month, day)
    else monthOf year fuel (month + 1) (day - daysIn year month)

/-- The day of a number. -/
def ofOrdinal (n : Nat) : Date :=
  -- No year has more than 366 days or less than 365.
  let year := yearOf n (n / 365 + 1)
  let (month, day) := monthOf year 12 1 (n - daysBeforeYear year)
  ⟨year, month, day⟩

/-- The number of the last day of the calendar. -/
def lastOrdinal : Int := 3652059

/-- A day some days later, if the calendar has it. -/
def later (d : Date) (n : Int) : Option Date :=
  let m := d.ordinal + n
  if 1 ≤ m ∧ m ≤ lastOrdinal then some (ofOrdinal m.toNat) else none

end Date

namespace DateTime

/-- Microseconds since the start of the calendar, of local time. -/
def localInstant (t : DateTime) : Int := { t with offset := none }.instant

/-- A time a span later, if the calendar has its day. -/
def later (t : DateTime) (s : Span) : Option DateTime :=
  let m := t.localInstant + s.micros
  let n := m.fdiv Span.microsInDay
  if 1 ≤ n ∧ n ≤ Date.lastOrdinal then
    let rest := (m.fmod Span.microsInDay).toNat
    let second := rest / 1000000
    some { t with
      date := Date.ofOrdinal n.toNat
      hour := second / 3600
      minute := second / 60 % 60
      second := second % 60
      micro := rest % 1000000 }
  else none

end DateTime

end Playbook
