import Playbook.Calendar

/-!
# Patterns of dates and times

A pattern is a text in which a percent sign and a letter stand for a part of a day and time. Names
of days and months are English.

Main definition: `DateTime.fill`.
-/

namespace Playbook

namespace Date

/-- The names of the days of the week, from Monday on. -/
def dayNames : List String :=
  ["Monday", "Tuesday", "Wednesday", "Thursday", "Friday", "Saturday", "Sunday"]

/-- The names of the months. -/
def monthNames : List String :=
  ["January", "February", "March", "April", "May", "June", "July", "August", "September",
    "October", "November", "December"]

/-- The day of the week, from zero for Monday on. -/
def weekday (d : Date) : Nat := (d.ordinal + 6) % 7

/-- The number of a day in its year, from one on. -/
def dayOfYear (d : Date) : Nat := d.ordinal - daysBeforeYear d.year

/-- The number of the week of a day in its year, where the weeks start at a day of the week and the
days before the first such day are in week zero. -/
def weekFrom (start : Nat) (d : Date) : Nat := (d.dayOfYear + 6 - (d.weekday + 7 - start) % 7) / 7

/-- The year and the number of the week in which a day is, where the week that holds the fourth of
January is the first one of a year. -/
def isoWeek (d : Date) : Nat × Nat :=
  -- The Thursday of a week tells its year.
  let thursday := d.ordinal + 3 - d.weekday
  let year :=
    if thursday ≤ daysBeforeYear d.year then d.year - 1
    else if daysBeforeYear (d.year + 1) < thursday then d.year + 1
    else d.year
  (year, (thursday - daysBeforeYear year - 1) / 7 + 1)

end Date

/-- A natural with at least two characters, filled up with blanks. -/
def padBlank (n : Nat) : String := if n < 10 then " " ++ toString n else toString n

namespace DateTime

/-- The start of a day. -/
def ofDate (d : Date) : DateTime := ⟨d, 0, 0, 0, 0, none⟩

/-- The hour on the face of a clock. -/
def clockHour (t : DateTime) : Nat := if t.hour % 12 = 0 then 12 else t.hour % 12

/-- The distance to universal time without marks between its parts. -/
def zoneDigits (seconds : Int) : String :=
  String.ofList ((offsetText seconds).toList.filter (· ≠ ':'))

/-- The name of a distance to universal time. -/
def zoneName (seconds : Int) : String := if seconds = 0 then "UTC" else "UTC" ++ offsetText seconds

/-- The part of a day and time that a letter stands for. -/
def field? (t : DateTime) : Char → Option String
  | 'a' => some (String.ofList ((Date.dayNames.getD t.date.weekday "").toList.take 3))
  | 'A' => some (Date.dayNames.getD t.date.weekday "")
  | 'b' | 'h' => some (String.ofList ((Date.monthNames.getD (t.date.month - 1) "").toList.take 3))
  | 'B' => some (Date.monthNames.getD (t.date.month - 1) "")
  | 'C' => some (padded 2 (t.date.year / 100))
  | 'd' => some (padded 2 t.date.day)
  | 'e' => some (padBlank t.date.day)
  | 'f' => some (padded 6 t.micro)
  | 'g' => some (padded 2 (t.date.isoWeek.1 % 100))
  | 'G' => some (toString t.date.isoWeek.1)
  | 'H' => some (padded 2 t.hour)
  | 'I' => some (padded 2 t.clockHour)
  | 'j' => some (padded 3 t.date.dayOfYear)
  | 'k' => some (padBlank t.hour)
  | 'l' => some (padBlank t.clockHour)
  | 'm' => some (padded 2 t.date.month)
  | 'M' => some (padded 2 t.minute)
  | 'n' => some "\n"
  | 'p' => some (if t.hour < 12 then "AM" else "PM")
  | 'P' => some (if t.hour < 12 then "am" else "pm")
  | 'S' => some (padded 2 t.second)
  | 't' => some "\t"
  | 'u' => some (toString (t.date.weekday + 1))
  | 'U' => some (padded 2 (t.date.weekFrom 6))
  | 'V' => some (padded 2 t.date.isoWeek.2)
  | 'w' => some (toString ((t.date.weekday + 1) % 7))
  | 'W' => some (padded 2 (t.date.weekFrom 0))
  | 'y' => some (padded 2 (t.date.year % 100))
  | 'Y' => some (toString t.date.year)
  | 'z' => some ((t.offset.map zoneDigits).getD "")
  | 'Z' => some ((t.offset.map zoneName).getD "")
  | '%' => some "%"
  | _ => none

/-- The pattern that a letter is short for. -/
def abbreviated? : Char → Option String
  | 'c' => some "%a %b %e %H:%M:%S %Y"
  | 'D' | 'x' => some "%m/%d/%y"
  | 'F' => some "%Y-%m-%d"
  | 'r' => some "%I:%M:%S %p"
  | 'R' => some "%H:%M"
  | 'T' | 'X' => some "%H:%M:%S"
  | _ => none

/-- A pattern without letters that are short for others. -/
def expand : List Char → List Char
  | '%' :: c :: rest => ((abbreviated? c).map String.toList).getD ['%', c] ++ expand rest
  | c :: rest => c :: expand rest
  | [] => []

/-- A pattern with the parts of a day and time in the places of its letters. -/
def fillExpanded (t : DateTime) : List Char → List Char
  | '%' :: c :: rest => ((t.field? c).map String.toList).getD ['%', c] ++ fillExpanded t rest
  | c :: rest => c :: fillExpanded t rest
  | [] => []

/-- What a pattern shows of a day and time. -/
def fill (t : DateTime) (pattern : String) : String :=
  String.ofList (t.fillExpanded (expand pattern.toList))

end DateTime

end Playbook
