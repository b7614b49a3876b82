import NamespaceManifest.Number.Real

/-!
# Dates and times

A date is a day of the calendar.  A moment is a date with a time of day and, if it is known, the
distance of its clock from universal time.  Both are written in two ways: by themselves, with hyphens
and colons, and as a literal inside a list or a mapping.

Two moments with known distances are the same when they are the same point in time; a moment without
one is only ever the same as another one without.
-/

namespace NamespaceManifest

/-- What is wrong with a date or a time; an offset is given in minutes. -/
inductive CalendarError where
  | year (n : Nat)
  | month
  | day
  | hour
  | minute
  | second
  | offset (minutes : Int)
  deriving Repr, BEq, DecidableEq

/-- A calendar date. -/
structure Date where
  year : Nat
  month : Nat
  day : Nat
  deriving Repr, BEq, DecidableEq

/-- A date with a time of day, and its distance from universal time in minutes. -/
structure Moment where
  date : Date
  hour : Nat
  minute : Nat
  second : Nat
  microsecond : Nat := 0
  offset : Option Int := none
  deriving Repr, BEq, DecidableEq

namespace Calendar

/-- A number brought to a width by zeros in front. -/
def padded (width n : Nat) : String :=
  String.ofList (Number.padZeros width (Nat.toDigits 10 n))

/-- The number of days of a month. -/
def daysIn (year month : Nat) : Nat :=
  if month == 2 then
    if year % 4 == 0 && (year % 100 != 0 || year % 400 == 0) then 29 else 28
  else if month == 4 || month == 6 || month == 9 || month == 11 then 30
  else 31

/-- The minutes of a day. -/
def minutesPerDay : Int := 24 * 60

/-- A span of whole minutes as a literal: days, which may be negative, and seconds, which are not. -/
def spanLiteral (minutes : Int) : String :=
  let days := minutes.fdiv minutesPerDay
  let seconds := minutes.fmod minutesPerDay * 60
  let parts :=
    (if days == 0 then [] else ["days=" ++ toString days])
      ++ if seconds == 0 then [] else ["seconds=" ++ toString seconds]
  "datetime.timedelta(" ++ (if parts.isEmpty then "0" else ", ".intercalate parts) ++ ")"

end Calendar

/-- A calendar error in words. -/
def CalendarError.message : CalendarError → String
  | year n => "year " ++ toString n ++ " is out of range"
  | month => "month must be in 1..12"
  | day => "day is out of range for month"
  | hour => "hour must be in 0..23"
  | minute => "minute must be in 0..59"
  | second => "second must be in 0..59"
  | offset minutes =>
      "offset must be a timedelta strictly between -timedelta(hours=24) and timedelta(hours=24), not "
        ++ Calendar.spanLiteral minutes ++ "."

namespace Date

open Calendar

/-- A date, if it exists in the calendar. -/
def checked (d : Date) : Except CalendarError Date :=
  if d.year == 0 then .error (.year 0)
  else if d.month == 0 || 12 < d.month then .error .month
  else if d.day == 0 || daysIn d.year d.month < d.day then .error .day
  else .ok d

/-- The number of days from the first day of the calendar up to a date. -/
def ordinal (d : Date) : Nat :=
  let before := d.year - 1
  let months := (List.range (d.month - 1)).foldl (fun days m => days + daysIn d.year (m + 1)) 0
  before * 365 + before / 4 - before / 100 + before / 400 + months + d.day

/-- Year, month and day with hyphens between them. -/
def display (d : Date) : String :=
  padded 4 d.year ++ "-" ++ padded 2 d.month ++ "-" ++ padded 2 d.day

/-- Year, month and day with commas between them. -/
def fields (d : Date) : String :=
  toString d.year ++ ", " ++ toString d.month ++ ", " ++ toString d.day

/-- A date inside a list or a mapping. -/
def literal (d : Date) : String :=
  "datetime.date(" ++ d.fields ++ ")"

end Date

namespace Moment

open Calendar

/-- A moment, if its clock is less than a day away from universal time, its date exists in the calendar,
and its time exists on the clock. -/
def checked (m : Moment) : Except CalendarError Moment := do
  match m.offset with
  | some minutes => if minutesPerDay ≤ minutes.natAbs then throw (.offset minutes)
  | none => pure ()
  let _ ← m.date.checked
  if 23 < m.hour then throw .hour
  else if 59 < m.minute then throw .minute
  else if 59 < m.second then throw .second
  else return m

/-- The distance from universal time as it is written by itself. -/
def offsetText : Option Int → String
  | none => ""
  | some minutes =>
      (if minutes < 0 then "-" else "+") ++ padded 2 (minutes.natAbs / 60) ++ ":"
        ++ padded 2 (minutes.natAbs % 60)

/-- Date and time with a space between them. -/
def display (m : Moment) : String :=
  m.date.display ++ " " ++ padded 2 m.hour ++ ":" ++ padded 2 m.minute ++ ":" ++ padded 2 m.second
    ++ (if m.microsecond == 0 then "" else "." ++ padded 6 m.microsecond) ++ offsetText m.offset

/-- The distance from universal time inside a literal. -/
def offsetLiteral (minutes : Int) : String :=
  if minutes == 0 then "datetime.timezone.utc"
  else "datetime.timezone(" ++ spanLiteral minutes ++ ")"

/-- A moment inside a list or a mapping; seconds are left out when nothing is counted from them on. -/
def literal (m : Moment) : String :=
  let time :=
    [m.hour, m.minute]
      ++ if m.microsecond != 0 then [m.second, m.microsecond]
         else if m.second != 0 then [m.second]
         else []
  let zone := m.offset.toList.map fun minutes => "tzinfo=" ++ offsetLiteral minutes
  "datetime.datetime(" ++ ", ".intercalate (m.date.fields :: time.map toString ++ zone) ++ ")"

/-- The seconds from the start of the calendar up to a moment, on its own clock. -/
def seconds (m : Moment) : Int :=
  ((m.date.ordinal * 24 + m.hour) * 60 + m.minute) * 60 + m.second

/-- Whether two moments are the same. -/
def isSame (m n : Moment) : Bool :=
  match m.offset, n.offset with
  | none, none => m == n
  | some a, some b =>
      m.seconds - a * 60 == n.seconds - b * 60 && m.microsecond == n.microsecond
  | _, _ => false

end Moment
end NamespaceManifest
