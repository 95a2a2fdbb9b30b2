import UsageWatch.Timestamp
/-!
# Calendar

Dates of the Gregorian calendar extended in both directions, counted in days
from 1970-01-01. A point in time has a date when its year lies between
-262143 and 262142; all times are shown in UTC.
-/

namespace UsageWatch

structure Date where
  year : Int
  month : Nat
  day : Nat
deriving DecidableEq, Repr

structure TimeOfDay where
  hour : Nat
  minute : Nat
  second : Nat
  millis : Nat
deriving DecidableEq, Repr

namespace Date

def isLeap (year : Int) : Bool :=
  year % 4 == 0 && (year % 100 != 0 || year % 400 == 0)

def monthLength (year : Int) (month : Nat) : Nat :=
  match month with
  | 2 => if isLeap year then 29 else 28
  | 4 | 6 | 9 | 11 => 30
  | _ => 31

def Valid (d : Date) : Prop :=
  1 ≤ d.month ∧ d.month ≤ 12 ∧ 1 ≤ d.day ∧ d.day ≤ monthLength d.year d.month

instance (d : Date) : Decidable d.Valid := by unfold Valid; infer_instance

/-- Years are counted from March, in eras of 400 years, so that the leap day
is the last day of its year. -/
def toDays (d : Date) : Int :=
  let y := if d.month ≤ 2 then d.year - 1 else d.year
  let era := y / 400
  let yearOfEra := y % 400
  let month := (if d.month ≤ 2 then d.month + 9 else d.month - 3 : Nat)
  let dayOfYear := (153 * (month : Int) + 2) / 5 + d.day - 1
  let dayOfEra := yearOfEra * 365 + yearOfEra / 4 - yearOfEra / 100 + dayOfYear
  era * 146097 + dayOfEra - 719468

def ofDays (days : Int) : Date :=
  let z := days + 719468
  let era := z / 146097
  let dayOfEra := z % 146097
  let yearOfEra := (dayOfEra - dayOfEra / 1460 + dayOfEra / 36524 - dayOfEra / 146096) / 365
  let dayOfYear := dayOfEra - (365 * yearOfEra + yearOfEra / 4 - yearOfEra / 100)
  let month := (5 * dayOfYear + 2) / 153
  let day := dayOfYear - (153 * month + 2) / 5 + 1
  let civilMonth := if month < 10 then month + 3 else month - 9
  let year := yearOfEra + era * 400 + (if civilMonth ≤ 2 then 1 else 0)
  ⟨year, civilMonth.toNat, day.toNat⟩

end Date

namespace TimeOfDay

def ofNanos (n : Nat) : TimeOfDay :=
  let s := n / 1000000000
  ⟨s / 3600, s / 60 % 60, s % 60, n / 1000000 % 1000⟩

def toMillis (t : TimeOfDay) : Nat :=
  ((t.hour * 60 + t.minute) * 60 + t.second) * 1000 + t.millis

def Valid (t : TimeOfDay) : Prop :=
  t.hour < 24 ∧ t.minute < 60 ∧ t.second < 60 ∧ t.millis < 1000

end TimeOfDay

structure CivilTime where
  date : Date
  weekday : Nat
  time : TimeOfDay
deriving DecidableEq, Repr

namespace Timestamp

def nanosPerDay : Int := 86400000000000

def day (t : Timestamp) : Int := t.nanos / nanosPerDay

def InCalendar (t : Timestamp) : Prop :=
  -8334601228800 ≤ t.seconds ∧ t.seconds ≤ 8210266876799

instance (t : Timestamp) : Decidable t.InCalendar := by unfold InCalendar; infer_instance

/-- Date and time of day, if the calendar reaches the point. Weekdays count
from Sunday; the epoch was a Thursday. -/
def civil? (t : Timestamp) : Option CivilTime :=
  if t.InCalendar then
    some ⟨Date.ofDays t.day, ((t.day + 4) % 7).toNat, TimeOfDay.ofNanos (t.nanos % nanosPerDay).toNat⟩
  else
    none

end Timestamp

namespace CivilTime

def weekdayName : Nat → String
  | 0 => "Sun" | 1 => "Mon" | 2 => "Tue" | 3 => "Wed" | 4 => "Thu" | 5 => "Fri" | _ => "Sat"

def monthName : Nat → String
  | 1 => "Jan" | 2 => "Feb" | 3 => "Mar" | 4 => "Apr" | 5 => "May" | 6 => "Jun"
  | 7 => "Jul" | 8 => "Aug" | 9 => "Sep" | 10 => "Oct" | 11 => "Nov" | _ => "Dec"

/-- A number at least `width` wide, filled on the left. -/
def padded (fill : Char) (width n : Nat) : String :=
  let digits := toString n
  "".pushn fill (width - digits.length) ++ digits

/-- Four digits; years before 0 and after 9999 carry a sign. -/
def yearText (y : Int) : String :=
  if 0 ≤ y ∧ y ≤ 9999 then padded '0' 4 y.toNat
  else if y < 0 then "-" ++ padded '0' 4 (-y).toNat
  else "+" ++ padded '0' 4 y.toNat

def clockText (t : TimeOfDay) : String :=
  padded '0' 2 t.hour ++ ":" ++ padded '0' 2 t.minute ++ ":" ++ padded '0' 2 t.second

/-- The form used in reports, such as `Thu Jan  1 00:00:00 1970 +00:00`. -/
def reportText (c : CivilTime) : String :=
  weekdayName c.weekday ++ " " ++ monthName c.date.month ++ " " ++ padded ' ' 2 c.date.day ++ " "
    ++ clockText c.time ++ " " ++ yearText c.date.year ++ " +00:00"

/-- The form used in status tables, such as `1970-01-01T00:00:00Z`. -/
def isoText (c : CivilTime) : String :=
  yearText c.date.year ++ "-" ++ padded '0' 2 c.date.month ++ "-" ++ padded '0' 2 c.date.day ++ "T"
    ++ clockText c.time ++ "Z"

end CivilTime

end UsageWatch
