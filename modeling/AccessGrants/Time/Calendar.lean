/-!
# AccessGrants.Time.Calendar

The proleptic Gregorian calendar, with a year 0 and negative years. Days are counted from the first
of January 1970.

* `Calendar.Date`     — a year, a month and a day of the month.
* `Date.valid`        — whether there is such a day.
* `Date.dayNumber`    — days since the first of January 1970.
* `Date.ofDayNumber`  — the date of a day.
-/

namespace AccessGrants.Calendar

structure Date where
  year : Int
  month : Nat
  day : Nat
  deriving DecidableEq, Repr, Inhabited

def isLeap (year : Int) : Bool :=
  year % 4 = 0 && (year % 100 ≠ 0 || year % 400 = 0)

/-- The lengths of the months of a year. -/
def monthLengths (leap : Bool) : List Nat :=
  [31, if leap then 29 else 28, 31, 30, 31, 30, 31, 31, 30, 31, 30, 31]

/-- The length of a month, counted from 1; 0 for a month that does not exist. -/
def monthLength (leap : Bool) (month : Nat) : Nat :=
  match month with
  | 0 => 0
  | m + 1 => ((monthLengths leap)[m]?).getD 0

namespace Date

def valid (d : Date) : Bool :=
  1 ≤ d.day && d.day ≤ monthLength (isLeap d.year) d.month

end Date

/-- Days from the first of January of year 0 to the first of January of `year`. -/
def daysBeforeYear (year : Int) : Int :=
  365 * year + (year + 3) / 4 - (year + 99) / 100 + (year + 399) / 400

/-- Days from the first of January of year 0 to the first of January 1970. -/
def epochDay : Int := daysBeforeYear 1970

/-- Days of the year before a month, counted from 1. -/
def daysBeforeMonth (leap : Bool) (month : Nat) : Nat :=
  ((monthLengths leap).take (month - 1)).foldl (· + ·) 0

/-- The year that holds a day counted from the first of January of year 0. The mean length of a
year gives it up to one. -/
def yearOf (day : Int) : Int :=
  let guess := day * 400 / 146097
  if day < daysBeforeYear guess then guess - 1
  else if daysBeforeYear (guess + 1) ≤ day then guess + 1
  else guess

/-- The month, counted from `month`, and the day of that month for a day counted from 0. -/
def monthOf (month : Nat) (day : Nat) : List Nat → Nat × Nat
  | [] => (month, day + 1)
  | length :: rest =>
    if day < length then (month, day + 1) else monthOf (month + 1) (day - length) rest

namespace Date

def dayNumber (d : Date) : Int :=
  daysBeforeYear d.year - epochDay + daysBeforeMonth (isLeap d.year) d.month + (d.day - 1 : Nat)

def ofDayNumber (number : Int) : Date :=
  let day := number + epochDay
  let year := yearOf day
  let (month, day) := monthOf 1 (day - daysBeforeYear year).toNat (monthLengths (isLeap year))
  ⟨year, month, day⟩

end Date

end AccessGrants.Calendar
