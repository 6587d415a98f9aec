/-!
# The calendar

Days of the Gregorian calendar, extended to all years from 1 to 9999. A
day is given by year, month and day of the month, by its **ordinal** –
how many days lie up to it, the first of January of year 1 being day 1 –
or by year, week and weekday.
-/

namespace PackageVitals

/-- **A day** of the calendar. -/
structure Date where
  /-- The year. -/
  year : Nat
  /-- The month, from 1. -/
  month : Nat
  /-- The day of the month, from 1. -/
  day : Nat
  deriving DecidableEq, Inhabited

namespace Date

/-- Whether a year has a 29th of February. -/
def isLeap (year : Nat) : Bool :=
  year % 4 == 0 && (year % 100 != 0 || year % 400 == 0)

/-- How many days the months before a given one have in a common year. -/
def monthStarts : List Nat := [0, 0, 31, 59, 90, 120, 151, 181, 212, 243, 273, 304, 334]

/-- How many days a month has. -/
def monthLength (year month : Nat) : Nat :=
  if month = 2 then if isLeap year then 29 else 28
  else if month = 4 ∨ month = 6 ∨ month = 9 ∨ month = 11 then 30
  else 31

/-- How many days the months before a given one have. -/
def daysBeforeMonth (year month : Nat) : Nat :=
  monthStarts.getD month 0 + if 2 < month ∧ isLeap year then 1 else 0

/-- How many days the years before a given one have. -/
def daysBeforeYear (year : Nat) : Nat :=
  let y := year - 1
  y * 365 + y / 4 - y / 100 + y / 400

/-- Whether the year has the month and the month the day. -/
def isInYear (d : Date) : Bool :=
  1 ≤ d.month && d.month ≤ 12 && 1 ≤ d.day && d.day ≤ monthLength d.year d.month

/-- Whether the day exists. -/
def isValid (d : Date) : Bool :=
  1 ≤ d.year && d.year ≤ 9999 && d.isInYear

/-- The ordinal of a day. -/
def ordinal (d : Date) : Nat :=
  daysBeforeYear d.year + daysBeforeMonth d.year d.month + d.day

/-- The last month that starts before the given day of a year, counting
down from `month`. -/
def monthOf (year dayOfYear : Nat) : Nat → Nat
  | 0 => 1
  | month + 1 =>
    if daysBeforeMonth year (month + 1) < dayOfYear then month + 1
    else monthOf year dayOfYear month

/-- The last year that starts before the given ordinal, counting down from
`year` for a number of steps. -/
def yearOf (n : Nat) : Nat → Nat → Nat
  | 0, year => year
  | fuel + 1, year => if daysBeforeYear year < n then year else yearOf n fuel (year - 1)

/-- The day of an ordinal from 1. Counting years of 365 days overshoots by
less than ten years. -/
def ofOrdinal (n : Nat) : Date :=
  let year := yearOf n 10 (n / 365 + 1)
  let dayOfYear := n - daysBeforeYear year
  let month := monthOf year dayOfYear 12
  ⟨year, month, dayOfYear - daysBeforeMonth year month⟩

/-- The weekday of an ordinal, Monday being 0. -/
def weekday (n : Nat) : Nat :=
  (n + 6) % 7

/-- The ordinal of the Monday on which the first week of a year starts:
the week that holds the year's first Thursday. It may lie before the
calendar, so the result is whole and not natural. -/
def firstMonday (year : Nat) : Int :=
  let first := daysBeforeYear year + 1
  let monday : Int := (first : Int) - weekday first
  if 3 < weekday first then monday + 7 else monday

/-- Whether a year has a 53rd week: it starts on a Thursday, or on a
Wednesday and is a leap year. -/
def hasWeek53 (year : Nat) : Bool :=
  let w := weekday (daysBeforeYear year + 1)
  w == 3 || (w == 2 && isLeap year)

/-- The day of a year, week and weekday, the weekday counted from 1. -/
def ofWeek? (year week weekday : Nat) : Option Date :=
  let weekExists := 1 ≤ week ∧ (week ≤ 52 ∨ (week = 53 ∧ hasWeek53 year))
  if 1 ≤ year ∧ weekExists ∧ 1 ≤ weekday ∧ weekday ≤ 7 then
    let n := firstMonday year + ((week - 1) * 7 + (weekday - 1) : Nat)
    if 1 ≤ n then some (ofOrdinal n.toNat) else none
  else none

end Date

end PackageVitals
