import PackageVitals.Failure
import PackageVitals.Number.Double
import PackageVitals.Text.Digit
import PackageVitals.Time.Calendar

/-!
# Timestamps

A point in time as a provider writes it: a day, a time of day down to the
microsecond, and the distance from universal time, if the text gives one.
Two timestamps are comparable only if both have that distance or neither
has; `Timestamp.daysSince` fails on a mixed pair instead of guessing.

An age is counted in **whole days**, rounded down, so a timestamp that is
an hour ahead is `-1` days old.
-/

namespace PackageVitals

/-- **A point in time**, as written. -/
structure Timestamp where
  /-- The day. -/
  date : Date
  /-- The hour, below 24. -/
  hour : Nat
  /-- The minute, below 60. -/
  minute : Nat
  /-- The second, below 60. -/
  second : Nat
  /-- The microsecond, below a million. -/
  micro : Nat
  /-- How many microseconds the clock is ahead of universal time. -/
  offset : Option Int
  deriving DecidableEq, Inhabited

namespace Timestamp

open PackageVitals.Text (padded)

/-- Microseconds of a day. -/
def dayLength : Int := 86400000000

/-- Whether the time of day and the distance are in their bounds. -/
def isInDay (t : Timestamp) : Bool :=
  t.hour < 24 && t.minute < 60 && t.second < 60 && t.micro < 1000000
    && t.offset.all fun o => o.natAbs < 86400000000

/-- Whether the parts are in their bounds. -/
def isValid (t : Timestamp) : Bool :=
  t.date.isValid && t.isInDay

/-- Microseconds on the clock that the timestamp shows, since the day
before the calendar starts. -/
def shown (t : Timestamp) : Int :=
  (t.date.ordinal : Int) * dayLength
    + (((t.hour * 60 + t.minute) * 60 + t.second) * 1000000 + t.micro : Nat)

/-- The instant in universal time, an unknown distance counting as none. -/
def instant (t : Timestamp) : Int :=
  t.shown - t.offset.getD 0

/-- **Age in whole days**, rounded down. -/
def daysSince (now created : Timestamp) : Except Failure Int :=
  if now.offset.isSome == created.offset.isSome then
    .ok (Int.fdiv (now.instant - created.instant) dayLength)
  else .error .wrongShape

/-- Midnight at the start of a day. -/
def midnight (d : Date) : Timestamp :=
  ⟨d, 0, 0, 0, 0, none⟩

/-- The timestamp in universal time of an instant, if the calendar has it. -/
def ofInstant? (micros : Int) : Option Timestamp :=
  let days := Int.fdiv micros dayLength
  let rest := (Int.fmod micros dayLength).toNat
  if days < 1 ∨ 3652059 < days then none
  else
    let seconds := rest / 1000000
    some ⟨.ofOrdinal days.toNat, seconds / 3600, seconds / 60 % 60, seconds % 60,
      rest % 1000000, some 0⟩

/-- The microseconds of a written time, left out where there are none. -/
def microText (micro : Nat) : String :=
  if micro = 0 then "" else "." ++ padded 6 micro

/-- Day and time of day. -/
def clockText (t : Timestamp) : String :=
  padded 4 t.date.year ++ "-" ++ padded 2 t.date.month ++ "-" ++ padded 2 t.date.day ++ "T"
    ++ padded 2 t.hour ++ ":" ++ padded 2 t.minute ++ ":" ++ padded 2 t.second
    ++ microText t.micro

/-- A distance from universal time, down to the last part that is not
zero but at least to the minute. -/
def offsetText (o : Int) : String :=
  let micros := o.natAbs
  let seconds := micros / 1000000
  (if o < 0 then "-" else "+") ++ padded 2 (seconds / 3600) ++ ":" ++ padded 2 (seconds / 60 % 60)
    ++ if micros % 60000000 = 0 then ""
      else ":" ++ padded 2 (seconds % 60) ++ microText (micros % 1000000)

/-- **A timestamp in full**: universal time is shown as `+00:00`. -/
def text (t : Timestamp) : String :=
  t.clockText ++ match t.offset with
    | none => ""
    | some o => offsetText o

/-- **A timestamp in a stored record**: a distance of no second is shown as
`Z`, any other in hours and minutes. The distance is first rounded to
seconds, a half to the even one. -/
def recordText (t : Timestamp) : String :=
  t.clockText ++ match t.offset with
    | none => ""
    | some o =>
      let seconds := roundHalfEven o.natAbs 1000000
      if seconds = 0 then "Z"
      else (if o < 0 then "-" else "+") ++ padded 2 (seconds / 3600) ++ ":"
        ++ padded 2 (seconds / 60 % 60)

end Timestamp

end PackageVitals
