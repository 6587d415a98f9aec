import PackageVitals.Number.Reading
import PackageVitals.Time.Timestamp

/-!
# Reading the times of a stored record

The times of a stored record are read from one fixed notation: a day with
dashes, a time with colons whose seconds are optional, and a distance in
hours and minutes or the letter `Z`. A day alone stands for its midnight.
A number counts the seconds since the start of 1970 in universal time, or
the milliseconds where it is too large for seconds.

A text that writes no time and a count that is out of reach are refused
for that reason; a time in the year 0, which the notation has and the
calendar has not, is `beyondCalendar`.
-/

namespace PackageVitals.Timestamp

open PackageVitals.Text (asciiDigit? ofDigits)

/-- The number that exactly two digits write, and the rest. -/
def readPair : List Char → Option (Nat × List Char)
  | a :: b :: rest => do return (10 * (← asciiDigit? a) + (← asciiDigit? b), rest)
  | _ => none

/-- A character that has to stand at the start of a text. -/
def expect (c : Char) : List Char → Option (List Char)
  | x :: rest => if x == c then some rest else none
  | [] => none

/-- A day with dashes, and the rest. -/
def readDashedDay (s : List Char) : Option (Date × List Char) := do
  let (century, rest) ← readPair s
  let (year, rest) ← readPair rest
  let (month, rest) ← readPair (← expect '-' rest)
  let (day, rest) ← readPair (← expect '-' rest)
  return (⟨100 * century + year, month, day⟩, rest)

/-- The fraction of a second, of which six digits count, and the rest. -/
def readPlaces (s : List Char) : Option (Nat × List Char) :=
  match s with
  | c :: rest =>
    if c == '.' || c == ',' then
      let digits := (rest.takeWhile fun c => (asciiDigit? c).isSome).filterMap asciiDigit?
      if digits.isEmpty then none
      else some (ofDigits ((digits ++ List.replicate 6 0).take 6), rest.drop digits.length)
    else some (0, s)
  | [] => some (0, s)

/-- Seconds and their fraction, where they are written, and the rest. -/
def readSeconds (s : List Char) : Option ((Nat × Nat) × List Char) :=
  match s with
  | ':' :: rest => do
    let (second, rest) ← readPair rest
    let (micro, rest) ← readPlaces rest
    return ((second, micro), rest)
  | _ => some ((0, 0), s)

/-- The distance from universal time that a whole text writes. -/
def readZone (s : List Char) : Option (Option Int) :=
  match s with
  | [] => some none
  | ['Z'] | ['z'] => some (some 0)
  | sign :: rest =>
    if sign == '+' || sign == '-' || sign == '−' then do
      let (hours, rest) ← readPair rest
      let (minutes, rest) ← readPair (if rest.head? == some ':' then rest.drop 1 else rest)
      if minutes < 60 ∧ rest.isEmpty then
        return some (Number.signed (sign != '+') ((hours * 60 + minutes) * 60000000))
      else none
    else none

/-- The timestamp or the day that a text in the notation of records
writes. The notation has a year 0, which is a leap year. -/
def ofDashed? (s : List Char) : Option Timestamp := do
  let (d, rest) ← readDashedDay s
  let t ← match rest with
    | [] => some (midnight d)
    | mark :: rest =>
      if mark == 'T' || mark == 't' || mark == ' ' || mark == '_' then do
        let (hour, rest) ← readPair rest
        let (minute, rest) ← readPair (← expect ':' rest)
        let ((second, micro), rest) ← readSeconds rest
        return ⟨d, hour, minute, second, micro, ← readZone rest⟩
      else none
  if t.date.isInYear && t.isInDay then some t else none

/-- The instant at which 1970 starts. -/
def epoch : Int := 719163 * dayLength

/-- The largest count that is taken for seconds. -/
def mostSeconds : Nat := 20000000000

/-- The timestamp of seconds and microseconds since 1970. `outside` is the
complaint about a count beyond the years 0 to 9999; the year 0 itself can be
counted to, but the calendar has no day in it. -/
def ofEpoch (outside : Complaint) (seconds : Int) (micros : Nat) : Except Complaint Timestamp :=
  let seconds := seconds + (micros / 1000000 : Nat)
  if seconds < -62167219200 ∨ 253402300799 < seconds then .error outside
  else match ofInstant? (epoch + seconds * 1000000 + (micros % 1000000 : Nat)) with
    | some t => .ok t
    | none => .error .beyondCalendar

/-- The timestamp of a whole count of seconds, or of milliseconds where it
is too large for seconds. -/
def ofCount (outside : Complaint) (n : Int) : Except Complaint Timestamp :=
  if n.natAbs ≤ mostSeconds then ofEpoch outside n 0
  else ofEpoch outside (Int.fdiv n 1000) ((Int.fmod n 1000).toNat * 1000)

/-- Whether a number is too large in magnitude to count seconds. -/
def isBeyondSeconds : Double → Bool
  | .finite _ m e => let r := Double.ratio m e; mostSeconds * r.2 < r.1
  | _ => true

/-- The nearest whole number to one that is not negative, a half upwards. -/
def roundHalfUp : Double → Nat
  | .finite _ m e => let r := Double.ratio m e; (2 * r.1 + r.2) / (2 * r.2)
  | _ => 0

/-- The timestamp of a number of seconds, or of milliseconds where it is too
large for seconds. The microseconds are what lies above the whole second
below it, rounded. -/
def ofNumber (outside : Complaint) (x : Double) : Except Complaint Timestamp :=
  let seconds := if isBeyondSeconds x then x.scaleBy 1 1000 else x
  match seconds.floor? with
  | none => .error outside
  | some whole =>
    ofEpoch outside whole
      (roundHalfUp ((seconds.add (.ofInt (-whole))).scaleBy 1000000 1))

/-- The point in time that a text counts to: digits after an optional sign
are a whole count, and a mark after them makes the text a number. -/
def ofWritten (s : List Char) : Except Complaint Timestamp :=
  let (negative, body) := Number.splitSign s
  let digits := body.takeWhile Char.isDigit
  match body.drop digits.length with
  | [] =>
    if digits.isEmpty then .error .timeText
    else ofCount .timeText (Number.signed negative (ofDigits (digits.filterMap asciiDigit?)))
  | '.' :: _ =>
    match Number.readBareDouble? s with
    | some x => ofNumber .timeText x
    | none => .error .timeText
  | _ => .error .timeText

/-- **Reads a time of a stored record** from a text. -/
def ofPlain (s : List Char) : Except Complaint Timestamp :=
  match ofDashed? s with
  | some t => if t.date.year = 0 then .error .beyondCalendar else .ok t
  | none => ofWritten s

end PackageVitals.Timestamp
