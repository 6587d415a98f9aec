import PackageVitals.Number.Reading
import PackageVitals.Time.Timestamp

/-!
# Reading timestamps

Providers write timestamps in the formats of the ISO standard, with
dashes and colons or without, and this module reads all of them:

* a day as `2024-05-30`, `20240530`, or by week as `2024-W22-4`,
  `2024W224`, the weekday being Monday where it is left out;
* then, after **any one character**, a time: hour, minute and second with
  colons or without, each but the hour optional, and a fraction after a
  point or a comma, of which six digits count;
* then a distance from universal time in the same notation after a sign.

Where the day ends depends on the first characters of the text alone, and
`dayLength?` says where. The letter `Z` stands for `+00:00` wherever it
occurs.
-/

namespace PackageVitals.Timestamp

open PackageVitals.Text (asciiDigit? ofDigits)

/-- The number that exactly `n` digits at the start of a text write, and
the rest. -/
def readDigits (n : Nat) (s : List Char) : Option (Nat × List Char) :=
  let ds := (s.take n).filterMap asciiDigit?
  if ds.length = n then some (ofDigits ds, s.drop n) else none

/-- Whether a text has a digit at a place. -/
def digitAt (s : List Char) (i : Nat) : Bool :=
  match s[i]? with
  | some c => (asciiDigit? c).isSome
  | none => false

/-- Whether a text has a given character at a place. -/
def charAt (s : List Char) (i : Nat) (c : Char) : Bool :=
  s[i]? == some c

/-- How many characters the day takes at the start of a text. A day by
week without dashes is told from one with a weekday by the count of digits
up to the separator, since the digits of a time come in pairs. -/
def dayLength? (s : List Char) : Option Nat :=
  if s.length < 7 then none
  else if s.length = 7 then some 7
  else if charAt s 4 '-' then
    if charAt s 5 'W' then
      if 8 < s.length ∧ charAt s 8 '-' then
        if s.length = 9 then none
        else if digitAt s 10 then some 8 else some 10
      else some 8
    else some 10
  else if charAt s 4 'W' then
    let digits := ((s.drop 7).takeWhile fun c => (asciiDigit? c).isSome).length
    if digits < 2 then some (7 + digits)
    else if (7 + digits) % 2 = 0 then some 7 else some 8
  else some 8

/-- A dash, where the day is written with dashes. -/
def skipDash (dashed : Bool) (s : List Char) : Option (List Char) :=
  if dashed then
    match s with
    | '-' :: rest => some rest
    | _ => none
  else some s

/-- The day that a whole text writes. -/
def readDay? (s : List Char) : Option Date := do
  let (year, rest) ← readDigits 4 s
  let dashed := rest.head? == some '-'
  let rest := if dashed then rest.drop 1 else rest
  match rest with
  | 'W' :: rest =>
    let (week, rest) ← readDigits 2 rest
    if rest.isEmpty then Date.ofWeek? year week 1
    else
      let (weekday, _) ← readDigits 1 (← skipDash dashed rest)
      Date.ofWeek? year week weekday
  | _ =>
    let (month, rest) ← readDigits 2 rest
    let (day, _) ← readDigits 2 (← skipDash dashed rest)
    return ⟨year, month, day⟩

/-- **A time of day** or a distance as read: its parts, and whether
something was left over. -/
structure Clock where
  /-- Hours, minutes and seconds, as far as they are written. -/
  parts : List Nat
  /-- Microseconds. -/
  micro : Nat
  /-- Whether characters were left over. -/
  leftover : Bool

/-- The microseconds of a fraction: its first six digits. -/
def readFraction (parts : List Nat) (s : List Char) : Option Clock := do
  let n := min 6 s.length
  let (value, rest) ← readDigits n s
  let rest := rest.dropWhile fun c => (asciiDigit? c).isSome
  return ⟨parts, value * tenTo (6 - n), !rest.isEmpty⟩

/-- Reads up to `n` more parts of two digits each. `colons` says whether
the parts read so far are separated. -/
def readParts (colons : Option Bool) (parts : List Nat) : Nat → List Char → Option Clock
  | 0, s => readFraction parts s
  | n + 1, s =>
    match readDigits 2 s with
    | none => none
    | some (value, rest) =>
      let parts := parts ++ [value]
      match rest with
      | [] => some ⟨parts, 0, false⟩
      | [_] => some ⟨parts, 0, true⟩
      | c :: tail =>
        let colons := colons.getD (c == ':')
        if colons && c == ':' then readParts (some true) parts n tail
        else if c == '.' || c == ',' then readFraction parts tail
        else if colons then none
        else readParts (some false) parts n (c :: tail)

/-- A time of day or a distance. -/
def readClock (s : List Char) : Option Clock :=
  readParts none [] 3 s

/-- The distance from universal time after its sign. A distance of no
whole second is none. -/
def readOffset (negative : Bool) (s : List Char) : Option Int := do
  let c ← readClock s
  let part (i : Nat) : Nat := c.parts.getD i 0
  let seconds := (part 0 * 60 + part 1) * 60 + part 2
  if c.leftover then none
  else if seconds = 0 then return 0
  else return Number.signed negative (seconds * 1000000 + c.micro)

/-- A time of day with the distance from universal time that may follow it,
on a given day. A distance excuses what stands between it and the time. -/
def readTime? (d : Date) (s : List Char) : Option Timestamp := do
  let isSign (c : Char) : Bool := c == '+' || c == '-'
  let c ← readClock (s.takeWhile (!isSign ·))
  let part (i : Nat) : Nat := c.parts.getD i 0
  let stamp (offset : Option Int) : Timestamp := ⟨d, part 0, part 1, part 2, c.micro, offset⟩
  match s.dropWhile (!isSign ·) with
  | [] => if c.leftover then none else return stamp none
  | sign :: rest => return stamp (some (← readOffset (sign == '-') rest))

/-- The timestamp that a text in one of the ISO formats writes. -/
def ofIso? (s : List Char) : Option Timestamp := do
  let n ← dayLength? s
  let d ← readDay? (s.take n)
  let t ← match s.drop n with
    | [] => some (midnight d)
    | _ :: rest => readTime? d rest
  if t.isValid then some t else none

/-- Writes the letter `Z` out as a distance. -/
def spellZulu (s : List Char) : List Char :=
  s.flatMap fun c => if c == 'Z' then "+00:00".toList else [c]

/-- **Reads a provider's timestamp.** -/
def read (s : String) : Except Failure Timestamp :=
  match ofIso? (spellZulu s.toList) with
  | some t => .ok t
  | none => .error .badValue

end PackageVitals.Timestamp
