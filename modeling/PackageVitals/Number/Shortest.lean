import PackageVitals.Number.Double

/-!
# The shortest decimal

Among the decimals that read back as a given binary number there is a
shortest one, and a number is written with its digits. A decimal reads
back if it lies in the interval of reals that round to the number, ends
included where the mantissa is even. For one digit, two digits, and so on
up to seventeen, the decimals of that length form a grid, and if any
point of the grid lies in the interval then so does one of the two
neighbours of the number itself. The first grid with a hit decides; of
two hits the nearer one is taken, and of two equally near ones the even
one.
-/

namespace PackageVitals.Double

/-- How many decimal digits a number has. -/
def digitCount (n : Nat) : Nat :=
  (Nat.toDigits 10 n).length

/-- A power of ten as a quotient. -/
def tenPower (g : Int) : Nat × Nat :=
  if 0 ≤ g then (tenTo g.toNat, 1) else (1, tenTo (-g).toNat)

/-- The exponent of the largest power of ten not above a positive
quotient. -/
def decimalExponent (num den : Nat) : Int :=
  let e : Int := (digitCount num : Int) - digitCount den
  let t := tenPower e
  if num * t.2 < den * t.1 then e - 1 else e

/-- **The reals that round to a number**, over one denominator. -/
structure RoundingInterval where
  /-- The lower end. -/
  low : Nat
  /-- The number itself. -/
  mid : Nat
  /-- The upper end. -/
  high : Nat
  /-- The denominator of all three. -/
  den : Nat
  /-- Whether the ends round to the number too. -/
  closed : Bool

namespace RoundingInterval

/-- The interval of a positive number. Below a power of two the next
number is only half as far away. -/
def ofParts (mantissa : Nat) (exponent : Int) : RoundingInterval :=
  let below := if mantissa = twoTo 52 ∧ -1074 < exponent then 1 else 2
  let unit := ratio 1 (exponent - 2)
  { low := (4 * mantissa - below) * unit.1
    mid := 4 * mantissa * unit.1
    high := (4 * mantissa + 2) * unit.1
    den := unit.2
    closed := mantissa % 2 == 0 }

/-- Whether the decimal `c · 10 ^ g` reads back as the number. -/
def holds (i : RoundingInterval) (c : Nat) (g : Int) : Bool :=
  let t := tenPower g
  let x := c * t.1 * i.den
  let low := i.low * t.2
  let high := i.high * t.2
  if i.closed then low ≤ x && x ≤ high else low < x && x < high

/-- The grid point `c · 10 ^ g` just below the number or equal to it. -/
def gridBelow (i : RoundingInterval) (g : Int) : Nat :=
  let t := tenPower g
  i.mid * t.2 / (i.den * t.1)

/-- The best decimal on the grid of step `10 ^ g` that reads back. -/
def onGrid? (i : RoundingInterval) (g : Int) : Option Nat :=
  let c := i.gridBelow g
  match i.holds c g, i.holds (c + 1) g with
  | true, false => some c
  | false, true => some (c + 1)
  | false, false => none
  | true, true =>
    let t := tenPower g
    let below := i.mid * t.2 - c * t.1 * i.den
    let above := (c + 1) * t.1 * i.den - i.mid * t.2
    if below < above then some c
    else if above < below then some (c + 1)
    else if c % 2 = 0 then some c else some (c + 1)

end RoundingInterval

/-- Moves the zeros at the end of a decimal into its exponent. -/
def dropZeros : Nat → Nat → Int → Nat × Int
  | 0, c, g => (c, g)
  | fuel + 1, c, g => if c % 10 = 0 ∧ c ≠ 0 then dropZeros fuel (c / 10) (g + 1) else (c, g)

/-- **The shortest decimal** `(c, g)`, standing for `c · 10 ^ g`, that
reads back as a positive number. -/
def shortest (mantissa : Nat) (exponent : Int) : Nat × Int :=
  let i := RoundingInterval.ofParts mantissa exponent
  let k := decimalExponent i.mid i.den
  let grids := (List.range 17).map fun (n : Nat) => k - (n : Int)
  match grids.findSome? fun g => (i.onGrid? g).map (·, g) with
  | some (c, g) => dropZeros 17 c g
  | none => (i.gridBelow (k - 16), k - 16)

end PackageVitals.Double
