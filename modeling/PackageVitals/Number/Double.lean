import PackageVitals.Number.Power

/-!
# Binary floating-point numbers

Rates and scores are binary numbers of double precision. They are kept
here as what they are – a sign, a whole mantissa and a power of two – so
that every operation is exact arithmetic followed by **one rounding**,
`Double.ofRatio`, to the nearest representable number with ties to the
even mantissa.

Every finite value has one representation: the mantissa is below `2^53`,
and it is at least `2^52` unless the exponent is the smallest one, `-1074`;
zero has exponent `0`. The rounding produces no other.
-/

namespace PackageVitals

/-- Rounds a quotient to the nearest whole number, a tie to the even
neighbour. -/
def roundHalfEven (num den : Nat) : Nat :=
  let q := num / den
  let r := num % den
  if 2 * r < den then q
  else if den < 2 * r then q + 1
  else if q % 2 = 0 then q else q + 1

/-- **A number of double precision**: `± mantissa · 2 ^ exponent`, an
infinity, or not a number. -/
inductive Double where
  /-- Not a number. -/
  | nan
  /-- An infinity. -/
  | infinite (negative : Bool)
  /-- The value `± mantissa · 2 ^ exponent`. -/
  | finite (negative : Bool) (mantissa : Nat) (exponent : Int)
  deriving DecidableEq, Inhabited

namespace Double

/-- A quotient divided by a power of two, as a quotient again. -/
def scaled (num den : Nat) (q : Int) : Nat × Nat :=
  if 0 ≤ q then (num, den * twoTo q.toNat) else (num * twoTo (-q).toNat, den)

/-- The exponent of the largest power of two that is not above a positive
quotient. -/
def binaryExponent (num den : Nat) : Int :=
  let e : Int := (num.log2 : Int) - den.log2
  let r := scaled num den e
  if r.1 < r.2 then e - 1 else e

/-- A zero. -/
def zero (negative : Bool) : Double :=
  .finite negative 0 0

/-- **Rounding.** The number nearest to `± num / den`, with ties to the
even mantissa; a quotient beyond the largest number gives an infinity. -/
def ofRatio (negative : Bool) (num den : Nat) : Double :=
  if num = 0 then zero negative
  else
    let q := max (binaryExponent num den - 52) (-1074)
    let r := scaled num den q
    let m := roundHalfEven r.1 r.2
    if m = 0 then zero negative
    else
      let n : Nat × Int := if m = twoTo 53 then (twoTo 52, q + 1) else (m, q)
      if 971 < n.2 then .infinite negative else .finite negative n.1 n.2

/-- The number nearest to `num / den`. -/
def ofFraction (num : Int) (den : Nat) : Double :=
  ofRatio (num < 0) num.natAbs den

/-- The number nearest to a whole number. -/
def ofInt (i : Int) : Double :=
  ofFraction i 1

/-- The number nearest to `± digits · 10 ^ exponent`. Decimals far outside
the range are settled by their magnitude alone. -/
def ofDecimal (negative : Bool) (digits : Nat) (exponent : Int) : Double :=
  let magnitude : Int := (Nat.toDigits 10 digits).length + exponent
  if digits = 0 then zero negative
  else if 400 < magnitude then .infinite negative
  else if magnitude < -400 then zero negative
  else if 0 ≤ exponent then ofRatio negative (digits * tenTo exponent.toNat) 1
  else ofRatio negative digits (tenTo (-exponent).toNat)

/-- The magnitude of a finite number as a quotient. -/
def ratio (mantissa : Nat) (exponent : Int) : Nat × Nat :=
  scaled mantissa 1 (-exponent)

/-- Whether a number is an infinity. -/
def isInfinite : Double → Bool
  | .infinite _ => true
  | _ => false

/-- Whether a number is zero, of either sign. -/
def isZero : Double → Bool
  | .finite _ m _ => m == 0
  | _ => false

/-- Whether a number is greater than zero. -/
def isPositive : Double → Bool
  | .finite s m _ => !s && m != 0
  | .infinite s => !s
  | .nan => false

/-- Whether a number is less than zero. -/
def isNegative : Double → Bool
  | .finite s m _ => s && m != 0
  | .infinite s => s
  | .nan => false

/-- Whether a number is zero or greater. -/
def isNonnegative (x : Double) : Bool :=
  x.isPositive || x.isZero

/-- The sum of two numbers. -/
def add : Double → Double → Double
  | .nan, _ | _, .nan => .nan
  | .infinite s, .infinite t => if s == t then .infinite s else .nan
  | .infinite s, .finite .. => .infinite s
  | .finite .., .infinite t => .infinite t
  | .finite s m p, .finite t n q =>
    let a := ratio m p
    let b := ratio n q
    let signed (neg : Bool) (k : Nat) : Int := if neg then -(k : Int) else k
    let num := signed s (a.1 * b.2) + signed t (b.1 * a.2)
    if num = 0 then zero (s && t) else ofFraction num (a.2 * b.2)

/-- The number nearest to `num / den` times a number. -/
def scaleBy (num den : Nat) : Double → Double
  | .finite s m e =>
    let r := ratio m e
    ofRatio s (r.1 * num) (r.2 * den)
  | x => x

/-- One half. -/
def half : Double :=
  ofRatio false 1 2

/-- The largest whole number not above a finite number. -/
def floor? : Double → Option Int
  | .finite s m e =>
    let r := ratio m e
    some (if s then -(((r.1 + r.2 - 1) / r.2 : Nat) : Int) else ((r.1 / r.2 : Nat) : Int))
  | _ => none

/-- The whole number next to a finite number on the side of zero. -/
def truncate? : Double → Option Int
  | .finite s m e =>
    let r := ratio m e
    let n : Int := ((r.1 / r.2 : Nat) : Int)
    some (if s then -n else n)
  | _ => none

/-- The whole number that a finite number is, if it is one. -/
def toInt? : Double → Option Int
  | .finite s m e =>
    let r := ratio m e
    if r.1 % r.2 = 0 then
      let n : Int := ((r.1 / r.2 : Nat) : Int)
      some (if s then -n else n)
    else none
  | _ => none

end Double

end PackageVitals
