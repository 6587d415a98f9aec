import PackageVitals.Number.Shortest
import PackageVitals.Text.Digit

/-!
# Written numbers

A number of double precision is written in three ways. In data it is
written **in full**: the shortest digits that read back, positionally
from `10^-4` up to below `10^16`, with a mark and at least one digit after
it, and with an exponent of two or more digits elsewhere. In a table it is
written with a **fixed** number of places, or **briefly** with six
significant digits and no zeros at the end. All three round the exact
value, a tie to the even neighbour.
-/

namespace PackageVitals.Double

open PackageVitals.Text (padded decimal)

/-- A minus sign, where there is one. -/
def signText (negative : Bool) : String :=
  if negative then "-" else ""

/-- An exponent: its sign and two digits or more. -/
def exponentText (e : Int) : String :=
  (if e < 0 then "e-" else "e+") ++ padded 2 e.natAbs

/-- Digits around a decimal mark that stands after `point` of them, zeros
filling the gap on either side. -/
def positional (digits : List Char) (point : Int) : String :=
  if point ≤ 0 then
    String.ofList ('0' :: '.' :: List.replicate (-point).toNat '0' ++ digits)
  else
    let n := point.toNat
    let whole := digits.take n ++ List.replicate (n - digits.length) '0'
    match digits.drop n with
    | [] => String.ofList whole
    | rest => String.ofList (whole ++ '.' :: rest)

/-- The first digit, the others after a mark. -/
def leading : List Char → String
  | [] => ""
  | [d] => String.ofList [d]
  | d :: rest => String.ofList (d :: '.' :: rest)

/-- **A number in full**, given the texts of an infinity and of what is
not a number. -/
def inFull (infinity notANumber : String) : Double → String
  | .nan => notANumber
  | .infinite s => signText s ++ infinity
  | .finite s m e =>
    if m = 0 then signText s ++ "0.0"
    else
      let d := shortest m e
      let digits := Nat.toDigits 10 d.1
      let point := (digits.length : Int) + d.2
      signText s ++
        if -4 < point ∧ point ≤ 16 then
          let text := positional digits point
          if digits.length ≤ point.toNat then text ++ ".0" else text
        else leading digits ++ exponentText (point - 1)

/-- A number in full, with `inf` and `nan` for what has no digits. -/
def text : Double → String :=
  inFull "inf" "nan"

/-- **A number with a fixed count of places.** -/
def fixed (places : Nat) : Double → String
  | .nan => "nan"
  | .infinite s => signText s ++ "inf"
  | .finite s m e =>
    let r := ratio m e
    let n := roundHalfEven (r.1 * tenTo places) r.2
    signText s ++ decimal (n / tenTo places) ++
      if places = 0 then "" else "." ++ padded places (n % tenTo places)

/-- **A number in brief**: at most six significant digits. -/
def brief : Double → String
  | .nan => "nan"
  | .infinite s => signText s ++ "inf"
  | .finite s m e =>
    if m = 0 then signText s ++ "0"
    else
      let r := ratio m e
      let k := decimalExponent r.1 r.2
      let t := tenPower (k - 5)
      let c := roundHalfEven (r.1 * t.2) (r.2 * t.1)
      let d : Nat × Int := if c = tenTo 6 then (tenTo 5, k + 1) else (c, k)
      let digits := Nat.toDigits 10 (dropZeros 6 d.1 0).1
      signText s ++
        if -4 ≤ d.2 ∧ d.2 < 6 then positional digits (d.2 + 1)
        else leading digits ++ exponentText d.2

end PackageVitals.Double
