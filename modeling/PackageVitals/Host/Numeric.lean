import PackageVitals.Text.Digit
import PackageVitals.Text.Split

/-!
# Numeric hosts

A host can be given by its number in the network, in one of two notations.
A number of 32 bits is written as four numbers with dots between them. A
number of 128 bits is written in brackets as eight groups of hexadecimal
digits with colons between them; two colons stand for all groups left out,
and the last two groups may be written as a number of 32 bits.

A text that looks like four numbers is meant as the first notation, even
where it is wrong (`isFourNumbers`).
-/

namespace PackageVitals.Host

open PackageVitals.Text (asciiDigit? hexDigit? ofDigits splitAll splitFirst)

/-- Whether a character is an ASCII digit. -/
def isDigit (c : Char) : Bool :=
  (asciiDigit? c).isSome

mutual

/-- Whether a text consists of so many runs of digits and one more, with any
one character between two runs. -/
def isNumbers (more : Nat) : List Char → Bool
  | [] => false
  | c :: rest => isDigit c && isNumbersAfter more rest

/-- The same after the first digit of a run. -/
def isNumbersAfter (more : Nat) : List Char → Bool
  | [] => more == 0
  | c :: rest =>
    (isDigit c && isNumbersAfter more rest) ||
      match more with
      | 0 => false
      | n + 1 => isNumbers n rest

end

/-- Whether a text looks like four numbers. -/
def isFourNumbers (s : List Char) : Bool :=
  isNumbers 3 s

/-- Whether a text is a number below 256, without needless zeros. -/
def isByteText (s : List Char) : Bool :=
  s != [] && s.all isDigit && s.length ≤ 3 && (s == ['0'] || s.head? != some '0')
    && ofDigits (s.filterMap asciiDigit?) < 256

/-- **Whether a text is a number of 32 bits**: four numbers below 256 with
dots between them. -/
def isQuad (s : List Char) : Bool :=
  let parts := splitAll '.' s
  parts.length == 4 && parts.all isByteText

/-- Whether a text is a group of 16 bits. -/
def isGroup (s : List Char) : Bool :=
  s != [] && s.length ≤ 4 && s.all fun c => (hexDigit? c).isSome

/-- How many groups a list of texts stands for. Only the last text may stand
for two, where `isEnd` says that nothing follows. -/
def countGroups? (isEnd : Bool) : List (List Char) → Option Nat
  | [] => some 0
  | [s] => if isGroup s then some 1 else if isEnd && isQuad s then some 2 else none
  | s :: rest => if isGroup s then (countGroups? isEnd rest).map (· + 1) else none

/-- How many groups a text stands for that has them with colons between. -/
def groupCount? (isEnd : Bool) (s : List Char) : Option Nat :=
  if s.isEmpty then some 0 else countGroups? isEnd (splitAll ':' s)

/-- Cuts a text at its first two colons. -/
def cutAtTwoColons : List Char → Option (List Char × List Char)
  | ':' :: ':' :: rest => some ([], rest)
  | c :: rest => (cutAtTwoColons rest).map fun r => (c :: r.1, r.2)
  | [] => none

/-- Whether a text is eight groups, or fewer with two colons for the others. -/
def isEightGroups (s : List Char) : Bool :=
  match cutAtTwoColons s with
  | none => groupCount? true s == some 8
  | some (before, after) =>
    match groupCount? false before, groupCount? true after with
    | some m, some n => m + n < 8
    | _, _ => false

/-- **Whether a text is a number of 128 bits.** A percent sign may follow it
and the name of the zone where it is valid. -/
def isWide (s : List Char) : Bool :=
  match splitFirst '%' s with
  | (number, none) => isEightGroups number
  | (number, some zone) => zone != [] && !zone.contains '%' && isEightGroups number

end PackageVitals.Host
