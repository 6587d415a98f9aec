/-!
# Unicode text in ASCII

A text is written with ASCII characters alone by giving those it has as
they are, and telling how the others are **put in** among them: one after
another, the smaller ones first, and of two equal ones the first first.
Where each of them goes, and which it is, makes one number, counted on from
the place and the character before it.

The numbers are written in digits of base 36, the least first, and a digit
below its threshold is the last. The thresholds follow the size of the
numbers before (`adapt`), so that a text of one script comes out short.
-/

namespace PackageVitals.Text.Punycode

/-- A digit: a letter up to 25, and a decimal digit above. -/
def digitChar (d : Nat) : Char :=
  if d < 26 then Char.ofNat (97 + d) else Char.ofNat (22 + d)

/-- The value of a digit. -/
def digitValue? (c : Char) : Option Nat :=
  if 'a' ≤ c ∧ c ≤ 'z' then some (c.toNat - 97)
  else if 'A' ≤ c ∧ c ≤ 'Z' then some (c.toNat - 65)
  else if '0' ≤ c ∧ c ≤ '9' then some (c.toNat - 22)
  else none

/-- The threshold of the digit in place `k`, where places count by 36. It
lies between 1 and 26. -/
def threshold (bias k : Nat) : Nat :=
  max 1 (min 26 (k - bias))

theorem threshold_pos (bias k : Nat) : 1 ≤ threshold bias k := by
  unfold threshold; omega

theorem threshold_le (bias k : Nat) : threshold bias k ≤ 26 := by
  unfold threshold; omega

/-- Scales a number down until it is small, and counts on. -/
def scaleDown (n k : Nat) : Nat × Nat :=
  if h : 455 < n then scaleDown (n / 35) (k + 36) else (n, k)
termination_by n
decreasing_by omega

/-- The bias after a number, in a text that has reached the given length. -/
def adapt (number length : Nat) (isFirst : Bool) : Nat :=
  let n := if isFirst then number / 700 else number / 2
  let r := scaleDown (n + n / length) 0
  r.2 + 36 * r.1 / (r.1 + 38)

/-- The digits of a number from place `k` on. -/
def writeNumber (bias k n : Nat) : List Char :=
  let t := threshold bias k
  if n < t then [digitChar n]
  else digitChar (t + (n - t) % (36 - t)) :: writeNumber bias (k + 36) ((n - t) / (36 - t))
termination_by n
decreasing_by
  have ht := threshold_pos bias k
  exact Nat.lt_of_le_of_lt (Nat.div_le_self _ _) (by omega)

/-- The number at the start of a text, and the rest. -/
def readNumber? (bias k weight n : Nat) : List Char → Option (Nat × List Char)
  | [] => none
  | c :: rest =>
    match digitValue? c with
    | none => none
    | some d =>
      let t := threshold bias k
      if d < t then some (n + d * weight, rest)
      else readNumber? bias (k + 36) (weight * (36 - t)) (n + d * weight) rest

/-- A number takes up part of the text. -/
theorem length_of_readNumber? {bias k weight n : Nat} {s : List Char} {r : Nat × List Char}
    (h : readNumber? bias k weight n s = some r) : r.2.length < s.length := by
  induction s generalizing k weight n with
  | nil => simp [readNumber?] at h
  | cons c rest ih =>
    rw [readNumber?] at h
    split at h
    · contradiction
    · dsimp only at h
      split at h
      · cases h; simp
      · exact Nat.lt_succ_of_lt (ih h)

/-- **A character put in** among those that are there. -/
structure Insertion where
  /-- Its code point. -/
  point : Nat
  /-- How many characters are before it. -/
  place : Nat
  deriving DecidableEq, Inhabited

/-- Adds an insertion to ordered ones that come after it in the text. -/
def Insertion.addTo (i : Insertion) : List Insertion → List Insertion
  | [] => [i]
  | j :: rest => if i.point ≤ j.point then i :: j :: rest else j :: i.addTo rest

/-- The insertions of a text after `before`, which is kept in reverse. When
a character is put in, those that are there before it are the ones that are
not larger. -/
def insertionsAfter (before : List Char) : List Char → List Insertion
  | [] => []
  | c :: rest =>
    let later := insertionsAfter (c :: before) rest
    if c.toNat < 128 then later
    else Insertion.addTo ⟨c.toNat, (before.filter (· ≤ c)).length⟩ later

/-- The numbers of insertions into a text of the given length. `next` is
the first place and `point` the code point that the next number counts
from. -/
def writeInsertions (bias length point next : Nat) (isFirst : Bool) : List Insertion → List Char
  | [] => []
  | i :: rest =>
    let n := (i.point - point) * (length + 1) + i.place - next
    writeNumber bias 36 n
      ++ writeInsertions (adapt n (length + 1) isFirst) (length + 1) i.point (i.place + 1) false rest

/-- **Writes a text in ASCII.** A hyphen parts the characters that stand for
themselves, if there are any, from the numbers. -/
def encode (s : List Char) : List Char :=
  let plain := s.filter (·.toNat < 128)
  (if plain.isEmpty then [] else plain ++ ['-'])
    ++ writeInsertions 72 plain.length 128 0 true (insertionsAfter [] s)

/-- Reads the numbers, and puts the characters in. -/
def putIn (bias point next : Nat) (isFirst : Bool) (text s : List Char) : Option (List Char) :=
  if s.isEmpty then some text
  else
    match _hr : readNumber? bias 36 1 0 s with
    | none => none
    | some (n, rest) =>
      let total := next + n
      let size := text.length + 1
      let c := point + total / size
      if c.isValidChar then
        putIn (adapt n size isFirst) c (total % size + 1) false
          (text.insertIdx (total % size) (Char.ofNat c)) rest
      else none
termination_by s.length
decreasing_by exact length_of_readNumber? _hr

/-- **Reads a text back.** The last hyphen parts the characters that stand
for themselves from the numbers. -/
def decode? (s : List Char) : Option (List Char) :=
  let numbers := (s.reverse.takeWhile (· != '-')).reverse
  putIn 72 128 0 true (s.take (s.length - numbers.length - 1)) numbers

end PackageVitals.Text.Punycode
