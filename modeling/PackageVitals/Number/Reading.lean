import PackageVitals.Failure
import PackageVitals.Number.Double
import PackageVitals.Text.Blank
import PackageVitals.Text.Digit

/-!
# Reading numbers

Text becomes a number in two dialects that differ in the digits they take
and in how strictly underscores are placed.

* The **open** dialect reads what providers send: spaces around the
  number, a sign, the decimal digits of any script, and a single
  underscore between two digits.
* The **plain** dialect reads the fields of a health record and the
  settings, as pydantic 2.13 does: ASCII digits, with underscores that are
  neither doubled nor at an end. A whole number may have spaces around it
  and a sign, may end in a mark and zeros, and loses the zeros it starts
  with, whose underscores may stand anywhere. The first of its characters
  after the sign is a digit. Where there is no minus sign, one may follow
  the zeros, and what comes after that does not start with another zero. A
  number in general may have spaces around it or underscores in it, but not
  both.

In both, a whole number has at most 4300 digits.
-/

namespace PackageVitals.Number

open PackageVitals.Text (trimBy isSpace digitValue? asciiDigit? ofDigits)

/-- The longest run of digits that is read as a whole number. -/
def digitLimit : Nat := 4300

/-- A sign at the start of a text, and the rest. -/
def splitSign : List Char → Bool × List Char
  | '-' :: rest => (true, rest)
  | '+' :: rest => (false, rest)
  | cs => (false, cs)

/-- A whole number from its sign and magnitude. -/
def signed (negative : Bool) (n : Nat) : Int :=
  if negative then -(n : Int) else n

/-- The digits that go on a run of digits, and the rest: a digit, or an
underscore and a digit. -/
def digitsAfter (value? : Char → Option Nat) : List Char → List Nat × List Char
  | '_' :: c :: rest =>
    match value? c with
    | some d => let r := digitsAfter value? rest; (d :: r.1, r.2)
    | none => ([], '_' :: c :: rest)
  | c :: rest =>
    match value? c with
    | some d => let r := digitsAfter value? rest; (d :: r.1, r.2)
    | none => ([], c :: rest)
  | [] => ([], [])

/-- A run of digits at the start of a text, and the rest. -/
def digitRun (value? : Char → Option Nat) : List Char → List Nat × List Char
  | c :: rest =>
    match value? c with
    | some d => let r := digitsAfter value? rest; (d :: r.1, r.2)
    | none => ([], c :: rest)
  | [] => ([], [])

/-- **A whole number in the open dialect.** -/
def readInt? (s : List Char) : Option Int :=
  let (negative, body) := splitSign (trimBy isSpace s)
  match digitRun digitValue? body with
  | ([], _) => none
  | (ds, []) => if ds.length ≤ digitLimit then some (signed negative (ofDigits ds)) else none
  | (_, _ :: _) => none

/-- An exponent at the end of a number; the empty text is the exponent
zero. -/
def readExponent? (value? : Char → Option Nat) : List Char → Option Int
  | [] => some 0
  | c :: rest =>
    if c == 'e' || c == 'E' then
      let (negative, body) := splitSign rest
      match digitRun value? body with
      | (d :: ds, []) => some (signed negative (ofDigits (d :: ds)))
      | _ => none
    else none

/-- A decimal number without its sign: digits on at least one side of an
optional mark, then an optional exponent. -/
def readDecimal? (value? : Char → Option Nat) (negative : Bool) (s : List Char) : Option Double :=
  let (whole, rest) := digitRun value? s
  let (places, rest) := match rest with
    | '.' :: tail => digitRun value? tail
    | _ => ([], rest)
  if whole.isEmpty && places.isEmpty then none
  else (readExponent? value? rest).map fun e =>
    Double.ofDecimal negative (ofDigits (whole ++ places)) (e - places.length)

/-- The names of what has no digits, in any ASCII case. -/
def readNamed? (negative : Bool) (s : List Char) : Option Double :=
  let name := String.ofList (s.map Char.toLower)
  if name == "inf" || name == "infinity" then some (.infinite negative)
  else if name == "nan" then some .nan
  else none

/-- **A number in the open dialect.** -/
def readDouble? (s : List Char) : Option Double :=
  let (negative, body) := splitSign (trimBy isSpace s)
  readNamed? negative body <|> readDecimal? digitValue? negative body

/-- Takes the underscores out of a number, unless one is doubled or
stands at an end. -/
def dropUnderscores? (s : List Char) : Option (List Char) :=
  let doubled := (s.zip s.tail).any fun p => p.1 == '_' && p.2 == '_'
  if s.head? == some '_' || s.getLast? == some '_' || doubled then none
  else some (s.filter (· != '_'))

/-- Takes a mark and the zeros after it off the end of a number. The mark
stays where no zero follows it. -/
def dropZeroPlaces (s : List Char) : List Char :=
  match s.dropWhile (· != '.') with
  | '.' :: '0' :: places => if places.all (· == '0') then s.takeWhile (· != '.') else s
  | _ => s

/-- What follows a zero at the start of a number: further zeros and
underscores are passed over, and the last of them stands for the number if
a mark or nothing follows. -/
def afterZero (last : Char) : List Char → Option (List Char)
  | [] => some [last]
  | c :: rest =>
    if c == '0' || c == '_' then afterZero c rest
    else if c == '.' then some (last :: c :: rest)
    else if c == '-' || c.isDigit then some (c :: rest)
    else none

/-- A number without the zeros it starts with. It has to start with a
digit. -/
def dropLeadingZeros? : List Char → Option (List Char)
  | [] => none
  | c :: rest =>
    if c == '0' then afterZero c rest
    else if c.isDigit then some (c :: rest)
    else none

/-- The whole number that a text writes with digits alone. The sign and the
digits, but not the zeros they start with, are counted against the limit
before anything else is looked at. -/
def readDigits (negative : Bool) (s : List Char) : Except Complaint Int :=
  let ds := (s.takeWhile Char.isDigit).filterMap asciiDigit?
  let size := (ds.dropWhile (· == 0)).length + if negative then 1 else 0
  if digitLimit < size then .error .tooLarge
  else if ds.isEmpty || ds.length < s.length then .error .wholeText
  else .ok (signed negative (ofDigits ds))

/-- Whether a text starts with a zero that another digit follows. -/
def startsWithSpareZero : List Char → Bool
  | '0' :: c :: _ => c.isDigit
  | _ => false

/-- The whole number that a text writes without the zeros it started with.
A minus sign that came after them is the sign of the number, and is neither
a second one nor followed by a spare zero. -/
def readTrimmed (negative : Bool) : List Char → Except Complaint Int
  | '-' :: rest =>
    if negative || startsWithSpareZero rest then .error .wholeText else readDigits true rest
  | s => readDigits negative s

/-- **A whole number in the plain dialect.** -/
def readPlainInt (s : List Char) : Except Complaint Int :=
  let (negative, body) := splitSign (trimBy isSpace s)
  match dropLeadingZeros? body with
  | none => .error .wholeText
  | some cs =>
    let cs := dropZeroPlaces cs
    readTrimmed negative ((dropUnderscores? cs).getD cs)

/-- A number without spaces or underscores. -/
def readBareDouble? (s : List Char) : Option Double :=
  let (negative, body) := splitSign s
  if body.contains '_' then none
  else readNamed? negative body <|> readDecimal? asciiDigit? negative body

/-- **A number in the plain dialect.** -/
def readPlainDouble (s : List Char) : Except Complaint Double :=
  match readBareDouble? (trimBy isSpace s) <|> (dropUnderscores? s >>= readBareDouble?) with
  | some x => .ok x
  | none => .error .numberText

end PackageVitals.Number
