import PackageVitals.Json
import PackageVitals.Text.Encoding

/-!
# Reading JSON

A text is read strictly, except that the three numbers without digits may
stand by name. A control character inside a string, a comma too many and
anything after the value make the text malformed. There are two other
failures: a whole number beyond the limit of `Number.digitLimit` digits,
and lists and objects nested deeper than `depthLimit`.

A string may name UTF-16 units by number, and two of them can be one
character (`Text.joinUnits`). A unit that stands by itself though it is half
of a character makes a text that is not **whole** (`isWhole`).
-/

namespace PackageVitals.Json

open PackageVitals.Text (asciiDigit? hexDigit? ofDigits)

/-- What a reading step gives: a value and the rest of the text. -/
abbrev Parsed (α : Type) := Except Failure (α × List Char)

/-- Whether a character may stand between the parts of a value. -/
def isGap (c : Char) : Bool :=
  c == ' ' || c == '\n' || c == '\r' || c == '\t'

/-- Skips what may stand between the parts of a value. -/
def skipGap (s : List Char) : List Char :=
  s.dropWhile isGap

/-- The UTF-16 unit that four hexadecimal digits write. -/
def hexUnit? (a b c d : Char) : Option Nat := do
  return 4096 * (← hexDigit? a) + 256 * (← hexDigit? b) + 16 * (← hexDigit? c) + (← hexDigit? d)

/-- The character of an escape of one letter. -/
def escaped? (c : Char) : Option Char :=
  if c == '"' || c == '\\' || c == '/' then some c
  else if c == 'b' then some (Char.ofNat 8)
  else if c == 'f' then some (Char.ofNat 12)
  else if c == 'n' then some '\n'
  else if c == 'r' then some '\r'
  else if c == 't' then some '\t'
  else none

/-- The code points of a string up to its closing quote. -/
def readPoints : List Char → Parsed (List Nat)
  | [] => .error .malformedJson
  | '"' :: rest => .ok ([], rest)
  | '\\' :: 'u' :: a :: b :: c :: d :: rest =>
    match hexUnit? a b c d with
    | some n => (readPoints rest).map fun r => (n :: r.1, r.2)
    | none => .error .malformedJson
  | '\\' :: e :: rest =>
    match escaped? e with
    | some c => (readPoints rest).map fun r => (c.toNat :: r.1, r.2)
    | none => .error .malformedJson
  | c :: rest =>
    if c.toNat < 32 then .error .malformedJson
    else (readPoints rest).map fun r => (c.toNat :: r.1, r.2)

/-- A string up to its closing quote. -/
def readString (s : List Char) : Parsed String :=
  (readPoints s).map fun r => (String.ofList (Text.joinUnits r.1), r.2)

/-- The code points of a text, with what its escapes stand for in their
place. Escapes of one letter stand for nothing that matters here. -/
def unescaped : List Char → List Nat
  | [] => []
  | '\\' :: 'u' :: a :: b :: c :: d :: rest =>
    match hexUnit? a b c d with
    | some n => n :: unescaped rest
    | none => 'u'.toNat :: unescaped (a :: b :: c :: d :: rest)
  | '\\' :: c :: rest => c.toNat :: unescaped rest
  | c :: rest => c.toNat :: unescaped rest

/-- **Whether a text names whole characters only**: no half of one is named
by number but together with the other half. -/
def isWhole (s : List Char) : Bool :=
  (Text.joinPairs (unescaped s)).all fun n => !Text.isHalf n

/-- A run of ASCII digits, and the rest. -/
def takeDigits : List Char → List Nat × List Char
  | [] => ([], [])
  | c :: rest =>
    match asciiDigit? c with
    | some d => let r := takeDigits rest; (d :: r.1, r.2)
    | none => ([], c :: rest)

/-- The whole part of a number: a single zero, or digits that start with
another one. -/
def readWhole : List Char → Parsed (List Nat)
  | '0' :: rest => .ok ([0], rest)
  | cs =>
    match takeDigits cs with
    | ([], _) => .error .malformedJson
    | r => .ok r

/-- The places of a number: none unless a digit follows the mark. -/
def readPlaces : List Char → List Nat × List Char
  | '.' :: rest =>
    match takeDigits rest with
    | ([], _) => ([], '.' :: rest)
    | r => r
  | cs => ([], cs)

/-- The exponent of a number: none unless a digit follows. -/
def readPower : List Char → Option Int × List Char
  | c :: rest =>
    if c == 'e' || c == 'E' then
      let (negative, body) := Number.splitSign rest
      match takeDigits body with
      | ([], _) => (none, c :: rest)
      | (ds, tail) => (some (Number.signed negative (ofDigits ds)), tail)
    else (none, c :: rest)
  | [] => (none, [])

/-- A number without its sign. -/
def readNumber (negative : Bool) (s : List Char) : Parsed Json :=
  match readWhole s with
  | .error e => .error e
  | .ok (whole, rest) =>
    let (places, rest) := readPlaces rest
    let (power, rest) := readPower rest
    if places.isEmpty && power.isNone then
      if whole.length ≤ Number.digitLimit then
        .ok (.int (Number.signed negative (ofDigits whole)), rest)
      else .error .badValue
    else
      .ok (.num (.ofDecimal negative (ofDigits (whole ++ places))
        (power.getD 0 - places.length)), rest)

/-- A value that is written as a word, and the rest. -/
def readWord (s : List Char) : Parsed Json :=
  let words : List (String × Json) :=
    [("null", .null), ("true", .bool true), ("false", .bool false), ("NaN", .num .nan),
      ("Infinity", .num (.infinite false)), ("-Infinity", .num (.infinite true))]
  match words.findSome? fun w => (Text.after? w.1.toList s).map (w.2, ·) with
  | some r => .ok r
  | none =>
    match s with
    | '-' :: rest => readNumber true rest
    | _ => readNumber false s

/-- How deep lists and objects can be nested. -/
def depthLimit : Nat := 960

mutual

/-- A value at the start of a text. `depth` is how many more lists and
objects can be opened. -/
def readValue (depth : Nat) : Nat → List Char → Parsed Json
  | 0, _ => .error .malformedJson
  | fuel + 1, s =>
    match s with
    | '"' :: rest => (readString rest).map fun r => (.str r.1, r.2)
    | '[' :: rest =>
      match depth, skipGap rest with
      | 0, _ => .error .tooDeep
      | _ + 1, ']' :: tail => .ok (.arr [], tail)
      | depth + 1, body => (readItems depth fuel body).map fun r => (.arr r.1, r.2)
    | '\x7b' :: rest =>
      match depth, skipGap rest with
      | 0, _ => .error .tooDeep
      | _ + 1, '\x7d' :: tail => .ok (.obj [], tail)
      | depth + 1, body => (readMembers depth fuel body).map fun r => (ofMembers r.1, r.2)
    | _ => readWord s

/-- The items of a list, of which one at least follows. -/
def readItems (depth : Nat) : Nat → List Char → Parsed (List Json)
  | 0, _ => .error .malformedJson
  | fuel + 1, s =>
    match readValue depth fuel s with
    | .error e => .error e
    | .ok (j, rest) =>
      match skipGap rest with
      | ']' :: tail => .ok ([j], tail)
      | ',' :: tail => (readItems depth fuel (skipGap tail)).map fun r => (j :: r.1, r.2)
      | _ => .error .malformedJson

/-- The members of an object, of which one at least follows. -/
def readMembers (depth : Nat) : Nat → List Char → Parsed (List (String × Json))
  | 0, _ => .error .malformedJson
  | fuel + 1, s =>
    match s with
    | '"' :: rest =>
      match readString rest with
      | .error e => .error e
      | .ok (name, rest) =>
        match skipGap rest with
        | ':' :: rest =>
          match readValue depth fuel (skipGap rest) with
          | .error e => .error e
          | .ok (j, rest) =>
            let m := (name, j)
            match skipGap rest with
            | '\x7d' :: tail => .ok ([m], tail)
            | ',' :: tail => (readMembers depth fuel (skipGap tail)).map fun r => (m :: r.1, r.2)
            | _ => .error .malformedJson
        | _ => .error .malformedJson
    | _ => .error .malformedJson

end

/-- **The value that a text writes.** Every step of the reading takes a
character, so the length of the text bounds the steps. -/
def ofChars (s : List Char) : Except Failure Json :=
  match readValue depthLimit (2 * s.length + 1) (skipGap s) with
  | .error e => .error e
  | .ok (j, rest) => if (skipGap rest).isEmpty then .ok j else .error .malformedJson

end PackageVitals.Json
