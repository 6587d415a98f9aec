import PackageVitals.Record
import PackageVitals.Time.Plain

/-!
# Stored fields

A record can be given as the fields it is stored in, and these are read
generously: a whole number may be a text or a number without a fraction, a
flag may be one of a dozen words, a time may be a day. What cannot be read
is refused, and all refusals are reported together, in the order of the
fields (`Record.ofFields`).
-/

namespace PackageVitals

namespace Json

/-- The least whole number beyond those that 64 bits hold with a sign. -/
def wordLimit : Int := 9223372036854775808

/-- Whether a whole number and its opposite both are words of 64 bits. -/
def isWord (i : Int) : Bool :=
  -wordLimit < i && i < wordLimit

/-- A whole number: itself, a flag as 0 or 1, a number of moderate size
without a fraction, or a text. -/
def asCount : Json → Except Complaint Int
  | int i => .ok i
  | bool b => .ok (if b then 1 else 0)
  | num x =>
    match x with
    | .finite .. => match x.toInt? with
      | some i => if isWord i then .ok i else .error .tooLarge
      | none => .error .fraction
    | _ => .error .notFinite
  | str s => Number.readPlainInt s.toList
  | _ => .error .notWhole

/-- A number: itself, a whole number or flag in range, or a text. -/
def asRate : Json → Except Complaint Double
  | num x => .ok x
  | int i =>
    let x := Double.ofInt i
    if x.isInfinite then .error .notNumber else .ok x
  | bool b => .ok (Double.ofInt (if b then 1 else 0))
  | str s => Number.readPlainDouble s.toList
  | _ => .error .notNumber

/-- The words that mean no. -/
def falseWords : List String := ["0", "off", "f", "false", "n", "no"]

/-- The words that mean yes. -/
def trueWords : List String := ["1", "on", "t", "true", "y", "yes"]

/-- Zero and one as flags. -/
def flagOfInt (i : Int) : Except Complaint Bool :=
  if i = 0 then .ok false
  else if i = 1 then .ok true
  else .error .flagText

/-- A flag: itself, zero or one, or a word in any ASCII case. -/
def asFlag : Json → Except Complaint Bool
  | bool b => .ok b
  | int i => if isWord i || i == -wordLimit then flagOfInt i else .error .notFlag
  | num x =>
    match x.toInt? with
    | some i => if isWord i then flagOfInt i else .error .notFlag
    | none => .error .notFlag
  | str s =>
    let word := String.ofList (s.toList.map Char.toLower)
    if falseWords.contains word then .ok false
    else if trueWords.contains word then .ok true
    else .error .flagText
  | _ => .error .notFlag

/-- A text, and nothing else. -/
def asText : Json → Except Complaint String
  | str s => .ok s
  | _ => .error .notText

/-- A point in time: a text, or a number since 1970. -/
def asMoment : Json → Except Complaint Timestamp
  | str s => Timestamp.ofPlain s.toList
  | int i =>
    if (Double.ofInt i).isInfinite then .error .notTime
    else Timestamp.ofCount .beyondCalendar i
  | num x => Timestamp.ofNumber .beyondCalendar x
  | _ => .error .notTime

end Json

/-- **A field as read**: a value, or the issues that stand in its way. -/
abbrev Field (α : Type) := Except (List Issue) α

namespace Field

/-- A field of its own. -/
def single (name : String) (r : Except Complaint α) : Field α :=
  r.mapError fun c => [⟨[name], c⟩]

/-- A field of an object that has to be there. -/
def required (members : List (String × Json)) (name : String)
    (read : Json → Except Complaint α) : Field α :=
  match Json.lookup name members with
  | some j => single name (read j)
  | none => .error [⟨[name], .absent⟩]

/-- A field of an object that may be absent or null. -/
def optional (members : List (String × Json)) (name : String)
    (read : Json → Except Complaint α) : Field (Option α) :=
  match Json.lookup name members with
  | none | some .null => .ok none
  | some j => (single name (read j)).map some

/-- Issues seen from an enclosing field. -/
def under (step : String) (f : Field α) : Field α :=
  f.mapError (List.map (Issue.under step))

/-- Two fields together, with the issues of both. -/
def both (f : Field α) (g : Field β) : Field (α × β) :=
  match f, g with
  | .ok a, .ok b => .ok (a, b)
  | .ok _, .error e => .error e
  | .error e, .ok _ => .error e
  | .error e, .error e' => .error (e ++ e')

/-- Several fields together, with the issues of all. -/
def all : List (Field α) → Field (List α)
  | [] => .ok []
  | f :: fs => (both f (all fs)).map fun p => p.1 :: p.2

/-- The items of a list, each under its position. -/
def items (read : Json → Field α) : Json → Field (List α)
  | .arr js => all (js.zipIdx.map fun p => under (Text.decimal p.2) (read p.1))
  | _ => .error [⟨[], .notList⟩]

end Field

namespace Identity

/-- An identity given by its fields. -/
def ofFields : Json → Field Identity
  | .obj ms =>
    let names := Field.both (Field.required ms "type" Json.asText)
      (Field.required ms "name" Json.asText)
    let rest := Field.both (Field.optional ms "namespace" Json.asText)
      (Field.optional ms "version" Json.asText)
    (Field.both names rest).map fun p => ⟨p.1.1, p.1.2, p.2.1, p.2.2⟩
  | _ => .error [⟨[], .notObject⟩]

end Identity

namespace Check

/-- The list of findings; it may be absent but not null. -/
def detailsOfFields (ms : List (String × Json)) : Field (List String) :=
  match Json.lookup "details" ms with
  | none => .ok []
  | some j => Field.under "details"
      (Field.items (fun j => j.asText.mapError fun c => [⟨[], c⟩]) j)

/-- A check given by its fields. -/
def ofFields : Json → Field Check
  | .obj ms =>
    let first := Field.both (Field.required ms "name" Json.asText)
      (Field.optional ms "description" Json.asText)
    let second := Field.both (Field.optional ms "score" Json.asRate)
      (Field.optional ms "reason" Json.asText)
    let third := Field.both (detailsOfFields ms)
      (Field.optional ms "documentation_url" Json.asText)
    (Field.both first (Field.both second third)).map fun p =>
      ⟨p.1.1, p.1.2, p.2.1.1, p.2.1.2, p.2.2.1, p.2.2.2⟩
  | _ => .error [⟨[], .notObject⟩]

end Check

namespace Reading

/-- A reading of the given kind from a stored value. -/
def ofField (k : SignalKind) (j : Json) : Field Reading :=
  let plain {α : Type} (r : Except Complaint α) (wrap : α → Reading) : Field Reading :=
    (r.map wrap).mapError fun c => [⟨[], c⟩]
  match k with
  | .count => plain j.asCount count
  | .rate => plain j.asRate rate
  | .flag => plain j.asFlag flag
  | .moment => plain j.asMoment moment
  | .text => plain j.asText text
  | .checks => (Field.items Check.ofFields j).map checks

end Reading

namespace Record

/-- The field of one signal; it may be absent or null. -/
def fieldOf (fields : List (String × Json)) (s : Signal) : Field (Signal × Option Reading) :=
  match Json.lookup s.name fields with
  | none | some .null => .ok (s, none)
  | some j => (Field.under s.name (Reading.ofField s.kind j)).map fun r => (s, some r)

/-- **The record stored in the given fields.** Fields of other names are
passed over. -/
def ofFields (identity : Option Json) (fields : List (String × Json)) : Field Record :=
  let i : Field Identity := match identity with
    | none => .error [⟨["identity"], .absent⟩]
    | some j => Field.under "identity" (Identity.ofFields j)
  (Field.both i (Field.all (Signal.all.map (fieldOf fields)))).map fun p =>
    (Record.empty p.1).setAll p.2

end Record

end PackageVitals
