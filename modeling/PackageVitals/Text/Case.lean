import PackageVitals.Text.CaseTable

/-!
# Letter case

Lower and upper case of a text in any script. Both work character by
character with one exception: the lower case of a capital sigma is the
final form `ς` where the sigma ends a word, and `σ` elsewhere. A sigma
ends a word if the nearest letter before it, marks and apostrophes
passed over, has a case, and the nearest one after it has none.
-/

namespace PackageVitals.Text

/-- Whether the nearest character that is not passed over is a letter
with a case. -/
def nextIsCased (s : List Char) : Bool :=
  match s.dropWhile caseIgnorableRanges.has with
  | c :: _ => casedRanges.has c
  | [] => false

/-- The lower case of one character that is no capital sigma. -/
def lowerChar (c : Char) : List Char :=
  if c.toNat < 128 then [c.toLower]
  else if c == 'İ' then ['i', '\u0307']
  else [CaseShift.move lowerShifts c]

/-- The lower case of what follows `before`, which is kept in reverse. -/
def lowerAfter (before : List Char) : List Char → List Char
  | [] => []
  | c :: rest =>
    let here :=
      if c == 'Σ' then
        if nextIsCased before && !nextIsCased rest then ['ς'] else ['σ']
      else lowerChar c
    here ++ lowerAfter (c :: before) rest

/-- The lower case of a text. -/
def lower (s : List Char) : List Char :=
  lowerAfter [] s

/-- The upper case of one character. -/
def upperChar (c : Char) : List Char :=
  if c.toNat < 128 then [c.toUpper]
  else match upperExpansions.find? (·.1 == c.toNat) with
    | some (_, cs) => cs.map Char.ofNat
    | none => [CaseShift.move upperShifts c]

/-- The upper case of a text. -/
def upper (s : List Char) : List Char :=
  s.flatMap upperChar

/-- The lower case of a string. -/
def lowerCase (s : String) : String :=
  String.ofList (lower s.toList)

/-- The upper case of a string. -/
def upperCase (s : String) : String :=
  String.ofList (upper s.toList)

end PackageVitals.Text
