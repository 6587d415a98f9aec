import PackageVitals.Host.Alphabet
import PackageVitals.Host.Composition
import PackageVitals.Host.Direction
import PackageVitals.Host.Joining
import PackageVitals.Host.Script
import PackageVitals.Text.Punycode
import PackageVitals.Text.Split

/-!
# Host names

A host name is made of **labels** with dots between them. In the network
only ASCII characters go into a label; one with other characters is written
as `xn--` and its form in ASCII (`Text.Punycode`).

So that a name can be told from any other by looking at it, a label has to
be composed, must not start with a mark nor have hyphens where they could
be taken for that sign, is readable in one order only, and holds only
letters of the alphabet of host names. Eight kinds of further characters
are allowed where their neighbours give them a meaning (`isInPlace`).
-/

namespace PackageVitals.Host

/-- Whether a character is an ASCII character. -/
def isAscii (c : Char) : Bool :=
  c.toNat < 128

/-- The longest label. -/
def labelLimit : Nat := 63

/-- The longest name, without a dot at its end. -/
def nameLimit : Nat := 253

/-- The start of a label that is written in ASCII for another one. -/
def asciiSign : List Char := ['x', 'n', '-', '-']

/-- Whether the nearest character of a text is a mark that joins two
consonants. -/
def startsWithJoiner : List Char → Bool
  | c :: _ => markClass c == joiningClass
  | [] => false

/-- Whether a character that is no letter of the alphabet has a meaning
where it stands in a label: after `before`, which is given in reverse, and
before `rest`. -/
def isInPlace (label before : List Char) (c : Char) (rest : List Char) : Bool :=
  if c == '\u200C' then startsWithJoiner before || (joinsAfter before && joinsBefore rest)
  else if c == '\u200D' then startsWithJoiner before
  else if c == '·' then before.head? == some 'l' && rest.head? == some 'l'
  else if c == '͵' then rest.head?.any greek.has
  else if c == '׳' || c == '״' then before.head?.any hebrew.has
  else if c == '・' then label.any japanese.has
  else if '٠' ≤ c && c ≤ '٩' then !label.any fun d => '۰' ≤ d && d ≤ '۹'
  else if '۰' ≤ c && c ≤ '۹' then !label.any fun d => '٠' ≤ d && d ≤ '٩'
  else false

/-- Whether every character of the rest of a label may stand where it
stands. -/
def isSpelled (label before : List Char) : List Char → Bool
  | [] => true
  | c :: rest =>
    (isLetter c || isInPlace label before c rest) && isSpelled label (c :: before) rest

/-- Whether no hyphen of a label stands at an end or where the sign of a
label in ASCII has its own. -/
def areHyphensInside (s : List Char) : Bool :=
  s.head? != some '-' && s.getLast? != some '-' && (s.drop 2).take 2 != ['-', '-']

/-- **Whether a text may be a label.** -/
def isLabel (s : List Char) : Bool :=
  s != [] && isComposed s && areHyphensInside s && !s.head?.any isMark && isSpelled s [] s
    && isReadable s

/-- A text that may be a label. -/
def label? (s : List Char) : Option (List Char) :=
  if isLabel s then some s else none

/-- **The label that a text in ASCII stands for.** -/
def readLabel? (s : List Char) : Option (List Char) :=
  let s := s.map Char.toLower
  match Text.after? asciiSign s with
  | none => label? s
  | some code =>
    if code.getLast?.all (· == '-') then none else (Text.Punycode.decode? code).bind label?

/-- **A label as it is sent.** One that is in ASCII already has to stand for a
label. -/
def sentLabel? (s : List Char) : Option (List Char) := do
  let sent ← if s.all isAscii then (readLabel? s).map fun _ => s
    else (label? s).map fun s => asciiSign ++ Text.Punycode.encode s
  if sent.length ≤ labelLimit then some sent else none

/-- The dot between labels. Three characters of East Asian scripts count as
dots, too. -/
def plainDot (c : Char) : Char :=
  if c == '。' || c == '．' || c == '｡' then '.' else c

/-- Does something to every label of a name. A dot may end the name. -/
def mapLabels? (f : List Char → Option (List Char)) (s : List Char) : Option (List Char) :=
  if nameLimit + 1 < s.length then none
  else
    let labels := Text.splitAll '.' (s.map plainDot)
    if labels.length == 1 then f s
    else
      let isEnded := labels.getLast? == some []
      let labels := if isEnded then labels.dropLast else labels
      (labels.mapM f).map fun ls => ['.'].intercalate (if isEnded then ls ++ [[]] else ls)

/-- **A name as it is sent.** -/
def sentName? (s : List Char) : Option (List Char) := do
  let sent ← mapLabels? sentLabel? s
  let limit := if sent.getLast? == some '.' then nameLimit + 1 else nameLimit
  if sent.length ≤ limit then some sent else none

/-- **The name that a text in ASCII stands for.** -/
def readName? (s : List Char) : Option (List Char) :=
  mapLabels? readLabel? s

end PackageVitals.Host
