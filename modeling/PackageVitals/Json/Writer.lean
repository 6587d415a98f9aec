import PackageVitals.Json

/-!
# Written JSON

A value as JSON text in one of two layouts: on one line, with a space
after every comma and colon, or spread over lines with a margin of two
spaces per level. Texts are written in ASCII: other characters by their
UTF-16 units. Numbers of double precision are written in full, and the
three values without digits as `NaN`, `Infinity` and `-Infinity`. A whole
number is written only if it could be read again, with at most
`Number.digitLimit` digits.
-/

namespace PackageVitals.Json

open PackageVitals.Text (integer hex)

/-- The escape of one UTF-16 unit. -/
def unitEscape (n : Nat) : List Char :=
  '\\' :: 'u' :: hex 4 n

/-- One character of a written text. -/
def escapeChar (c : Char) : List Char :=
  if c == '"' then ['\\', '"']
  else if c == '\\' then ['\\', '\\']
  else if c == '\n' then ['\\', 'n']
  else if c == '\r' then ['\\', 'r']
  else if c == '\t' then ['\\', 't']
  else if c.toNat == 8 then ['\\', 'b']
  else if c.toNat == 12 then ['\\', 'f']
  else if 32 ≤ c.toNat && c.toNat < 127 then [c]
  else if c.toNat == 127 then [c]
  else if c.toNat < 0x10000 then unitEscape c.toNat
  else
    let n := c.toNat - 0x10000
    unitEscape (0xD800 + n / 0x400) ++ unitEscape (0xDC00 + n % 0x400)

/-- A text in quotes. -/
def writeText (s : String) : String :=
  String.ofList ('"' :: s.toList.flatMap escapeChar ++ ['"'])

/-- **A layout**: what stands around the parts of a list or an object at a
given depth. -/
structure Layout where
  /-- After the opening bracket. -/
  opening : Nat → String
  /-- After each part but the last. -/
  between : Nat → String
  /-- Before the closing bracket. -/
  closing : Nat → String

namespace Layout

/-- Everything on one line. -/
def line : Layout :=
  { opening := fun _ => "", between := fun _ => ", ", closing := fun _ => "" }

/-- The start of a line at a depth. -/
def margin (depth : Nat) : String :=
  String.ofList ('\n' :: List.replicate (2 * depth) ' ')

/-- Every part on a line of its own. -/
def spread : Layout :=
  { opening := fun d => margin (d + 1)
    between := fun d => "," ++ margin (d + 1)
    closing := margin }

end Layout

mutual

/-- A value at a given depth of a layout. -/
def write (l : Layout) (depth : Nat) : Json → String
  | null => "null"
  | bool true => "true"
  | bool false => "false"
  | int i => integer i
  | num x => x.inFull "Infinity" "NaN"
  | str s => writeText s
  | arr [] => "[]"
  | arr (j :: rest) =>
    "[" ++ l.opening depth ++ write l (depth + 1) j ++ writeItems l depth rest ++ "]"
  | obj [] => "\x7b\x7d"
  | obj ((k, j) :: rest) =>
    "\x7b" ++ l.opening depth ++ writeText k ++ ": " ++ write l (depth + 1) j
      ++ writeMembers l depth rest ++ "\x7d"

/-- The remaining items of a list. -/
def writeItems (l : Layout) (depth : Nat) : List Json → String
  | [] => l.closing depth
  | j :: rest => l.between depth ++ write l (depth + 1) j ++ writeItems l depth rest

/-- The remaining members of an object. -/
def writeMembers (l : Layout) (depth : Nat) : List (String × Json) → String
  | [] => l.closing depth
  | (k, j) :: rest =>
    l.between depth ++ writeText k ++ ": " ++ write l (depth + 1) j ++ writeMembers l depth rest

end

mutual

/-- Whether a value can be written. -/
def isWritable : Json → Bool
  | int i => (Nat.toDigits 10 i.natAbs).length ≤ Number.digitLimit
  | arr items => areWritable items
  | obj members => haveWritable members
  | _ => true

/-- Whether all items can be written. -/
def areWritable : List Json → Bool
  | [] => true
  | j :: rest => isWritable j && areWritable rest

/-- Whether all members can be written. -/
def haveWritable : List (String × Json) → Bool
  | [] => true
  | (_, j) :: rest => isWritable j && haveWritable rest

end

/-- A value on one line. -/
def compact (j : Json) : String :=
  j.write .line 0

/-- A value spread over lines. -/
def pretty (j : Json) : String :=
  j.write .spread 0

end PackageVitals.Json
