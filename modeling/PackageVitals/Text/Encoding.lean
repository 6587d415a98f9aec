/-!
# Encoded text

A body arrives as bytes, and the text it holds is encoded in UTF-8, UTF-16
or UTF-32. Which of them it is shows at the start: a byte order mark says
so, and without one the zero bytes among the first four do, since the text
starts with an ASCII character.

A code point from the range that UTF-16 reserves for pairs can be encoded,
but is **half** of a character and stands for none alone. Bytes are decoded
to points first, so that a half by itself can be told (`isHalf`). A text is
made of whole characters, and the replacement character takes the place of
a half: what is said about texts of halves is said about texts with that
character.

Bytes that need not be text at all are read by `decodeLossy`, which always
gives a text: the replacement character stands for every run of bytes that
begins a character and does not end it, and for every byte that cannot
begin one.
-/

namespace PackageVitals.Text

/-- **An encoding** of text as bytes. -/
inductive Encoding where
  | utf8
  | utf16 (bigEndian : Bool)
  | utf32 (bigEndian : Bool)
  deriving DecidableEq, Inhabited

/-- Whether a code point is half of a character, one of a pair in UTF-16. -/
def isHalf (n : Nat) : Bool :=
  0xD800 ≤ n && n < 0xE000

/-- The character of a code point. -/
def charOfPoint (n : Nat) : Char :=
  if isHalf n then '\uFFFD' else Char.ofNat n

/-- The six bits of a continuation byte. -/
def continuation? (b : UInt8) : Option Nat :=
  if 0x80 ≤ b ∧ b < 0xC0 then some (b.toNat - 0x80) else none

/-- The code point of two bytes. -/
def twoBytes? (a b : UInt8) : Option Nat := do
  return (a.toNat - 0xC0) * 64 + (← continuation? b)

/-- The code point of three bytes, if it needs three. -/
def threeBytes? (a b c : UInt8) : Option Nat := do
  let n := ((a.toNat - 0xE0) * 64 + (← continuation? b)) * 64 + (← continuation? c)
  if 0x800 ≤ n then some n else none

/-- The code point of four bytes, if it needs four and exists. -/
def fourBytes? (a b c d : UInt8) : Option Nat := do
  let n := (((a.toNat - 0xF0) * 64 + (← continuation? b)) * 64 + (← continuation? c)) * 64
    + (← continuation? d)
  if 0x10000 ≤ n ∧ n < 0x110000 then some n else none

/-- Decodes UTF-8 to code points. -/
def decodeUtf8 : List UInt8 → Option (List Nat)
  | [] => some []
  | a :: rest =>
    if a < 0x80 then (decodeUtf8 rest).map (a.toNat :: ·)
    else if a < 0xC2 then none
    else if a < 0xE0 then
      match rest with
      | b :: rest => do return (← twoBytes? a b) :: (← decodeUtf8 rest)
      | _ => none
    else if a < 0xF0 then
      match rest with
      | b :: c :: rest => do return (← threeBytes? a b c) :: (← decodeUtf8 rest)
      | _ => none
    else if a < 0xF5 then
      match rest with
      | b :: c :: d :: rest => do return (← fourBytes? a b c d) :: (← decodeUtf8 rest)
      | _ => none
    else none

/-- A number of two bytes. -/
def word (bigEndian : Bool) (a b : UInt8) : Nat :=
  if bigEndian then a.toNat * 256 + b.toNat else b.toNat * 256 + a.toNat

/-- The units of a text in UTF-16. -/
def utf16Units (bigEndian : Bool) : List UInt8 → Option (List Nat)
  | [] => some []
  | a :: b :: rest => (utf16Units bigEndian rest).map (word bigEndian a b :: ·)
  | [_] => none

/-- Joins the units of UTF-16 into code points: an upper half and the lower
half after it are one point, and any other half is one by itself. -/
def joinPairs : List Nat → List Nat
  | [] => []
  | [n] => [n]
  | n :: m :: rest =>
    if 0xD800 ≤ n ∧ n < 0xDC00 ∧ 0xDC00 ≤ m ∧ m < 0xE000 then
      (0x10000 + (n - 0xD800) * 0x400 + (m - 0xDC00)) :: joinPairs rest
    else n :: joinPairs (m :: rest)

/-- Joins the units of UTF-16 into characters. -/
def joinUnits (units : List Nat) : List Char :=
  (joinPairs units).map charOfPoint

/-- Decodes UTF-32 to code points. -/
def decodeUtf32 (bigEndian : Bool) : List UInt8 → Option (List Nat)
  | [] => some []
  | a :: b :: c :: d :: rest =>
    let n := if bigEndian then word true a b * 65536 + word true c d
      else word false c d * 65536 + word false a b
    if n < 0x110000 then (decodeUtf32 bigEndian rest).map (n :: ·) else none
  | _ => none

/-- Decodes bytes in a known encoding to code points. -/
def Encoding.decode : Encoding → List UInt8 → Option (List Nat)
  | utf8, bytes => decodeUtf8 bytes
  | utf16 bigEndian, bytes => (utf16Units bigEndian bytes).map joinPairs
  | utf32 bigEndian, bytes => decodeUtf32 bigEndian bytes

/-- The encoding of a body, and what follows its byte order mark. -/
def Encoding.detect : List UInt8 → Encoding × List UInt8
  | 0 :: 0 :: 0xFE :: 0xFF :: rest => (utf32 true, rest)
  | 0xFF :: 0xFE :: 0 :: 0 :: rest => (utf32 false, rest)
  | 0xFE :: 0xFF :: rest => (utf16 true, rest)
  | 0xFF :: 0xFE :: rest => (utf16 false, rest)
  | 0xEF :: 0xBB :: 0xBF :: rest => (utf8, rest)
  | bytes =>
    let encoding := match bytes with
      | a :: b :: c :: d :: _ =>
        if a == 0 then if b == 0 then utf32 true else utf16 true
        else if b == 0 then if c == 0 && d == 0 then utf32 false else utf16 false
        else utf8
      | [a, b] => if a == 0 then utf16 true else if b == 0 then utf16 false else utf8
      | _ => utf8
    (encoding, bytes)

/-- The code points of a body. -/
def points? (bytes : List UInt8) : Option (List Nat) :=
  let (encoding, bytes) := Encoding.detect bytes
  encoding.decode bytes

/-- **The text of a body.** -/
def decode (bytes : List UInt8) : Option (List Char) :=
  (points? bytes).map fun ps => ps.map charOfPoint

/-- **A character that has begun** in UTF-8. -/
structure Beginning where
  /-- How many bytes it lacks beside the next one. -/
  missing : Nat
  /-- The least byte that may come next. -/
  low : UInt8
  /-- The greatest byte that may come next. -/
  high : UInt8
  /-- The bits so far. -/
  bits : Nat

namespace Beginning

/-- The character that begins with a byte, if it has more than one. The
byte after it is bounded so that no code point is written too long, is
reserved or is out of range. -/
def ofByte? (b : UInt8) : Option Beginning :=
  if 0xC2 ≤ b ∧ b < 0xE0 then some ⟨0, 0x80, 0xBF, b.toNat - 0xC0⟩
  else if 0xE0 ≤ b ∧ b < 0xF0 then
    some ⟨1, if b = 0xE0 then 0xA0 else 0x80, if b = 0xED then 0x9F else 0xBF, b.toNat - 0xE0⟩
  else if 0xF0 ≤ b ∧ b < 0xF5 then
    some ⟨2, if b = 0xF0 then 0x90 else 0x80, if b = 0xF4 then 0x8F else 0xBF, b.toNat - 0xF0⟩
  else none

/-- Whether a byte may come next. -/
def takes (p : Beginning) (b : UInt8) : Bool :=
  p.low ≤ b && b ≤ p.high

/-- The bits with those of the next byte. -/
def bitsWith (p : Beginning) (b : UInt8) : Nat :=
  p.bits * 64 + (b.toNat - 0x80)

end Beginning

/-- What a byte gives where no character has begun: a character, or the
beginning of one. -/
def firstByte (b : UInt8) : List Char × Option Beginning :=
  if b < 0x80 then ([Char.ofNat b.toNat], none)
  else match Beginning.ofByte? b with
    | some p => ([], some p)
    | none => (['\uFFFD'], none)

/-- What a byte gives after the beginning of a character. -/
def nextByte (p : Beginning) (b : UInt8) : List Char × Option Beginning :=
  if p.takes b then
    match p.missing with
    | 0 => ([Char.ofNat (p.bitsWith b)], none)
    | n + 1 => ([], some ⟨n, 0x80, 0xBF, p.bitsWith b⟩)
  else
    let r := firstByte b
    ('\uFFFD' :: r.1, r.2)

/-- Decodes what comes after the beginning of a character, if one has
begun. -/
def decodeAfter : Option Beginning → List UInt8 → List Char
  | none, [] => []
  | some _, [] => ['\uFFFD']
  | p, b :: rest =>
    let r := p.elim (firstByte b) (nextByte · b)
    r.1 ++ decodeAfter r.2 rest

/-- **The text of any bytes.** -/
def decodeLossy (bytes : List UInt8) : List Char :=
  decodeAfter none bytes

end PackageVitals.Text
