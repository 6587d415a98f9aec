/-!
# Percent encoding

A character that may not stand in a part of an address is written as the
bytes of its UTF-8 encoding, each as a percent sign and two hexadecimal
digits. Which characters may stand there is the only difference between
the encodings here.
-/

namespace PackageVitals.Url

/-- A hexadecimal digit in upper case. -/
def hexDigit (n : Nat) : Char :=
  Char.ofNat (if n < 10 then 48 + n else 55 + n)

/-- A byte as a percent sign and two digits. -/
def escapeByte (b : UInt8) : List Char :=
  ['%', hexDigit (b.toNat / 16), hexDigit (b.toNat % 16)]

/-- A character by the bytes of its UTF-8 encoding. -/
def escapeChar (c : Char) : List Char :=
  (String.utf8EncodeChar c).flatMap escapeByte

/-- **Percent encoding**: characters of the class stand for themselves. -/
def encodeWith (keep : Char → Bool) (s : List Char) : List Char :=
  s.flatMap fun c => if keep c then [c] else escapeChar c

/-- Whether a character never needs encoding: ASCII letters and digits and
the four marks `-`, `.`, `_`, `~`. -/
def isUnreserved (c : Char) : Bool :=
  c.isAlphanum || c == '-' || c == '.' || c == '_' || c == '~'

/-- Whether a character may stand in the query of an address: visible ASCII
except the quotation mark, the number sign and the angle brackets. -/
def isQueryChar (c : Char) : Bool :=
  33 ≤ c.toNat && c.toNat < 127 && c != '"' && c != '#' && c != '<' && c != '>'

/-- Whether a character may stand in the path of an address: one that may
stand in a query, except the question mark, the grave accent and braces. -/
def isPathChar (c : Char) : Bool :=
  isQueryChar c && c != '?' && c.toNat != 96 && c.toNat != 123 && c.toNat != 125

/-- Whether a character may stand in the fragment of an address: one that may
stand in a query, except the grave accent, or the number sign. -/
def isFragmentChar (c : Char) : Bool :=
  (isQueryChar c && c.toNat != 96) || c == '#'

/-- Whether a character may stand before the host of an address: one that
may stand in a path, except the marks that part an address or enclose
something. -/
def isUserChar (c : Char) : Bool :=
  isPathChar c && !"/;=@[\\]^|".toList.contains c

/-- Whether a character may stand in the host of an address. -/
def isHostChar (c : Char) : Bool :=
  isUnreserved c || "!$&'()*+,;=\"%|\\".toList.contains c
    || c.toNat == 96 || c.toNat == 123 || c.toNat == 125

/-- **One segment of a path**, with everything encoded that could be taken
for something else. -/
def encodeSegment (s : String) : String :=
  String.ofList (encodeWith isUnreserved s.toList)

/-- A name or value in a form, with a plus sign for each space. -/
def encodeFormText (s : List Char) : List Char :=
  s.flatMap fun c => if c == ' ' then ['+'] else if isUnreserved c then [c] else escapeChar c

/-- **A form**: names and values joined by equals signs and ampersands. -/
def encodeForm : List (String × String) → List Char
  | [] => []
  | [(k, v)] => encodeFormText k.toList ++ '=' :: encodeFormText v.toList
  | (k, v) :: rest =>
    encodeFormText k.toList ++ '=' :: encodeFormText v.toList ++ '&' :: encodeForm rest

end PackageVitals.Url
