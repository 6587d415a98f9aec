import PackageVitals.Text.PrintableTable

/-!
# Quoted text

A quotation shows a text so that nothing in it is hidden: printable
characters stand for themselves, tab, line feed and carriage return have
their short escapes, and every other character is written by its code
point in the shortest of the forms `\x..`, `\u....` and `\U........`.
The quotation mark is the apostrophe, unless the text holds apostrophes
and no double quote.
-/

namespace PackageVitals.Text

/-- A hexadecimal number in lower case with at least `width` digits. -/
def hex (width n : Nat) : List Char :=
  let digits := Nat.toDigits 16 n
  List.replicate (width - digits.length) '0' ++ digits

/-- Whether a character is written as itself in a quotation. -/
def isPrintable (c : Char) : Bool :=
  if c.toNat < 127 then 32 ≤ c.toNat else printableRanges.has c

/-- One character inside a quotation with the given mark. -/
def quoteChar (mark c : Char) : List Char :=
  if c == mark || c == '\\' then ['\\', c]
  else if c == '\t' then ['\\', 't']
  else if c == '\n' then ['\\', 'n']
  else if c == '\r' then ['\\', 'r']
  else if isPrintable c then [c]
  else if c.toNat < 0x100 then '\\' :: 'x' :: hex 2 c.toNat
  else if c.toNat < 0x10000 then '\\' :: 'u' :: hex 4 c.toNat
  else '\\' :: 'U' :: hex 8 c.toNat

/-- The mark a text is quoted with. -/
def quoteMark (s : List Char) : Char :=
  if s.contains '\'' && !s.contains '"' then '"' else '\''

/-- A text between quotation marks, with all that is not printable
escaped. -/
def quote (s : String) : String :=
  let cs := s.toList
  let mark := quoteMark cs
  String.ofList (mark :: cs.flatMap (quoteChar mark) ++ [mark])

end PackageVitals.Text
