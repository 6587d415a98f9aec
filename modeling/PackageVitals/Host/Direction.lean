import PackageVitals.Host.Mark

/-!
# Direction of writing

A name that holds a character written from right to left is read in an
order that depends on all of its characters. Such a name has to **start**
with a letter written from right to left, must not mix in any that are
written from left to right, nor the digits of Arabic with others, and has
to **end** with a letter or digit, marks aside. Read so, it cannot be
confused with its neighbours. The tables are confined to the characters
that a host name may hold.
-/

namespace PackageVitals.Host

/-- **A direction of writing.** -/
inductive Direction where
  /-- From left to right. -/
  | rightward
  /-- From right to left. -/
  | leftward
  /-- As the digits of Arabic. -/
  | arabicDigit
  /-- As all other digits. -/
  | digit
  /-- As the character before it. -/
  | mark
  /-- As the characters around it. -/
  | neutral
  deriving DecidableEq, Inhabited

/-- The letters written from right to left. -/
def leftwardLetters : Text.Ranges := [
  (1488, 1514), (1519, 1524), (1568, 1599), (1601, 1610), (1646, 1647), (1649, 1652),
  (1657, 1747), (1749, 1749), (1765, 1766), (1774, 1775), (1786, 1791), (1808, 1808),
  (1810, 1839), (1869, 1957), (1969, 1969), (1984, 2026), (2036, 2037), (2048, 2069),
  (2074, 2074), (2084, 2084), (2088, 2088), (2112, 2136), (2144, 2154), (2160, 2183),
  (2185, 2190), (2208, 2249), (65139, 65139), (67584, 67589), (67592, 67592), (67594, 67637),
  (67639, 67640), (67644, 67644), (67647, 67669), (67680, 67702), (67712, 67742), (67808, 67826),
  (67828, 67829), (67840, 67861), (67872, 67897), (67968, 68023), (68030, 68031), (68096, 68096),
  (68112, 68115), (68117, 68119), (68121, 68149), (68192, 68220), (68224, 68252), (68288, 68295),
  (68297, 68324), (68352, 68405), (68416, 68437), (68448, 68466), (68480, 68497), (68608, 68680),
  (68800, 68850), (68864, 68899), (69248, 69289), (69296, 69297), (69376, 69404), (69415, 69415),
  (69424, 69445), (69488, 69505), (69552, 69572), (69600, 69622), (124928, 125124),
  (125218, 125251), (125259, 125259), (125264, 125273)]

/-- The digits of Arabic. -/
def arabicDigits : Text.Ranges := [(1632, 1641), (68912, 68921)]

/-- The digits that are written in any direction. -/
def freeDigits : Text.Ranges := [(48, 57), (1776, 1785)]

/-- The characters without a direction. -/
def neutralMarks : Text.Ranges := [
  (45, 45), (183, 183), (697, 698), (710, 719), (748, 748), (885, 885), (8204, 8205),
  (11823, 11823), (12539, 12539), (42623, 42623), (42775, 42783), (42888, 42888)]

/-- The marks without room that have the direction of a letter. -/
def directedMarks : Text.Ranges := [(3263, 3263), (3270, 3270), (72199, 72200), (72767, 72767)]

/-- The direction of a character. -/
def direction (c : Char) : Direction :=
  if leftwardLetters.has c then .leftward
  else if arabicDigits.has c then .arabicDigit
  else if freeDigits.has c then .digit
  else if neutralMarks.has c then .neutral
  else if nonspacingMarks.has c && !directedMarks.has c then .mark
  else .rightward

/-- Whether a name can be read in one order only. -/
def isReadable (s : List Char) : Bool :=
  let ds := s.map direction
  if ds.any fun d => d == .leftward || d == .arabicDigit then
    ds.head? == some .leftward && !ds.contains .rightward
      && !(ds.contains .arabicDigit && ds.contains .digit)
      && (ds.reverse.dropWhile (· == .mark)).head? != some .neutral
  else true

end PackageVitals.Host
