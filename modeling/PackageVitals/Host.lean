import PackageVitals.Host.Name
import PackageVitals.Host.Numeric
import PackageVitals.Text.Case
import PackageVitals.Url.Percent

/-!
# Hosts

The host of an address is a number or a name. A number has to be right if
it looks like one. A name is sent in lower case; one in ASCII is percent
encoded, and any other is sent as ASCII labels.
-/

namespace PackageVitals.Host

/-- The text between brackets, if a text is in brackets. -/
def inBrackets? : List Char → Option (List Char)
  | '[' :: rest => if rest.getLast? == some ']' then some rest.dropLast else none
  | _ => none

/-- **A host as it is sent**, without the brackets of a number of 128
bits. -/
def sent? (s : List Char) : Option (List Char) :=
  if s.isEmpty then some []
  else if isFourNumbers s then if isQuad s then some s else none
  else match inBrackets? s with
    | some number => if isWide number then some number else none
    | none =>
      if s.all isAscii then some (Url.encodeWith Url.isHostChar (s.map Char.toLower))
      else sentName? (Text.lower s)

/-- A host in brackets where it needs them: only a number of 128 bits has
colons. -/
def bracketed (s : List Char) : List Char :=
  if s.contains ':' then '[' :: s ++ [']'] else s

/-- **A host as it is read**: one that starts with a label in ASCII stands for
another name, if it is right. -/
def shown (s : List Char) : List Char :=
  if asciiSign.isPrefixOf s then (readName? s).getD s else s

end PackageVitals.Host
