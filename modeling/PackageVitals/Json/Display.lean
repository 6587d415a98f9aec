import PackageVitals.Json

/-!
# Values in running text

How a value looks inside a message or a list of findings: a text is shown
as it is, everything else in a notation of its own, in which the texts
inside are quoted.
-/

namespace PackageVitals.Json

open PackageVitals.Text (integer quote)

mutual

/-- A value in the notation for nested values. -/
def notated : Json → String
  | null => "None"
  | bool true => "True"
  | bool false => "False"
  | int i => integer i
  | num x => x.text
  | str s => quote s
  | arr items => "[" ++ notatedItems items ++ "]"
  | obj members => "\x7b" ++ notatedMembers members ++ "\x7d"

/-- The items of a list, separated by commas. -/
def notatedItems : List Json → String
  | [] => ""
  | [j] => notated j
  | j :: rest => notated j ++ ", " ++ notatedItems rest

/-- The members of an object, separated by commas. -/
def notatedMembers : List (String × Json) → String
  | [] => ""
  | [(k, j)] => quote k ++ ": " ++ notated j
  | (k, j) :: rest => quote k ++ ": " ++ notated j ++ ", " ++ notatedMembers rest

end

/-- **A value in running text.** -/
def display : Json → String
  | str s => s
  | j => j.notated

@[simp] theorem display_str (s : String) : display (str s) = s := rfl

end PackageVitals.Json
