import PackageVitals.Failure
import PackageVitals.Text.Blank
import PackageVitals.Text.Case
import PackageVitals.Text.Split

/-!
# The system map

deps.dev files packages under systems of its own, and the system map says
which one holds the packages of an ecosystem. It is written as pairs
`ecosystem=SYSTEM` separated by commas, with blanks allowed everywhere
around the parts. Ecosystems are looked up in lower case and systems are
written in upper case; of two pairs for one ecosystem the last counts.

A piece of nothing but blanks is passed over. Any other piece has to hold
an equals sign with something before the first one and after it.
-/

namespace PackageVitals

/-- **A system map**: ecosystems with their systems. -/
abbrev SystemMap := List (String × String)

namespace SystemMap

open PackageVitals.Text (trim lower upper splitAll splitFirst lowerCase)

/-- The map used where none is configured. -/
def standard : SystemMap := [
  ("npm", "NPM"), ("golang", "GO"), ("maven", "MAVEN"), ("pypi", "PYPI"),
  ("nuget", "NUGET"), ("cargo", "CARGO"), ("gem", "RUBYGEMS")]

/-- Files an ecosystem under a system, replacing an earlier entry. -/
def insert (ecosystem system : String) : SystemMap → SystemMap
  | [] => [(ecosystem, system)]
  | e :: rest =>
    if e.1 == ecosystem then (ecosystem, system) :: rest else e :: insert ecosystem system rest

/-- The entry of an ecosystem that is written exactly so. -/
def find? (m : SystemMap) (ecosystem : String) : Option String :=
  (List.find? (fun e => e.1 == ecosystem) m).map (·.2)

/-- Of two entries for an ecosystem the later one counts. -/
theorem find?_insert (ecosystem system wanted : String) (m : SystemMap) :
    find? (insert ecosystem system m) wanted =
      if ecosystem = wanted then some system else find? m wanted := by
  induction m with
  | nil => by_cases h : ecosystem = wanted <;> simp [insert, find?, h]
  | cons e rest ih =>
    unfold find? at ih ⊢
    by_cases he : e.1 = ecosystem
    · by_cases h : ecosystem = wanted <;> simp [insert, he, h]
    · by_cases h : e.1 = wanted
      · have hne : ecosystem ≠ wanted := fun hw => he (h.trans hw.symm)
        simp [insert, h, hne, Ne.symm hne]
      · simpa [insert, he, h] using ih

/-- **The system of an ecosystem**, whatever its case. -/
def systemFor (m : SystemMap) (ecosystem : String) : Option String :=
  m.find? (lowerCase ecosystem)

/-- The ecosystem and the system that a trimmed piece names. -/
def pair? (piece : List Char) : Option (String × String) :=
  match splitFirst '=' piece with
  | (_, none) => none
  | (ecosystem, some system) =>
    if (trim ecosystem).isEmpty || (trim system).isEmpty then none
    else some (String.ofList (lower (trim ecosystem)), String.ofList (upper (trim system)))

/-- Adds the pairs of several pieces to a map. -/
def addAll (m : SystemMap) : List (List Char) → Except ConfigProblem SystemMap
  | [] => .ok m
  | piece :: rest =>
    let piece := trim piece
    if piece.isEmpty then addAll m rest
    else match pair? piece with
      | some (ecosystem, system) => addAll (insert ecosystem system m) rest
      | none => .error (.badMapping (String.ofList piece))

/-- **Reads a system map.** -/
def parse (s : String) : Except ConfigProblem SystemMap :=
  addAll [] (splitAll ',' s.toList)

end SystemMap

end PackageVitals
