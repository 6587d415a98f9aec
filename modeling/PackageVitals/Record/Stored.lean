import PackageVitals.Json.Display
import PackageVitals.Record

/-!
# Records as stored

A record is stored as one JSON object: the identity, then the signals that
are answered, each under its name and in the order of the record. What is
not known is left out at every level. A null in a stored record is part of a
value that was taken over from a provider as it came: the provider sent it,
or sent a number without digits in its place.

Such a value has to be of moderate depth. A record with one that is nested
more deeply cannot be stored.
-/

namespace PackageVitals

/-- A member that is left out where there is no value. -/
def storedMember (name : String) (value : Option Json) : List (String × Json) :=
  match value with
  | some j => [(name, j)]
  | none => []

namespace Json

mutual

/-- A value of any shape as stored: null takes the place of a number that has
no digits. -/
def storable : Json → Json
  | num (.finite s m e) => num (.finite s m e)
  | num _ => null
  | arr items => arr (storableItems items)
  | obj members => obj (storableMembers members)
  | j => j

/-- The items of a list as stored. -/
def storableItems : List Json → List Json
  | [] => []
  | j :: rest => storable j :: storableItems rest

/-- The members of an object as stored. -/
def storableMembers : List (String × Json) → List (String × Json)
  | [] => []
  | (k, j) :: rest => (k, storable j) :: storableMembers rest

end

mutual

/-- How many levels a value has: its own, and those of what is in it. -/
def levels : Json → Nat
  | arr items => itemLevels items + 1
  | obj members => memberLevels members + 1
  | _ => 1

/-- The most levels of an item. -/
def itemLevels : List Json → Nat
  | [] => 0
  | j :: rest => max (levels j) (itemLevels rest)

/-- The most levels of a member. -/
def memberLevels : List (String × Json) → Nat
  | [] => 0
  | (_, j) :: rest => max (levels j) (memberLevels rest)

end

/-- How many levels a value can have to be stored as it came. -/
def levelLimit : Nat := 255

end Json

namespace Identity

/-- An identity as stored. -/
def stored (i : Identity) : Json :=
  .obj ([("type", .str i.ecosystem), ("name", .str i.name)]
    ++ storedMember "namespace" (i.scope.map .str)
    ++ storedMember "version" (i.version.map .str))

end Identity

namespace Check

/-- The members of a check in their order. -/
def members (c : Check) : List (String × Option Json) := [
  ("name", some (.str c.name)),
  ("description", c.description.map .str),
  ("score", c.score.map .num),
  ("reason", c.reason.map .str),
  ("details", some (.arr (c.details.map .str))),
  ("documentation_url", c.documentation.map .str)]

/-- A check as stored. -/
def stored (c : Check) : Json :=
  .obj (c.members.flatMap fun m => storedMember m.1 m.2)

end Check

namespace Reading

/-- A reading as stored where it is of its signal's kind. -/
def stored : Reading → Json
  | count n => .int n
  | rate x => .num x
  | flag b => .bool b
  | moment t => .str t.recordText
  | text s => .str s
  | checks cs => .arr (cs.map Check.stored)
  | other j => j

/-- **The reading of a signal as stored.** One that is not of the signal's kind
is a provider's value taken over as it came. -/
def storedFor (s : Signal) (r : Reading) : Json :=
  if r.fits s then r.stored else r.stored.storable

/-- Whether the reading of a signal can be stored. -/
def isStorable (s : Signal) (r : Reading) : Bool :=
  r.fits s || r.stored.levels ≤ Json.levelLimit

end Reading

namespace Record

/-- **A record as stored.** -/
def stored (r : Record) : Json :=
  .obj (("identity", r.identity.stored)
    :: Signal.all.flatMap fun s => storedMember s.name ((r.reading s).map (Reading.storedFor s)))

/-- Whether a record can be stored. -/
def isStorable (r : Record) : Bool :=
  Signal.all.all fun s => (r.reading s).all (Reading.isStorable s)

end Record

end PackageVitals
