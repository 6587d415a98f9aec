import PackageVitals.Failure
import PackageVitals.Number.Reading
import PackageVitals.Number.Written
import PackageVitals.Text.Quoted
import PackageVitals.Text.Split

/-!
# JSON values

What providers answer with. Whole numbers and numbers with a mark or an
exponent are different values, and the members of an object keep the
order in which they were first written; a name written again replaces the
value and keeps the place.

A provider's answer has no promised shape, so the questions asked of it
can fail, and **how they fail is part of the answer's meaning**:

* asking for a member of what is no object fails as `unsupported`
  (`Json.member?`), and so does treating it as text;
* indexing, walking or searching what cannot be is a `wrongShape`
  (`Json.item`, `Json.elements`, `Json.contains`);
* indexing an object by a name it lacks is a `missingMember`.
-/

namespace PackageVitals

/-- **A JSON value.** -/
inductive Json where
  | null
  | bool (b : Bool)
  | int (i : Int)
  | num (x : Double)
  | str (s : String)
  | arr (items : List Json)
  | obj (members : List (String × Json))
  deriving Inhabited

namespace Json

/-- Puts a member into a list of members: in its old place if the name is
there already, at the end otherwise. -/
def insertMember (name : String) (value : Json) : List (String × Json) → List (String × Json)
  | [] => [(name, value)]
  | m :: rest => if m.1 == name then (name, value) :: rest else m :: insertMember name value rest

/-- The object with the given members, later ones replacing earlier
ones of the same name. -/
def ofMembers (members : List (String × Json)) : Json :=
  .obj (members.foldl (fun acc m => insertMember m.1 m.2 acc) [])

/-- The value of a member in a list of members. -/
def lookup (name : String) (members : List (String × Json)) : Option Json :=
  (members.find? (·.1 == name)).map (·.2)

/-- Whether a value is an object. -/
def isObject : Json → Bool
  | obj _ => true
  | _ => false

/-- Whether a value counts as something: not null, false, zero or empty. -/
def isTruthy : Json → Bool
  | null => false
  | bool b => b
  | int i => i != 0
  | num x => !x.isZero
  | str s => !s.isEmpty
  | arr items => !items.isEmpty
  | obj members => !members.isEmpty

/-- A value, or nothing where it does not count as something. -/
def truthy? (j : Json) : Option Json :=
  if j.isTruthy then some j else none

/-- A value, or nothing where it is null. -/
def known? : Json → Option Json
  | null => none
  | j => some j

/-- The member of an object, null where the object has none of that name.
What is no object has no members to ask for. -/
def member (j : Json) (name : String) : Except Failure Json :=
  match j with
  | obj members => .ok ((lookup name members).getD null)
  | _ => .error .unsupported

/-- The member of an object, or the given value where there is none. -/
def memberD (j : Json) (name : String) (default : Json) : Except Failure Json :=
  match j with
  | obj members => .ok ((lookup name members).getD default)
  | _ => .error .unsupported

/-- The member of an object that has to have it. -/
def item (j : Json) (name : String) : Except Failure Json :=
  match j with
  | obj members =>
    match lookup name members with
    | some v => .ok v
    | none => .error (.missingMember name)
  | _ => .error .wrongShape

/-- What a walk along a value meets: items, names of members, or
characters. -/
def elements : Json → Except Failure (List Json)
  | arr items => .ok items
  | obj members => .ok (members.map fun m => str m.1)
  | str s => .ok (s.toList.map fun c => str (String.singleton c))
  | _ => .error .wrongShape

/-- How many elements a walk along a value meets. -/
def size (j : Json) : Except Failure Nat :=
  j.elements.map List.length

/-- Whether a value is the given text. -/
def isText (j : Json) (s : String) : Bool :=
  match j with
  | str t => t == s
  | _ => false

/-- Whether a value contains a text: as an item, as the name of a member,
or as a part. -/
def contains (j : Json) (s : String) : Except Failure Bool :=
  match j with
  | arr items => .ok (items.any (·.isText s))
  | obj members => .ok (members.any (·.1 == s))
  | str t => .ok (Text.occursIn s.toList t.toList)
  | _ => .error .wrongShape

/-- A whole number read from a value: a number loses its fraction, a text
is read. -/
def toInt : Json → Except Failure Int
  | int i => .ok i
  | bool b => .ok (if b then 1 else 0)
  | num .nan => .error .badValue
  | num x => match x.truncate? with
    | some i => .ok i
    | none => .error .outOfRange
  | str s => match Number.readInt? s.toList with
    | some i => .ok i
    | none => .error .badValue
  | _ => .error .wrongShape

/-- A number read from a value: a text is read, a whole number has to be
in range. -/
def toDouble : Json → Except Failure Double
  | num x => .ok x
  | int i =>
    let x := Double.ofInt i
    if x.isInfinite then .error .outOfRange else .ok x
  | bool b => .ok (Double.ofInt (if b then 1 else 0))
  | str s => match Number.readDouble? s.toList with
    | some x => .ok x
    | none => .error .badValue
  | _ => .error .wrongShape

/-- A member that is put in is there, and the others stay what they were. -/
theorem lookup_insertMember (name wanted : String) (value : Json)
    (members : List (String × Json)) :
    lookup wanted (insertMember name value members) =
      if name = wanted then some value else lookup wanted members := by
  induction members with
  | nil => by_cases h : name = wanted <;> simp [insertMember, lookup, h]
  | cons m rest ih =>
    unfold lookup at ih ⊢
    by_cases hm : m.1 = name
    · by_cases h : name = wanted <;> simp [insertMember, hm, h]
    · by_cases h : m.1 = wanted
      · have hne : name ≠ wanted := fun hw => hm (h.trans hw.symm)
        simp [insertMember, h, hne, Ne.symm hne]
      · simpa [insertMember, hm, h] using ih

end Json

end PackageVitals
