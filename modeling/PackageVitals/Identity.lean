/-!
# Identities

What a health record is about: a package of some ecosystem, possibly in a
namespace, possibly at a version. The ecosystem is named by its package
URL type and may be any text; one that no provider knows is only a reason
for an empty record.

An empty namespace and an empty version count as none.
-/

namespace PackageVitals

/-- **A package.** -/
structure Identity where
  /-- The package URL type, such as `npm`. -/
  ecosystem : String
  /-- The name within its namespace. -/
  name : String
  /-- The scope, group or owner the name belongs to. -/
  scope : Option String
  /-- The version. -/
  version : Option String
  deriving DecidableEq, Inhabited

namespace Identity

/-- A text, or nothing where it is empty. -/
def nonempty? (s : Option String) : Option String :=
  s.filter (!·.isEmpty)

/-- The mark between namespace and name: a colon for Maven, a slash
everywhere else. -/
def separator (i : Identity) : String :=
  if i.ecosystem == "maven" then ":" else "/"

/-- **The name as registries expect it**, namespace included. -/
def coordinates (i : Identity) : String :=
  match nonempty? i.scope with
  | none => i.name
  | some s => s ++ i.separator ++ i.name

/-- **The package URL**, as shown to people. -/
def purl (i : Identity) : String :=
  let path := match nonempty? i.scope with
    | none => i.name
    | some s => s ++ "/" ++ i.name
  let suffix := match nonempty? i.version with
    | none => ""
    | some v => "@" ++ v
  "pkg:" ++ i.ecosystem ++ "/" ++ path ++ suffix

end Identity

end PackageVitals
