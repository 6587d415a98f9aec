import PackageVitals.Npm
import PackageVitals.Registry
import PackageVitals.Service

/-!
# Repositories from the npm registry

The registry has one document for each package, with the metadata of every
version in it. The repository named by the version that is asked for
counts; where that names none, the one of the package.
-/

namespace PackageVitals.Npm

/-- The root of the public registry. -/
def standardRoot : String := "https://registry.npmjs.org"

/-- The registry as a service. -/
def service : Service := ⟨"npm registry", []⟩

/-- The name of a package with its scope, which starts with an at sign
whether or not the identity writes one. -/
def packageName (i : Identity) : String :=
  match Identity.nonempty? i.scope with
  | none => i.coordinates
  | some s => if ['@'].isPrefixOf s.toList then i.coordinates else "@" ++ i.coordinates

/-- The address of a package, its slashes encoded. -/
def packageUrl (root : String) (i : Identity) : String :=
  root ++ "/" ++ String.ofList
    ((packageName i).toList.flatMap fun c => if c == '/' then "%2F".toList else [c])

/-- The metadata of the version that is asked for, empty where there is
none. -/
def versionData (package : Json) (version : Option String) : Except Failure Json := do
  let versions := ((← package.member "versions").truthy?).getD (.obj [])
  match Identity.nonempty? version with
  | none => return .obj []
  | some v => if ← versions.contains v then versions.item v else return .obj []

/-- The repository field that counts. -/
def repositoryField (package : Json) (version : Option String) : Except Failure Json := do
  let data ← versionData package version
  match (← data.member "repository").truthy? with
  | some j => return j
  | none => package.member "repository"

/-- The key of the repository that a package document names. -/
def keyIn (package : Json) (version : Option String) : Except Failure (Option String) := do
  return (← repositoryUrl (← repositoryField package version)) >>= Repository.keyOfUrl?

/-- **Finds the repository of a package** in the registry at a root. -/
def find (root : String) (i : Identity) : Action Json := do
  match ← service.fetchJson (packageUrl root i) none pure with
  | some (.obj members) => do
    match ← Action.ofExcept (keyIn (.obj members) i.version) with
    | some key => return .str key
    | none => do
      .say .info ("No repository field found in npm metadata for " ++ i.purl)
      return .null
  | _ => return .null

/-- The registry at a root as a mapper. -/
def mapper (root : String) : Mapper :=
  ⟨"npm registry", fun i => i.ecosystem == "npm", find root⟩

end PackageVitals.Npm
