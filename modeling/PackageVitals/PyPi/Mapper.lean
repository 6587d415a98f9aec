import PackageVitals.PyPi
import PackageVitals.Registry
import PackageVitals.Service

/-!
# Repositories from PyPI

PyPI has one document for each package, and the addresses in it name the
repository.
-/

namespace PackageVitals.PyPi

/-- The root of the public index. -/
def standardRoot : String := "https://pypi.org/pypi"

/-- The index as a service. -/
def service : Service := ⟨"pypi", []⟩

/-- The address of a package, under the normal form of its name. -/
def packageUrl (root : String) (i : Identity) : String :=
  root ++ "/" ++ normalizeName i.name ++ "/json"

/-- The key of the repository that an address names; an address has to be a
text. -/
def keyOf (url : Option Json) : Except Failure (Option String) :=
  match url with
  | none => .ok none
  | some (.str s) => .ok (Repository.keyOfUrl? s)
  | some _ => .error .unsupported

/-- The key of the repository that a package document names. -/
def keyIn (package : Json) : Except Failure (Option String) := do
  let info := ((← package.member "info").truthy?).getD (.obj [])
  keyOf (← repositoryUrl info)

/-- **Finds the repository of a package** in the index at a root. -/
def find (root : String) (i : Identity) : Action Json := do
  match ← service.fetchJson (packageUrl root i) none pure with
  | some (.obj members) => do
    match ← Action.ofExcept (keyIn (.obj members)) with
    | some key => return .str key
    | none => do
      .say .info ("No repository URL found in PyPI metadata for " ++ i.purl)
      return .null
  | _ => return .null

/-- The index at a root as a mapper. -/
def mapper (root : String) : Mapper :=
  ⟨"pypi", fun i => i.ecosystem == "pypi", find root⟩

end PackageVitals.PyPi
