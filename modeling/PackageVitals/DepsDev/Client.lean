import PackageVitals.DepsDev.Document
import PackageVitals.Service
import PackageVitals.Settings.SystemMap

/-!
# Asking deps.dev

The addresses of the four kinds of documents, and a function to fetch each.
Every text that goes into an address is encoded as one segment, so that no
mark in a name, version or key can reach beyond its place.
-/

namespace PackageVitals.DepsDev

/-- **Access to deps.dev.** -/
structure Client where
  /-- The root of the interface. -/
  root : String
  /-- The systems that packages are filed under. -/
  systems : SystemMap
  deriving Inhabited

/-- The root of the public interface. -/
def standardRoot : String := "https://api.deps.dev"

/-- deps.dev as a service. -/
def service : Service := ⟨"deps.dev", [("Accept", "application/json")]⟩

namespace Client

open PackageVitals.Url (encodeSegment)

/-- Access at the given root, with the given systems. -/
def connect (root : Option String) (systems : Option SystemMap) : Client :=
  ⟨rootOf root standardRoot, systems.getD .standard⟩

/-- The address of a package in a version of the interface. -/
def packageUrl (c : Client) (interface system name : String) : String :=
  c.root ++ "/" ++ interface ++ "/systems/" ++ encodeSegment system ++ "/packages/"
    ++ encodeSegment name

/-- The address of a package. -/
def latestVersionUrl (c : Client) (system name : String) : String :=
  c.packageUrl "v3" system name

/-- The address of a version. -/
def versionUrl (c : Client) (system name version : String) : String :=
  c.packageUrl "v3" system name ++ "/versions/" ++ encodeSegment version

/-- The address of the dependents of a version. -/
def dependentsUrl (c : Client) (system name version : String) : String :=
  c.packageUrl "v3alpha" system name ++ "/versions/" ++ encodeSegment version ++ ":dependents"

/-- The address of a project. -/
def projectUrl (c : Client) (key : String) : String :=
  c.root ++ "/v3/projects/" ++ encodeSegment key

/-- The latest version of a package, null if it is not known. -/
def latestVersion (c : Client) (system name : String) : Action Json := do
  let v ← service.fetchJson (c.latestVersionUrl system name) none DepsDev.latestVersion
  return v.getD .null

/-- How many packages depend on a version, if it is known. -/
def dependents (c : Client) (system name version : String) : Action (Option Int) := do
  let n ← service.fetchJson (c.dependentsUrl system name version) none DepsDev.dependentCount
  return n.join

/-- The key of the source project of a version, null if it is not known. -/
def sourceProject (c : Client) (system name version : String) : Action Json := do
  let k ← service.fetchJson (c.versionUrl system name version) none DepsDev.sourceProject
  return k.getD .null

/-- A project, if it is known. -/
def project (c : Client) (key : String) : Action (Option Project) :=
  service.fetchJson (c.projectUrl key) none DepsDev.project

end Client

end PackageVitals.DepsDev
