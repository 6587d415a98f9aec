import PackageVitals.DepsDev.Client
import PackageVitals.Forge
import PackageVitals.Registry

/-!
# Signals from deps.dev

deps.dev serves all three stages of an analysis. It counts the dependents
of a package, it knows the project a package is built from, and it has the
counts and the Scorecard of projects.
-/

namespace PackageVitals.DepsDev

/-- A version that has to be a text to be asked for. -/
def versionText : Json → Except Failure String
  | .str s => .ok s
  | _ => .error .wrongShape

/-- Whether a value is a given version. -/
def isVersion (v : Json) (version : Option String) : Bool :=
  match version with
  | some s => v.isText s
  | none => v matches .null

/-- The notice that there is no latest version. -/
def noLatestVersion (i : Identity) : Action Unit :=
  .say .warning ("Could not determine latest version on deps.dev for " ++ i.purl)

/-- **The dependents of a package.** They are counted for the version that
is asked for; where there is none, or no count for it, for the latest
version. -/
def analyzePackage (c : Client) (i : Identity) : Action Record := do
  match c.systems.systemFor i.ecosystem with
  | none => return .empty i
  | some system =>
    let latest ← c.latestVersion system i.coordinates
    match latest.known? with
    | none => do
      noLatestVersion i
      return .empty i
    | some latest =>
      let own ← match Identity.nonempty? i.version with
        | none => pure none
        | some v => c.dependents system i.coordinates v
      let count ←
        if own.isNone && !isVersion latest i.version then do
          c.dependents system i.coordinates (← Action.ofExcept (versionText latest))
        else pure own
      match count with
      | none => do
        .say .warning ("Could not determine dependents on deps.dev for " ++ i.purl)
        return .empty i
      | some n => return (Record.empty i).set .dependents (some (.count n))

/-- **The source project of a package**, that of its latest version; null
if it is not known. -/
def findProject (c : Client) (i : Identity) : Action Json := do
  match c.systems.systemFor i.ecosystem with
  | none => return .null
  | some system =>
    let latest ← c.latestVersion system i.coordinates
    match latest.known? with
    | none => do
      noLatestVersion i
      return .null
    | some latest =>
      let version ← Action.ofExcept (versionText latest)
      let key ← c.sourceProject system i.coordinates version
      if key.known?.isNone then
        .say .info ("Could not determine source code project for " ++ i.purl)
      return key

/-- The forges whose projects deps.dev tracks, by what occurs in a key. -/
def trackedForges : List String := Forge.all.map Forge.name

/-- Whether a key may be that of a project which deps.dev tracks. -/
def tracks (key : Json) : Except Failure Bool :=
  (trackedForges.mapM key.contains).map (·.any id)

/-- **The signals of a project.** -/
def analyzeProject (c : Client) (i : Identity) (key : Json) : Action Record := do
  let key ← Action.ofExcept (versionText key)
  match ← c.project key with
  | none => do
    .say .info ("Could not retrieve project data on deps.dev for " ++ key)
    return .empty i
  | some p => Action.ofExcept ((p.record i).mapError .invalid)

/-- Whether packages of an identity's ecosystem are filed under a system. -/
def files (c : Client) (i : Identity) : Bool :=
  (c.systems.systemFor i.ecosystem).isSome

/-- deps.dev as an analyzer of packages. -/
def packageAnalyzer (c : Client) : PackageAnalyzer :=
  ⟨"deps.dev package", files c, analyzePackage c⟩

/-- deps.dev as a mapper. -/
def mapper (c : Client) : Mapper :=
  ⟨"deps.dev mapper", files c, findProject c⟩

/-- deps.dev as an analyzer of sources. -/
def sourceAnalyzer (c : Client) : SourceAnalyzer :=
  ⟨"deps.dev source", tracks, analyzeProject c⟩

end PackageVitals.DepsDev
