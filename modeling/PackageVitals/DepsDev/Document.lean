import PackageVitals.Json.Display
import PackageVitals.Json.Time
import PackageVitals.Record.Coercion

/-!
# Documents of deps.dev

deps.dev answers with three kinds of documents: a package with its
versions, a version with what is known about it, and a project with its
counts and its Scorecard. Each function here takes the one thing it is
named for out of a document. The documents have no promised shape, so each
can fail, and it fails at the first thing that is not as expected.
-/

namespace PackageVitals.DepsDev

/-- The first version marked as the default, null if none is. -/
def defaultVersion : List Json → Except Failure Json
  | [] => .ok .null
  | v :: rest => do
    if (← v.member "isDefault").isTruthy then
      (← v.item "versionKey").item "version"
    else defaultVersion rest

/-- **The latest version** of a package: the one that is its default. -/
def latestVersion (package : Json) : Except Failure Json := do
  defaultVersion (← (← package.memberD "versions" (.arr [])).elements)

/-- **How many packages depend** on a version. -/
def dependentCount (version : Json) : Except Failure (Option Int) := do
  match (← version.member "dependentCount").known? with
  | none => return none
  | some n => return some (← n.toInt)

/-- The key of the first project that is related as the source and has
one, null if none has. -/
def firstSource : List Json → Except Failure Json
  | [] => .ok .null
  | p :: rest => do
    if (← p.member "relationType").isText "SOURCE_REPO" then
      let key ← (((← p.member "projectKey").truthy?).getD (.obj [])).member "id"
      if key.isTruthy then return key else firstSource rest
    else firstSource rest

/-- **The source project** of a version. -/
def sourceProject (version : Json) : Except Failure Json := do
  firstSource (← (← version.memberD "relatedProjects" (.arr [])).elements)

/-- A value that has to be a text where it is known. -/
def optionalText (name : String) (j : Json) : Field (Option String) :=
  match j with
  | .null => .ok none
  | j => (Field.single name j.asText).map some

/-- **A Scorecard check.** Its name and its texts have to be texts; its
score is read, and its findings are shown whatever they are. -/
def check (j : Json) : Except Failure Check := do
  let documentation := ((← j.member "documentation").truthy?).getD (.obj [])
  let score ← j.member "score"
  let name ← j.item "name"
  let score ← match score.known? with
    | none => pure none
    | some s => some <$> s.toDouble
  let description ← documentation.member "shortDescription"
  let url ← documentation.member "url"
  let reason ← j.member "reason"
  let details ← (((← j.member "details").truthy?).getD (.arr [])).elements
  let first := Field.both (Field.single "name" name.asText) (optionalText "description" description)
  let second := Field.both (optionalText "reason" reason) (optionalText "documentation_url" url)
  match Field.both first second with
  | .ok ((name, description), (reason, documentation)) =>
    return { name, description, score, reason, details := details.map Json.display, documentation }
  | .error issues => throw (.invalid issues)

/-- **A project**: what a project document says. The version is what the
document holds, which may turn out not to be a text. -/
structure Project where
  /-- How many issues are open. -/
  openIssues : Option Int := none
  /-- How many stars the project has. -/
  stars : Option Int := none
  /-- How many forks the project has. -/
  forks : Option Int := none
  /-- The version of the Scorecard. -/
  version : Option Json := none
  /-- When the Scorecard was made. -/
  date : Option Timestamp := none
  /-- The overall score. -/
  score : Option Double := none
  /-- The checks; they are there whenever there is a Scorecard. -/
  checks : Option (List Check) := none
  deriving Inhabited

/-- A count of a document, where it is known. -/
def count (j : Json) (name : String) : Except Failure (Option Int) := do
  match (← j.member name).known? with
  | none => return none
  | some n => return some (← n.toInt)

/-- **The project of a project document.** A Scorecard that is empty
counts as none. -/
def project (j : Json) : Except Failure Project := do
  let openIssues ← count j "openIssuesCount"
  let stars ← count j "starsCount"
  let forks ← count j "forksCount"
  match (← j.member "scorecard").truthy? with
  | none => return { openIssues, stars, forks }
  | some card =>
    let inner := ((← card.member "scorecard").truthy?).getD (.obj [])
    let version := (← inner.member "version").truthy?
    let date ← match (← card.member "date").truthy? with
      | none => pure none
      | some d => some <$> d.toTimestamp
    let score ← match (← card.member "overallScore").known? with
      | none => pure none
      | some s => some <$> s.toDouble
    let checks ← (← (← card.memberD "checks" (.arr [])).elements).mapM check
    return { openIssues, stars, forks, version, date, score, checks := some checks }

namespace Project

/-- The readings of a project, the version being given as a text. -/
def readings (p : Project) (version : Option String) : List (Signal × Option Reading) := [
  (.stars, p.stars.map .count),
  (.forks, p.forks.map .count),
  (.openIssues, p.openIssues.map .count),
  (.scorecardChecks, p.checks.map .checks),
  (.scorecardScore, p.score.map .rate),
  (.scorecardVersion, version.map .text),
  (.scorecardDate, p.date.map .moment)]

/-- **The record of a project**, unless its version is no text. -/
def record (p : Project) (i : Identity) : Field Record :=
  match p.version with
  | none => .ok ((Record.empty i).setAll (p.readings none))
  | some v =>
    (Field.single Signal.scorecardVersion.name v.asText).map fun s =>
      (Record.empty i).setAll (p.readings (some s))

end Project

end PackageVitals.DepsDev
