import PackageVitals.Json
import PackageVitals.Time.Timestamp

/-!
# Health signals

A health record answers up to nineteen questions about a package, its
**signals**. They come in four groups – popularity, activity, hygiene of
the repository, and the results of the OpenSSF Scorecard – and each has a
declared kind of value.

A `Reading` is what a provider gave for a signal. Its kind is a property of
the reading and not of the signal: a provider's flag may turn out to be a
number or a text, and it is kept as it is. That a record's readings are of
the declared kinds is therefore something one can ask (`Reading.fits`)
and not something the types promise.
-/

namespace PackageVitals

/-- **A Scorecard check**: one finding about a repository. -/
structure Check where
  /-- What is checked. -/
  name : String
  /-- What the check means. -/
  description : Option String
  /-- The result, negative where the check does not apply. -/
  score : Option Double
  /-- Why the score is what it is. -/
  reason : Option String
  /-- Single findings. -/
  details : List String
  /-- Where the check is documented. -/
  documentation : Option String
  deriving DecidableEq, Inhabited

/-- What kind of value answers a signal. -/
inductive SignalKind where
  | count
  | rate
  | flag
  | moment
  | text
  | checks
  deriving DecidableEq, Inhabited

/-- **A signal**: one of the questions a record answers. -/
inductive Signal where
  | stars | forks | dependents
  | contributors | commitFrequency | openIssues | openPullRequests
  | lastCommit | busFactor | issueAge
  | readme | codeOfConduct | securityPolicy | files | archived
  | scorecardChecks | scorecardScore | scorecardVersion | scorecardDate
  deriving DecidableEq, Inhabited

namespace Signal

/-- Every signal, in the order of the record. -/
def all : List Signal := [
  stars, forks, dependents,
  contributors, commitFrequency, openIssues, openPullRequests,
  lastCommit, busFactor, issueAge,
  readme, codeOfConduct, securityPolicy, files, archived,
  scorecardChecks, scorecardScore, scorecardVersion, scorecardDate]

theorem mem_all (s : Signal) : s ∈ all := by
  cases s <;> decide

/-- The name under which a signal is stored. -/
def name : Signal → String
  | stars => "stars"
  | forks => "forks"
  | dependents => "dependents"
  | contributors => "contributors"
  | commitFrequency => "commit_frequency_weekly"
  | openIssues => "open_issues"
  | openPullRequests => "open_prs"
  | lastCommit => "last_commit_date"
  | busFactor => "bus_factor"
  | issueAge => "avg_issue_age_days"
  | readme => "has_readme"
  | codeOfConduct => "has_code_of_conduct"
  | securityPolicy => "has_security_policy"
  | files => "files"
  | archived => "is_repo_archived"
  | scorecardChecks => "scorecard_checks"
  | scorecardScore => "scorecard_score"
  | scorecardVersion => "scorecard_reference_version"
  | scorecardDate => "scorecard_timestamp"

/-- The declared kind of a signal. -/
def kind : Signal → SignalKind
  | commitFrequency | scorecardScore => .rate
  | lastCommit | scorecardDate => .moment
  | readme | codeOfConduct | securityPolicy | archived => .flag
  | scorecardChecks => .checks
  | scorecardVersion => .text
  | _ => .count

end Signal

/-- **A reading**: the value that a provider gave for a signal. -/
inductive Reading where
  /-- A whole number. -/
  | count (n : Int)
  /-- A number of double precision. -/
  | rate (x : Double)
  /-- A yes or no. -/
  | flag (b : Bool)
  /-- A point in time. -/
  | moment (t : Timestamp)
  /-- A text. -/
  | text (s : String)
  /-- The Scorecard checks. -/
  | checks (cs : List Check)
  /-- A list or an object, which answers no signal properly. -/
  | other (j : Json)
  deriving Inhabited

namespace Reading

/-- The kind of a reading, if it has one. -/
def kind? : Reading → Option SignalKind
  | count _ => some .count
  | rate _ => some .rate
  | flag _ => some .flag
  | moment _ => some .moment
  | text _ => some .text
  | checks _ => some .checks
  | other _ => none

/-- Whether a reading is of a signal's declared kind. -/
def fits (s : Signal) (r : Reading) : Bool :=
  r.kind? == some s.kind

/-- A provider's value as it is; null is no reading. -/
def ofJson? : Json → Option Reading
  | .null => none
  | .bool b => some (flag b)
  | .int n => some (count n)
  | .num x => some (rate x)
  | .str s => some (text s)
  | j => some (other j)

end Reading

end PackageVitals
