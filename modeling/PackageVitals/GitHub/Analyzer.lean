import PackageVitals.GitHub.Client
import PackageVitals.Metrics
import PackageVitals.Registry
import PackageVitals.Repository
import PackageVitals.Text.Split

/-!
# Signals from GitHub

Everything that GitHub says about a repository comes from a dozen
documents, fetched in three steps: the repository and the head of its
default branch; then eight documents at once; then the statistics of the
contributors, which are asked for again while they are not ready, a fixed
number of times and with a fixed pause.

Each document is fetched **safely**: one that cannot be had leaves its own
signal unanswered, or answers that a file is not there. What is computed
from the documents afterwards has no such default.
-/

namespace PackageVitals.GitHub

/-- **An analyzer of repositories on GitHub.** -/
structure Analyzer where
  /-- Access to GitHub. -/
  client : Client
  /-- How often the statistics are asked for; less than once counts as
  once. -/
  attempts : Int
  /-- The pause between two such requests. -/
  interval : Seconds

/-- The start of the keys of repositories on GitHub. -/
def keyStart : String := Forge.github.host

/-- Whether a key may be that of a repository on GitHub. -/
def keyApplies : Json → Except Failure Bool
  | .str s => .ok (keyStart.toList.isPrefixOf s.toList)
  | _ => .error .unsupported

/-- **Owner and name** in the key of a repository on GitHub: the first two
parts of the path after the host, if neither is empty. -/
def splitKey (key : String) : Option (String × String) :=
  let path := Text.trimBy (· == '/') (key.toList.drop keyStart.length)
  match Text.splitAll '/' path with
  | owner :: name :: _ =>
    if owner.isEmpty || name.isEmpty then none
    else some (String.ofList owner, String.ofList name)
  | _ => none

namespace StatisticsProblem

/-- The text of a problem, without the failure behind it. -/
def text : StatisticsProblem → String
  | unanswered message => "request error: " ++ message
  | status code => "status " ++ Text.decimal code
  | unexpected _ => "unexpected response"

/-- The failure behind a problem. -/
def cause : StatisticsProblem → Cause
  | unexpected f => .stated f
  | _ => .none

end StatisticsProblem

namespace Analyzer

/-- How often the statistics are asked for at most. -/
def maxAttempts (a : Analyzer) : Nat :=
  (max 1 a.attempts).toNat

/-- The notice that the statistics are not ready yet. -/
def notReadyText (a : Analyzer) (repository : String) (attempt : Nat) : String :=
  "Contributor stats for " ++ repository ++ " not ready (attempt " ++ Text.decimal attempt ++ "/"
    ++ Text.decimal a.maxAttempts ++ "), retrying in " ++ a.interval.text ++ "s"

/-- The notice that the statistics were never ready. -/
def neverReadyText (a : Analyzer) (repository : String) : String :=
  "Contributor stats for " ++ repository ++ " still not ready after "
    ++ Text.decimal a.maxAttempts ++ " attempts"

/-- The notice that there are no statistics. -/
def failedNotice (repository : String) (p : StatisticsProblem) : Notice :=
  { severity := .warning
    text := "Contributor stats for " ++ repository ++ " failed: " ++ p.text
    cause := p.cause }

/-- Asks for the statistics up to `left` times more, pausing after each
answer that they are not ready but the last. -/
def pollFrom (a : Analyzer) (ask : Action StatisticsAnswer) (repository : String) :
    Nat → Action (Option (List Contributor))
  | 0 => do
    .say .warning (a.neverReadyText repository)
    return none
  | left + 1 => do
    match ← ask with
    | .ready cs => return some cs
    | .failed p => do
      .note (failedNotice repository p)
      return none
    | .notReady => do
      if left ≠ 0 then
        .say .debug (a.notReadyText repository (a.maxAttempts - left))
        .sleep a.interval
      a.pollFrom ask repository left

/-- **Asks for the statistics until they are ready**, or until it has been
tried often enough. -/
def poll (a : Analyzer) (owner name : String) : Action (Option (List Contributor)) :=
  a.pollFrom (a.client.statistics owner name) (owner ++ "/" ++ name) a.maxAttempts

/-- **What the eight documents say** that are fetched at once. -/
structure Findings where
  /-- How many contributors there are. -/
  contributors : Option Nat
  /-- How many pull requests are open. -/
  pullRequests : Option Nat
  /-- When the head of the default branch was committed. -/
  lastCommit : Option Timestamp
  /-- Whether there is an introduction. -/
  readme : Bool
  /-- Whether there is a code of conduct. -/
  codeOfConduct : Bool
  /-- Whether there is a security policy. -/
  securityPolicy : Bool
  /-- How many files there are at the top. -/
  files : Option Nat
  /-- When the open issues were created. -/
  issueDates : Option (List Timestamp)

/-- Something about the head of the default branch, if there is a head. -/
def ofHead (head : Json) (description : String) (find : String → Action (Option α)) :
    Action (Option α) :=
  match head with
  | .null => return none
  | head => Action.safely description none (find head.display)

/-- **Fetches the eight documents at once.** None is cut short by another;
of several failures the first in order shows. -/
def findings (a : Analyzer) (key owner name : String) (head : Json) : Action Findings := do
  let c := a.client
  let ref := owner ++ "/" ++ name
  let all : Program _ :=
    Program.both (Action.safely ("contributors of " ++ key) none
      (c.countContributors owner name)).attempt <|
    Program.both (Action.safely ("open PRs of " ++ key) none
      (c.countOpenPullRequests owner name)).attempt <|
    Program.both (ofHead head ("last commit of " ++ ref) (c.commitDate owner name)).attempt <|
    Program.both (Action.safely ("README of " ++ key) false (c.hasReadme owner name)).attempt <|
    Program.both (Action.safely ("code of conduct of " ++ key) false
      (c.hasFile owner name "CODE_OF_CONDUCT.md")).attempt <|
    Program.both (Action.safely ("security policy of " ++ key) false
      (c.hasFile owner name ".github/SECURITY.md")).attempt <|
    Program.both (ofHead head ("file tree of " ++ ref) (c.countFiles owner name)).attempt
      (Action.safely ("open issues of " ++ key) none
        (some <$> c.openIssueDates owner name)).attempt
  let (contributors, pullRequests, lastCommit, readme, codeOfConduct, securityPolicy, files,
    issueDates) ← ExceptT.lift all
  return {
    contributors := ← Action.ofExcept contributors
    pullRequests := ← Action.ofExcept pullRequests
    lastCommit := ← Action.ofExcept lastCommit
    readme := ← Action.ofExcept readme
    codeOfConduct := ← Action.ofExcept codeOfConduct
    securityPolicy := ← Action.ofExcept securityPolicy
    files := ← Action.ofExcept files
    issueDates := ← Action.ofExcept issueDates }

/-- A count as a reading. -/
def countReading (n : Nat) : Reading :=
  .count n

/-- The readings of the findings, the age of the issues being given. -/
def Findings.readings (f : Findings) (issueAge : Option Int) : List (Signal × Option Reading) := [
  (.contributors, f.contributors.map countReading),
  (.openPullRequests, f.pullRequests.map countReading),
  (.lastCommit, f.lastCommit.map .moment),
  (.readme, some (.flag f.readme)),
  (.codeOfConduct, some (.flag f.codeOfConduct)),
  (.securityPolicy, some (.flag f.securityPolicy)),
  (.files, f.files.map countReading),
  (.issueAge, issueAge.map .count)]

/-- The mean age of the issues, where they are known. -/
def issueAge (dates : Option (List Timestamp)) : Action (Option Int) :=
  match dates with
  | none => return none
  | some ds => do
    let now ← Action.now
    some <$> Action.ofExcept (Metrics.issueAge ds now)

/-- How many commits there are in a week, where it is known when the
repository was created. -/
def commitFrequency (created : Json) (cs : List Contributor) : Action (Option Double) :=
  match created.truthy? with
  | none => return none
  | some created => do
    let created ← Action.ofExcept created.toTimestamp
    let now ← Action.now
    some <$> Action.ofExcept
      (Metrics.commitFrequency (Metrics.total (cs.map Contributor.total)) created now)

/-- The readings that follow from the statistics. -/
def statisticsReadings (a : Analyzer) (key owner name : String) (created : Json) :
    Action (List (Signal × Option Reading)) := do
  match ← a.poll owner name with
  | none => return []
  | some [] => do
    .say .warning ("No contributor stats found for " ++ key
      ++ ", skipping bus factor and commit frequency")
    return []
  | some cs => do
    let frequency ← commitFrequency created cs
    return [
      (.commitFrequency, frequency.map .rate),
      (.busFactor, (Metrics.busFactor (cs.map Contributor.total)).map countReading)]

/-- The signals of a repository about which GitHub says something. -/
def analyzeKnown (a : Analyzer) (i : Identity) (key owner name : String) (repository : Json) :
    Action Record := do
  let branch ← Action.ofExcept (repository.member "default_branch")
  let branch := ((branch.truthy?).getD (.str "main")).display
  let head ← Action.safely ("head of " ++ key ++ "@" ++ branch) .null
    (a.client.branchHead owner name branch)
  let found ← a.findings key owner name head
  let archived ← Action.ofExcept (repository.member "archived")
  let age ← issueAge found.issueDates
  let created ← Action.ofExcept (repository.member "created_at")
  let derived ← a.statisticsReadings key owner name created
  return (Record.empty i).setAll
    (found.readings age ++ [(.archived, Reading.ofJson? archived)] ++ derived)

/-- **The signals of the repository with the given key.** -/
def analyze (a : Analyzer) (i : Identity) (key : String) : Action Record := do
  match splitKey key with
  | none => do
    .say .warning ("Not a GitHub repository key: " ++ key)
    return .empty i
  | some (owner, name) =>
    match ← Action.safely ("repository " ++ key) none (a.client.repository owner name) with
    | none => do
      .say .warning ("GitHub repository retrieval failed for " ++ key)
      return .empty i
    | some repository => a.analyzeKnown i key owner name repository

/-- GitHub as an analyzer of sources. -/
def sourceAnalyzer (a : Analyzer) : SourceAnalyzer :=
  { name := "github source"
    applies := keyApplies
    analyze := fun i key =>
      match key with
      | .str s => a.analyze i s
      | _ => .fail .unsupported }

end Analyzer

end PackageVitals.GitHub
