import PackageVitals.Json.Display
import PackageVitals.Record

/-!
# Reports

A record is shown to people as a heading, a table of what it answers and a
table of the Scorecard checks. The markup in brackets says how a text is
coloured. Counts are written with commas between the thousands, rates with
two places and scores briefly; a score that is negative means that the
check does not apply.
-/

namespace PackageVitals

/-- **Something to print.** -/
inductive Printed where
  /-- A line with markup. -/
  | line (text : String)
  /-- A table. -/
  | table (title : Option String) (columns : List String) (rows : List (List String))
  /-- A JSON text. -/
  | json (text : String)
  deriving DecidableEq, Inhabited

namespace Report

/-- Puts a comma before every group of three digits, counted from the
right. The digits are given in reverse. -/
def groupThousands : List Char → List Char
  | a :: b :: c :: d :: rest => a :: b :: c :: ',' :: groupThousands (d :: rest)
  | cs => cs

/-- A whole number with commas between the thousands. -/
def count (n : Int) : String :=
  let digits := (groupThousands (Nat.toDigits 10 n.natAbs).reverse).reverse
  if n < 0 then String.ofList ('-' :: digits) else String.ofList digits

/-- A reading in a table. -/
def cell : Reading → String
  | .count n => count n
  | .rate x => x.fixed 2
  | .flag b => if b then "Yes" else "No"
  | .moment t => t.text
  | .text s => s
  | .checks _ => ""
  | .other j => j.display

/-- The label of a signal; the checks have a table of their own. -/
def label? : Signal → Option String
  | .stars => some "Stars"
  | .forks => some "Forks"
  | .dependents => some "Dependents"
  | .contributors => some "Contributors"
  | .commitFrequency => some "Commits / Week"
  | .openIssues => some "Open Issues"
  | .openPullRequests => some "Open PRs"
  | .lastCommit => some "Last Commit"
  | .busFactor => some "Bus Factor"
  | .issueAge => some "Avg Issue Age (days)"
  | .readme => some "Has README"
  | .codeOfConduct => some "Has Code of Conduct"
  | .securityPolicy => some "Has Security Policy"
  | .files => some "Files (root)"
  | .archived => some "Archived"
  | .scorecardChecks => none
  | .scorecardScore => some "Scorecard Score"
  | .scorecardVersion => some "Scorecard Version"
  | .scorecardDate => some "Scorecard Date"

/-- The row of a signal that is answered. -/
def row? (r : Record) (s : Signal) : Option (List String) := do
  return [← label? s, cell (← r.reading s)]

/-- The score of a check. -/
def scoreText (score : Option Double) : String :=
  match score with
  | none => "-"
  | some x => if x.isNegative then "-" else x.brief

/-- The row of a check. -/
def checkRow (c : Check) : List String :=
  [c.name, scoreText c.score, c.reason.getD ""]

/-- The table of the checks, if there are any. -/
def checksTable (r : Record) : List Printed :=
  match r.reading .scorecardChecks with
  | some (.checks (c :: cs)) =>
    [.table (some "OpenSSF Scorecard Checks") ["Check", "Score", "Reason"]
      ((c :: cs).map checkRow)]
  | _ => []

/-- **The report on a record.** -/
def ofRecord (r : Record) : List Printed :=
  [.line "", .line ("[bold cyan]" ++ r.identity.purl ++ "[/bold cyan]")]
    ++ if r.isEmpty then [.line "[yellow]No health data found[/yellow]"]
      else .table none ["Metric", "Value"] (Signal.all.filterMap (row? r)) :: checksTable r

end Report

end PackageVitals
