import PackageVitals.Number.Double
import PackageVitals.Time.Timestamp

/-!
# Derived metrics

Three numbers that no provider gives but that follow from what they give.

The **bus factor** ranks the contributors by their commits, highest
first, and counts the running sums that stay below half of all commits;
it is one more than that count. The **commit frequency** divides the
commits by the full weeks since the repository was created, a younger
repository counting as one week old. The **issue age** is the mean age of
the open issues in whole days, each age rounded down before and the mean
rounded half up after.
-/

namespace PackageVitals.Metrics

/-- The sums of the initial segments of a list, on top of `start`. -/
def runningSums (start : Int) : List Int → List Int
  | [] => []
  | x :: rest => (start + x) :: runningSums (start + x) rest

/-- The sum of whole numbers. -/
def total (xs : List Int) : Int :=
  xs.foldr (· + ·) 0

/-- Half of a total, rounded down. -/
def halfOf (counts : List Int) : Int :=
  Int.fdiv (total counts) 2

/-- **The bus factor** of the commit counts of the contributors, unless
there are no contributors. -/
def busFactor (counts : List Int) : Option Nat :=
  match counts.mergeSort (fun a b => b ≤ a) with
  | [] => none
  | ranked =>
    let half := halfOf counts
    some (((runningSums 0 ranked).takeWhile (· < half)).length + 1)

/-- A number that has to be in range. -/
def inRange (x : Double) : Except Failure Double :=
  if x.isInfinite then .error .outOfRange else .ok x

/-- **Commits per week** of a repository with the given count of commits, from
its creation until now. -/
def commitFrequency (commits : Int) (created now : Timestamp) : Except Failure Double :=
  match now.daysSince created with
  | .error e => .error e
  | .ok days =>
    let weeks := Int.fdiv days 7
    inRange (if weeks ≤ 0 then .ofInt commits else .ofFraction commits weeks.toNat)

/-- The ages in whole days of issues created at the given times. -/
def ages (created : List Timestamp) (now : Timestamp) : Except Failure (List Int) :=
  created.mapM now.daysSince

/-- The mean of whole numbers, rounded half up: the quotient in double
precision, plus one half, rounded down. -/
def roundedMean (xs : List Int) : Int :=
  (((Double.ofFraction (total xs) xs.length).add .half).floor?).getD 0

/-- **The mean age of open issues** in whole days, zero if there are
none. -/
def issueAge (created : List Timestamp) (now : Timestamp) : Except Failure Int :=
  (ages created now).map fun days => if days.isEmpty then 0 else roundedMean days

end PackageVitals.Metrics
