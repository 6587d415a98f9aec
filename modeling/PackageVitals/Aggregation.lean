import PackageVitals.Json.Display
import PackageVitals.Registry

/-!
# Aggregation

An analysis has three stages. The package analyzers that apply to an
identity run at once, and their records are merged; the mappers that apply
run at once, and the first key in their order counts; the source analyzers
that apply to the key run at once, and their records are merged too.

Within a stage **a helper that fails costs only what it would have
contributed**: the failure is logged, the others go on, and the results are
taken in the order of the registry whatever the order in which they came.
Only a cancellation goes through.
-/

namespace PackageVitals.Registry

/-- What the helpers of a stage came to, in their order, with nothing for
those that failed. The failures are logged in that order. -/
def isolate : List (String × Except Failure α) → Action (List (Option α))
  | [] => return []
  | (name, .error f) :: rest => do
    if f.isCancellation then .fail f
    else
      .note {
        severity := .error, text := "Analyzer " ++ name ++ " failed", cause := .attached f }
      return none :: (← isolate rest)
  | (_, .ok a) :: rest => return some a :: (← isolate rest)

/-- **Runs the helpers of a stage at once.** -/
def stage (helpers : List (String × Action α)) : Action (List (Option α)) := do
  let results ← ExceptT.lift (Program.gather (helpers.map (·.2.attempt)))
  isolate ((helpers.map (·.1)).zip results)

/-- The first key that counts as something. -/
def firstKey? (keys : List (Option Json)) : Option Json :=
  keys.findSome? fun k => k >>= Json.truthy?

/-- **Finds the key of an identity's source repository**, asking every
mapper that applies. -/
def findKey (g : Registry) (i : Identity) : Action (Option Json) := do
  let keys ← stage ((g.mappersFor i).map fun m => (m.name, m.find i))
  return firstKey? keys

/-- What a record answers, in words. -/
def populatedText (r : Record) : String :=
  match r.populated with
  | [] => "nothing"
  | ss => ", ".intercalate (ss.map Signal.name)

/-- **Analyzes a package.** -/
def analyze (g : Registry) (i : Identity) : Action Record := do
  let partials ← stage ((g.packageAnalyzersFor i).map fun a => (a.name, a.analyze i))
  let record := (Record.empty i).mergeAll (partials.filterMap id)
  match ← g.findKey i with
  | none => do
    .say .info ("Could not find source code project for " ++ i.purl)
    return record
  | some key => do
    let sources ← Action.ofExcept (g.sourceAnalyzersFor key)
    if sources.isEmpty then
      .say .info ("No source code analyzer applicable to " ++ key.display)
    let partials ← stage (sources.map fun a => (a.name, a.analyze i key))
    let record := record.mergeAll (partials.filterMap id)
    .say .debug (i.purl ++ ": populated " ++ populatedText record)
    return record

/-- **Analyzes several packages** one after another. -/
def analyzeMany (g : Registry) : List Identity → Action (List Record)
  | [] => return []
  | i :: rest => do return (← g.analyze i) :: (← g.analyzeMany rest)

end PackageVitals.Registry
