import PackageVitals.Program
import PackageVitals.Record

/-!
# Analyzers and their registry

An analysis has three kinds of helpers. A **package analyzer** finds
signals of a package, a **mapper** finds the key of its source repository,
and a **source analyzer** finds signals of a repository. Each says what it
applies to.

A registry lists helpers of all three kinds. Their order matters: of two
keys the first counts, and of two readings for one signal the last.

Keys come from providers and are not always texts, so a source analyzer
that is asked about a key may fail before it says anything.
-/

namespace PackageVitals

/-- **A package analyzer.** -/
structure PackageAnalyzer where
  /-- Its name in the log. -/
  name : String
  /-- Whether it applies to an identity. -/
  applies : Identity → Bool
  /-- Finds signals. -/
  analyze : Identity → Action Record

/-- **A mapper.** -/
structure Mapper where
  /-- Its name in the log. -/
  name : String
  /-- Whether it applies to an identity. -/
  applies : Identity → Bool
  /-- Finds the key of the source repository; null is no key. -/
  find : Identity → Action Json

/-- **A source analyzer.** -/
structure SourceAnalyzer where
  /-- Its name in the log. -/
  name : String
  /-- Whether it applies to a key. -/
  applies : Json → Except Failure Bool
  /-- Finds signals of the repository with the given key. -/
  analyze : Identity → Json → Action Record

/-- **A registry** of helpers. -/
structure Registry where
  /-- The package analyzers. -/
  packageAnalyzers : List PackageAnalyzer
  /-- The mappers. -/
  mappers : List Mapper
  /-- The source analyzers. -/
  sourceAnalyzers : List SourceAnalyzer

namespace Registry

/-- The package analyzers that apply to an identity. -/
def packageAnalyzersFor (g : Registry) (i : Identity) : List PackageAnalyzer :=
  g.packageAnalyzers.filter (·.applies i)

/-- The mappers that apply to an identity. -/
def mappersFor (g : Registry) (i : Identity) : List Mapper :=
  g.mappers.filter (·.applies i)

/-- The source analyzers that apply to a key. -/
def sourceAnalyzersFor (g : Registry) (key : Json) : Except Failure (List SourceAnalyzer) :=
  g.sourceAnalyzers.filterM (·.applies key)

/-- Whether any package analyzer or mapper applies to an identity. -/
def covers (g : Registry) (i : Identity) : Bool :=
  !(g.packageAnalyzersFor i).isEmpty || !(g.mappersFor i).isEmpty

end Registry

end PackageVitals
