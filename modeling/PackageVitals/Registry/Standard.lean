import PackageVitals.DepsDev.Analyzer
import PackageVitals.GitHub.Analyzer
import PackageVitals.Npm.Mapper
import PackageVitals.PyPi.Mapper
import PackageVitals.Settings

/-!
# The standard registry

deps.dev is asked first at every stage, so that its key counts before
those of the package registries and GitHub's readings come after its own.
-/

namespace PackageVitals

namespace Settings

/-- Access to deps.dev as set. -/
def depsDev (s : Settings) : DepsDev.Client :=
  .connect (some s.depsDevUrl) (some s.systems)

/-- The analyzer of repositories on GitHub as set. -/
def github (s : Settings) : GitHub.Analyzer :=
  ⟨.connect (some s.githubUrl) s.githubToken, s.statsAttempts, .exact s.statsInterval⟩

end Settings

/-- **The registry of the settings.** -/
def Registry.standard (s : Settings) : Registry where
  packageAnalyzers := [DepsDev.packageAnalyzer s.depsDev]
  mappers := [DepsDev.mapper s.depsDev, Npm.mapper (rootOf none Npm.standardRoot),
    PyPi.mapper (rootOf none PyPi.standardRoot)]
  sourceAnalyzers := [DepsDev.sourceAnalyzer s.depsDev, s.github.sourceAnalyzer]

end PackageVitals
