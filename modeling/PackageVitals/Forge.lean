/-!
# Forges

The three places where repositories are hosted that this library knows by
name. A forge has a short name, used in shorthand references, and a host.
-/

namespace PackageVitals

/-- **A forge**: a host of source repositories. -/
inductive Forge where
  | github
  | gitlab
  | bitbucket
  deriving DecidableEq, Inhabited

namespace Forge

/-- Every forge, in the order in which they are tried. -/
def all : List Forge := [github, gitlab, bitbucket]

/-- The short name. -/
def name : Forge → String
  | github => "github"
  | gitlab => "gitlab"
  | bitbucket => "bitbucket"

/-- The host. -/
def host : Forge → String
  | github => "github.com"
  | gitlab => "gitlab.com"
  | bitbucket => "bitbucket.org"

/-- The forge of a short name. -/
def ofName? (s : String) : Option Forge :=
  all.find? (·.name == s)

theorem mem_all (f : Forge) : f ∈ all := by
  cases f <;> decide

end Forge

end PackageVitals
