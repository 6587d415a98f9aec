import PackageVitals.Json
import PackageVitals.Repository
import PackageVitals.Text.Case

/-!
# Package names and project addresses of PyPI

A package name is the same package in any case and with any mixture of
dashes, underscores and dots where one of them stands, so it is asked for
in one **normal form**: lower case, one dash for each run of the three.

The repository of a package is looked for among its project addresses:
first under the labels that usually hold it, then in the home page, then
anywhere. An address is taken if the host of a forge occurs in it.
-/

namespace PackageVitals.PyPi

/-- Whether a character separates the words of a package name. -/
def isSeparator (c : Char) : Bool :=
  c == '-' || c == '_' || c == '.'

/-- Writes each run of separators as one dash; `inside` says whether the
text goes on a run. -/
def joinRuns (inside : Bool) : List Char → List Char
  | [] => []
  | c :: rest =>
    if isSeparator c then
      if inside then joinRuns true rest else '-' :: joinRuns true rest
    else c :: joinRuns false rest

/-- The normal form of a package name. -/
def normalChars (name : List Char) : List Char :=
  Text.lower (joinRuns false name)

/-- **The normal form of a package name.** -/
def normalizeName (name : String) : String :=
  String.ofList (normalChars name.toList)

/-- The labels under which the repository is looked for, in that order. -/
def repositoryLabels : List String := [
  "Source", "Source Code", "Repository", "GitHub",
  "Code", "Homepage", "Home", "source", "repository",
  "github", "Git", "git"]

/-- Whether the host of a forge occurs in an address. -/
def onForge (url : Json) : Except Failure Bool :=
  if url.isTruthy then
    (Forge.all.mapM fun f => url.contains f.host).map (·.any id)
  else .ok false

/-- The first address that is on a forge. -/
def firstOnForge : List Json → Except Failure (Option Json)
  | [] => .ok none
  | url :: rest => do
    if ← onForge url then return some url else firstOnForge rest

/-- The project addresses by label. -/
def projectUrls (info : Json) : Except Failure (List (String × Json)) := do
  match ((← info.member "project_urls").truthy?).getD (.obj []) with
  | .obj members => return members
  | _ => throw .unsupported

/-- **The address of the repository** among what is known of a package. -/
def repositoryUrl (info : Json) : Except Failure (Option Json) := do
  let urls ← projectUrls info
  let labelled := repositoryLabels.filterMap (Json.lookup · urls)
  let homePage ← info.member "home_page"
  firstOnForge (labelled ++ homePage :: urls.map (·.2))

end PackageVitals.PyPi
