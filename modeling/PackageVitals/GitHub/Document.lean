import PackageVitals.Json.Time
import PackageVitals.Record.Coercion
import PackageVitals.Text.Blank
import PackageVitals.Text.Digit

/-!
# Documents of GitHub

What is taken out of the answers of GitHub: the commit a branch points to,
the date of a commit, the files of a tree, the dates of issues, and how
much each contributor has committed. The total behind a list of which only
one item was asked for is in the address of the last page, which stands in
a header.
-/

namespace PackageVitals.GitHub

/-- **The commit that a branch points to.** -/
def branchHead (branch : Json) : Except Failure Json := do
  (← branch.item "commit").item "sha"

/-- **The date of a commit**, that of its committer. -/
def commitDate (commit : Json) : Except Failure Timestamp := do
  let date ← (← (← commit.item "commit").item "committer").item "date"
  date.toTimestamp

/-- Whether an entry of a tree is a file. -/
def isFile (entry : Json) : Except Failure Bool :=
  if entry.isTruthy then do return (← entry.member "type").isText "blob" else .ok false

/-- **How many files a tree has**, directories not counted. -/
def fileCount (tree : Json) : Except Failure Nat := do
  let entries ← (← tree.memberD "tree" (.arr [])).elements
  return (← entries.filterM isFile).length

/-- When an issue was created; nothing for a pull request, which the list
of issues holds too. -/
def issueDate (issue : Json) : Except Failure (Option Timestamp) := do
  if ← issue.contains "pull_request" then return none
  else return some (← (← issue.item "created_at").toTimestamp)

/-- **When the issues were created**, pull requests left out. -/
def issueDates (issues : List Json) : Except Failure (List Timestamp) := do
  return (← issues.mapM issueDate).filterMap id

/-- **A contributor** with the count of commits. -/
structure Contributor where
  /-- The login name, if there is one. -/
  author : Option String
  /-- How many commits the contributor has made. -/
  total : Int
  deriving DecidableEq, Inhabited

/-- A contributor from an entry of the statistics. -/
def contributor (entry : Json) : Except Failure Contributor := do
  let author := ((← entry.member "author").truthy?).getD (.obj [])
  let login ← author.member "login"
  let total ← entry.memberD "total" (.int 0)
  let login : Field (Option String) := match login.known? with
    | none => .ok none
    | some j => (Field.single "author" j.asText).map some
  match Field.both login (Field.single "total" total.asCount) with
  | .ok (author, total) => return { author, total }
  | .error issues => throw (.invalid issues)

/-- **The contributors** in the statistics; a document that holds nothing
holds no contributors. -/
def contributors (statistics : Json) : Except Failure (List Contributor) := do
  (← ((statistics.truthy?).getD (.arr [])).elements).mapM contributor

/-- What follows the first character of a class in a text. -/
def afterFirst? (p : Char → Bool) (s : List Char) : Option (List Char) :=
  match s.dropWhile (!p ·) with
  | [] => none
  | _ :: rest => some rest

/-- The page number at the start of a text, if the text begins with the
parameter of a page in the link to the last page. -/
def lastPageHere? : List Char → Option (List Char)
  | mark :: rest =>
    if mark == '?' || mark == '&' then do
      let rest ← Text.after? "page=".toList rest
      match rest.takeWhile Text.isDigit with
      | [] => none
      | digits => do
        let rest ← afterFirst? (· == '>') (rest.dropWhile Text.isDigit)
        let rest ← Text.after? ";".toList rest
        let _ ← Text.after? "rel=\"last\"".toList (rest.dropWhile Text.isBlank)
        return digits
    else none
  | [] => none

/-- **The number of the last page** as the link header writes it. -/
def lastPage? : List Char → Option (List Char)
  | [] => none
  | c :: rest =>
    match lastPageHere? (c :: rest) with
    | some digits => some digits
    | none => lastPage? rest

end PackageVitals.GitHub
