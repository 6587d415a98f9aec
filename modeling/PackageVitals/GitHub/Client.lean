import PackageVitals.GitHub.Document
import PackageVitals.Service

/-!
# Asking GitHub

GitHub's documents are fetched by path. A document that is **not there** is
null, and any other failure is one: which default takes its place is for
the caller to say.

Lists come in **pages**. A list is read page after page until one is
empty or not full (`Client.pages`), and the pages that were read are joined.
Nothing else ends the reading. A list that never ends is read for as long
as whoever runs the program waits: after so many full pages, which are a
property of the client and far beyond what any list needs, the reading is
**cancelled**, and that costs whatever the list was read for. The length of
a list is found without reading it, by asking for pages of one item and
looking where the last one is (`Client.count`).

The statistics of contributors are computed when they are first asked for,
and until they are ready the answer is that they are not
(`StatisticsAnswer`).
-/

namespace PackageVitals.GitHub

/-- **Access to GitHub.** -/
structure Client where
  /-- The root of the interface. -/
  root : String
  /-- The token sent along, if there is one. -/
  token : Option String
  /-- How many pages of a list are waited for: a list of as many full pages
  is taken for one that never ends. -/
  patience : Nat := tenTo 18
  deriving Inhabited

/-- The root of the public interface. -/
def standardRoot : String := "https://api.github.com"

/-- Why there are no statistics. -/
inductive StatisticsProblem where
  /-- There was no answer. -/
  | unanswered (message : String)
  /-- The answer has a status of its own. -/
  | status (code : Nat)
  /-- The answer is not what statistics look like. -/
  | unexpected (f : Failure)
  deriving DecidableEq, Inhabited

/-- **What GitHub says about the contributors.** -/
inductive StatisticsAnswer where
  /-- The statistics. -/
  | ready (contributors : List Contributor)
  /-- They are being computed. -/
  | notReady
  /-- There are none. -/
  | failed (problem : StatisticsProblem)
  deriving DecidableEq, Inhabited

namespace Client

/-- Access at the given root, with the given token. -/
def connect (root token : Option String) : Client :=
  { root := rootOf root standardRoot, token := Identity.nonempty? token }

/-- The headers of every request. -/
def headers (c : Client) : List (String × String) :=
  [("Accept", "application/vnd.github+json"), ("X-GitHub-Api-Version", "2022-11-28")]
    ++ match c.token with
      | some t => [("Authorization", "Bearer " ++ t)]
      | none => []

/-- GitHub as a service. -/
def service (c : Client) : Service := ⟨"github", c.headers⟩

/-- Asks for a path. -/
def get (c : Client) (path : String) (form : Option Form) : Action Response :=
  c.service.get (c.root ++ path) form

/-- **Fetches a document**, null where it is not there. -/
def fetch (c : Client) (path : String) (form : Option Form) : Action Json := do
  let r ← c.get path form
  if r.status = 404 then return .null
  else
    Action.ofExcept r.ensureSuccess
    Action.ofExcept r.json

/-- Fetches a document and reads it, unless it is not there or empty. -/
def read (c : Client) (path : String) (of : Json → Except Failure α) : Action (Option α) := do
  match (← c.fetch path none).truthy? with
  | none => return none
  | some j => some <$> Action.ofExcept (of j)

/-- Whether a page with the given count of items is not full. -/
def isShort (items : Nat) (size : Json) : Except Failure Bool :=
  match size with
  | .int n => .ok ((items : Int) < n)
  | .bool b => .ok (items < if b then 1 else 0)
  | .num x => .ok (Double.add x (Double.ofInt (-(items : Int)))).isPositive
  | _ => .error .wrongShape

/-- The pages of a list from a given one on, as long as there is patience
for it. -/
def pagesFrom (c : Client) (path : String) (form : Form) (size : Json) (limit : Option Int) :
    Nat → Int → Action (List Json)
  | 0, _ => .fail .cancelled
  | fuel + 1, page => do
    if limit.all (page ≤ ·) then
      match (← c.fetch path (some (Json.insertMember "page" (.int page) form))).truthy? with
      | none => return []
      | some data =>
        let items ← Action.ofExcept data.elements
        if ← Action.ofExcept (isShort items.length size) then return items
        else return items ++ (← c.pagesFrom path form size limit fuel (page + 1))
    else return []

/-- **Reads a list page by page**, at most `limit` pages. A page has a
hundred items unless the form says otherwise. -/
def pages (c : Client) (path : String) (form : Form) (limit : Option Int) :
    Action (List Json) :=
  let size := (Json.lookup "per_page" form).getD (.int 100)
  c.pagesFrom path (Json.insertMember "per_page" size form) size limit c.patience 1

/-- The length of a list from the answer to a request for one item. -/
def countIn (r : Response) : Except Failure (Option Nat) := do
  if r.status = 404 then return none
  else
    r.ensureSuccess
    if r.status = 204 then return some 0
    else match lastPage? ((r.header? "Link").getD "").toList with
      | some digits => match Number.readInt? digits with
        | some n => return some n.toNat
        | none => throw .badValue
      | none => return some (← (← r.json).size)

/-- **Counts a list** without reading it. -/
def count (c : Client) (path : String) (form : Form) : Action (Option Nat) := do
  let r ← c.get path (some (Json.insertMember "per_page" (.int 1) form))
  Action.ofExcept (countIn r)

/-- **Whether something is there.** -/
def isThere (c : Client) (path : String) : Action Bool := do
  let r ← c.get path none
  if r.status = 404 then return false
  else
    Action.ofExcept r.ensureSuccess
    return true

/-- The path of a repository. -/
def repositoryPath (owner name : String) : String :=
  "/repos/" ++ owner ++ "/" ++ name

/-- What GitHub says about a repository, unless it is no object. -/
def repository (c : Client) (owner name : String) : Action (Option Json) := do
  let j ← c.fetch (repositoryPath owner name) none
  return if j.isObject then some j else none

/-- How many contributors a repository has. -/
def countContributors (c : Client) (owner name : String) : Action (Option Nat) :=
  c.count (repositoryPath owner name ++ "/contributors") []

/-- How many pull requests are open. -/
def countOpenPullRequests (c : Client) (owner name : String) : Action (Option Nat) :=
  c.count (repositoryPath owner name ++ "/pulls") [("state", .str "open")]

/-- The commit that a branch points to, null where there is no branch. -/
def branchHead (c : Client) (owner name branch : String) : Action Json := do
  let head ← c.read (repositoryPath owner name ++ "/branches/" ++ branch) GitHub.branchHead
  return head.getD .null

/-- The date of a commit. -/
def commitDate (c : Client) (owner name commit : String) : Action (Option Timestamp) :=
  c.read (repositoryPath owner name ++ "/commits/" ++ commit) GitHub.commitDate

/-- How many files are at the top of the tree of a commit. -/
def countFiles (c : Client) (owner name commit : String) : Action (Option Nat) :=
  c.read (repositoryPath owner name ++ "/git/trees/" ++ commit) GitHub.fileCount

/-- When the open issues were created. -/
def openIssueDates (c : Client) (owner name : String) : Action (List Timestamp) := do
  let issues ← c.pages (repositoryPath owner name ++ "/issues") [("state", .str "open")] none
  Action.ofExcept (GitHub.issueDates issues)

/-- Whether a repository has a file that introduces it. -/
def hasReadme (c : Client) (owner name : String) : Action Bool :=
  c.isThere (repositoryPath owner name ++ "/readme")

/-- Whether a repository has the file of a given path. -/
def hasFile (c : Client) (owner name path : String) : Action Bool :=
  c.isThere (repositoryPath owner name ++ "/contents/" ++ path)

/-- What a response to the request for statistics says. -/
def statisticsIn (r : Response) : Except Failure StatisticsAnswer :=
  if r.status = 202 then .ok .notReady
  else if r.status = 204 then .ok (.ready [])
  else if r.status ≠ 200 then .ok (.failed (.status r.status))
  else match (do GitHub.contributors (← r.json) : Except Failure (List Contributor)) with
    | .ok cs => .ok (.ready cs)
    | .error f =>
      if f.isValue || f == .unsupported || f == .wrongShape then .ok (.failed (.unexpected f))
      else .error f

/-- **Asks for the statistics of the contributors.** -/
def statistics (c : Client) (owner name : String) : Action StatisticsAnswer :=
  Action.ofAttempt do
    match ← (c.get (repositoryPath owner name ++ "/stats/contributors") none).attempt with
    | .ok r => return statisticsIn r
    | .error (.transport _ message) => return .ok (.failed (.unanswered message))
    | .error f => return .error f

end Client

end PackageVitals.GitHub
