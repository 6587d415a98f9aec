import PackageVitals.Identity
import PackageVitals.Json.Display
import PackageVitals.Program
import PackageVitals.Text.Blank
import PackageVitals.Url

/-!
# Services

A service is something that answers requests with JSON: it has a name,
which appears in the log, and headers that go with every request.

`Service.fetchJson` is how most documents are fetched. A document that
cannot be had is **no document**, whatever the reason – the server did not
answer, it answered with a status other than success, the body was no
JSON, or it had not the shape that the reader of the document expects –
and the reason is logged. Two kinds of failure are not of this sort and
pass through: an address that cannot be sent to, and a reader that treats
a value as an object or text which is none.
-/

namespace PackageVitals

/-- **A service.** -/
structure Service where
  /-- Its name in the log. -/
  name : String
  /-- The headers of every request. -/
  headers : List (String × String)
  deriving Inhabited

/-- The names and values of a form before they are written. -/
abbrev Form := List (String × Json)

/-- How a value is written in a form. -/
def formText : Json → String
  | .null => ""
  | .bool true => "true"
  | .bool false => "false"
  | j => j.display

/-- The texts of a form. A list gives one value for each of its items. -/
def Form.texts (form : Form) : List (String × String) :=
  form.flatMap fun m =>
    match m.2 with
    | .arr items => items.map fun j => (m.1, formText j)
    | j => [(m.1, formText j)]

/-- The query that a form makes. A form without members leaves none. -/
def Form.query? (form : Form) : Option (List Char) :=
  if form.isEmpty then none else some (Url.encodeForm form.texts)

/-- The root of a service: the given one or the standard one, without the
slashes at its end. -/
def rootOf (given : Option String) (standard : String) : String :=
  String.ofList (Text.trimRight '/' ((Identity.nonempty? given).getD standard).toList)

namespace Service

/-- Whether a header can be sent: it is ASCII text. -/
def isSendable (h : String × String) : Bool :=
  h.2.toList.all fun c => c.toNat < 128

/-- The address that is asked, its query replaced where a form is given. -/
def address (s : Service) (url : String) (form : Option Form) : Except Failure Url := do
  let some u := Url.ofString? url | .error .malformedUrl
  if !s.headers.all isSendable then .error .unencodable
  let some u := form.elim (some u) (u.withQuery? ·.query?) | .error .malformedUrl
  if u.isSendable then .ok u else .error .unencodable

/-- The headers of a request to an address. A user whom the address names
takes the place of any other. -/
def headersFor (s : Service) (u : Url) : List (String × String) :=
  match Url.authorization? u.user with
  | some h => s.headers.filter (·.1 != h.1) ++ [h]
  | none => s.headers

/-- The request to an address. -/
def request (s : Service) (u : Url) : Request :=
  ⟨u.sent, s.headersFor u⟩

/-- Asks for an address. An answer to one that names no host has no use. -/
def get (s : Service) (url : String) (form : Option Form) : Action Response := do
  let u ← Action.ofExcept (s.address url form)
  let r ← Action.send (s.request u)
  if u.isAbsolute then return r else Action.fail .badValue

/-- Asks for a document and reads it; every failure shows. -/
def document (s : Service) (url : String) (form : Option Form)
    (read : Json → Except Failure α) : Action α := do
  let r ← s.get url form
  Action.ofExcept do
    r.ensureSuccess
    read (← r.json)

/-- The notice about a document that could not be had, unless the failure
passes through. -/
def notice? (s : Service) (url : String) (f : Failure) : Option Notice :=
  match f with
  | .status 404 => some { severity := .debug, text := s.name ++ ": Not found: " ++ url }
  | .status code => some { severity := .warning, text :=
      s.name ++ ": API returned status " ++ Text.decimal code ++ " for " ++ url }
  | .transport _ message => some { severity := .warning, text :=
      s.name ++ ": request error for " ++ url ++ ": " ++ message }
  | f =>
    if f.isShape then some {
      severity := .warning
      text := s.name ++ ": could not parse response for " ++ url
      cause := .stated f }
    else none

/-- **Fetches a document**, or nothing where it cannot be had. -/
def fetchJson (s : Service) (url : String) (form : Option Form)
    (read : Json → Except Failure α) : Action (Option α) :=
  Action.ofAttempt do
    match ← (s.document url form read).attempt with
    | .ok a => return .ok (some a)
    | .error f =>
      match s.notice? url f with
      | some n => do
        Program.logging n
        return .ok none
      | none => return .error f

end Service

namespace Action

/-- **Fetches one signal safely**: a provider's fault is logged and gives
the default instead. -/
def safely (description : String) (default : α) (a : Action α) : Action α :=
  ofAttempt do
    match ← a.attempt with
    | .ok v => return .ok v
    | .error f =>
      if f.isProviderFault then do
        Program.logging {
          severity := .warning, text := "Failed to fetch " ++ description, cause := .stated f }
        return .ok default
      else return .error f

end Action

end PackageVitals
