import PackageVitals.Json.Reader
import PackageVitals.Text.Case
import PackageVitals.Text.Encoding

/-!
# Exchanges with servers

A request asks for an address with some headers, and is answered by a
response or breaks down. Headers are found by name in any case, and
several of one name are one, separated by commas.
-/

namespace PackageVitals

/-- **A request** as it is sent. -/
structure Request where
  /-- The address. -/
  url : String
  /-- The headers that the program sets. -/
  headers : List (String × String)
  deriving DecidableEq, Inhabited

/-- **A response.** -/
structure Response where
  /-- The status code. -/
  status : Nat
  /-- The headers. -/
  headers : List (String × String)
  /-- The body. -/
  body : List UInt8
  deriving DecidableEq, Inhabited

/-- **What a request gets**: a response, or a failure instead of one. -/
abbrev Reply := Except Failure Response

/-- The value of a header in a list of headers. -/
def headerValue? (headers : List (String × String)) (name : String) : Option String :=
  let wanted := name.toLower
  match headers.filter fun h => h.1.toLower == wanted with
  | [] => none
  | hs => some (", ".intercalate (hs.map (·.2)))

namespace Request

/-- The value of a header of the request. -/
def header? (q : Request) (name : String) : Option String :=
  headerValue? q.headers name

end Request

namespace Response

/-- The value of a header of the response. -/
def header? (r : Response) (name : String) : Option String :=
  headerValue? r.headers name

/-- Whether the status is one of success. -/
def isSuccess (r : Response) : Bool :=
  200 ≤ r.status && r.status < 300

/-- Fails unless the status is one of success. -/
def ensureSuccess (r : Response) : Except Failure Unit :=
  if r.isSuccess then .ok () else .error (.status r.status)

/-- **The JSON value in the body.** -/
def json (r : Response) : Except Failure Json :=
  match Text.decode r.body with
  | some cs => Json.ofChars cs
  | none => .error .undecodable

/-- **Whether the body is of whole characters**, if it is text at all: it has
no half of one by itself, and names none by number. -/
def isWhole (r : Response) : Bool :=
  (Text.points? r.body).all fun ps =>
    ps.all (fun n => !Text.isHalf n) && Json.isWhole (ps.map Text.charOfPoint)

end Response

end PackageVitals
