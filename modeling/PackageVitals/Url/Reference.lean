import PackageVitals.Number.Reading
import PackageVitals.Text.Split

/-!
# Addresses as written

An address as it is written has up to five parts: scheme, authority, path,
query and fragment. Each ends at the first character that begins a later
one, so there is exactly one way to cut an address, and nothing is refused
here. The authority is cut further, into user, host and socket.
-/

namespace PackageVitals.Url

/-- **An address as written**, cut into its parts. A scheme, an authority or
a path that is not there is empty. -/
structure Reference where
  /-- The scheme, without its colon. -/
  scheme : List Char
  /-- The authority, without its two slashes. -/
  authority : List Char
  /-- The path. -/
  path : List Char
  /-- The query, without its question mark. -/
  query : Option (List Char)
  /-- The fragment, without its number sign. -/
  fragment : Option (List Char)
  deriving DecidableEq, Inhabited

/-- Whether a character may stand in a scheme. -/
def isSchemeChar (c : Char) : Bool :=
  c.isAlphanum || c == '+' || c == '-' || c == '.'

/-- The scheme at the start of a text, and the rest. A colon ends a scheme
even if there is nothing before it. -/
def splitScheme (s : List Char) : List Char × List Char :=
  let scheme := s.takeWhile isSchemeChar
  match s.dropWhile isSchemeChar with
  | ':' :: rest => if scheme.head?.all Char.isAlpha then (scheme, rest) else ([], s)
  | _ => ([], s)

/-- Cuts a text before the first character of a class. -/
def cutBefore (p : Char → Bool) (s : List Char) : List Char × List Char :=
  (s.takeWhile (!p ·), s.dropWhile (!p ·))

/-- The authority at the start of a text, and the rest. -/
def splitAuthority : List Char → List Char × List Char
  | '/' :: '/' :: rest => cutBefore (fun c => c == '/' || c == '?' || c == '#') rest
  | s => ([], s)

/-- The query at the start of a text, and the rest. -/
def splitQuery : List Char → Option (List Char) × List Char
  | '?' :: rest => let r := cutBefore (· == '#') rest; (some r.1, r.2)
  | s => (none, s)

/-- Cuts an address into its parts. -/
def Reference.ofChars (s : List Char) : Reference :=
  let (scheme, rest) := splitScheme s
  let (authority, rest) := splitAuthority rest
  let (path, rest) := cutBefore (fun c => c == '?' || c == '#') rest
  let (query, rest) := splitQuery rest
  { scheme, authority, path, query, fragment := rest.tail? }

/-- The user of an authority, which ends at the last at sign, and the
rest. -/
def splitUser (s : List Char) : List Char × List Char :=
  if s.contains '@' then
    let r := cutBefore (· == '@') s.reverse
    ((r.2.drop 1).reverse, r.1.reverse)
  else ([], s)

/-- The host of an authority without its user, and the rest. A host in
brackets may hold colons. -/
def splitHost (s : List Char) : List Char × List Char :=
  if s.head? == some '[' && s.contains ']' then
    let r := cutBefore (· == ']') s.reverse
    (r.2.reverse, r.1.reverse)
  else cutBefore (· == ':') s

/-- The socket that a scheme implies. -/
def impliedSocket? (scheme : List Char) : Option Int :=
  match String.ofList scheme with
  | "http" | "ws" => some 80
  | "https" | "wss" => some 443
  | "ftp" => some 21
  | _ => none

/-- Reads what follows the host: a socket that differs from the one implied,
or none. A colon stands before the socket, but none has to follow brackets. -/
def readSocket? (implied : Option Int) (s : List Char) : Option (Option Int) :=
  let number := match s with
    | ':' :: rest => rest
    | s => s
  if number.isEmpty then some none
  else (Number.readInt? number).map fun n => if implied = some n then none else some n

end PackageVitals.Url
