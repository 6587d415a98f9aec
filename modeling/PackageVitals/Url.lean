import PackageVitals.Host
import PackageVitals.Url.Credentials
import PackageVitals.Url.Reference

/-!
# Addresses

An address is cut into its parts as it is written (`Url.Reference`), and
what can be sent to is a `Url`: scheme and host in lower case, the socket
left out where the scheme implies it, the dot segments of the path
resolved, and everything percent encoded that may not stand where it
stands. An escape that is already there stays, since a percent sign may
stand in every part.

An address that has an ASCII control character in it or is too long cannot
be sent to, nor one whose host, socket or path is wrong. An address is
checked **anew** when one of its parts is replaced (`Url.revise?`): what an
encoding added can make a part too long, or a host look like a number.

An address without a scheme or a host names a path and nothing else. It
can be sent, but no answer to it is of any use.
-/

namespace PackageVitals

/-- **An address** as it can be sent to. -/
structure Url where
  /-- The scheme, empty if there is none. -/
  scheme : List Char
  /-- What stands before the host, empty if there is nothing. -/
  user : List Char
  /-- The host, empty if there is none. -/
  host : List Char
  /-- The socket, if the scheme does not imply it. -/
  socket : Option Int
  /-- The path. -/
  path : List Char
  /-- The query, without its question mark. -/
  query : Option (List Char)
  /-- The fragment, without its number sign. -/
  fragment : Option (List Char)
  deriving DecidableEq, Inhabited

namespace Url

/-- Resolves the dot segments of a path. `done` holds the segments so far
in reverse; two dots take the last one back, but not the empty one before
the first slash. -/
def resolveDots (done : List (List Char)) : List (List Char) → List (List Char)
  | [] => done.reverse
  | s :: rest =>
    if s = ['.'] then resolveDots done rest
    else if s = ['.', '.'] then
      match done with
      | [] => resolveDots [] rest
      | [[]] => resolveDots [[]] rest
      | _ :: before => resolveDots before rest
    else resolveDots (s :: done) rest

/-- A path without its dot segments. -/
def normalPath (path : List Char) : List Char :=
  let parts := Text.splitAll '/' path
  if parts.any fun s => s = ['.'] || s = ['.', '.'] then ['/'].intercalate (resolveDots [] parts)
  else path

/-- Whether a path may follow what stands before it: it starts with a slash
after an authority, and looks like nothing else where it comes first. -/
def isPathPlaced (hasScheme hasAuthority : Bool) (path : List Char) : Bool :=
  if hasAuthority then path.isEmpty || path.head? == some '/'
  else hasScheme || !(['/', '/'].isPrefixOf path || [':'].isPrefixOf path)

/-- **The address that a written one stands for.** The socket is compared
with the one that the scheme implies as it is written: only a scheme in
lower case implies one. -/
def ofReference? (r : Reference) : Option Url := do
  let (user, rest) := splitUser r.authority
  let (host, rest) := splitHost rest
  let host ← Host.sent? host
  let socket ← readSocket? (impliedSocket? r.scheme) rest
  let hasScheme := !r.scheme.isEmpty
  let hasAuthority := !user.isEmpty || !host.isEmpty || socket.isSome
  if isPathPlaced hasScheme hasAuthority r.path then
    some {
      scheme := r.scheme.map Char.toLower
      user := encodeWith isUserChar user
      host
      socket
      path := encodeWith isPathChar (if hasScheme || hasAuthority then normalPath r.path else r.path)
      query := r.query.map (encodeWith isQueryChar)
      fragment := r.fragment.map (encodeWith isFragmentChar) }
  else none

/-- Whether a character is an ASCII control character. -/
def isControl (c : Char) : Bool :=
  c.toNat < 32 || c.toNat == 127

/-- How many characters an address has at most, and each of its parts. -/
def lengthLimit : Nat := 65536

/-- Reads an address. -/
def read? (s : List Char) : Option Url :=
  if s.any isControl || lengthLimit < s.length then none
  else ofReference? (.ofChars s)

/-- The host and the socket. -/
def location (u : Url) : List Char :=
  Host.bracketed u.host ++ match u.socket with
    | some n => ':' :: (Text.integer n).toList
    | none => []

/-- The parts of an address. -/
def reference (u : Url) : Reference :=
  { scheme := u.scheme
    authority := (if u.user.isEmpty then [] else u.user ++ ['@']) ++ u.location
    path := u.path
    query := u.query
    fragment := u.fragment }

/-- **Checks parts anew.** -/
def revise? (r : Reference) : Option Url :=
  let parts := [r.scheme, r.authority, r.path, r.query.getD [], r.fragment.getD []]
  if parts.all (·.length ≤ lengthLimit) then ofReference? r else none

/-- Whether there are a scheme and a host. -/
def isAbsolute (u : Url) : Bool :=
  !u.scheme.isEmpty && !u.host.isEmpty

/-- Of an address without a scheme or a host, the path from the root and
the query. -/
def located? (u : Url) : Option Url :=
  if u.isAbsolute then some u
  else revise? ⟨[], [], '/' :: u.path.dropWhile (· == '/'), u.query, none⟩

/-- **The address that a text stands for.** -/
def ofString? (s : String) : Option Url :=
  (read? s.toList).bind located?

/-- The address with another query, or with none. -/
def withQuery? (u : Url) (query : Option (List Char)) : Option Url :=
  revise? { u.reference with query }

/-- What is asked for at the host: the path and the query. -/
def target (u : Url) : List Char :=
  (if u.path.isEmpty then ['/'] else u.path) ++ match u.query with
    | some q => '?' :: q
    | none => []

/-- **The address as it is sent**: neither the user nor the fragment is. -/
def sent (u : Url) : String :=
  String.ofList (u.scheme ++ ':' :: '/' :: '/' :: u.location ++ u.target)

/-- Whether an address can be put into a header. Only the zone of a numeric
host can stand in the way. -/
def isSendable (u : Url) : Bool :=
  u.host.all Host.isAscii

end Url

end PackageVitals
