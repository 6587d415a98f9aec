import PackageVitals.Forge
import PackageVitals.Text.Blank
import PackageVitals.Text.Split

/-!
# Repository references

A repository is named by its forge, owner and name, and has one **key**,
`host/owner/name`. Addresses name repositories in many ways, and
`Repository.ofUrl?` understands two forms of them for each forge:

* the **path form** `[scheme://][user@][www.]host/owner/name…`,
* the **colon form** `user@host:owner/name…`,

where the name ends at a slash, a blank, `#` or `?`, and loses one `.git`
from its end. Blanks around the address and one leading `git+` are
dropped first. A part that is optional is first taken as present; if what
follows does not fit, it is taken as absent, so that the forms are the
alternatives of a grammar and not a fixed sequence of cuts.
-/

namespace PackageVitals

/-- **A repository** on a forge. -/
structure Repository where
  /-- The forge. -/
  forge : Forge
  /-- Who owns the repository. -/
  owner : String
  /-- The repository's name. -/
  name : String
  deriving DecidableEq, Inhabited

namespace Repository

open PackageVitals.Text (after? isBlank run? trim)

/-- **The canonical key**, `host/owner/name`. -/
def key (r : Repository) : String :=
  r.forge.host ++ "/" ++ r.owner ++ "/" ++ r.name

/-- Whether a character may stand in a scheme: a small letter or `+`. -/
def isSchemeChar (c : Char) : Bool :=
  ('a' ≤ c && c ≤ 'z') || c == '+'

/-- Whether a character may stand in a user before `host/`. -/
def isUserChar (c : Char) : Bool :=
  c != '@' && c != '/'

/-- Whether a character may stand in an owner. -/
def isOwnerChar (c : Char) : Bool :=
  c != '/' && !isBlank c

/-- Whether a character may stand in a name. -/
def isNameChar (c : Char) : Bool :=
  c != '/' && !isBlank c && c != '#' && c != '?'

/-- What follows a scheme at the start of a text. -/
def afterScheme? (s : List Char) : Option (List Char) := do
  let (_, rest) ← run? isSchemeChar s
  after? "://".toList rest

/-- What follows a user at the start of a text. -/
def afterUser? (s : List Char) : Option (List Char) := do
  let (_, rest) ← run? isUserChar s
  after? ['@'] rest

/-- The ways to read a text that may start with an optional part: with the
part first, then without it. -/
def optional (part : List Char → Option (List Char)) (s : List Char) : List (List Char) :=
  match part s with
  | some rest => [rest, s]
  | none => [s]

/-- An owner and a name, separated by a slash, at the start of a text. -/
def ownerAndName? (s : List Char) : Option (List Char × List Char) := do
  let (owner, rest) ← run? isOwnerChar s
  let rest ← after? ['/'] rest
  let (name, _) ← run? isNameChar rest
  return (owner, name)

/-- Owner and name in the path form. -/
def ofPathForm? (host s : List Char) : Option (List Char × List Char) :=
  let starts := (optional afterScheme? s).flatMap fun s =>
    (optional afterUser? s).flatMap (optional (after? "www.".toList))
  starts.findSome? fun s => after? (host ++ ['/']) s >>= ownerAndName?

/-- Owner and name in the colon form. -/
def ofColonForm? (host s : List Char) : Option (List Char × List Char) := do
  let (_, rest) ← run? (fun c => isUserChar c && !isBlank c) s
  let rest ← after? ('@' :: host ++ [':']) rest
  ownerAndName? rest

/-- A name without one `.git` at its end. -/
def dropGit (name : List Char) : List Char :=
  if ".git".toList.isSuffixOf name then name.take (name.length - 4) else name

/-- The address itself: what is left without the blanks around it and one
leading `git+`. -/
def bareAddress (url : List Char) : List Char :=
  let s := trim url
  (after? "git+".toList s).getD s

/-- The repository that an address names, among those of one forge. -/
def onForge? (s : List Char) (f : Forge) : Option Repository :=
  let host := f.host.toList
  (ofPathForm? host s <|> ofColonForm? host s).map fun (owner, name) =>
    ⟨f, String.ofList owner, String.ofList (dropGit name)⟩

/-- **The repository that an address names.** -/
def ofUrl? (url : String) : Option Repository :=
  Forge.all.findSome? (onForge? (bareAddress url.toList))

/-- The key of the repository that an address names. -/
def keyOfUrl? (url : String) : Option String :=
  (ofUrl? url).map key

end Repository

end PackageVitals
