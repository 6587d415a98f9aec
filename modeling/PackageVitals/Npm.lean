import PackageVitals.Json
import PackageVitals.Repository

/-!
# Repository fields of npm

The repository field of a package on npm is a text or an object with a
text in it. The text may be an address, a shorthand such as
`gitlab:owner/name`, or just `owner/name`, which means a repository on
GitHub.
-/

namespace PackageVitals.Npm

/-- The base of the addresses that a forge's shorthand stands for. -/
def forgeBase (f : Forge) : List Char :=
  "https://".toList ++ f.host.toList ++ ['/']

/-- The address that a shorthand with the name of a forge stands for. -/
def expandShorthand? (s : List Char) : Option (List Char) :=
  Forge.all.findSome? fun f =>
    (Text.after? (f.name.toList ++ [':']) s).map (forgeBase f ++ ·)

/-- Whether a text is nothing but an owner and a name: one slash, and
nothing that belongs to an address. -/
def isOwnerAndName (s : List Char) : Bool :=
  !Text.occursIn "://".toList s && !s.contains '@' && s.count '/' == 1

/-- The address that a text in a repository field stands for. -/
def expand (s : List Char) : List Char :=
  match expandShorthand? s with
  | some url => url
  | none => if isOwnerAndName s then forgeBase .github ++ s else s

/-- **The address in a repository field**, if there is one. -/
def repositoryUrl (repository : Json) : Except Failure (Option String) :=
  let ofText (j : Json) : Except Failure (Option String) :=
    match j with
    | .str s => .ok (if s.isEmpty then none else some (String.ofList (expand s.toList)))
    | j => if j.isTruthy then .error .unsupported else .ok none
  match repository with
  | .str s => ofText (.str s)
  | .obj members => ofText ((Json.lookup "url" members).getD .null)
  | _ => .ok none

end PackageVitals.Npm
