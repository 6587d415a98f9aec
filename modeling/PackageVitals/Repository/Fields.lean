import PackageVitals.Record.Coercion
import PackageVitals.Repository

/-!
# Repositories as stored

A repository reference can be given by its three fields: the short name of
the forge, the owner and the name.
-/

namespace PackageVitals.Repository

/-- A forge given by its short name. -/
def forgeOf (j : Json) : Except Complaint Forge :=
  match j with
  | .str s =>
    match Forge.ofName? s with
    | some f => .ok f
    | none => .error .notListed
  | _ => .error .notListed

/-- **A repository given by its fields.** -/
def ofFields : Json → Field Repository
  | .obj ms =>
    (Field.both (Field.required ms "platform" forgeOf)
      (Field.both (Field.required ms "owner" Json.asText)
        (Field.required ms "repo" Json.asText))).map fun p => ⟨p.1, p.2.1, p.2.2⟩
  | _ => .error [⟨[], .notObject⟩]

end PackageVitals.Repository
