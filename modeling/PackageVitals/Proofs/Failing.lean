import PackageVitals.Failure

/-!
# Which failures a reader can come to

A reader takes something out of a value or fails, and what becomes of the
failure depends on its cause. `FailsOnly C e` says that `e` fails by no other
cause than those of `C`; it is found for a reader by going through its
steps, since a step that goes on cannot fail by itself.

The steps that walk a list stop at the first failure, which is that of one
of its items (`failsOnly_mapM`, `failsOnly_filterM`); where no item fails they
are the plain walk (`filterM_of_forall`).
-/

namespace PackageVitals

variable {C D : Failure → Prop}

/-- **Whether a result is no failure but of certain causes.** -/
def FailsOnly (C : Failure → Prop) (e : Except Failure α) : Prop :=
  ∀ f, e = .error f → C f

namespace FailsOnly

theorem mono {e : Except Failure α} (h : FailsOnly C e) (hD : ∀ f, C f → D f) : FailsOnly D e :=
  fun f hf => hD f (h f hf)

@[simp] theorem ok_iff (a : α) : FailsOnly C (.ok a) ↔ True :=
  iff_true_intro fun _ hf => nomatch hf

theorem ok (a : α) : FailsOnly C (.ok a) :=
  (ok_iff a).mpr trivial

@[simp] theorem pure_iff (a : α) : FailsOnly C (pure a : Except Failure α) ↔ True :=
  ok_iff a

@[simp] theorem error_iff {f : Failure} : FailsOnly C (.error f : Except Failure α) ↔ C f := by
  constructor
  · intro h
    exact h f rfl
  · rintro h g ⟨⟩
    exact h

/-- One step after the other fails as one of them. -/
theorem bind {e : Except Failure α} {k : α → Except Failure β} (he : FailsOnly C e)
    (hk : ∀ a, FailsOnly C (k a)) : FailsOnly C (e >>= k) := by
  cases e with
  | error f => exact error_iff.mpr (he f rfl)
  | ok a => exact hk a

theorem map {e : Except Failure α} (k : α → β) (he : FailsOnly C e) : FailsOnly C (e.map k) := by
  cases e with
  | error f => exact error_iff.mpr (he f rfl)
  | ok a => exact (ok_iff _).mpr trivial

theorem functorMap {e : Except Failure α} (k : α → β) (he : FailsOnly C e) :
    FailsOnly C (k <$> e) :=
  map k he

end FailsOnly

/-- One step after the other succeeds if both do. -/
theorem bind_eq_ok_iff {e : Except Failure α} {k : α → Except Failure β} {b : β} :
    e >>= k = .ok b ↔ ∃ a, e = .ok a ∧ k a = .ok b := by
  cases e with
  | error f => simp [bind, Except.bind]
  | ok a => simp [bind, Except.bind]

/-- What is made of a result is there if the result is. -/
theorem map_eq_ok_iff {e : Except ε α} {k : α → β} {b : β} :
    e.map k = .ok b ↔ ∃ a, e = .ok a ∧ k a = b := by
  cases e with
  | error f => simp [Except.map]
  | ok a => simp [Except.map]

/-- A result has a value if it is no failure. -/
theorem isSome_toOption_iff {e : Except ε α} : e.toOption.isSome = true ↔ ∃ a, e = .ok a := by
  cases e with
  | error f => simp [Except.toOption]
  | ok a => simp [Except.toOption]

/-- Telling of a failure in other words makes no result. -/
theorem mapError_eq_ok_iff {e : Except ε α} {k : ε → ε'} {a : α} :
    e.mapError k = .ok a ↔ e = .ok a := by
  cases e with
  | error f =>
    show Except.error (k f) = Except.ok a ↔ _
    simp
  | ok b =>
    show Except.ok b = Except.ok a ↔ _
    simp

/-- A walk that reads every item fails as one of them. -/
theorem failsOnly_mapM {k : α → Except Failure β} (hk : ∀ a, FailsOnly C (k a)) (xs : List α) :
    FailsOnly C (xs.mapM k) := by
  induction xs with
  | nil => simp
  | cons x xs ih =>
    rw [List.mapM_cons]
    exact (hk x).bind fun b => ih.bind fun bs => by simp

/-- A walk over a list from some items on, those taken so far being given. -/
theorem failsOnly_filterAuxM {p : α → Except Failure Bool} (hp : ∀ a, FailsOnly C (p a))
    (xs acc : List α) : FailsOnly C (xs.filterAuxM p acc) := by
  induction xs generalizing acc with
  | nil => simp [List.filterAuxM]
  | cons x xs ih => exact (hp x).bind fun b => ih _

/-- A walk that asks about every item fails as one of them. -/
theorem failsOnly_filterM {p : α → Except Failure Bool} (hp : ∀ a, FailsOnly C (p a))
    (xs : List α) : FailsOnly C (xs.filterM p) :=
  (failsOnly_filterAuxM hp xs []).bind fun ys => by simp

theorem filterAuxM_of_forall {p : α → Except Failure Bool} {q : α → Bool} {xs : List α}
    (h : ∀ a ∈ xs, p a = .ok (q a)) (acc : List α) :
    xs.filterAuxM p acc = .ok ((xs.filter q).reverse ++ acc) := by
  induction xs generalizing acc with
  | nil => rfl
  | cons x xs ih =>
    have hx : p x = .ok (q x) := h x (by simp)
    have hxs := ih fun a ha => h a (List.mem_cons_of_mem x ha)
    show (p x >>= fun b => xs.filterAuxM p (cond b (x :: acc) acc)) = _
    rw [hx]
    show xs.filterAuxM p (cond (q x) (x :: acc) acc) = _
    rw [hxs]
    cases hq : q x <;> simp [hq]

/-- Where no item fails, the walk keeps the items that are wanted. -/
theorem filterM_of_forall {p : α → Except Failure Bool} {q : α → Bool} {xs : List α}
    (h : ∀ a ∈ xs, p a = .ok (q a)) : xs.filterM p = .ok (xs.filter q) := by
  show (xs.filterAuxM p [] >>= fun ys => pure ys.reverse) = _
  rw [filterAuxM_of_forall h]
  show Except.ok _ = _
  simp

theorem exists_ok_of_filterAuxM {p : α → Except Failure Bool} {xs acc ys : List α}
    (h : xs.filterAuxM p acc = .ok ys) : ∀ a ∈ xs, ∃ b, p a = .ok b := by
  induction xs generalizing acc with
  | nil => exact fun a ha => absurd ha List.not_mem_nil
  | cons x xs ih =>
    cases hx : p x with
    | error f =>
      have h' : (p x >>= fun b => xs.filterAuxM p (cond b (x :: acc) acc)) = .ok ys := h
      rw [hx] at h'
      exact absurd h' (by simp [bind, Except.bind])
    | ok b =>
      have h' : (p x >>= fun b => xs.filterAuxM p (cond b (x :: acc) acc)) = .ok ys := h
      rw [hx] at h'
      intro a ha
      rcases List.mem_cons.mp ha with rfl | ha
      · exact ⟨b, hx⟩
      · exact ih h' a ha

/-- A walk that comes to an end has asked about every item. -/
theorem exists_ok_of_filterM {p : α → Except Failure Bool} {xs ys : List α}
    (h : xs.filterM p = .ok ys) : ∀ a ∈ xs, ∃ b, p a = .ok b := by
  cases hx : xs.filterAuxM p [] with
  | error f =>
    have h' : (xs.filterAuxM p [] >>= fun ys => pure ys.reverse) = .ok ys := h
    rw [hx] at h'
    exact absurd h' (by simp [bind, Except.bind])
  | ok zs => exact exists_ok_of_filterAuxM hx

end PackageVitals
