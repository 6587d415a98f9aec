import Mathlib.Data.List.Pairwise
import PackageVitals.Proofs.Account

/-!
# Merging in groups and in any order

Merging says of every signal that the last reading counts, and which reading
is the last one does not depend on how a list of records is cut. So a list can
be merged **in groups**: each group by itself, and then what came of them
(`Record.mergeAll_merged`). This is associativity, carried along a list.

It does not depend on the order either, if no signal is answered by two of the
records (`Record.mergeAll_perm`). Then every reading of the whole is that of
one record and of no other (`Record.existsUnique_of_apart`).
-/

namespace PackageVitals.Record

/-! ## Groups -/

/-- **Records merged into one**, from left to right; of no records there is
none. -/
def merged? : List Record → Option Record
  | [] => none
  | r :: rs => some (r.mergeAll rs)

/-- Merging a group that was merged before is merging its records. -/
theorem merge_mergeAll (base r : Record) (rs : List Record) :
    base.merge (r.mergeAll rs) = base.mergeAll (r :: rs) := by
  induction rs generalizing r with
  | nil => rfl
  | cons x rs ih =>
    calc base.merge ((r.merge x).mergeAll rs)
        = (base.merge (r.merge x)).mergeAll rs := ih (r.merge x)
      _ = ((base.merge r).merge x).mergeAll rs := by rw [merge_assoc]

/-- Merging groups that were merged before is merging all of their records. -/
theorem mergeAll_merged (base : Record) (groups : List (List Record)) :
    base.mergeAll (groups.filterMap merged?) = base.mergeAll groups.flatten := by
  induction groups generalizing base with
  | nil => rfl
  | cons g groups ih =>
    rw [List.flatten_cons, mergeAll_append]
    cases g with
    | nil => exact ih base
    | cons r rs =>
      show (base.merge (r.mergeAll rs)).mergeAll (groups.filterMap merged?) = _
      rw [merge_mergeAll, ih]

theorem merged?_groups (groups : List (List Record)) :
    merged? (groups.filterMap merged?) = merged? groups.flatten := by
  induction groups with
  | nil => rfl
  | cons g groups ih =>
    cases g with
    | nil => exact ih
    | cons r rs =>
      show some ((r.mergeAll rs).mergeAll (groups.filterMap merged?)) =
        some (r.mergeAll (rs ++ groups.flatten))
      rw [mergeAll_merged, mergeAll_append]

/-- The reading of a merged record is the last one that there is. -/
theorem reading_mergeAll_eq_some_iff {r : Record} {rs : List Record} {s : Signal} {v : Reading} :
    (r.mergeAll rs).reading s = some v ↔ ∃ before last after, r :: rs = before ++ last :: after ∧
      last.reading s = some v ∧ ∀ x ∈ after, x.reading s = none := by
  have hlast : (r.mergeAll rs).reading s = ((r :: rs).reverse.findSome? (·.reading s)) := by
    rw [reading_mergeAll, List.getLast?_filterMap, List.reverse_cons, List.findSome?_append]
    cases rs.reverse.findSome? (·.reading s) <;> simp
  rw [hlast, List.findSome?_eq_some_iff]
  constructor
  · rintro ⟨after, last, before, hsplit, hv, hnone⟩
    refine ⟨before.reverse, last, after.reverse, ?_, hv, fun x hx => hnone x (by simpa using hx)⟩
    rw [← List.reverse_reverse (r :: rs), hsplit]
    simp
  · rintro ⟨before, last, after, hsplit, hv, hnone⟩
    refine ⟨after.reverse, last, before.reverse, ?_, hv, fun x hx => hnone x (by simpa using hx)⟩
    rw [hsplit]
    simp

/-- **Merging is an associative action in which the last reading wins.** However
records are cut into groups, merging each group and then what came of the
groups gives what merging all of them gives. Of every signal the result has
the reading of the last record that has one, whatever reading that is, and it
is about what the first record is about. A record that answers nothing adds
nothing, on top of one a record changes its identity alone, and a record adds
nothing to itself. -/
theorem merge_in_groups :
    (∀ groups : List (List Record),
      merged? (groups.filterMap merged?) = merged? groups.flatten) ∧
    (∀ (r : Record) (rs : List Record), ∃ m, merged? (r :: rs) = some m ∧
      m.identity = r.identity ∧
      ∀ s v, m.reading s = some v ↔ ∃ before last after, r :: rs = before ++ last :: after ∧
        last.reading s = some v ∧ ∀ x ∈ after, x.reading s = none) ∧
    ∀ (r : Record) (i : Identity),
      r.merge (empty i) = r ∧ (empty i).merge r = { r with identity := i } ∧ r.merge r = r :=
  ⟨merged?_groups,
    fun r rs => ⟨r.mergeAll rs, rfl, identity_mergeAll r rs, fun _ _ =>
      reading_mergeAll_eq_some_iff⟩,
    fun r i => ⟨merge_empty r i, empty_merge r i, merge_self r⟩⟩

/-- A list without checks is a reading like any other. -/
example :
    (((empty default).set .scorecardChecks (some (.checks [default]))).merge
      ((empty default).set .scorecardChecks (some (.checks [])))).reading .scorecardChecks =
        some (.checks []) :=
  rfl

/-! ## Any order -/

/-- **Whether two records are apart**: no signal is answered by both. -/
def Apart (a b : Record) : Prop :=
  ∀ s, a.reading s = none ∨ b.reading s = none

instance : Std.Symm Apart where
  symm _ _ h s := (h s).symm

theorem apart_iff {a b : Record} : Apart a b ↔ a.populated.Disjoint b.populated := by
  refine forall_congr' fun s => ?_
  rw [mem_populated, mem_populated]
  cases a.reading s <;> cases b.reading s <;> simp

/-- Records that are apart can be merged in either order. -/
theorem Apart.merge_comm {a b : Record} (h : Apart a b) (base : Record) :
    (base.merge a).merge b = (base.merge b).merge a := by
  refine ext_reading rfl fun s => ?_
  rcases h s with ha | hb
  · simp [ha]
  · simp [hb]

variable {rs : List Record} (h : rs.Pairwise Apart)

include h in
/-- **Records that are apart can be merged in any order.** -/
theorem mergeAll_perm {rs' : List Record} (hperm : rs'.Perm rs) (base : Record) :
    base.mergeAll rs' = base.mergeAll rs := by
  refine (hperm.symm.foldl_eq' (fun a ha b hb base => ?_) base).symm
  by_cases hab : a = b
  · rw [hab]
  · exact (h.forall ha hb hab).merge_comm base

include h in
/-- **A reading of records that are apart is that of exactly one of them.** -/
theorem existsUnique_of_apart {i : Identity} {s : Signal}
    (hs : s ∈ ((empty i).mergeAll rs).populated) :
    ∃! r, r ∈ rs ∧ r.reading s = ((empty i).mergeAll rs).reading s := by
  obtain ⟨v, hv⟩ := Option.isSome_iff_exists.mp (mem_populated.mp hs)
  rw [hv]
  obtain ⟨before, r, after, hsplit, hr, -⟩ := reading_mergeAll_eq_some_iff.mp hv
  have hmem : r ∈ rs := by
    -- The empty record that the others are merged into has no reading.
    have hne : r ≠ empty i := by
      rintro rfl
      cases hr
    have hcons : r ∈ empty i :: rs := hsplit ▸ by simp
    exact (List.mem_cons.mp hcons).resolve_left hne
  refine ⟨r, ⟨hmem, hr⟩, fun r' ⟨hmem', hr'⟩ => ?_⟩
  by_contra hne
  rcases h.forall hmem' hmem hne s with hnone | hnone
  · cases hr'.symm.trans hnone
  · cases hr.symm.trans hnone

end PackageVitals.Record
