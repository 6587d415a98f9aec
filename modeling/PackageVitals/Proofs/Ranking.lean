import Mathlib
import PackageVitals.Metrics

/-!
# Half of the commits, in the fewest hands

The bus factor looks at the contributors with the most commits only, as many of them as
it takes until they hold half. That no other group does with fewer is an **exchange**:
in a ranked list, whatever is taken out holds at most what the same number of places at
the top holds (`sum_le_sum_take`), since each place that is passed over makes room for
one further down.

So the bus factor is the least size of a group of contributors that holds half of the
commits (`busFactor_least`). That there are enough contributors is where the counts have
to be no less than zero: all of them together hold the total, and the total is no less
than half of itself.
-/

namespace PackageVitals.Metrics

/-! ## Groups -/

/-- **A group of contributors**, by their places in the list of counts. -/
abbrev Group (counts : List Int) := Finset (Fin counts.length)

/-- **What a group holds**: the commits of its contributors together. -/
def held {counts : List Int} (g : Group counts) : Int :=
  ∑ i ∈ g, counts.get i

/-- The counts of a group are among the counts. -/
theorem exists_subperm_of_group {counts : List Int} (g : Group counts) :
    ∃ l : List Int, l.Subperm counts ∧ l.length = g.card ∧ l.sum = held g := by
  refine ⟨(g.val.map counts.get).toList, ?_, by simp, ?_⟩
  · have hle : g.val.map counts.get ≤ (Finset.univ : Group counts).val.map counts.get :=
      Multiset.map_le_map (Finset.val_le_iff.mpr (Finset.subset_univ g))
    rwa [Fin.univ_val_map, List.ofFn_get, ← Multiset.coe_toList (g.val.map counts.get),
      Multiset.coe_le] at hle
  · rw [← Multiset.sum_coe, Multiset.coe_toList]
    rfl

/-- Counts that are among the counts are those of a group. -/
theorem exists_group_of_subperm {counts l : List Int} (h : l.Subperm counts) :
    ∃ g : Group counts, g.card = l.length ∧ held g = l.sum := by
  obtain ⟨l', hperm, hsub⟩ := h
  obtain ⟨place, hplace⟩ := List.sublist_iff_exists_fin_orderEmbedding_get_eq.mp hsub
  refine ⟨Finset.univ.map place.toEmbedding, by simp [hperm.length_eq], ?_⟩
  calc held (Finset.univ.map place.toEmbedding)
      = ∑ i, counts.get (place i) := Finset.sum_map _ _ _
    _ = ∑ i, l'.get i := Finset.sum_congr rfl fun i _ => (hplace i).symm
    _ = (List.ofFn l'.get).sum := (List.sum_ofFn).symm
    _ = l.sum := by rw [List.ofFn_get, hperm.sum_eq]

/-! ## The ranking -/

/-- The counts from the highest to the lowest. -/
def ranked (counts : List Int) : List Int :=
  counts.mergeSort (fun a b => b ≤ a)

theorem perm_ranked (counts : List Int) : (ranked counts).Perm counts :=
  List.mergeSort_perm counts _

theorem pairwise_ranked (counts : List Int) : (ranked counts).Pairwise (· ≥ ·) :=
  List.pairwise_mergeSort' (· ≥ ·) counts

/-- The order of the counts does not matter to their ranking. -/
theorem ranked_congr {counts counts' : List Int} (h : counts.Perm counts') :
    ranked counts = ranked counts' :=
  ((perm_ranked counts).trans (h.trans (perm_ranked counts').symm)).eq_of_pairwise'
    (r := (· ≥ ·)) (pairwise_ranked counts) (pairwise_ranked counts')

/-- Nor does it to the bus factor. -/
theorem busFactor_congr {counts counts' : List Int} (h : counts.Perm counts') :
    busFactor counts = busFactor counts' := by
  have hhalf : halfOf counts = halfOf counts' := congrArg (Int.fdiv · 2) h.sum_eq
  unfold busFactor
  rw [← ranked, ← ranked, ranked_congr h, hhalf]

/-- As many places, but one earlier, are no loss in a ranked list. -/
theorem sum_take_le_sum_take_cons {x : Int} {xs : List Int} (h : (x :: xs).Pairwise (· ≥ ·))
    {n : Nat} (hn : n ≤ xs.length) : (xs.take n).sum ≤ ((x :: xs).take n).sum := by
  cases n with
  | zero => simp
  | succ n =>
    have hx : xs[n] ≤ x := List.rel_of_pairwise_cons h (List.getElem_mem hn)
    rw [List.take_succ_cons, List.sum_cons, List.sum_take_succ xs n hn]
    omega

/-- **No choice from a ranked list holds more** than the same number of places at its
top. -/
theorem sum_le_sum_take {l xs : List Int} (h : l.Sublist xs) (hxs : xs.Pairwise (· ≥ ·)) :
    l.sum ≤ (xs.take l.length).sum := by
  induction h with
  | slnil => simp
  | cons x h ih =>
    exact (ih hxs.of_cons).trans (sum_take_le_sum_take_cons hxs h.length_le)
  | cons_cons x _ ih =>
    rw [List.length_cons, List.take_succ_cons, List.sum_cons, List.sum_cons]
    exact Int.add_le_add_left (ih hxs.of_cons) x

/-- **No group holds more than the same number of contributors at the top.** -/
theorem held_le_sum_take {counts : List Int} (g : Group counts) :
    held g ≤ ((ranked counts).take g.card).sum := by
  obtain ⟨l, hl, hcard, hheld⟩ := exists_subperm_of_group g
  obtain ⟨l', hperm, hsub⟩ := hl.trans (perm_ranked counts).symm.subperm
  have hle := sum_le_sum_take hsub (pairwise_ranked counts)
  rwa [hperm.length_eq, hperm.sum_eq, hcard, hheld] at hle

/-- The contributors at the top are a group. -/
theorem exists_group_of_take {counts : List Int} {n : Nat} (hn : n ≤ counts.length) :
    ∃ g : Group counts, g.card = n ∧ held g = ((ranked counts).take n).sum := by
  have hsub : ((ranked counts).take n).Subperm counts :=
    (List.take_sublist n _).subperm.trans (perm_ranked counts).subperm
  obtain ⟨g, hcard, hheld⟩ := exists_group_of_subperm hsub
  refine ⟨g, hcard.trans ?_, hheld⟩
  rw [List.length_take, (perm_ranked counts).length_eq, Nat.min_eq_left hn]

/-! ## The running sums -/

theorem length_runningSums (start : Int) (xs : List Int) :
    (runningSums start xs).length = xs.length := by
  induction xs generalizing start with
  | nil => rfl
  | cons x xs ih => simp [runningSums, ih]

/-- A running sum is that of the places up to it. -/
theorem getElem_runningSums (start : Int) (xs : List Int) (i : Nat)
    (h : i < (runningSums start xs).length) :
    (runningSums start xs)[i] = start + (xs.take (i + 1)).sum := by
  induction xs generalizing start i with
  | nil => cases h
  | cons x xs ih =>
    cases i with
    | zero => simp [runningSums]
    | succ i =>
      rw [List.take_succ_cons, List.sum_cons, ← Int.add_assoc]
      exact ih (start + x) i (Nat.lt_of_succ_lt_succ h)

/-- A whole is no less than half of it, unless it is less than nothing. -/
theorem halfOf_le_total {counts : List Int} (h : ∀ c ∈ counts, 0 ≤ c) :
    halfOf counts ≤ counts.sum := by
  have htotal : 0 ≤ counts.sum := List.sum_nonneg h
  show Int.fdiv counts.sum 2 ≤ _
  rw [Int.fdiv_eq_ediv_of_nonneg _ (by decide)]
  omega

/-- The bus factor is one more than the place of the first running sum that is no less than
half. -/
theorem busFactor_eq {counts : List Int} (h : counts ≠ []) :
    busFactor counts = some ((runningSums 0 (ranked counts)).findIdx
      (fun s => ! decide (s < halfOf counts)) + 1) := by
  have hne : ranked counts ≠ [] := fun hnil =>
    h (List.nil_perm.mp (hnil ▸ perm_ranked counts))
  unfold busFactor
  rw [← ranked]
  split
  · contradiction
  · show some (((runningSums 0 (ranked counts)).takeWhile (· < halfOf counts)).length + 1) = _
    rw [List.takeWhile_eq_take_findIdx_not, List.length_take,
      Nat.min_eq_left List.findIdx_le_length]

/-- **Where the running sums reach half**: among the contributors, and not with fewer
places at the top. -/
theorem exists_busFactor {counts : List Int} (hne : counts ≠ []) (h : ∀ c ∈ counts, 0 ≤ c) :
    ∃ n, busFactor counts = some (n + 1) ∧ n < counts.length ∧
      halfOf counts ≤ ((ranked counts).take (n + 1)).sum ∧
        ∀ m < n, ((ranked counts).take (m + 1)).sum < halfOf counts := by
  have hlength : (runningSums 0 (ranked counts)).length = counts.length :=
    (length_runningSums _ _).trans (perm_ranked counts).length_eq
  have hsum (i : Nat) (hi : i < (runningSums 0 (ranked counts)).length) :
      (runningSums 0 (ranked counts))[i] = ((ranked counts).take (i + 1)).sum :=
    (getElem_runningSums 0 _ i hi).trans (Int.zero_add _)
  -- All contributors together reach it, if nobody before.
  have hlast : (runningSums 0 (ranked counts)).findIdx (fun s => ! decide (s < halfOf counts)) <
      (runningSums 0 (ranked counts)).length := by
    have hpos : counts.length - 1 < (runningSums 0 (ranked counts)).length := by
      rw [hlength]
      exact Nat.sub_one_lt (List.length_pos_iff.mpr hne).ne'
    refine List.findIdx_lt_length.mpr ⟨_, List.getElem_mem hpos, ?_⟩
    rw [hsum _ hpos, List.take_of_length_le (by rw [(perm_ranked counts).length_eq]; omega),
      (perm_ranked counts).sum_eq]
    simpa using halfOf_le_total h
  refine ⟨_, busFactor_eq hne, hlength ▸ hlast, ?_, fun m hm => ?_⟩
  · have hreach := List.findIdx_getElem (w := hlast)
    rw [hsum] at hreach
    simpa using hreach
  · have hbefore := List.not_of_lt_findIdx hm
    rw [hsum] at hbefore
    simpa using hbefore

/-! ## The least group -/

/-- **The bus factor is the least number of contributors that hold half.** It is at least
one and no more than there are contributors; a group of so many holds half of the
commits, rounded down, and no smaller group holds it that is not empty, whoever is in
it. The order in which the counts are given does not matter. -/
theorem busFactor_least (counts : List Int) (hne : counts ≠ []) (h : ∀ c ∈ counts, 0 ≤ c) :
    ∃ k, busFactor counts = some k ∧ 1 ≤ k ∧ k ≤ counts.length ∧
      (∃ g : Group counts, g.card = k ∧ counts.sum / 2 ≤ held g) ∧
      (∀ g : Group counts, g.Nonempty → g.card < k → held g < counts.sum / 2) ∧
      ∀ counts', counts.Perm counts' → busFactor counts' = some k := by
  obtain ⟨n, hn, hlt, hreach, hbefore⟩ := exists_busFactor hne h
  have hhalf : halfOf counts = counts.sum / 2 := Int.fdiv_eq_ediv_of_nonneg _ (by decide)
  rw [hhalf] at hreach hbefore
  refine ⟨n + 1, hn, Nat.succ_pos n, hlt, ?_, fun g hg hcard => ?_, fun counts' hperm => ?_⟩
  · obtain ⟨g, hcard, hheld⟩ := @exists_group_of_take counts (n + 1) hlt
    exact ⟨g, hcard, hheld ▸ hreach⟩
  · obtain ⟨m, hm⟩ := Nat.exists_eq_add_one_of_ne_zero (Finset.card_pos.mpr hg).ne'
    have hle := held_le_sum_take g
    rw [hm] at hle hcard
    exact hle.trans_lt (hbefore m (Nat.lt_of_succ_lt_succ hcard))
  · rw [← hn]
    exact busFactor_congr hperm.symm

/-- Four contributors with eleven commits: five are half of them, and take two. -/
theorem busFactor_least_four :
    busFactor [3, 0, 4, 4] = some 2 ∧ busFactor [4, 3, 4, 0] = some 2 ∧
      (∃ g : Group [3, 0, 4, 4], g.card = 2 ∧ 5 ≤ held g) ∧
        ∀ g : Group [3, 0, 4, 4], g.Nonempty → g.card < 2 → held g < 5 := by
  obtain ⟨k, hk, -, -, hgroup, hfewer, hperm⟩ :=
    busFactor_least [3, 0, 4, 4] (by decide) (by decide)
  have htwo : busFactor [3, 0, 4, 4] = some 2 := by cbv
  obtain rfl : 2 = k := Option.some.inj (htwo.symm.trans hk)
  exact ⟨hk, hperm _ (by decide), hgroup, hfewer⟩

end PackageVitals.Metrics
