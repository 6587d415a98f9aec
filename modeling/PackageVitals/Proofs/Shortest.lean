import PackageVitals.Proofs.Rounding

/-!
# The shortest decimal reads back

The search for the shortest decimal of a number goes through grids of ever
smaller steps, and takes from a grid only what is in the interval of the number
(`Double.RoundingInterval.holds_iff`). It ends with a hit: on the grid of
seventeen digits, one of the two neighbours of the number is in its interval,
because the step of the grid is less than the interval is long
(`Double.exists_onGrid`). Zeros at the end of the digits do not change the
value. So the shortest decimal is always read back as the number
(`Double.ofDecimal_of_eq_shortest`).
-/

namespace PackageVitals.Double

/-! ## Powers of ten -/

theorem tenPower_pos (g : ℤ) : 0 < (tenPower g).1 ∧ 0 < (tenPower g).2 := by
  unfold tenPower
  split
  · exact ⟨tenTo_pos _, one_pos⟩
  · exact ⟨one_pos, tenTo_pos _⟩

theorem tenPower_value (g : ℤ) : ((tenPower g).1 : ℚ) / (tenPower g).2 = 10 ^ g := by
  unfold tenPower
  split
  · next h =>
    obtain ⟨k, rfl⟩ := Int.eq_ofNat_of_zero_le h
    simp [cast_tenTo]
  · next h =>
    obtain ⟨k, rfl⟩ : ∃ k : ℕ, g = -k := ⟨(-g).toNat, by omega⟩
    simp [cast_tenTo]

theorem tenPower_fst (g : ℤ) : ((tenPower g).1 : ℚ) = 10 ^ g * (tenPower g).2 := by
  have h : ((tenPower g).2 : ℚ) ≠ 0 := by exact_mod_cast (tenPower_pos g).2.ne'
  rw [← tenPower_value, div_mul_cancel₀ _ h]

/-- **The decimal exponent of a quotient is its logarithm.** -/
theorem decimalExponent_eq {num den : ℕ} (hnum : 0 < num) (hden : 0 < den) :
    decimalExponent num den = Int.log 10 (num / den : ℚ) := by
  have hbounds {n : ℕ} (hn : 0 < n) :
      10 ^ (digitCount n - 1) ≤ n ∧ n < 10 ^ (digitCount n - 1 + 1) := by
    refine ⟨tenTo_le_of_digitCount hn, ?_⟩
    rw [Nat.sub_add_cancel (digitCount_pos n)]
    exact lt_tenTo_digitCount n
  have hexp : ((digitCount num - 1 : ℕ) : ℤ) - (digitCount den - 1 : ℕ) =
      digitCount num - digitCount den := by
    have := digitCount_pos num
    have := digitCount_pos den
    omega
  have hlog := log_div_eq (by norm_num : 1 < 10) (hbounds hnum) (hbounds hden)
  rw [hexp] at hlog
  have hd : (0 : ℚ) < den := by exact_mod_cast hden
  have ht : (0 : ℚ) < (tenPower (digitCount num - digitCount den)).2 := by
    exact_mod_cast (tenPower_pos _).2
  have hiff : num * (tenPower (digitCount num - digitCount den)).2 <
      den * (tenPower (digitCount num - digitCount den)).1 ↔
      (num / den : ℚ) < ((10 : ℕ) : ℚ) ^ ((digitCount num : ℤ) - digitCount den) := by
    rw [← Nat.cast_lt (α := ℚ), Nat.cast_mul, Nat.cast_mul, tenPower_fst, ← mul_assoc,
      mul_lt_mul_iff_left₀ ht, div_lt_iff₀ hd, mul_comm (den : ℚ), Nat.cast_ofNat]
  rw [hlog]
  unfold decimalExponent
  dsimp only
  exact if_congr hiff rfl rfl

/-! ## The interval that is searched -/

namespace RoundingInterval

variable {m : ℕ} (e : ℤ)

theorem den_pos (m : ℕ) : 0 < (ofParts m e).den :=
  scaled_den_pos 1 one_pos _

/-- What is given in quarters of a unit, as a value. -/
theorem unit_value : ((ratio 1 (e - 2)).1 : ℚ) = 2 ^ (e - 2) * (ratio 1 (e - 2)).2 := by
  have hden : ((ratio 1 (e - 2)).2 : ℚ) ≠ 0 := by
    exact_mod_cast (scaled_den_pos 1 one_pos (-(e - 2))).ne'
  have h := scaled_value 1 1 (-(e - 2))
  rw [Nat.cast_one, div_one, zpow_neg, one_div, inv_inv] at h
  rw [← h]
  exact (div_mul_cancel₀ _ hden).symm

theorem low_value (hm : 0 < m) :
    ((ofParts m e).low : ℚ) = (4 * m - quartersBelow m e) * 2 ^ (e - 2) * (ofParts m e).den := by
  have hle : quartersBelow m e ≤ 4 * m := by
    have := quartersBelow_le m e
    omega
  have hlow : (ofParts m e).low = (4 * m - quartersBelow m e) * (ratio 1 (e - 2)).1 := rfl
  rw [hlow, Nat.cast_mul, Nat.cast_sub hle, unit_value, ← mul_assoc, Nat.cast_mul, Nat.cast_ofNat]
  rfl

theorem mid_value (m : ℕ) :
    ((ofParts m e).mid : ℚ) = 4 * m * 2 ^ (e - 2) * (ofParts m e).den := by
  have hmid : (ofParts m e).mid = 4 * m * (ratio 1 (e - 2)).1 := rfl
  rw [hmid, Nat.cast_mul, unit_value, ← mul_assoc, Nat.cast_mul, Nat.cast_ofNat]
  rfl

theorem high_value (m : ℕ) :
    ((ofParts m e).high : ℚ) = (4 * m + 2) * 2 ^ (e - 2) * (ofParts m e).den := by
  have hhigh : (ofParts m e).high = (4 * m + 2) * (ratio 1 (e - 2)).1 := rfl
  rw [hhigh, Nat.cast_mul, unit_value, ← mul_assoc, Nat.cast_add, Nat.cast_mul, Nat.cast_ofNat]
  rfl

/-- **The decimals that the search takes are those in the interval.** -/
theorem holds_iff (hm : 0 < m) (c : ℕ) (g : ℤ) :
    (ofParts m e).holds c g = true ↔ Near m e (c * 10 ^ g) := by
  have hd : (0 : ℚ) < (ofParts m e).den := by exact_mod_cast den_pos e m
  have ht : (0 : ℚ) < (tenPower g).2 := by exact_mod_cast (tenPower_pos g).2
  have hx : ((c * (tenPower g).1 * (ofParts m e).den : ℕ) : ℚ) =
      c * 10 ^ g * ((ofParts m e).den * (tenPower g).2) := by
    rw [Nat.cast_mul, Nat.cast_mul, tenPower_fst]
    ring
  -- A bound in quarters of a unit, over the denominators that the search uses.
  have hend {k : ℕ} {y : ℚ} (hk : (k : ℚ) = y * (ofParts m e).den) :
      ((k * (tenPower g).2 : ℕ) : ℚ) = y * ((ofParts m e).den * (tenPower g).2) := by
    rw [Nat.cast_mul, hk, mul_assoc]
  have hlow := hend (low_value e hm)
  have hhigh := hend (high_value e m)
  have hpos := mul_pos hd ht
  unfold holds
  dsimp only
  have hclosed : (ofParts m e).closed = (m % 2 == 0) := rfl
  rw [hclosed]
  rcases Nat.mod_two_eq_zero_or_one m with heven | hodd
  · rw [heven]
    simp only [beq_self_eq_true, ↓reduceIte, Bool.and_eq_true, decide_eq_true_eq]
    rw [← Nat.cast_le (α := ℚ), ← Nat.cast_le (α := ℚ), hx, hlow, hhigh,
      mul_le_mul_iff_left₀ hpos, mul_le_mul_iff_left₀ hpos]
    exact ⟨fun h => ⟨h.1, h.2, by omega⟩, fun h => ⟨h.low, h.high⟩⟩
  · rw [hodd]
    simp only [Nat.reduceBEq, Bool.false_eq_true, ↓reduceIte, Bool.and_eq_true, decide_eq_true_eq]
    rw [← Nat.cast_lt (α := ℚ), ← Nat.cast_lt (α := ℚ), hx, hlow, hhigh,
      mul_lt_mul_iff_left₀ hpos, mul_lt_mul_iff_left₀ hpos]
    exact ⟨fun h => ⟨h.1.le, h.2.le, fun _ => h⟩, fun h => h.odd hodd⟩

/-- What is taken from a grid is in the interval. -/
theorem holds_of_onGrid {i : RoundingInterval} {c : ℕ} {g : ℤ} (h : i.onGrid? g = some c) :
    i.holds c g = true := by
  unfold onGrid? at h
  dsimp only at h
  split at h
  · rw [← Option.some.inj h]
    assumption
  · rw [← Option.some.inj h]
    assumption
  · contradiction
  · split at h
    · rw [← Option.some.inj h]
      assumption
    · split at h
      · rw [← Option.some.inj h]
        assumption
      · split at h
        all_goals
          rw [← Option.some.inj h]
          assumption

/-- A grid from which nothing is taken has neither neighbour of the number in
the interval. -/
theorem not_holds_of_onGrid {i : RoundingInterval} {g : ℤ} (h : i.onGrid? g = none) :
    i.holds (i.gridBelow g) g = false ∧ i.holds (i.gridBelow g + 1) g = false := by
  unfold onGrid? at h
  dsimp only at h
  split at h
  · contradiction
  · contradiction
  · next h₁ h₂ => exact ⟨h₁, h₂⟩
  · split at h
    · contradiction
    · split at h
      · contradiction
      · split at h
        all_goals contradiction

/-- The number is between its neighbours on a grid. -/
theorem gridBelow_bounds (m : ℕ) (g : ℤ) :
    ((ofParts m e).gridBelow g * 10 ^ g : ℚ) ≤ 4 * m * 2 ^ (e - 2) ∧
      (4 * m * 2 ^ (e - 2) : ℚ) < ((ofParts m e).gridBelow g + 1) * 10 ^ g := by
  have hd : (0 : ℚ) < (ofParts m e).den := by exact_mod_cast den_pos e m
  have ht : (0 : ℚ) < (tenPower g).2 := by exact_mod_cast (tenPower_pos g).2
  have hpos : 0 < (ofParts m e).den * (tenPower g).1 :=
    Nat.mul_pos (den_pos e m) (tenPower_pos g).1
  have hscale := mul_pos hd ht
  have hmid : (((ofParts m e).mid * (tenPower g).2 : ℕ) : ℚ) =
      4 * m * 2 ^ (e - 2) * ((ofParts m e).den * (tenPower g).2) := by
    rw [Nat.cast_mul, mid_value, mul_assoc]
  have hpoint (c : ℕ) : ((c * ((ofParts m e).den * (tenPower g).1) : ℕ) : ℚ) =
      c * 10 ^ g * ((ofParts m e).den * (tenPower g).2) := by
    rw [Nat.cast_mul, Nat.cast_mul, tenPower_fst]
    ring
  have hlow : (ofParts m e).gridBelow g * ((ofParts m e).den * (tenPower g).1) ≤
      (ofParts m e).mid * (tenPower g).2 :=
    Nat.div_mul_le_self _ _
  have hhigh : (ofParts m e).mid * (tenPower g).2 <
      ((ofParts m e).gridBelow g + 1) * ((ofParts m e).den * (tenPower g).1) := by
    rw [mul_comm ((ofParts m e).gridBelow g + 1)]
    exact Nat.lt_mul_div_succ _ hpos
  rw [← Nat.cast_le (α := ℚ), hpoint, hmid, mul_le_mul_iff_left₀ hscale] at hlow
  rw [← Nat.cast_lt (α := ℚ), hpoint, hmid, mul_lt_mul_iff_left₀ hscale] at hhigh
  exact ⟨hlow, by exact_mod_cast hhigh⟩

end RoundingInterval

/-! ## The search -/

open RoundingInterval (ofParts holds_iff)

variable {m : ℕ} {e : ℤ}

/-- What is strictly between the ends is in the interval. -/
theorem Near.of_between {x : ℚ} (hlow : (4 * m - quartersBelow m e) * 2 ^ (e - 2) < x)
    (hhigh : x < (4 * m + 2) * 2 ^ (e - 2)) : Near m e x :=
  ⟨hlow.le, hhigh.le, fun _ => ⟨hlow, hhigh⟩⟩

/-- **The step of the grid of seventeen digits is less than the interval is
long.** -/
theorem step_lt (hm : IsNormal m e) {k : ℤ} (hk : (10 : ℚ) ^ k ≤ 4 * m * 2 ^ (e - 2)) :
    (10 : ℚ) ^ (k - 16) < (quartersBelow m e + 2) * 2 ^ (e - 2) := by
  have hu : (0 : ℚ) < 2 ^ (e - 2) := by positivity
  have hten : (10 : ℚ) ^ k = 10 ^ (k - 16) * 10 ^ 16 := by
    rw [← zpow_natCast, ← zpow_add₀ (by norm_num)]
    congr 1
    push_cast
    ring
  rw [hten] at hk
  -- Below a power of two the interval is shorter, but then the mantissa is only half as large.
  unfold quartersBelow
  split
  · next h =>
    have hm52 : (m : ℚ) = 2 ^ 52 := by exact_mod_cast h.1
    rw [hm52] at hk
    push_cast
    nlinarith
  · have hlt : (m : ℚ) < 2 ^ 53 := by exact_mod_cast hm.lt
    have hle : 4 * (m : ℚ) * 2 ^ (e - 2) < 4 * 2 ^ 53 * 2 ^ (e - 2) := by gcongr
    push_cast
    linarith

/-- The decimal exponent of a number. -/
theorem zpow_decimalExponent_le (hm : IsNormal m e) :
    (10 : ℚ) ^ decimalExponent (ofParts m e).mid (ofParts m e).den ≤ 4 * m * 2 ^ (e - 2) := by
  have hd : (0 : ℚ) < (ofParts m e).den := by exact_mod_cast RoundingInterval.den_pos e m
  have hpos : (0 : ℚ) < 4 * m * 2 ^ (e - 2) := by
    have : (0 : ℚ) < m := by exact_mod_cast hm.pos
    positivity
  have hmid : 0 < (ofParts m e).mid := by
    rw [← Nat.cast_pos (α := ℚ), RoundingInterval.mid_value]
    exact mul_pos hpos hd
  rw [decimalExponent_eq hmid (RoundingInterval.den_pos e m), RoundingInterval.mid_value,
    mul_div_cancel_right₀ _ hd.ne']
  exact_mod_cast Int.zpow_log_le_self (by norm_num : 1 < 10) hpos

/-- **The grid of seventeen digits has a hit**: of the two neighbours of the number
one is in its interval. -/
theorem exists_onGrid (hm : IsNormal m e) :
    ∃ c, (ofParts m e).onGrid?
      (decimalExponent (ofParts m e).mid (ofParts m e).den - 16) = some c := by
  have hstep := step_lt hm (zpow_decimalExponent_le hm)
  generalize decimalExponent (ofParts m e).mid (ofParts m e).den - 16 = g at hstep ⊢
  by_contra hnone
  have hboth := RoundingInterval.not_holds_of_onGrid
    (Option.eq_none_iff_forall_not_mem.mpr fun c hc => hnone ⟨c, hc⟩)
  obtain ⟨hlow, hhigh⟩ := RoundingInterval.gridBelow_bounds e m g
  have hu : (0 : ℚ) < 2 ^ (e - 2) := by positivity
  have hq : (0 : ℚ) < quartersBelow m e := by
    unfold quartersBelow
    split <;> norm_num
  -- If the lower neighbour is too low, then the upper one is not too high.
  rcases lt_or_ge ((4 * m - quartersBelow m e) * 2 ^ (e - 2) : ℚ)
    ((ofParts m e).gridBelow g * 10 ^ g) with hin | hout
  · have hnear : Near m e ((ofParts m e).gridBelow g * 10 ^ g) :=
      .of_between hin (by nlinarith)
    have h := (holds_iff e hm.pos _ g).mpr hnear
    rw [hboth.1] at h
    contradiction
  · have hnear : Near m e (((ofParts m e).gridBelow g + 1 : ℕ) * 10 ^ g) := by
      push_cast
      exact .of_between (by nlinarith) (by nlinarith)
    have h := (holds_iff e hm.pos _ g).mpr hnear
    rw [hboth.2] at h
    contradiction

/-- Zeros that are moved into the exponent do not change the value. -/
theorem dropZeros_value (fuel c : ℕ) (g : ℤ) :
    ((dropZeros fuel c g).1 * 10 ^ (dropZeros fuel c g).2 : ℚ) = c * 10 ^ g := by
  induction fuel generalizing c g with
  | zero => rfl
  | succ fuel ih =>
    unfold dropZeros
    split
    · next h =>
      have hc : (c : ℚ) = 10 * (c / 10 : ℕ) := by
        exact_mod_cast (Nat.mul_div_cancel' (Nat.dvd_of_mod_eq_zero h.1)).symm
      rw [ih, hc, zpow_add_one₀ (by norm_num)]
      ring
    · rfl

/-- **The shortest decimal is in the interval of the number.** -/
theorem near_shortest (hm : IsNormal m e) :
    Near m e ((shortest m e).1 * 10 ^ (shortest m e).2) := by
  obtain ⟨c₀, hc₀⟩ := exists_onGrid hm
  unfold shortest
  dsimp only
  split
  · next c g hfind =>
    obtain ⟨g', -, hg'⟩ := List.exists_of_findSome?_eq_some hfind
    obtain ⟨c', hc', heq⟩ := Option.map_eq_some_iff.mp hg'
    obtain ⟨rfl, rfl⟩ := Prod.mk.inj heq
    rw [dropZeros_value]
    exact (holds_iff e hm.pos c' g').mp (RoundingInterval.holds_of_onGrid hc')
  · next hnone =>
    rw [List.findSome?_eq_none_iff] at hnone
    have h := hnone _ (List.mem_map.mpr ⟨16, by decide, rfl⟩)
    rw [Nat.cast_ofNat, hc₀] at h
    contradiction

/-- **The shortest decimal is read back as the number**, whatever zeros are written
with it. -/
theorem ofDecimal_of_eq_shortest (negative : Bool) (hm : IsNormal m e) {n : ℕ} {g : ℤ}
    (h : (n * 10 ^ g : ℚ) = (shortest m e).1 * 10 ^ (shortest m e).2) :
    ofDecimal negative n g = .finite negative m e :=
  ofDecimal_eq_of_near negative hm (h ▸ near_shortest hm)

theorem shortest_pos (hm : IsNormal m e) : 0 < (shortest m e).1 := by
  have hpos := (near_shortest hm).pos hm
  by_contra h0
  rw [Nat.eq_zero_of_not_pos h0, Nat.cast_zero, zero_mul] at hpos
  exact lt_irrefl _ hpos

end PackageVitals.Double
