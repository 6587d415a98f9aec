import PackageVitals.Metrics
import PackageVitals.Proofs.Rounding

/-!
# The mean age is exact

The mean age of issues goes through double precision twice: the sum of the ages is divided by
their number, and one half is added before the result is rounded down. Both results are rounded,
and a result that is off by the least bit could end up on the wrong side of a whole number.

It does not, for two reasons (`Double.Rounds`). A value that double precision **has** is not
changed, and a mean that is one half away from a whole number is such a value, and so is the
whole number. Any other mean of fewer than `2 ^ 20` ages is more than `2 ^ -21` away from all of
these, and as ages in the calendar are below `2 ^ 22` days, nothing is moved as far as that. So
the result is the mean in whole numbers, a half rounded up (`Metrics.roundedMean_eq`).

What the mean is follows: it lies among the ages, it hangs on the instants alone and not on how
they are written or in which order, and it grows by a day with each day
(`Metrics.issueAge_half_up`).
-/

namespace PackageVitals

namespace Double

/-! ## Values -/

/-- Whether a number is finite. -/
def IsFinite : Double → Prop
  | .finite .. => True
  | _ => False

/-- A magnitude with a sign. -/
def withSign (negative : Bool) (x : ℚ) : ℚ :=
  if negative then -x else x

/-- **The value of a finite number.** -/
def value : Double → ℚ
  | .finite s m e => withSign s (m * 2 ^ e)
  | _ => 0

theorem abs_withSign_sub (negative : Bool) (x y : ℚ) :
    |withSign negative x - withSign negative y| = |x - y| := by
  cases negative with
  | true => exact (congrArg _ (neg_sub_neg x y)).trans (abs_sub_comm y x)
  | false => rfl

theorem abs_withSign (negative : Bool) (x : ℚ) : |withSign negative x| = |x| := by
  cases negative with
  | true => exact abs_neg x
  | false => rfl

/-- A fraction is its magnitude with its sign. -/
theorem withSign_natAbs (num : ℤ) (den : ℕ) :
    withSign (num < 0) (num.natAbs / den) = num / den := by
  have hcast : ((num.natAbs : ℕ) : ℚ) = ((|num| : ℤ) : ℚ) := by
    rw [Int.abs_eq_natAbs, Int.cast_natCast]
  rw [hcast]
  unfold withSign
  by_cases h : num < 0
  · rw [if_pos (decide_eq_true h), abs_of_neg h, Int.cast_neg, neg_div, neg_neg]
  · rw [if_neg (by simpa using h), abs_of_nonneg (not_lt.mp h)]

theorem ratio_den_pos (m : ℕ) (e : ℤ) : 0 < (ratio m e).2 :=
  scaled_den_pos m one_pos (-e)

/-- A magnitude as a quotient is the magnitude. -/
theorem ratio_value (m : ℕ) (e : ℤ) : ((ratio m e).1 : ℚ) / (ratio m e).2 = m * 2 ^ e := by
  unfold ratio
  rw [scaled_value, Nat.cast_one, div_one, zpow_neg, div_inv_eq_mul]

/-- Below zero a quotient is rounded down by rounding its magnitude up. -/
theorem floor_neg_div (a : ℕ) {b : ℕ} (hb : 0 < b) :
    ⌊-(a / b : ℚ)⌋ = -((a + b - 1) / b : ℕ) := by
  have hb' : (0 : ℚ) < b := by exact_mod_cast hb
  have hle : (a + b - 1) / b * b ≤ a + b - 1 := Nat.div_mul_le_self _ _
  have hlt : a + b - 1 < (a + b - 1) / b * b + b := Nat.lt_div_mul_add hb
  generalize (a + b - 1) / b = k at hle hlt
  have hlow : (a / b : ℚ) ≤ k := by
    rw [div_le_iff₀ hb']
    exact_mod_cast (by omega : a ≤ k * b)
  have hhigh : (k - 1 : ℚ) < a / b := by
    rw [lt_div_iff₀ hb', sub_mul, one_mul, sub_lt_iff_lt_add]
    exact_mod_cast (by omega : k * b < a + b)
  rw [Int.floor_eq_iff]
  push_cast
  constructor <;> linarith

/-- **Rounding down is rounding the value down.** -/
theorem floor?_eq {d : Double} (h : d.IsFinite) : d.floor? = some ⌊d.value⌋ := by
  cases d with
  | nan => cases h
  | infinite => cases h
  | finite s m e =>
    unfold floor? value
    dsimp only
    rw [← ratio_value]
    refine congrArg some ?_
    cases s with
    | false => exact (Rat.floor_intCast_div_natCast (ratio m e).1 (ratio m e).2).symm
    | true => exact (floor_neg_div (ratio m e).1 (ratio_den_pos m e)).symm

/-! ## The rounding of a value -/

/-- **Whether a number is what a value is rounded to, in units of at most `2 ^ q`**: it is half a
unit away at most, and not at all if the value is a multiple of the unit. -/
structure Rounds (q : ℤ) (x : ℚ) (d : Double) : Prop where
  finite : d.IsFinite
  error : |d.value - x| ≤ 2 ^ q / 2
  exact : (∃ k : ℤ, x = k * 2 ^ q) → d.value = x

/-- Below `2 ^ (q + 53)` the units are at most `2 ^ q`. -/
theorem roundingExponent_le {x : ℚ} {q : ℤ} (hx : 0 < x) (hlt : x < 2 ^ (q + 53))
    (hq : -1074 ≤ q) : roundingExponent x ≤ q := by
  have hlog : Int.log 2 x < q + 53 := by
    rw [← Int.lt_zpow_iff_log_lt one_lt_two hx]
    exact_mod_cast hlt
  unfold roundingExponent
  omega

/-- What is rounded without overflow has the mantissa for its value, at the exponent with which it
is rounded. -/
theorem exists_ofRatio (negative : Bool) {num den : ℕ} (hnum : 0 < num) (hden : 0 < den)
    (hle : roundingExponent (num / den) ≤ 970) :
    ∃ m : ℕ, Closest (num / den / 2 ^ roundingExponent (num / den)) m ∧
      (ofRatio negative num den).IsFinite ∧
        (ofRatio negative num den).value =
          withSign negative (m * 2 ^ roundingExponent (num / den)) := by
  obtain ⟨m, hm⟩ := exists_closest num hden (roundingExponent (num / den))
  refine ⟨m, hm, ?_⟩
  rw [ofRatio_eq negative hnum hden hm]
  dsimp only
  split
  · next h => exact ⟨trivial, by simp [h, zero, value]⟩
  · split
    · next h =>
      -- The mantissa that does not fit is halved.
      rw [if_neg (by dsimp only; omega)]
      refine ⟨trivial, congrArg (withSign negative) ?_⟩
      dsimp only
      rw [h, zpow_add₀ two_ne_zero]
      push_cast
      ring
    · rw [if_neg (by dsimp only; omega)]
      exact ⟨trivial, rfl⟩

/-- The closest mantissa is half a unit away at most. -/
theorem abs_sub_le_of_closest {x u : ℚ} (hu : 0 < u) {m : ℕ} (h : Closest (x / u) m) :
    |m * u - x| ≤ u / 2 := by
  have hx : x / u * u = x := div_mul_cancel₀ x hu.ne'
  have hlow : (2 * m - 1) * u ≤ 2 * x := by
    calc (2 * m - 1) * u ≤ 2 * (x / u) * u := by gcongr; exact h.low
      _ = 2 * x := by rw [mul_assoc, hx]
  have hhigh : 2 * x ≤ (2 * m + 1) * u := by
    calc 2 * x = 2 * (x / u) * u := by rw [mul_assoc, hx]
      _ ≤ (2 * m + 1) * u := by gcongr; exact h.high
  rw [abs_le]
  constructor <;> linarith

/-- It is the value itself where this is a multiple of a unit that is no smaller. -/
theorem eq_of_closest_of_multiple {x : ℚ} {p q : ℤ} (hpq : p ≤ q) {m n : ℕ}
    (h : Closest (x / 2 ^ p) m) (hx : x = n * 2 ^ q) : m * 2 ^ p = x := by
  obtain ⟨i, rfl⟩ : ∃ i : ℕ, q = p + i := ⟨(q - p).toNat, by omega⟩
  have hwhole : x / 2 ^ p = (n * 2 ^ i : ℕ) := by
    rw [hx, zpow_add₀ two_ne_zero, zpow_natCast]
    push_cast
    field_simp
  have hm : m = n * 2 ^ i := h.unique (.of_lt (by rw [hwhole]; linarith) (by rw [hwhole]; linarith))
  rw [hm, ← hwhole]
  exact div_mul_cancel₀ x (by positivity)

theorem value_zero (negative : Bool) : (zero negative).value = 0 := by
  simp [zero, value, withSign]

/-- Nothing is rounded to a zero, of either sign. -/
theorem rounds_zero (negative : Bool) (q : ℤ) : Rounds q 0 (zero negative) := by
  refine ⟨trivial, ?_, fun _ => value_zero negative⟩
  rw [value_zero, sub_zero, abs_zero]
  positivity

/-- **A quotient is rounded in the units of its magnitude.** -/
theorem rounds_ofRatio (negative : Bool) (num : ℕ) {den : ℕ} (hden : 0 < den) {q : ℤ}
    (hlt : (num / den : ℚ) < 2 ^ (q + 53)) (hq : -1074 ≤ q ∧ q ≤ 970) :
    Rounds q (withSign negative (num / den)) (ofRatio negative num den) := by
  rcases Nat.eq_zero_or_pos num with rfl | hnum
  · have hzero : withSign negative ((0 : ℕ) / den) = 0 := by simp [withSign]
    rw [hzero, ofRatio, if_pos rfl]
    exact rounds_zero negative q
  have hx : (0 : ℚ) < num / den := by
    have : (0 : ℚ) < num := by exact_mod_cast hnum
    have : (0 : ℚ) < den := by exact_mod_cast hden
    positivity
  have hle := roundingExponent_le hx hlt hq.1
  obtain ⟨m, hm, hfinite, hvalue⟩ := exists_ofRatio negative hnum hden (hle.trans hq.2)
  generalize (num / den : ℚ) = x at *
  refine ⟨hfinite, ?_, fun ⟨k, hk⟩ => ?_⟩
  · rw [hvalue, abs_withSign_sub]
    refine (abs_sub_le_of_closest (by positivity) hm).trans ?_
    gcongr
    exact one_le_two
  · have hunit : (0 : ℚ) < 2 ^ q := by positivity
    have hk' : x = k.natAbs * 2 ^ q := by
      rw [← abs_of_pos hx, ← abs_withSign negative x, hk, abs_mul, abs_of_pos hunit,
        Nat.cast_natAbs, Int.cast_abs]
    rw [hvalue, eq_of_closest_of_multiple hle hm hk']

/-- So is a fraction. -/
theorem rounds_ofFraction (num : ℤ) {den : ℕ} (hden : 0 < den) {q : ℤ}
    (hlt : |(num / den : ℚ)| < 2 ^ (q + 53)) (hq : -1074 ≤ q ∧ q ≤ 970) :
    Rounds q (num / den) (ofFraction num den) := by
  have habs : |(num / den : ℚ)| = num.natAbs / den := by
    rw [← withSign_natAbs, abs_withSign, abs_of_nonneg (by positivity)]
  rw [← withSign_natAbs]
  exact rounds_ofRatio _ _ hden (habs ▸ hlt) hq

/-- And where a fraction of nothing is a zero of a given sign. -/
theorem rounds_ofFraction_or_zero (num : ℤ) (negative : Bool) {den : ℕ} (hden : 0 < den) {q : ℤ}
    (hlt : |(num / den : ℚ)| < 2 ^ (q + 53)) (hq : -1074 ≤ q ∧ q ≤ 970) :
    Rounds q (num / den) (if num = 0 then zero negative else ofFraction num den) := by
  split
  · next h =>
    rw [h, Int.cast_zero, zero_div]
    exact rounds_zero negative q
  · exact rounds_ofFraction num hden hlt hq

/-- A whole number with a sign. -/
theorem cast_signed (negative : Bool) (k : ℕ) :
    ((if negative then -(k : ℤ) else (k : ℤ) : ℤ) : ℚ) = withSign negative k := by
  cases negative with
  | true => exact Int.cast_neg _
  | false => rfl

/-- Two magnitudes with their signs over one denominator. -/
theorem withSign_add (s t : Bool) (a c : ℕ) {b d : ℕ} (hb : 0 < b) (hd : 0 < d) :
    (withSign s (a * d : ℕ) + withSign t (c * b : ℕ)) / (b * d : ℕ) =
      withSign s (a / b) + withSign t (c / d) := by
  have hb' : (b : ℚ) ≠ 0 := by exact_mod_cast hb.ne'
  have hd' : (d : ℚ) ≠ 0 := by exact_mod_cast hd.ne'
  push_cast
  cases s <;> cases t <;> simp only [withSign, Bool.false_eq_true, ↓reduceIte] <;> field_simp

/-- **So is a sum.** -/
theorem rounds_add {x y : Double} (hx : x.IsFinite) (hy : y.IsFinite) {q : ℤ}
    (hlt : |x.value + y.value| < 2 ^ (q + 53)) (hq : -1074 ≤ q ∧ q ≤ 970) :
    Rounds q (x.value + y.value) (x.add y) := by
  cases x with
  | nan => cases hx
  | infinite => cases hx
  | finite s m e =>
    cases y with
    | nan => cases hy
    | infinite => cases hy
    | finite t n p =>
      have hsum := withSign_add s t (ratio m e).1 (ratio n p).1 (ratio_den_pos m e)
        (ratio_den_pos n p)
      rw [ratio_value, ratio_value, ← cast_signed, ← cast_signed, ← Int.cast_add] at hsum
      have hden : 0 < (ratio m e).2 * (ratio n p).2 :=
        Nat.mul_pos (ratio_den_pos m e) (ratio_den_pos n p)
      unfold value at hlt ⊢
      dsimp only at hlt ⊢
      rw [← hsum] at hlt ⊢
      exact rounds_ofFraction_or_zero _ _ hden hlt hq

/-- One half is had in double precision. -/
theorem value_half : half.IsFinite ∧ half.value = 1 / 2 := by
  have h := rounds_ofRatio false 1 two_pos (q := -1) (by norm_num) (by norm_num)
  exact ⟨h.finite, (h.exact ⟨1, by norm_num [withSign]⟩).trans (by norm_num [withSign])⟩

/-- **One half more than a value that has been rounded** is half a unit away at most for each of
the two roundings, and not at all where it is a whole number. -/
theorem add_half_of_rounds {x : ℚ} {d : Double} (hx : |x| < 2 ^ 22) (hd : Rounds (-31) x d) :
    (d.add half).IsFinite ∧ |(d.add half).value - (x + 1 / 2)| < 2 * 2 ^ (-31 : ℤ) ∧
      ∀ k : ℤ, x + 1 / 2 = k → (d.add half).value = k := by
  -- The units of the sum are twice as large.
  have hunit : (0 : ℚ) < 2 ^ (-31 : ℤ) ∧ (2 : ℚ) ^ (-31 : ℤ) < 1 := by norm_num
  have htwice : (2 : ℚ) ^ (-30 : ℤ) = 2 * 2 ^ (-31 : ℤ) := by norm_num
  have hbound : (2 : ℚ) ^ (-30 + 53 : ℤ) = 2 * 2 ^ 22 := by norm_num
  obtain ⟨hhalf, hvalue⟩ := value_half
  have herror := abs_le.mp hd.error
  have hbelow : |d.value + half.value| < 2 ^ (-30 + 53 : ℤ) := by
    rw [abs_lt] at hx
    rw [hvalue, hbound, abs_lt]
    constructor <;> linarith
  have hadd := rounds_add hd.finite hhalf hbelow (by norm_num)
  rw [hvalue] at hadd
  refine ⟨hadd.finite, ?_, fun k hk => ?_⟩
  · have herror' := abs_le.mp hadd.error
    rw [abs_lt]
    constructor <;> linarith
  · have hhalves : x = ((2 * k - 1) * 2 ^ 30 : ℤ) * 2 ^ (-31 : ℤ) := by
      push_cast
      norm_num
      linarith
    have hwhole : (k : ℚ) = (k * 2 ^ 30 : ℤ) * 2 ^ (-30 : ℤ) := by
      push_cast
      norm_num
      ring
    rw [hd.exact ⟨_, hhalves⟩, hk] at hadd
    exact hadd.exact ⟨_, hwhole⟩

end Double

namespace Metrics

open Double

/-! ## The mean in whole numbers -/

/-- **A value that is nearer to a fraction than the next whole number is rounded down like it**,
if it is no other where the fraction is whole. -/
theorem floor_eq_ediv {z : ℚ} {num : ℤ} {den : ℕ} (hden : 0 < den)
    (hnear : |z - num / den| < 1 / den) (hwhole : (den : ℤ) ∣ num → z = num / den) :
    ⌊z⌋ = num / den := by
  have hd : (0 : ℚ) < den := by exact_mod_cast hden
  have hd' : (0 : ℤ) < den := by exact_mod_cast hden
  have hsplit : (num / den : ℚ) = (num / (den : ℤ) : ℤ) + (num % (den : ℤ) : ℤ) / den := by
    rw [← mul_right_inj' hd.ne', mul_add, mul_div_cancel₀ _ hd.ne', mul_div_cancel₀ _ hd.ne']
    exact_mod_cast (Int.mul_ediv_add_emod num den).symm
  rw [Int.floor_eq_iff]
  rcases eq_or_lt_of_le (Int.emod_nonneg num hd'.ne') with hzero | hpos
  · rw [hwhole (Int.dvd_of_emod_eq_zero hzero.symm), hsplit, ← hzero]
    simp
  · -- The fraction is at least its own unit away from both whole numbers.
    have hlow : (1 : ℚ) / den ≤ (num % (den : ℤ) : ℤ) / den := by
      gcongr
      exact_mod_cast hpos
    have hhigh : ((num % (den : ℤ) : ℤ) : ℚ) / den ≤ 1 - 1 / den := by
      rw [div_le_iff₀ hd, sub_mul, one_mul, div_mul_cancel₀ _ hd.ne', le_sub_iff_add_le]
      exact_mod_cast Int.add_one_le_of_lt (Int.emod_lt_of_pos num hd')
    rw [hsplit, abs_lt] at hnear
    constructor <;> linarith [hnear.1, hnear.2]

/-- **The quotient plus one half is rounded down to the mean in whole numbers.** -/
theorem floor?_add_half {sum : ℤ} {n : ℕ} (hn : 0 < n) (hlt : n < 2 ^ 20)
    (hsum : |(sum / n : ℚ)| < 2 ^ 22) :
    ((ofFraction sum n).add half).floor? = some ((2 * sum + n) / (2 * n)) := by
  have hn' : (0 : ℚ) < n := by exact_mod_cast hn
  have hbelow : |(sum / n : ℚ)| < 2 ^ (-31 + 53 : ℤ) := by
    rwa [show (-31 + 53 : ℤ) = (22 : ℕ) by norm_num, zpow_natCast]
  obtain ⟨hfinite, herror, hexact⟩ :=
    add_half_of_rounds hsum (rounds_ofFraction sum hn hbelow (by norm_num))
  have hmean : ((2 * sum + n : ℤ) : ℚ) / (2 * n : ℕ) = sum / n + 1 / 2 := by
    push_cast
    field_simp
  have hunit : 2 * (2 : ℚ) ^ (-31 : ℤ) < 1 / (2 * n : ℕ) := by
    have hlt' : ((2 * n : ℕ) : ℚ) < 2 ^ 21 := by exact_mod_cast (by omega : 2 * n < 2 ^ 21)
    calc 2 * (2 : ℚ) ^ (-31 : ℤ) < 1 / 2 ^ 21 := by norm_num
      _ < 1 / (2 * n : ℕ) := by gcongr
  have hfloor : ⌊((ofFraction sum n).add half).value⌋ = (2 * sum + n) / ((2 * n : ℕ) : ℤ) := by
    refine floor_eq_ediv (by omega) ?_ fun ⟨k, hk⟩ => ?_
    · rw [hmean]
      exact herror.trans hunit
    · have hk' : (sum / n + 1 / 2 : ℚ) = k := by
        rw [← hmean, hk]
        push_cast
        field_simp
      rw [hmean, hk', hexact k hk']
  rw [floor?_eq hfinite, hfloor]
  push_cast
  rfl

/-- **The mean of whole numbers**, a half rounded up. -/
def mean (xs : List Int) : Int :=
  (2 * xs.sum + xs.length) / (2 * xs.length)

section Mean

variable {xs : List Int} (hne : xs ≠ [])

include hne

theorem two_mul_length_pos : (0 : Int) < 2 * xs.length := by
  have := List.length_pos_iff.mpr hne
  omega

/-- The mean is no less than the smallest number. -/
theorem le_mean {lo : Int} (h : ∀ a ∈ xs, lo ≤ a) : lo ≤ mean xs := by
  have hsum := List.card_nsmul_le_sum xs lo h
  rw [nsmul_eq_mul] at hsum
  refine Int.le_ediv_of_mul_le (two_mul_length_pos hne) ?_
  linarith

/-- It is no more than the largest. -/
theorem mean_le {hi : Int} (h : ∀ a ∈ xs, a ≤ hi) : mean xs ≤ hi := by
  have hpos := two_mul_length_pos hne
  have hsum := List.sum_le_card_nsmul xs hi h
  rw [nsmul_eq_mul] at hsum
  refine Int.le_of_lt_add_one (Int.ediv_lt_of_lt_mul hpos ?_)
  linarith

/-- It grows with all of the numbers. -/
theorem mean_map_add (d : Int) : mean (xs.map (· + d)) = mean xs + d := by
  have hsum : (xs.map (· + d)).sum = xs.sum + xs.length * d := by
    rw [List.sum_map_add, List.map_id', List.map_const', List.sum_replicate, nsmul_eq_mul]
  unfold mean
  rw [List.length_map, hsum, ← Int.add_mul_ediv_right _ _ (two_mul_length_pos hne).ne']
  congr 1
  ring

/-- **The mean in double precision is the mean in whole numbers**, if the numbers are few and
small. -/
theorem roundedMean_eq (hlen : xs.length < 2 ^ 20) (h : ∀ a ∈ xs, |a| < 2 ^ 22) :
    roundedMean xs = mean xs := by
  have hpos : 0 < xs.length := List.length_pos_iff.mpr hne
  have hpos' : (0 : ℚ) < xs.length := by exact_mod_cast hpos
  have hlow := List.card_nsmul_le_sum xs (-(2 ^ 22 - 1)) fun a ha => by
    have := (abs_lt.mp (h a ha)).1
    omega
  have hhigh := List.sum_le_card_nsmul xs (2 ^ 22 - 1) fun a ha => by
    have := (abs_lt.mp (h a ha)).2
    omega
  rw [nsmul_eq_mul] at hlow hhigh
  have hsum : |(xs.sum / xs.length : ℚ)| < 2 ^ 22 := by
    rw [abs_lt, lt_div_iff₀ hpos', div_lt_iff₀ hpos']
    constructor
    · exact_mod_cast (by linarith : -2 ^ 22 * (xs.length : ℤ) < xs.sum)
    · exact_mod_cast (by linarith : xs.sum < 2 ^ 22 * (xs.length : ℤ))
  show ((ofFraction xs.sum xs.length).add half).floor?.getD 0 = _
  rw [floor?_add_half hpos hlen hsum]
  rfl

end Mean

theorem mean_congr {xs ys : List Int} (h : xs.Perm ys) : mean xs = mean ys := by
  unfold mean
  rw [h.sum_eq, h.length_eq]

end Metrics

/-! ## Ages -/

/-- The months before a month have less than a year of days. -/
theorem Date.daysBeforeMonth_le (year month : Nat) : daysBeforeMonth year month ≤ 335 := by
  have hstart : monthStarts.getD month 0 ≤ 334 := by
    rw [List.getD_eq_getElem?_getD]
    cases h : monthStarts[month]? with
    | none => exact Nat.zero_le _
    | some n =>
      have hall : ∀ n ∈ monthStarts, n ≤ 334 := by decide
      exact hall n (List.mem_of_getElem? h)
  unfold daysBeforeMonth
  split <;> omega

/-- The calendar has less than `3653000` days. -/
theorem Date.ordinal_bounds {d : Date} (h : d.isValid = true) :
    1 ≤ d.ordinal ∧ d.ordinal < 3653000 := by
  have hmonth := daysBeforeMonth_le d.year d.month
  have hlength : monthLength d.year d.month ≤ 31 := by
    unfold monthLength
    split_ifs <;> omega
  simp only [isValid, isInYear, Bool.and_eq_true, decide_eq_true_eq] at h
  unfold ordinal daysBeforeYear
  dsimp only
  omega

namespace Timestamp

/-- **Whether a timestamp is aware** of universal time: its parts are in their bounds, and it says
how far it is from it. -/
structure IsAware (t : Timestamp) : Prop where
  valid : t.isValid = true
  offset : t.offset.isSome = true

instance (t : Timestamp) : Decidable t.IsAware :=
  decidable_of_iff (t.isValid = true ∧ t.offset.isSome = true)
    ⟨fun h => ⟨h.1, h.2⟩, fun h => ⟨h.1, h.2⟩⟩

/-- **The age in whole days**: how many lie between two instants, rounded down. -/
def age (now created : Timestamp) : Int :=
  (now.instant - created.instant) / dayLength

theorem daysSince_of_isAware {now created : Timestamp} (hnow : now.IsAware)
    (hcreated : created.IsAware) : now.daysSince created = .ok (now.age created) := by
  unfold daysSince age
  rw [hnow.offset, hcreated.offset, Int.fdiv_eq_ediv_of_nonneg _ (by decide)]
  rfl

/-- An instant is in the calendar, or less than a day outside. -/
theorem IsAware.instant_bounds {t : Timestamp} (h : t.IsAware) :
    0 < t.instant ∧ t.instant < 3653002 * dayLength := by
  obtain ⟨o, ho⟩ := Option.isSome_iff_exists.mp h.offset
  have hvalid := h.valid
  rw [isValid, Bool.and_eq_true] at hvalid
  have hday := Date.ordinal_bounds hvalid.1
  have htime := hvalid.2
  simp only [isInDay, ho, Option.all_some, Bool.and_eq_true, decide_eq_true_eq] at htime
  unfold instant shown dayLength
  rw [ho, Option.getD_some]
  omega

/-- **Ages in the calendar are below `2 ^ 22` days.** -/
theorem abs_age_lt {now created : Timestamp} (hnow : now.IsAware) (hcreated : created.IsAware) :
    |now.age created| < 2 ^ 22 := by
  have hnow' := hnow.instant_bounds
  have hcreated' := hcreated.instant_bounds
  unfold age
  unfold dayLength at *
  rw [abs_lt]
  omega

/-- An age grows by a day with each day. -/
theorem age_of_later {now now' : Timestamp} {d : Int}
    (h : now'.instant = now.instant + d * dayLength) (created : Timestamp) :
    now'.age created = now.age created + d := by
  unfold age
  rw [h, add_sub_right_comm, Int.add_mul_ediv_right _ _ (by decide)]

end Timestamp

namespace Metrics

variable {created : List Timestamp} {now : Timestamp}

theorem ages_of_isAware (hcreated : ∀ t ∈ created, t.IsAware) (hnow : now.IsAware) :
    ages created now = .ok (created.map now.age) := by
  unfold ages
  induction created with
  | nil => rfl
  | cons t rest ih =>
    obtain ⟨ht, hrest⟩ := List.forall_mem_cons.mp hcreated
    rw [List.mapM_cons, Timestamp.daysSince_of_isAware hnow ht, ih hrest]
    rfl

/-- **The mean age of issues is the mean of their ages in whole numbers.** -/
theorem issueAge_eq (hne : created ≠ []) (hlen : created.length < 2 ^ 20)
    (hcreated : ∀ t ∈ created, t.IsAware) (hnow : now.IsAware) :
    issueAge created now = .ok (mean (created.map now.age)) := by
  have hne' : created.map now.age ≠ [] := mt List.map_eq_nil_iff.mp hne
  have hsmall : ∀ a ∈ created.map now.age, |a| < 2 ^ 22 :=
    List.forall_mem_map.mpr fun t ht => Timestamp.abs_age_lt hnow (hcreated t ht)
  unfold issueAge
  rw [ages_of_isAware hcreated hnow]
  show Except.ok (if (created.map now.age).isEmpty then 0 else roundedMean _) = _
  rw [if_neg (by simpa using hne), roundedMean_eq hne' (by rwa [List.length_map]) hsmall]

/-- The mean age hangs on the instants alone, in any order. -/
theorem issueAge_congr {created' : List Timestamp} {now' : Timestamp} (hne : created ≠ [])
    (hlen : created.length < 2 ^ 20) (hcreated : ∀ t ∈ created, t.IsAware) (hnow : now.IsAware)
    (hcreated' : ∀ t ∈ created', t.IsAware) (hnow' : now'.IsAware)
    (hinstants : (created'.map Timestamp.instant).Perm (created.map Timestamp.instant))
    (hinstant : now'.instant = now.instant) :
    issueAge created' now' = issueAge created now := by
  have hlength : created'.length = created.length := by
    simpa using hinstants.length_eq
  have hne' : created' ≠ [] := by
    rwa [← List.length_pos_iff, hlength, List.length_pos_iff]
  have hages : (created'.map now'.age).Perm (created.map now.age) := by
    have h := hinstants.map fun i => (now.instant - i) / Timestamp.dayLength
    rw [List.map_map, List.map_map] at h
    unfold Timestamp.age
    rwa [hinstant]
  rw [issueAge_eq hne' (hlength ▸ hlen) hcreated' hnow', issueAge_eq hne hlen hcreated hnow,
    mean_congr hages]

/-- **The mean age of open issues is exact**, a half rounded up. It lies between the smallest age
and the largest, hangs on the instants alone, in whatever order they come and at whatever
distance from universal time they are written, and grows by as many days as go by. -/
theorem issueAge_half_up (hne : created ≠ []) (hlen : created.length < 2 ^ 20)
    (hcreated : ∀ t ∈ created, t.IsAware) (hnow : now.IsAware) :
    ∃ age, issueAge created now = .ok age ∧
      age = (2 * (created.map now.age).sum + created.length) / (2 * created.length) ∧
      (∃ lo ∈ created.map now.age, ∃ hi ∈ created.map now.age,
        (∀ a ∈ created.map now.age, lo ≤ a ∧ a ≤ hi) ∧ lo ≤ age ∧ age ≤ hi) ∧
      (∀ created' now', (∀ t ∈ created', t.IsAware) → now'.IsAware →
        (created'.map Timestamp.instant).Perm (created.map Timestamp.instant) →
          now'.instant = now.instant → issueAge created' now' = .ok age) ∧
      ∀ (days : Int) (now' : Timestamp), now'.IsAware →
        now'.instant = now.instant + days * Timestamp.dayLength →
          issueAge created now' = .ok (age + days) := by
  have hne' : created.map now.age ≠ [] := mt List.map_eq_nil_iff.mp hne
  have hage := issueAge_eq hne hlen hcreated hnow
  refine ⟨_, hage, by rw [mean, List.length_map], ?_, ?_, fun days now' hnow' hlater => ?_⟩
  · refine ⟨_, List.min_mem hne', _, List.max_mem hne', fun a ha => ?_, ?_, ?_⟩
    · exact ⟨List.min_le_of_mem ha, List.le_max_of_mem ha⟩
    · exact le_mean hne' fun a ha => List.min_le_of_mem ha
    · exact mean_le hne' fun a ha => List.le_max_of_mem ha
  · intro created' now' hcreated' hnow' hinstants hinstant
    rw [← hage]
    exact issueAge_congr hne hlen hcreated hnow hcreated' hnow' hinstants hinstant
  · have hages : created.map now'.age = (created.map now.age).map (· + days) := by
      rw [List.map_map]
      exact List.map_congr_left fun t _ => Timestamp.age_of_later hlater t
    rw [issueAge_eq hne hlen hcreated hnow', hages, mean_map_add hne']

/-- An issue that is two days old and one that is not there for another eleven hours are half a
day old, which is rounded up; the same written elsewhere and the other way round is the same, and
ten days later it is ten days more. -/
theorem issueAge_half_up_ahead :
    issueAge [⟨⟨2024, 5, 30⟩, 12, 0, 0, 0, some 0⟩, ⟨⟨2024, 6, 1⟩, 23, 0, 0, 0, some 0⟩]
        ⟨⟨2024, 6, 1⟩, 12, 0, 0, 0, some 0⟩ = .ok 1 ∧
      issueAge [⟨⟨2024, 6, 2⟩, 1, 0, 0, 0, some 7200000000⟩,
          ⟨⟨2024, 5, 30⟩, 7, 0, 0, 0, some (-18000000000)⟩]
        ⟨⟨2024, 6, 1⟩, 12, 0, 0, 0, some 0⟩ = .ok 1 ∧
      issueAge [⟨⟨2024, 5, 30⟩, 12, 0, 0, 0, some 0⟩, ⟨⟨2024, 6, 1⟩, 23, 0, 0, 0, some 0⟩]
        ⟨⟨2024, 6, 11⟩, 12, 0, 0, 0, some 0⟩ = .ok 11 := by
  obtain ⟨age, hage, hmean, -, hsame, hlater⟩ := @issueAge_half_up
    [⟨⟨2024, 5, 30⟩, 12, 0, 0, 0, some 0⟩, ⟨⟨2024, 6, 1⟩, 23, 0, 0, 0, some 0⟩]
    ⟨⟨2024, 6, 1⟩, 12, 0, 0, 0, some 0⟩ (by decide) (by decide) (by decide) (by decide)
  obtain rfl : age = 1 := hmean.trans (by decide)
  refine ⟨hage, hsame _ _ (by decide) (by decide) (by decide) rfl, hlater 10 _ ?_ ?_⟩
  · decide
  · decide

end Metrics

end PackageVitals
