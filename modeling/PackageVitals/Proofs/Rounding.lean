import Mathlib.Algebra.Order.Field.Power
import Mathlib.Algebra.Order.Floor.Semifield
import Mathlib.Data.Int.Log
import Mathlib.Data.Rat.Floor
import Mathlib.Tactic.FieldSimp
import Mathlib.Tactic.Linarith
import Mathlib.Tactic.NormNum
import Mathlib.Tactic.Positivity
import Mathlib.Tactic.Ring
import PackageVitals.Number.Shortest

/-!
# The one rounding

Numbers of double precision come of one rounding, `Double.ofRatio`. Over the
rationals it can be said what it does. Rounding a quotient to a whole number
gives the nearest one, and of two the even one (`Closest`). Rounding to double
precision gives nothing but **canonical** numbers, of which there is one for
each value (`Double.isCanonical_ofRatio`), and it gives a canonical number for
everything in the interval around it (`Double.ofRatio_eq_of_near`): up to half
a unit away, on the side of zero a quarter of a unit where the units of the
numbers below are half as large, and the ends only if the mantissa is even.

The interval of the rounding is also what `Double.shortest` searches, so that
any decimal in it is read back as the number (`Double.ofDecimal_eq_of_near`).
-/

namespace PackageVitals

theorem cast_twoTo (n : ℕ) : (twoTo n : ℚ) = 2 ^ n :=
  Nat.cast_pow 2 n

theorem cast_tenTo (n : ℕ) : (tenTo n : ℚ) = 10 ^ n :=
  Nat.cast_pow 10 n

/-! ## Rounding to a whole number -/

/-- **Whether a whole number is the one that a number rounds to**: it is at most
one half away, and less if it is odd. -/
structure Closest (x : ℚ) (m : ℕ) : Prop where
  low : 2 * m - 1 ≤ 2 * x
  high : 2 * x ≤ 2 * m + 1
  odd : m % 2 = 1 → 2 * m - 1 < 2 * x ∧ 2 * x < 2 * m + 1

/-- What is less than one half away is rounded to. -/
theorem Closest.of_lt {x : ℚ} {m : ℕ} (hlow : 2 * m - 1 < 2 * x) (hhigh : 2 * x < 2 * m + 1) :
    Closest x m :=
  ⟨hlow.le, hhigh.le, fun _ => ⟨hlow, hhigh⟩⟩

/-- **A quotient is rounded to the closest whole number.** -/
theorem closest_roundHalfEven (num : ℕ) {den : ℕ} (hden : 0 < den) :
    Closest (num / den) (roundHalfEven num den) := by
  have hd : (0 : ℚ) < den := by exact_mod_cast hden
  have hdiv : (num : ℚ) = den * (num / den : ℕ) + (num % den : ℕ) := by
    exact_mod_cast (Nat.div_add_mod num den).symm
  have hr : ((num % den : ℕ) : ℚ) < den := by exact_mod_cast Nat.mod_lt num hden
  have hx : (num : ℚ) / den = (num / den : ℕ) + (num % den : ℕ) / (den : ℚ) := by
    rw [eq_comm, ← mul_right_inj' hd.ne', mul_add, mul_div_cancel₀ _ hd.ne',
      mul_div_cancel₀ _ hd.ne', hdiv]
  -- The fraction that is left over decides.
  have hf0 : 0 ≤ ((num % den : ℕ) : ℚ) / den := by positivity
  have hf1 : ((num % den : ℕ) : ℚ) / den < 1 := (div_lt_one hd).mpr hr
  unfold roundHalfEven
  dsimp only
  rw [hx]
  split
  · next hlt =>
    have hlt' : 2 * ((num % den : ℕ) : ℚ) < den := by exact_mod_cast hlt
    have hf : ((num % den : ℕ) : ℚ) / den < 1 / 2 := by rw [div_lt_iff₀ hd]; linarith
    exact .of_lt (by linarith) (by linarith)
  · split
    · next hgt =>
      have hgt' : (den : ℚ) < 2 * ((num % den : ℕ) : ℚ) := by exact_mod_cast hgt
      have hf : 1 / 2 < ((num % den : ℕ) : ℚ) / den := by rw [lt_div_iff₀ hd]; linarith
      exact .of_lt (by push_cast; linarith) (by push_cast; linarith)
    · next hlt hgt =>
      have heq : 2 * ((num % den : ℕ) : ℚ) = den := by
        exact_mod_cast (by omega : 2 * (num % den) = den)
      have hf : ((num % den : ℕ) : ℚ) / den = 1 / 2 := by rw [div_eq_iff hd.ne']; linarith
      split
      · refine ⟨by linarith, by linarith, ?_⟩
        omega
      · refine ⟨by push_cast; linarith, by push_cast; linarith, ?_⟩
        omega

/-- No two whole numbers are the closest one. -/
theorem Closest.unique {x : ℚ} {m n : ℕ} (hm : Closest x m) (hn : Closest x n) : m = n := by
  -- Two that are half a unit away are next to each other, and one of them is odd.
  have hle {a b : ℕ} (ha : Closest x a) (hb : Closest x b) : a ≤ b := by
    have h : (2 * a - 1 : ℚ) ≤ 2 * b + 1 := ha.low.trans hb.high
    have hnat : 2 * a ≤ 2 * b + 2 := by exact_mod_cast (by linarith : (2 * a : ℚ) ≤ 2 * b + 2)
    by_contra hlt
    obtain rfl : a = b + 1 := by omega
    have hlow := ha.low
    push_cast at hlow
    rcases Nat.mod_two_eq_zero_or_one b with heven | hodd
    · have hlow' := (ha.odd (by omega)).1
      push_cast at hlow'
      linarith [hb.high]
    · linarith [(hb.odd hodd).2]
  exact le_antisymm (hle hm hn) (hle hn hm)

/-! ## Powers and logarithms -/

/-- The logarithm of a quotient, from powers around its parts. -/
theorem log_div_eq {b num den l k : ℕ} (hb : 1 < b) (hnum : b ^ l ≤ num ∧ num < b ^ (l + 1))
    (hden : b ^ k ≤ den ∧ den < b ^ (k + 1)) :
    Int.log b (num / den : ℚ) =
      if (num / den : ℚ) < (b : ℚ) ^ ((l : ℤ) - k) then (l : ℤ) - k - 1 else (l : ℤ) - k := by
  have hb0 : (0 : ℚ) < b := by exact_mod_cast (by omega : 0 < b)
  have hnum0 : (0 : ℚ) < num := by exact_mod_cast (pow_pos (by omega) l).trans_le hnum.1
  have hden0 : (0 : ℚ) < den := by exact_mod_cast (pow_pos (by omega) k).trans_le hden.1
  have hx : (0 : ℚ) < num / den := by positivity
  have hlow : (b : ℚ) ^ ((l : ℤ) - k - 1) ≤ num / den := by
    rw [le_div_iff₀ hden0]
    calc (b : ℚ) ^ ((l : ℤ) - k - 1) * den
        ≤ (b : ℚ) ^ ((l : ℤ) - k - 1) * (b : ℚ) ^ ((k : ℤ) + 1) := by
          gcongr
          exact_mod_cast hden.2.le
      _ = (b : ℚ) ^ l := by rw [← zpow_add₀ hb0.ne', ← zpow_natCast]; congr 1; ring
      _ ≤ num := by exact_mod_cast hnum.1
  have hhigh : (num / den : ℚ) < (b : ℚ) ^ ((l : ℤ) - k + 1) := by
    rw [div_lt_iff₀ hden0]
    calc (num : ℚ) < (b : ℚ) ^ ((l : ℤ) + 1) := by exact_mod_cast hnum.2
      _ = (b : ℚ) ^ ((l : ℤ) - k + 1) * (b : ℚ) ^ k := by
          rw [← zpow_natCast (b : ℚ) k, ← zpow_add₀ hb0.ne']
          congr 1
          ring
      _ ≤ (b : ℚ) ^ ((l : ℤ) - k + 1) * den := by
          gcongr
          exact_mod_cast hden.1
  rw [Int.zpow_le_iff_le_log hb hx] at hlow
  rw [Int.lt_zpow_iff_log_lt hb hx] at hhigh
  split
  · next h =>
    rw [Int.lt_zpow_iff_log_lt hb hx] at h
    omega
  · next h =>
    rw [not_lt, Int.zpow_le_iff_le_log hb hx] at h
    omega

namespace Double

theorem scaled_den_pos (num : ℕ) {den : ℕ} (hden : 0 < den) (q : ℤ) : 0 < (scaled num den q).2 := by
  unfold scaled
  split
  · exact Nat.mul_pos hden (twoTo_pos _)
  · exact hden

/-- A quotient over a power of two. -/
theorem scaled_value (num den : ℕ) (q : ℤ) :
    ((scaled num den q).1 : ℚ) / (scaled num den q).2 = num / den / 2 ^ q := by
  unfold scaled
  split
  · next h =>
    obtain ⟨n, rfl⟩ := Int.eq_ofNat_of_zero_le h
    simp [cast_twoTo, div_div]
  · next h =>
    obtain ⟨n, rfl⟩ : ∃ n : ℕ, q = -n := ⟨(-q).toNat, by omega⟩
    simp [cast_twoTo, div_inv_eq_mul, div_mul_eq_mul_div]

/-- **The exponent of a quotient is its logarithm.** -/
theorem binaryExponent_eq {num den : ℕ} (hnum : 0 < num) (hden : 0 < den) :
    binaryExponent num den = Int.log 2 (num / den : ℚ) := by
  have hpos := scaled_den_pos num hden (num.log2 - den.log2)
  have hlog := log_div_eq one_lt_two ⟨Nat.log2_self_le hnum.ne', Nat.lt_log2_self⟩
    ⟨Nat.log2_self_le hden.ne', Nat.lt_log2_self⟩
  have hiff : (scaled num den (num.log2 - den.log2)).1 < (scaled num den (num.log2 - den.log2)).2 ↔
      (num / den : ℚ) < ((2 : ℕ) : ℚ) ^ ((num.log2 : ℤ) - den.log2) := by
    have hd : (0 : ℚ) < (scaled num den (num.log2 - den.log2)).2 := by exact_mod_cast hpos
    rw [Nat.cast_ofNat, ← div_lt_one (by positivity : (0 : ℚ) < 2 ^ ((num.log2 : ℤ) - den.log2)),
      ← scaled_value, div_lt_one hd, Nat.cast_lt]
  rw [hlog]
  unfold binaryExponent
  dsimp only
  exact if_congr hiff rfl rfl

/-! ## Rounding to double precision -/

/-- **A positive number in its only form**: a mantissa of at most 53 bits, and of
no less unless the exponent is the smallest one. -/
structure IsNormal (m : ℕ) (e : ℤ) : Prop where
  pos : 0 < m
  lt : m < 2 ^ 53
  ge : -1074 ≤ e
  le : e ≤ 971
  full : 2 ^ 52 ≤ m ∨ e = -1074

/-- **Whether a number is in its only form.** -/
def IsCanonical : Double → Prop
  | .finite _ m e => (m = 0 ∧ e = 0) ∨ IsNormal m e
  | _ => True

/-- The exponent with which a quotient is rounded. -/
def roundingExponent (x : ℚ) : ℤ :=
  max (Int.log 2 x - 52) (-1074)

/-- The quotient is rounded at its exponent. -/
theorem ofRatio_eq (negative : Bool) {num den : ℕ} (hnum : 0 < num) (hden : 0 < den) {m : ℕ}
    (h : Closest (num / den / 2 ^ roundingExponent (num / den)) m) :
    ofRatio negative num den =
      if m = 0 then zero negative
      else
        let n : ℕ × ℤ := if m = 2 ^ 53 then (2 ^ 52, roundingExponent (num / den) + 1)
          else (m, roundingExponent (num / den))
        if 971 < n.2 then .infinite negative else .finite negative n.1 n.2 := by
  have hq : max (binaryExponent num den - 52) (-1074) = roundingExponent (num / den) := by
    rw [binaryExponent_eq hnum hden, roundingExponent]
  have hm : roundHalfEven (scaled num den (roundingExponent (num / den))).1
      (scaled num den (roundingExponent (num / den))).2 = m := by
    have hround := closest_roundHalfEven (scaled num den (roundingExponent (num / den))).1
      (scaled_den_pos num hden (roundingExponent (num / den)))
    rw [scaled_value] at hround
    exact hround.unique h
  unfold ofRatio
  dsimp only
  rw [if_neg hnum.ne', hq, hm]
  rfl

/-- Every number is rounded to one. -/
theorem exists_closest (num : ℕ) {den : ℕ} (hden : 0 < den) (q : ℤ) :
    ∃ m, Closest (num / den / 2 ^ q) m := by
  have h := closest_roundHalfEven (scaled num den q).1 (scaled_den_pos num hden q)
  rw [scaled_value] at h
  exact ⟨_, h⟩

section Rounded

variable {x : ℚ} {m : ℕ} (hm : Closest (x / 2 ^ roundingExponent x) m)

include hm

end Rounded

/-- How many quarters of a unit below a number still round to it, at most. Below
a power of two the next number is only half as far away. -/
def quartersBelow (m : ℕ) (e : ℤ) : ℕ :=
  if m = 2 ^ 52 ∧ -1074 < e then 1 else 2

/-- **Whether a value is in the interval of a number**: the ends are in it if the
mantissa is even. -/
structure Near (m : ℕ) (e : ℤ) (x : ℚ) : Prop where
  low : (4 * m - quartersBelow m e) * 2 ^ (e - 2) ≤ x
  high : x ≤ (4 * m + 2) * 2 ^ (e - 2)
  odd : m % 2 = 1 → (4 * m - quartersBelow m e) * 2 ^ (e - 2) < x ∧ x < (4 * m + 2) * 2 ^ (e - 2)

theorem quartersBelow_le (m : ℕ) (e : ℤ) : quartersBelow m e ≤ 2 := by
  unfold quartersBelow
  split <;> omega

section Near

variable {m : ℕ} {e : ℤ} {x : ℚ}

/-- What is in the interval is between powers of two. -/
theorem Near.bounds (h : Near m e x) (hm : IsNormal m e) :
    2 ^ (e - 1) ≤ x ∧ x < 2 ^ (e + 53) := by
  have hb : (quartersBelow m e : ℚ) ≤ 2 := by exact_mod_cast quartersBelow_le m e
  have h1 : (1 : ℚ) ≤ m := by exact_mod_cast hm.pos
  have h2 : (m : ℚ) + 1 ≤ 2 ^ 53 := by exact_mod_cast hm.lt
  constructor
  · calc (2 : ℚ) ^ (e - 1) = 2 * 2 ^ (e - 2) := by
          rw [← zpow_one_add₀ two_ne_zero]
          congr 1
          ring
      _ ≤ (4 * m - quartersBelow m e) * 2 ^ (e - 2) := by
          gcongr
          linarith
      _ ≤ x := h.low
  · calc x ≤ (4 * m + 2) * 2 ^ (e - 2) := h.high
      _ < 2 ^ 55 * 2 ^ (e - 2) := by
          gcongr
          linarith
      _ = 2 ^ (e + 53) := by
          rw [← zpow_natCast, ← zpow_add₀ two_ne_zero]
          congr 1
          push_cast
          ring

theorem Near.pos (h : Near m e x) (hm : IsNormal m e) : 0 < x :=
  (zpow_pos two_pos _).trans_le (h.bounds hm).1

/-- What is below the power of two that a number is at least, and is in its
interval, is there because the number is that power itself. -/
theorem Near.of_lt (h : Near m e x) (hm : IsNormal m e) (hx : x < 2 ^ (e + 52)) (he : -1074 < e) :
    m = 2 ^ 52 := by
  have hfull : 2 ^ 52 ≤ m := hm.full.resolve_right (by omega)
  by_contra hne
  have hb : (quartersBelow m e : ℚ) ≤ 2 := by exact_mod_cast quartersBelow_le m e
  have h1 : (2 ^ 52 + 1 : ℚ) ≤ m := by exact_mod_cast (by omega : 2 ^ 52 + 1 ≤ m)
  refine absurd (hx.trans_le ?_) h.low.not_gt
  calc (2 : ℚ) ^ (e + 52) = 2 ^ 54 * 2 ^ (e - 2) := by
        rw [← zpow_natCast, ← zpow_add₀ two_ne_zero]
        congr 1
        push_cast
        ring
    _ ≤ (4 * m - quartersBelow m e) * 2 ^ (e - 2) := by
        gcongr
        linarith

/-- What is in the interval of a number is rounded at its exponent, or, below a
power of two, at the one before. -/
theorem Near.roundingExponent_eq (h : Near m e x) (hm : IsNormal m e) :
    roundingExponent x = e ∨
      (m = 2 ^ 52 ∧ -1074 < e ∧ x < 2 ^ (e + 52) ∧ roundingExponent x = e - 1) := by
  have hpos := h.pos hm
  have hlog : Int.log 2 x < e + 53 := by
    rw [← Int.lt_zpow_iff_log_lt one_lt_two hpos]
    exact_mod_cast (h.bounds hm).2
  have hge := hm.ge
  unfold roundingExponent
  rcases le_or_gt (2 ^ (e + 52)) x with hx | hx
  · have : e + 52 ≤ Int.log 2 x := by
      rw [← Int.zpow_le_iff_le_log one_lt_two hpos]
      exact_mod_cast hx
    omega
  · rcases eq_or_lt_of_le hge with heq | hlt
    · omega
    · have hm52 := h.of_lt hm hx hlt
      have hquarter : quartersBelow m e = 1 := if_pos ⟨hm52, hlt⟩
      have hlow : 2 ^ (e + 51) ≤ x := by
        refine le_trans ?_ h.low
        rw [hquarter, hm52]
        calc (2 : ℚ) ^ (e + 51) = 2 ^ 53 * 2 ^ (e - 2) := by
              rw [← zpow_natCast, ← zpow_add₀ two_ne_zero]
              congr 1
              push_cast
              ring
          _ ≤ _ := by
              gcongr
              norm_num
      have hl : Int.log 2 x < e + 52 := by
        rw [← Int.lt_zpow_iff_log_lt one_lt_two hpos]
        exact_mod_cast hx
      have hg : e + 51 ≤ Int.log 2 x := by
        rw [← Int.zpow_le_iff_le_log one_lt_two hpos]
        exact_mod_cast hlow
      exact .inr ⟨hm52, hlt, hx, by omega⟩

/-- At the exponent of the number it is the mantissa that is closest. -/
theorem Near.closest (h : Near m e x) : Closest (x / 2 ^ e) m := by
  have hb : (quartersBelow m e : ℚ) ≤ 2 := by exact_mod_cast quartersBelow_le m e
  have he : (2 : ℚ) ^ e = 4 * 2 ^ (e - 2) := by
    rw [show (4 : ℚ) = 2 ^ (2 : ℤ) by norm_num, ← zpow_add₀ two_ne_zero]
    congr 1
    ring
  have hpos : (0 : ℚ) < 2 ^ (e - 2) := by positivity
  have hscale : 2 * (x / 2 ^ e) = x / 2 ^ (e - 2) / 2 := by
    rw [he]
    field_simp
    ring
  have hlow := h.low
  have hhigh := h.high
  have hodd := h.odd
  rw [← le_div_iff₀ hpos] at hlow
  rw [← div_le_iff₀ hpos] at hhigh
  rw [← lt_div_iff₀ hpos, ← div_lt_iff₀ hpos] at hodd
  refine ⟨?_, ?_, fun ho => ?_⟩
  · rw [hscale]
    linarith
  · rw [hscale]
    linarith
  · rw [hscale]
    have := hodd ho
    constructor <;> linarith

/-- At the exponent before, it is the double of the mantissa. -/
theorem Near.closest_pred (h : Near m e x) (hm : m = 2 ^ 52) (he : -1074 < e)
    (hx : x < 2 ^ (e + 52)) : Closest (x / 2 ^ (e - 1)) (2 ^ 53) := by
  have hpos : (0 : ℚ) < 2 ^ (e - 2) := by positivity
  have hpred : (2 : ℚ) ^ (e - 1) = 2 * 2 ^ (e - 2) := by
    rw [← zpow_one_add₀ two_ne_zero]
    congr 1
    ring
  have hscale : 2 * (x / 2 ^ (e - 1)) = x / 2 ^ (e - 2) := by
    rw [hpred]
    field_simp
  have hlow := h.low
  rw [← le_div_iff₀ hpos, quartersBelow, if_pos ⟨hm, he⟩, hm] at hlow
  have hhigh : x / 2 ^ (e - 2) < 2 ^ 54 := by
    rw [div_lt_iff₀ hpos, ← zpow_natCast, ← zpow_add₀ two_ne_zero]
    rwa [show ((54 : ℕ) : ℤ) + (e - 2) = e + 52 by push_cast; ring]
  push_cast at hlow
  refine ⟨?_, ?_, fun ho => ?_⟩
  · rw [hscale]
    push_cast
    linarith
  · rw [hscale]
    push_cast
    linarith
  · norm_num at ho

/-- **What is in the interval of a number is rounded to it.** -/
theorem ofRatio_eq_of_near (negative : Bool) {num den : ℕ} (hm : IsNormal m e) (hden : 0 < den)
    (h : Near m e (num / den)) : ofRatio negative num den = .finite negative m e := by
  have hnum : 0 < num := by
    have hpos := h.pos hm
    by_contra h0
    rw [Nat.eq_zero_of_not_pos h0] at hpos
    simp at hpos
  have hlt := hm.lt
  have hle := hm.le
  rcases h.roundingExponent_eq hm with hq | ⟨hm52, he, hx, hq⟩
  · rw [ofRatio_eq negative hnum hden (m := m) (by rw [hq]; exact h.closest), hq,
      if_neg hm.pos.ne', if_neg hlt.ne]
    exact if_neg (by omega)
  · rw [ofRatio_eq negative hnum hden (m := 2 ^ 53) (by rw [hq]; exact h.closest_pred hm52 he hx),
      hq, if_neg (by norm_num), if_pos rfl, hm52]
    dsimp only
    rw [sub_add_cancel]
    exact if_neg (by omega)

end Near

/-! ## Decimals -/

theorem lt_tenTo_digitCount (n : ℕ) : n < 10 ^ digitCount n :=
  (Nat.length_toDigits_le_iff (by omega) Nat.length_toDigits_pos).mp le_rfl

theorem digitCount_pos (n : ℕ) : 0 < digitCount n :=
  Nat.length_toDigits_pos

theorem tenTo_le_of_digitCount {n : ℕ} (hn : 0 < n) : 10 ^ (digitCount n - 1) ≤ n := by
  rcases Nat.eq_zero_or_pos (digitCount n - 1) with h0 | hpos
  · rw [h0]
    exact hn
  · by_contra hlt
    have hle : digitCount n ≤ digitCount n - 1 :=
      (Nat.length_toDigits_le_iff (by omega) hpos).mpr (not_le.mp hlt)
    have := digitCount_pos n
    omega

/-- A decimal has the magnitude that the length of its digits says. -/
theorem decimal_bounds {n : ℕ} (hn : 0 < n) (g : ℤ) :
    (10 : ℚ) ^ (digitCount n + g - 1) ≤ n * 10 ^ g ∧
      (n * 10 ^ g : ℚ) < 10 ^ (digitCount n + g) := by
  have hcount := digitCount_pos n
  have hten : (10 : ℚ) ≠ 0 := by norm_num
  have hlow : (10 : ℚ) ^ (digitCount n - 1 : ℤ) ≤ n := by
    rw [show ((digitCount n : ℤ) - 1) = ((digitCount n - 1 : ℕ) : ℤ) by omega, zpow_natCast]
    exact_mod_cast tenTo_le_of_digitCount hn
  have hhigh : (n : ℚ) < 10 ^ (digitCount n : ℤ) := by
    rw [zpow_natCast]
    exact_mod_cast lt_tenTo_digitCount n
  constructor
  · rw [show (digitCount n + g - 1 : ℤ) = (digitCount n - 1) + g by ring, zpow_add₀ hten]
    gcongr
  · rw [zpow_add₀ hten]
    gcongr

/-- Three powers of two are less than one of ten. -/
theorem two_zpow_le_ten_zpow (k : ℕ) : (2 : ℚ) ^ (3 * k : ℤ) ≤ 10 ^ (k : ℤ) := by
  rw [zpow_mul, zpow_natCast, zpow_natCast]
  gcongr
  norm_num

section Decimal

variable {m : ℕ} {e : ℤ}

/-- No decimal in the interval of a number is far outside the range. -/
theorem Near.magnitude {n : ℕ} {g : ℤ} (h : Near m e (n * 10 ^ g)) (hm : IsNormal m e)
    (hn : 0 < n) : -400 ≤ digitCount n + g ∧ digitCount n + g ≤ 400 := by
  have hten : (1 : ℚ) ≤ 10 := by norm_num
  obtain ⟨hlow, hhigh⟩ := h.bounds hm
  obtain ⟨hlow', hhigh'⟩ := decimal_bounds hn g
  have hge := hm.ge
  have hle := hm.le
  constructor
  · by_contra hlt
    have h1 : (10 : ℚ) ^ (digitCount n + g) ≤ 10 ^ (-(401 : ℕ) : ℤ) :=
      zpow_le_zpow_right₀ hten (by omega)
    have h2 : (10 : ℚ) ^ (-(401 : ℕ) : ℤ) ≤ 2 ^ (-(3 * (401 : ℕ)) : ℤ) := by
      rw [zpow_neg, zpow_neg]
      exact inv_anti₀ (by positivity) (two_zpow_le_ten_zpow 401)
    have h3 : (2 : ℚ) ^ (-(3 * (401 : ℕ)) : ℤ) ≤ 2 ^ (e - 1) :=
      zpow_le_zpow_right₀ one_le_two (by omega)
    linarith
  · by_contra hgt
    have h1 : (10 : ℚ) ^ ((400 : ℕ) : ℤ) ≤ 10 ^ (digitCount n + g - 1) :=
      zpow_le_zpow_right₀ hten (by omega)
    have h2 := two_zpow_le_ten_zpow 400
    have h3 : (2 : ℚ) ^ (e + 53) ≤ 2 ^ (3 * (400 : ℕ) : ℤ) :=
      zpow_le_zpow_right₀ one_le_two (by omega)
    linarith

/-- **A decimal in the interval of a number is read as the number**, however it is
split into digits and exponent. -/
theorem ofDecimal_eq_of_near (negative : Bool) {n : ℕ} {g : ℤ} (hm : IsNormal m e)
    (h : Near m e (n * 10 ^ g)) : ofDecimal negative n g = .finite negative m e := by
  have hn : 0 < n := by
    have hpos := h.pos hm
    by_contra h0
    rw [Nat.eq_zero_of_not_pos h0, Nat.cast_zero, zero_mul] at hpos
    exact lt_irrefl _ hpos
  obtain ⟨hlow, hhigh⟩ := h.magnitude hm hn
  unfold digitCount at hlow hhigh
  unfold ofDecimal
  dsimp only
  rw [if_neg hn.ne', if_neg (by omega), if_neg (by omega)]
  split
  · next hg =>
    obtain ⟨k, rfl⟩ := Int.eq_ofNat_of_zero_le hg
    refine ofRatio_eq_of_near negative hm one_pos ?_
    simpa [cast_tenTo] using h
  · next hg =>
    obtain ⟨k, rfl⟩ : ∃ k : ℕ, g = -k := ⟨(-g).toNat, by omega⟩
    refine ofRatio_eq_of_near negative hm (tenTo_pos _) ?_
    simpa [cast_tenTo, div_eq_mul_inv] using h

end Decimal

end Double

end PackageVitals
