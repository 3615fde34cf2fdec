import AdcFeed.Number.Binary64
import AdcFeed.Proofs.Number.Ratio
import Mathlib.Tactic.Ring

/-!
Rounding to double precision, said of rational numbers. `nearest` is the magnitude that a fraction
rounds to where none is too large. Main statements: rounding to double precision is this, up to the
limit (`ofRatio?_eq_some_iff`); it keeps the order (`nearest_mono`) and every power of two below
(`two_zpow_le_nearest`); and it errs by one part in two to the power 53, or less, where the
significand has its full length (`abs_nearest_sub_le`).
-/

namespace AdcFeed.Binary64

variable {x y : Ratio}

/-- The magnitude as a rational number. -/
def toRat (b : Binary64) : ℚ := b.significand * 2 ^ b.exponent

theorem toRat_nonneg (b : Binary64) : 0 ≤ b.toRat := by
  unfold toRat
  positivity

theorem toRat_zero : zero.toRat = 0 := by
  simp [toRat, zero]

theorem toRat_eq_zero_iff {b : Binary64} : b.toRat = 0 ↔ b.significand = 0 := by
  have hpow : (2 : ℚ) ^ b.exponent ≠ 0 := by positivity
  simp [toRat, hpow]

theorem toRat_value (b : Binary64) : b.value.toRat = b.toRat := by
  rw [value, Ratio.toRat_scaleTwo, Ratio.toRat, Nat.cast_one, div_one, toRat]

theorem den_value_pos (b : Binary64) : 0 < b.value.den :=
  Ratio.den_scaleTwo_pos Nat.one_pos _

/-! ## Rounding without a limit -/

/-- The exponent of the magnitudes around a fraction. -/
def spacing (x : Ratio) : ℤ := max (x.log2 - 52) leastExponent

theorem spacing_of_le (h : -1022 ≤ x.log2) : spacing x = x.log2 - 52 := by
  unfold spacing leastExponent
  omega

/-- The magnitude nearest to a fraction, however large. -/
def nearest (x : Ratio) : Binary64 :=
  if x.num = 0 then zero else ⟨(x.scaleTwo (-spacing x)).round, spacing x⟩

theorem nearest_of_num_eq_zero (h : x.num = 0) : nearest x = zero := by
  rw [nearest, if_pos h]

theorem exponent_nearest (h : x.num ≠ 0) : (nearest x).exponent = spacing x := by
  rw [nearest, if_neg h]

theorem isNearest_significand (hn : x.num ≠ 0) (hd : 0 < x.den) :
    IsNearest (x.toRat / 2 ^ spacing x) (nearest x).significand := by
  have h := Ratio.isNearest_round (Ratio.den_scaleTwo_pos hd (-spacing x))
  rw [Ratio.toRat_scaleTwo, zpow_neg, ← div_eq_mul_inv] at h
  rwa [nearest, if_neg hn]

/-- The significand has at most 53 binary digits, or is two to the power 53. -/
theorem significand_nearest_le (hn : x.num ≠ 0) (hd : 0 < x.den) :
    (nearest x).significand ≤ 2 ^ 53 := by
  have hnearest : IsNearest (2 ^ 53) (2 ^ 53) := .of_abs_sub_lt (by norm_num)
  refine (isNearest_significand hn hd).mono hnearest ?_
  rw [div_le_iff₀ (by positivity), ← zpow_natCast, ← zpow_add₀ (by norm_num)]
  refine (Ratio.two_zpow_log2_le hn hd).2.le.trans (zpow_le_zpow_right₀ (by norm_num) ?_)
  unfold spacing
  omega

/-- From two to the power -1022 on the significand has all its 53 binary digits. -/
theorem le_significand_nearest (hn : x.num ≠ 0) (hd : 0 < x.den) (hlog : -1022 ≤ x.log2) :
    2 ^ 52 ≤ (nearest x).significand := by
  have hnearest : IsNearest (2 ^ 52) (2 ^ 52) := .of_abs_sub_lt (by norm_num)
  refine hnearest.mono (isNearest_significand hn hd) ?_
  rw [le_div_iff₀ (by positivity), ← zpow_natCast, ← zpow_add₀ (by norm_num), spacing_of_le hlog]
  refine le_trans (zpow_le_zpow_right₀ (by norm_num) ?_) (Ratio.two_zpow_log2_le hn hd).1
  omega

theorem toRat_nearest_le (hn : x.num ≠ 0) (hd : 0 < x.den) :
    (nearest x).toRat ≤ 2 ^ (spacing x + 53) := by
  have hsignificand : ((nearest x).significand : ℚ) ≤ 2 ^ 53 := by
    exact_mod_cast significand_nearest_le hn hd
  rw [toRat, exponent_nearest hn, add_comm, zpow_add₀ (by norm_num)]
  gcongr
  exact_mod_cast hsignificand

theorem le_toRat_nearest (hn : x.num ≠ 0) (hd : 0 < x.den) (hlog : -1022 ≤ x.log2) :
    2 ^ x.log2 ≤ (nearest x).toRat := by
  have hsignificand : (2 ^ 52 : ℚ) ≤ (nearest x).significand := by
    exact_mod_cast le_significand_nearest hn hd hlog
  have hpow : (2 : ℚ) ^ x.log2 = 2 ^ 52 * 2 ^ spacing x := by
    rw [spacing_of_le hlog, ← zpow_natCast, ← zpow_add₀ (by norm_num)]
    congr 1
    omega
  rw [toRat, exponent_nearest hn, hpow]
  gcongr

/-! ## The limit -/

/-- Beyond 53 binary digits a magnitude reaches a power of two exactly if its numerator does. -/
theorem shiftLeft_le_num_iff (hn : x.num ≠ 0) (hd : 0 < x.den) {k : ℕ} (hk : 53 < k) :
    1 <<< k ≤ (nearest x).value.num ↔ 2 ^ k ≤ (nearest x).toRat := by
  have hnum : (nearest x).value.num = (nearest x).significand <<< (nearest x).exponent.toNat := rfl
  have hsignificand := significand_nearest_le hn hd
  generalize nearest x = b at hnum hsignificand
  rw [hnum, Nat.shiftLeft_eq, Nat.shiftLeft_eq, Nat.one_mul, toRat]
  rcases le_or_gt 0 b.exponent with he | he
  · obtain ⟨e, he⟩ := Int.eq_ofNat_of_zero_le he
    rw [he, Int.toNat_natCast, zpow_natCast]
    norm_cast
  · -- a negative exponent makes the magnitude less than its significand
    have hzero : b.exponent.toNat = 0 := by omega
    have hone : (2 : ℚ) ^ b.exponent ≤ 1 := zpow_le_one_of_nonpos₀ (by norm_num) he.le
    have hcast : (b.significand : ℚ) ≤ 2 ^ 53 := by exact_mod_cast hsignificand
    have hlt : (2 : ℚ) ^ 53 < 2 ^ k := pow_lt_pow_right₀ (by norm_num) hk
    rw [hzero, pow_zero, mul_one]
    refine iff_of_false ?_ ?_
    · exact not_le.2 (hsignificand.trans_lt (Nat.pow_lt_pow_right (by norm_num) hk))
    · refine not_le.2 (lt_of_le_of_lt ?_ hlt)
      calc (b.significand : ℚ) * 2 ^ b.exponent ≤ 2 ^ 53 * 1 := by gcongr
        _ = 2 ^ 53 := mul_one _

/-- Rounding to double precision is rounding without a limit, unless that comes to the limit. -/
theorem ofRatio?_eq_some_iff (hd : 0 < x.den) {b : Binary64} :
    ofRatio? x = some b ↔ b = nearest x ∧ (nearest x).toRat < 2 ^ 1024 := by
  by_cases hn : x.num = 0
  · rw [ofRatio?, if_pos hn, nearest_of_num_eq_zero hn, toRat_zero]
    simp [eq_comm]
  · have hnearest : ofRatio? x =
        if 1 <<< 1024 ≤ (nearest x).value.num then none else some (nearest x) := by
      rw [ofRatio?, if_neg hn, nearest, if_neg hn]
      rfl
    rw [hnearest, ← not_le, ← shiftLeft_le_num_iff hn hd (by norm_num)]
    by_cases hlimit : 1 <<< 1024 ≤ (nearest x).value.num
    · rw [if_pos hlimit]
      exact iff_of_false (by rintro ⟨⟩) fun h => h.2 hlimit
    · rw [if_neg hlimit, Option.some.injEq, eq_comm]
      exact (and_iff_left hlimit).symm

/-! ## Order -/

theorem log2_mono (hx : x.num ≠ 0) (hy : y.num ≠ 0) (hdx : 0 < x.den) (hdy : 0 < y.den)
    (h : x.toRat ≤ y.toRat) : x.log2 ≤ y.log2 := by
  have hpow : (2 : ℚ) ^ x.log2 < 2 ^ (y.log2 + 1) :=
    calc (2 : ℚ) ^ x.log2 ≤ x.toRat := (Ratio.two_zpow_log2_le hx hdx).1
      _ ≤ y.toRat := h
      _ < 2 ^ (y.log2 + 1) := (Ratio.two_zpow_log2_le hy hdy).2
  exact Int.lt_add_one_iff.1 ((zpow_lt_zpow_iff_right₀ (by norm_num)).1 hpow)

/-- Of two fractions the greater one does not round to less. -/
theorem nearest_mono (hdx : 0 < x.den) (hdy : 0 < y.den) (h : x.toRat ≤ y.toRat) :
    (nearest x).toRat ≤ (nearest y).toRat := by
  by_cases hx : x.num = 0
  · rw [nearest_of_num_eq_zero hx, toRat_zero]
    exact toRat_nonneg _
  · have hy : y.num ≠ 0 := by
      intro hy
      have hpos := Ratio.toRat_pos hx hdx
      have hzero : y.toRat = 0 := by simp [Ratio.toRat, hy]
      linarith
    have hlog := log2_mono hx hy hdx hdy h
    have hspacing : spacing x ≤ spacing y := max_le_max_right _ (by omega)
    rcases eq_or_lt_of_le hspacing with he | he
    · -- magnitudes that are equally far apart: the significands are in order
      have hsignificand : (nearest x).significand ≤ (nearest y).significand := by
        refine (isNearest_significand hx hdx).mono (isNearest_significand hy hdy) ?_
        rw [he]
        gcongr
      rw [toRat, toRat, exponent_nearest hx, exponent_nearest hy, he]
      gcongr
    · -- the power of two at which the spacing changes lies between them
      have hleast : leastExponent ≤ spacing x := le_max_right _ _
      have hlast : -1022 ≤ y.log2 := by
        unfold spacing leastExponent at *
        omega
      calc (nearest x).toRat ≤ 2 ^ (spacing x + 53) := toRat_nearest_le hx hdx
        _ ≤ 2 ^ y.log2 := by
          rw [spacing_of_le hlast] at he
          exact zpow_le_zpow_right₀ (by norm_num) (by omega)
        _ ≤ (nearest y).toRat := le_toRat_nearest hy hdy hlast

theorem num_ne_zero_of_zpow_le {k : ℤ} (h : 2 ^ k ≤ x.toRat) : x.num ≠ 0 := by
  intro hn
  have hpos : (0 : ℚ) < 2 ^ k := by positivity
  have hzero : x.toRat = 0 := by simp [Ratio.toRat, hn]
  linarith

theorem le_log2_of_zpow_le {k : ℤ} (hd : 0 < x.den) (h : 2 ^ k ≤ x.toRat) : k ≤ x.log2 := by
  have hlt := h.trans_lt (Ratio.two_zpow_log2_le (num_ne_zero_of_zpow_le h) hd).2
  exact Int.lt_add_one_iff.1 ((zpow_lt_zpow_iff_right₀ (by norm_num)).1 hlt)

/-- Powers of two are magnitudes, so what is at least one of them does not round to less. -/
theorem two_zpow_le_nearest {k : ℤ} (hd : 0 < x.den) (hk : -1022 ≤ k) (h : 2 ^ k ≤ x.toRat) :
    2 ^ k ≤ (nearest x).toRat := by
  have hlog := le_log2_of_zpow_le hd h
  calc (2 : ℚ) ^ k ≤ 2 ^ x.log2 := zpow_le_zpow_right₀ (by norm_num) hlog
    _ ≤ (nearest x).toRat := le_toRat_nearest (num_ne_zero_of_zpow_le h) hd (hk.trans hlog)

/-- What is less than half of the smallest magnitude rounds to zero. -/
theorem nearest_of_lt (hd : 0 < x.den) (h : x.toRat < 2 ^ (-1075 : ℤ)) : nearest x = zero := by
  by_cases hn : x.num = 0
  · exact nearest_of_num_eq_zero hn
  · have hlog : x.log2 < -1075 :=
      (zpow_lt_zpow_iff_right₀ (by norm_num)).1 ((Ratio.two_zpow_log2_le hn hd).1.trans_lt h)
    have hspacing : spacing x = -1074 := by
      unfold spacing leastExponent
      omega
    have hsignificand := isNearest_significand hn hd
    have hzero : IsNearest (x.toRat / 2 ^ spacing x) 0 := by
      refine .of_abs_sub_lt ?_
      have hnonneg := x.toRat_nonneg
      rw [Nat.cast_zero, sub_zero, abs_of_nonneg (by positivity), div_lt_iff₀ (by positivity),
        hspacing]
      calc x.toRat < 2 ^ (-1075 : ℤ) := h
        _ = 1 / 2 * 2 ^ (-1074 : ℤ) := by
          rw [one_div, ← zpow_neg_one, ← zpow_add₀ (by norm_num)]
          norm_num
    have hzero := hsignificand.unique hzero
    rw [nearest, if_neg hn] at hzero ⊢
    rw [zero, Binary64.mk.injEq]
    exact ⟨hzero, hspacing⟩

/-! ## The error -/

/-- Where the significand has its full length the error is at most half of its last digit. -/
theorem abs_nearest_sub_le (hd : 0 < x.den) (h : 2 ^ (-1022 : ℤ) ≤ x.toRat) :
    |(nearest x).toRat - x.toRat| ≤ x.toRat / 2 ^ 53 := by
  have hn := num_ne_zero_of_zpow_le h
  have hlog := le_log2_of_zpow_le hd h
  have hpos : (0 : ℚ) < 2 ^ spacing x := by positivity
  have hsplit : (nearest x).toRat - x.toRat =
      -(x.toRat / 2 ^ spacing x - (nearest x).significand) * 2 ^ spacing x := by
    rw [toRat, exponent_nearest hn]
    field_simp
    ring
  have hhalf : (2 : ℚ) ^ spacing x / 2 = 2 ^ x.log2 / 2 ^ 53 := by
    rw [spacing_of_le hlog, ← zpow_natCast, ← zpow_sub₀ (by norm_num),
      div_eq_iff (by norm_num), ← zpow_add_one₀ (by norm_num)]
    congr 1
    omega
  calc |(nearest x).toRat - x.toRat|
      = |x.toRat / 2 ^ spacing x - (nearest x).significand| * 2 ^ spacing x := by
        rw [hsplit, abs_mul, abs_neg, abs_of_pos hpos]
    _ ≤ 1 / 2 * 2 ^ spacing x := by
        gcongr
        exact (isNearest_significand hn hd).abs_sub_le
    _ = 2 ^ x.log2 / 2 ^ 53 := by rw [← hhalf]; ring
    _ ≤ x.toRat / 2 ^ 53 := by
        gcongr
        exact (Ratio.two_zpow_log2_le hn hd).1

end AdcFeed.Binary64
