import AdcFeed.Number.Ratio
import Mathlib.Algebra.Order.Field.Power
import Mathlib.Data.Rat.Cast.Order
import Mathlib.Tactic.FieldSimp
import Mathlib.Tactic.GCongr
import Mathlib.Tactic.Linarith
import Mathlib.Tactic.Positivity

/-!
Fractions as rational numbers, which is how everything about them is said. Main statements: scaling
multiplies by a power (`toRat_scaleTwo`, `toRat_scaleTen`), `round` finds the nearest whole number
(`isNearest_round`), which is unique and grows with the fraction (`IsNearest.mono`), and `log2`
finds the power of two below (`two_zpow_log2_le`).
-/

namespace AdcFeed

/-- The whole number is the one nearest to `q`; of two equally near ones it is the even one. -/
def IsNearest (q : ℚ) (n : ℕ) : Prop :=
  |q - n| < 1 / 2 ∨ |q - n| = 1 / 2 ∧ n % 2 = 0

namespace IsNearest

variable {q r : ℚ} {m n : ℕ}

theorem abs_sub_le (h : IsNearest q n) : |q - n| ≤ 1 / 2 := by
  rcases h with h | ⟨h, -⟩
  · exact h.le
  · exact h.le

theorem of_abs_sub_lt (h : |q - n| < 1 / 2) : IsNearest q n := .inl h

/-- A greater number has no smaller nearest whole number. -/
theorem mono (hm : IsNearest q m) (hn : IsNearest r n) (h : q ≤ r) : m ≤ n := by
  by_contra hlt
  have hstep : (n : ℚ) + 1 ≤ m := by exact_mod_cast Nat.lt_of_not_le hlt
  have hq := abs_le.1 hm.abs_sub_le
  have hr := abs_le.1 hn.abs_sub_le
  -- both are as far from their whole numbers as can be, and those are neighbours, so not both even
  have hqm : |q - m| = 1 / 2 := by
    rw [abs_of_nonpos (by linarith)]
    linarith
  have hrn : |r - n| = 1 / 2 := by
    rw [abs_of_nonneg (by linarith)]
    linarith
  have hmn : (m : ℚ) = n + 1 := by linarith
  have hmn : m = n + 1 := by exact_mod_cast hmn
  rcases hm with hm | ⟨-, hm⟩
  · linarith
  · rcases hn with hn | ⟨-, hn⟩
    · linarith
    · omega

theorem unique (hm : IsNearest q m) (hn : IsNearest q n) : m = n :=
  le_antisymm (hm.mono hn le_rfl) (hn.mono hm le_rfl)

end IsNearest

namespace Ratio

variable {x : Ratio}

/-- The rational number that a fraction is. -/
def toRat (x : Ratio) : ℚ := x.num / x.den

theorem toRat_nonneg (x : Ratio) : 0 ≤ x.toRat := by
  unfold toRat
  positivity

theorem toRat_pos (hn : x.num ≠ 0) (hd : 0 < x.den) : 0 < x.toRat := by
  unfold toRat
  positivity

theorem toRat_scaleTwo (x : Ratio) (e : ℤ) : (x.scaleTwo e).toRat = x.toRat * 2 ^ e := by
  have hpow : (2 : ℚ) ^ e = 2 ^ e.toNat / 2 ^ (-e).toNat := by
    rw [← zpow_natCast, ← zpow_natCast, ← zpow_sub₀ (by norm_num)]
    congr 1
    omega
  rw [hpow]
  simp only [toRat, scaleTwo, Nat.shiftLeft_eq, Nat.cast_mul, Nat.cast_pow, Nat.cast_ofNat]
  rw [mul_div_mul_comm]

theorem toRat_scaleTen (x : Ratio) (e : ℤ) : (x.scaleTen e).toRat = x.toRat * 10 ^ e := by
  have hpow : (10 : ℚ) ^ e = 10 ^ e.toNat / 10 ^ (-e).toNat := by
    rw [← zpow_natCast, ← zpow_natCast, ← zpow_sub₀ (by norm_num)]
    congr 1
    omega
  rw [hpow]
  simp only [toRat, scaleTen, Nat.pow_eq, Nat.cast_mul, Nat.cast_pow, Nat.cast_ofNat]
  rw [mul_div_mul_comm]

theorem den_scaleTwo_pos (hd : 0 < x.den) (e : ℤ) : 0 < (x.scaleTwo e).den := by
  simp only [scaleTwo, Nat.shiftLeft_eq]
  positivity

theorem den_scaleTen_pos (hd : 0 < x.den) (e : ℤ) : 0 < (x.scaleTen e).den := by
  simp only [scaleTen, Nat.pow_eq]
  positivity

/-! ## Rounding -/

/-- A fraction is its whole part and, over the same denominator, what the division leaves. -/
theorem toRat_eq_div_add_mod (hd : 0 < x.den) :
    x.toRat = (x.num / x.den : ℕ) + (x.num % x.den : ℕ) / (x.den : ℚ) := by
  have hden : (x.den : ℚ) ≠ 0 := by exact_mod_cast hd.ne'
  rw [toRat, eq_comm, eq_div_iff hden, add_mul, div_mul_cancel₀ _ hden]
  exact_mod_cast Nat.div_add_mod' x.num x.den

theorem isNearest_round (hd : 0 < x.den) : IsNearest x.toRat x.round := by
  have hden : (0 : ℚ) < x.den := by exact_mod_cast hd
  rw [toRat_eq_div_add_mod hd, round]
  generalize x.num / x.den = below
  have hlt := Nat.mod_lt x.num hd
  generalize x.num % x.den = excess at hlt
  rcases lt_trichotomy (2 * excess) x.den with hdown | hhalf | hup
  · have hexcess : (excess : ℚ) / x.den < 1 / 2 := by
      rw [div_lt_div_iff₀ hden (by norm_num)]
      exact_mod_cast (by omega : excess * 2 < 1 * x.den)
    rw [if_pos hdown]
    refine .of_abs_sub_lt ?_
    rwa [add_sub_cancel_left, abs_of_nonneg (by positivity)]
  · have hexcess : (excess : ℚ) / x.den = 1 / 2 := by
      rw [div_eq_div_iff hden.ne' (by norm_num)]
      exact_mod_cast (by omega : excess * 2 = 1 * x.den)
    rw [if_neg (by omega), if_neg (by omega), hexcess]
    refine .inr ⟨?_, by omega⟩
    rcases Nat.mod_two_eq_zero_or_one below with hb | hb
    · rw [hb, add_zero, add_sub_cancel_left]
      norm_num
    · rw [hb, Nat.cast_add, Nat.cast_one, add_sub_add_left_eq_sub]
      norm_num
  · have hexcess : 1 / 2 < (excess : ℚ) / x.den := by
      rw [div_lt_div_iff₀ (by norm_num) hden]
      exact_mod_cast (by omega : 1 * x.den < excess * 2)
    have hone : (excess : ℚ) / x.den < 1 := by
      rw [div_lt_one hden]
      exact_mod_cast hlt
    rw [if_neg (by omega), if_pos hup]
    refine .of_abs_sub_lt ?_
    rw [Nat.cast_add, Nat.cast_one, add_sub_add_left_eq_sub, abs_of_neg (by linarith)]
    linarith

/-- Every number that is not negative has a nearest whole number. -/
theorem exists_isNearest {q : ℚ} (h : 0 ≤ q) : ∃ n, IsNearest q n := by
  have hround := isNearest_round (x := ⟨q.num.toNat, q.den⟩) q.den_pos
  have hnum : ((q.num.toNat : ℕ) : ℚ) = (q.num : ℚ) := by
    exact_mod_cast Int.toNat_of_nonneg (Rat.num_nonneg.2 h)
  rw [toRat, hnum, Rat.num_div_den] at hround
  exact ⟨_, hround⟩

/-! ## The power of two below -/

theorem two_pow_le_iff {e : ℤ} (hd : 0 < x.den) :
    (x.scaleTwo (-e)).den ≤ (x.scaleTwo (-e)).num ↔ (2 : ℚ) ^ e ≤ x.toRat := by
  have hscaled := den_scaleTwo_pos hd (-e)
  have hden : (0 : ℚ) < (x.scaleTwo (-e)).den := by exact_mod_cast hscaled
  have hone : 1 ≤ (x.scaleTwo (-e)).toRat ↔ (x.scaleTwo (-e)).den ≤ (x.scaleTwo (-e)).num := by
    rw [toRat, one_le_div hden, Nat.cast_le]
  rw [← hone, toRat_scaleTwo, zpow_neg, ← div_eq_mul_inv, one_le_div (by positivity)]

/-- The sizes of numerator and denominator in binary digits leave two powers to choose from. -/
theorem toRat_mem_of_log2 (hn : x.num ≠ 0) (hd : 0 < x.den) :
    (2 : ℚ) ^ ((Nat.log2 x.num : ℤ) - Nat.log2 x.den - 1) ≤ x.toRat ∧
      x.toRat < 2 ^ ((Nat.log2 x.num : ℤ) - Nat.log2 x.den + 1) := by
  have hden : (0 : ℚ) < x.den := by exact_mod_cast hd
  constructor
  · have hpow : (2 : ℚ) ^ ((Nat.log2 x.num : ℤ) - Nat.log2 x.den - 1) =
        2 ^ Nat.log2 x.num / 2 ^ (Nat.log2 x.den + 1) := by
      rw [sub_sub, zpow_sub₀ (by norm_num), zpow_natCast]
      norm_cast
    have hnum : (2 : ℚ) ^ Nat.log2 x.num ≤ x.num := by exact_mod_cast Nat.log2_self_le hn
    have hlog : (x.den : ℚ) ≤ 2 ^ (Nat.log2 x.den + 1) := by exact_mod_cast Nat.lt_log2_self.le
    rw [hpow, toRat]
    gcongr
  · have hpow : (2 : ℚ) ^ ((Nat.log2 x.num : ℤ) - Nat.log2 x.den + 1) =
        2 ^ (Nat.log2 x.num + 1) / 2 ^ Nat.log2 x.den := by
      rw [sub_add_eq_add_sub, zpow_sub₀ (by norm_num), zpow_natCast]
      norm_cast
    have hnum : (x.num : ℚ) < 2 ^ (Nat.log2 x.num + 1) := by exact_mod_cast Nat.lt_log2_self
    have hlog : (2 : ℚ) ^ Nat.log2 x.den ≤ x.den := by exact_mod_cast Nat.log2_self_le hd.ne'
    rw [hpow, toRat]
    gcongr

/-- The power of two that `log2` finds is at most the fraction, and the next one is greater. -/
theorem two_zpow_log2_le (hn : x.num ≠ 0) (hd : 0 < x.den) :
    (2 : ℚ) ^ x.log2 ≤ x.toRat ∧ x.toRat < 2 ^ (x.log2 + 1) := by
  obtain ⟨hle, hlt⟩ := toRat_mem_of_log2 hn hd
  unfold log2
  dsimp only
  generalize (Nat.log2 x.num : ℤ) - Nat.log2 x.den = e at hle hlt
  by_cases hbelow : (x.scaleTwo (-e)).num < (x.scaleTwo (-e)).den
  · rw [if_pos hbelow, sub_add_cancel]
    refine ⟨hle, ?_⟩
    rw [← not_le, ← two_pow_le_iff hd]
    omega
  · rw [if_neg hbelow]
    exact ⟨(two_pow_le_iff hd).1 (by omega), hlt⟩

end Ratio

end AdcFeed
