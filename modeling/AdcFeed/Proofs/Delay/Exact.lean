import AdcFeed.Proofs.Delay.Order

/-!
Pauses of a whole number of nanoseconds. A number of milliseconds with six decimal places is rounded
twice in double precision before its nanoseconds are counted. Main statements: the two errors
together are a fraction of the value (`abs_seconds_sub_le`), less than half a nanosecond up to two
million seconds (`abs_seconds_sub_lt`); so however such a number is spelled, it is a pause of just
as many nanoseconds, but for powers of ten that are misread (`readMillis_nanoseconds_iff`).
-/

namespace AdcFeed.WrittenNumber

variable {w : WrittenNumber} {k : ℕ}

/-- The seconds are off by little more than two parts in two to the power 53. -/
theorem abs_seconds_sub_le (h : 2 ^ (-1000 : ℤ) ≤ w.magnitude) :
    |w.seconds - w.value / 1000| ≤ w.magnitude / 1000 * (2 / 2 ^ 53 + 1 / 2 ^ 106) := by
  have herror := abs_secondsOf_sub_le h
  rw [seconds, value]
  by_cases hs : w.sign.isMinus
  · rw [if_pos hs, if_pos hs, neg_div, neg_sub_neg, abs_sub_comm]
    exact herror
  · rw [if_neg hs, if_neg hs]
    exact herror

theorem magnitude_of_value_eq (h : w.value = k / 10 ^ 6) : w.magnitude = k / 10 ^ 6 := by
  rw [← abs_value, h, abs_of_nonneg (by positivity)]

theorem le_magnitude_of_value_eq (h : w.value = k / 10 ^ 6) (hk : k ≠ 0) :
    10 ^ (-6 : ℤ) ≤ w.magnitude := by
  have hone : (1 : ℚ) ≤ k := by exact_mod_cast Nat.one_le_iff_ne_zero.2 hk
  rw [magnitude_of_value_eq h]
  calc (10 : ℚ) ^ (-6 : ℤ) = 1 / 10 ^ 6 := by norm_num
    _ ≤ k / 10 ^ 6 := by gcongr

/-- Up to two million seconds the errors are too small to reach another nanosecond. -/
theorem abs_seconds_sub_lt (h : w.value = k / 10 ^ 6) (hk : k ≤ 2 * 10 ^ 15) :
    |w.seconds * 10 ^ 9 - k| < 1 / 2 := by
  by_cases hzero : k = 0
  · have hvalue : w.value = 0 := by rw [h, hzero, Nat.cast_zero, zero_div]
    rw [seconds_of_value_eq_zero hvalue, hzero]
    norm_num
  · have hpow : (2 : ℚ) ^ (-1000 : ℤ) ≤ 10 ^ (-6 : ℤ) := by
      calc (2 : ℚ) ^ (-1000 : ℤ) ≤ 2 ^ (-20 : ℤ) := zpow_le_zpow_right₀ (by norm_num) (by norm_num)
        _ ≤ 10 ^ (-6 : ℤ) := by norm_num
    have herror := abs_seconds_sub_le (hpow.trans (le_magnitude_of_value_eq h hzero))
    rw [h, magnitude_of_value_eq h] at herror
    have hk' : (k : ℚ) ≤ 2 * 10 ^ 15 := by exact_mod_cast hk
    obtain ⟨hlow, hhigh⟩ := abs_le.1 herror
    rw [abs_lt]
    constructor <;> linarith

/-- What is read rightly is a pause of just as many nanoseconds. -/
theorem readMillis_of_value_eq (h : w.value = k / 10 ^ 6) (hk : k ≤ 2 * 10 ^ 15)
    (hw : w.IsModerate) : Duration.readMillis w.text = .ok ⟨k⟩ := by
  have hnear := abs_seconds_sub_lt h hk
  have hk' : (k : ℚ) ≤ 2 * 10 ^ 15 := by exact_mod_cast hk
  have hlimit : w.seconds < 2 ^ 64 := by
    have := (abs_lt.1 hnear).2
    linarith
  refine (readMillis_eq_ok_iff hw).2 ⟨seconds_nonneg ?_, hlimit, .of_abs_sub_lt hnear⟩
  rw [h]
  positivity

/-- What needs a power of ten that is misread is no pause of as many nanoseconds. -/
theorem readMillis_ne_of_value_eq (h : w.value = k / 10 ^ 6) (hk : k ≤ 2 * 10 ^ 15) (hzero : k ≠ 0)
    (he : 655360 ≤ w.exponent.natAbs) : Duration.readMillis w.text ≠ .ok ⟨k⟩ := by
  intro hok
  have hle := le_magnitude_of_value_eq h hzero
  have hk' : (k : ℚ) ≤ 2 * 10 ^ 15 := by exact_mod_cast hk
  rcases (by omega : 655360 ≤ w.exponent ∨ w.exponent ≤ -655360) with he | he
  · have hm : w.magnitude ≤ 10 ^ (400 : ℤ) := by
      calc w.magnitude = k / 10 ^ 6 := magnitude_of_value_eq h
        _ ≤ 2 * 10 ^ 15 / 10 ^ 6 := by gcongr
        _ ≤ 10 ^ (10 : ℤ) := by norm_num
        _ ≤ 10 ^ (400 : ℤ) := zpow_le_zpow_right₀ (by norm_num) (by norm_num)
    rw [readMillis_of_le_exponent he hm] at hok
    cases hok
    exact hzero rfl
  · have hm : 10 ^ (-400 : ℤ) ≤ w.magnitude :=
      (zpow_le_zpow_right₀ (by norm_num) (by norm_num)).trans hle
    rw [readMillis_of_exponent_le he hm] at hok
    cases hok

/-- **Pauses of whole nanoseconds are exact.** What is read as a decimal number is a written one. If
that comes to a whole number of nanoseconds, two million seconds at most, it is a pause of just as
many, unless it is not zero and its power of ten is 655360 or more, or -655360 or less. -/
theorem readMillis_nanoseconds_iff :
    (∀ text, (∃ negative digits exponent,
        Numeral.read? text = some (.decimal negative digits exponent)) ↔
      ∃ w : WrittenNumber, w.text = text) ∧
    ∀ (w : WrittenNumber) (k : ℕ), w.value = k / 10 ^ 6 → k ≤ 2 * 10 ^ 15 →
      (Duration.readMillis w.text = .ok ⟨k⟩ ↔ k = 0 ∨ w.exponent.natAbs < 655360) := by
  refine ⟨fun text => exists_read?_eq_iff, fun w k h hk => ⟨fun hok => ?_, fun hw => ?_⟩⟩
  · by_contra hw
    rw [not_or, not_lt] at hw
    exact readMillis_ne_of_value_eq h hk hw.1 hw.2 hok
  · refine readMillis_of_value_eq h hk ?_
    rcases hw with rfl | hw
    · have hzero := magnitude_of_value_eq h
      rw [Nat.cast_zero, zero_div] at hzero
      exact .inr (.inr hzero)
    · exact .inl hw

/-- The milliseconds of two million seconds less a nanosecond, with the point far to the left. -/
def nearlyTwoMillion : WrittenNumber :=
  ⟨.none, ['0'], some "01999999999999999".toList,
    some ⟨'E', .plus, ['0', '1', '1'], .inr rfl, by decide⟩, by decide⟩

theorem readMillis_nanoseconds_nearlyTwoMillion :
    nearlyTwoMillion.value = (1999999999999999 : ℕ) / 10 ^ 6 ∧
      1999999999999999 ≤ 2 * 10 ^ 15 ∧ nearlyTwoMillion.exponent.natAbs < 655360 ∧
      Duration.readMillis nearlyTwoMillion.text = .ok ⟨1999999999999999⟩ := by
  have hvalue : nearlyTwoMillion.value = (1999999999999999 : ℕ) / 10 ^ 6 := by
    have hplaces : nearlyTwoMillion.value = (1999999999999999 : ℕ) * 10 ^ (-6 : ℤ) :=
      nearlyTwoMillion.value_eq rfl rfl rfl
    rw [hplaces]
    norm_num
  have hbound : 1999999999999999 ≤ 2 * 10 ^ 15 := by norm_num
  have hexponent : nearlyTwoMillion.exponent.natAbs < 655360 := by decide
  obtain ⟨-, hexact⟩ := readMillis_nanoseconds_iff
  exact ⟨hvalue, hbound, hexponent, (hexact _ _ hvalue hbound).2 (.inr hexponent)⟩

/-- A hundred milliseconds are a whole number of nanoseconds, and may be no pause of as many. -/
theorem readMillis_farHundred_inexact :
    farHundred.value = (100000000 : ℕ) / 10 ^ 6 ∧
      Duration.readMillis farHundred.text = .ok ⟨0⟩ := by
  refine ⟨?_, readMillis_farHundred⟩
  rw [value_farHundred]
  norm_num

end AdcFeed.WrittenNumber
