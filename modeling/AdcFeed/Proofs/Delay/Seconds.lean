import AdcFeed.Delay
import AdcFeed.Proofs.Number.Binary64
import AdcFeed.Proofs.Number.Written

/-!
What becomes of a number of milliseconds on its way to a pause. `secondsOf` is the number of seconds
after its two roundings, were there no largest one. Main statements: a number is a pause exactly if
its seconds, with their sign, are not negative and fewer than two to the power 64, and the pause is
then the nearest whole number of nanoseconds (`delay?_decimal_eq_some_iff`); more milliseconds are
not fewer seconds (`secondsOf_mono`).
-/

namespace AdcFeed

open Binary64

/-! ## Powers of ten beside powers of two -/

theorem two_zpow_le_ten_zpow {e : ℤ} (h : 0 ≤ e) : (2 : ℚ) ^ (3 * e) ≤ 10 ^ e := by
  rw [zpow_mul]
  exact zpow_le_zpow_left₀ h (by norm_num) (by norm_num)

theorem ten_zpow_le_two_zpow {e : ℤ} (h : e ≤ 0) : (10 : ℚ) ^ e ≤ 2 ^ (3 * e) := by
  have hpos := two_zpow_le_ten_zpow (e := -e) (by omega)
  rw [mul_neg, zpow_neg, zpow_neg] at hpos
  exact (inv_le_inv₀ (by positivity) (by positivity)).1 hpos

/-! ## From the digits to the first rounding -/

/-- A number of milliseconds as a fraction. -/
def millis (digits : ℕ) (exponent : ℤ) : Ratio := ({ num := digits : Ratio }).scaleTen exponent

section Millis

variable {digits : ℕ} {exponent : ℤ}

theorem den_millis_pos (digits : ℕ) (exponent : ℤ) : 0 < (millis digits exponent).den :=
  Ratio.den_scaleTen_pos Nat.one_pos exponent

theorem toRat_millis (digits : ℕ) (exponent : ℤ) :
    (millis digits exponent).toRat = digits * 10 ^ exponent := by
  rw [millis, Ratio.toRat_scaleTen, Ratio.toRat, Nat.cast_one, div_one]

/-- What is at least ten to the power 400 is beyond double precision. -/
theorem le_nearest_millis (h : 10 ^ (400 : ℤ) ≤ (digits : ℚ) * 10 ^ exponent) :
    2 ^ (1024 : ℤ) ≤ (nearest (millis digits exponent)).toRat := by
  refine two_zpow_le_nearest (den_millis_pos _ _) (by norm_num) ?_
  rw [toRat_millis]
  calc (2 : ℚ) ^ (1024 : ℤ) ≤ 2 ^ (3 * 400 : ℤ) := zpow_le_zpow_right₀ (by norm_num) (by norm_num)
    _ ≤ 10 ^ (400 : ℤ) := two_zpow_le_ten_zpow (by norm_num)
    _ ≤ digits * 10 ^ exponent := h

/-- A power of ten that outweighs the binary digits leaves less than double precision tells from
zero. -/
theorem toRat_millis_lt (h : exponent + (Nat.log2 digits : ℤ) + 401 < 0) :
    (millis digits exponent).toRat < 2 ^ (-1075 : ℤ) := by
  have hlog : (digits : ℚ) < 2 ^ ((Nat.log2 digits : ℤ) + 1) := by
    exact_mod_cast Nat.lt_log2_self (n := digits)
  rw [toRat_millis]
  calc (digits : ℚ) * 10 ^ exponent
      < 2 ^ ((Nat.log2 digits : ℤ) + 1) * 10 ^ exponent := by gcongr
    _ ≤ 2 ^ ((Nat.log2 digits : ℤ) + 1) * 2 ^ (3 * exponent) := by
      gcongr
      exact ten_zpow_le_two_zpow (by omega)
    _ = 2 ^ ((Nat.log2 digits : ℤ) + 1 + 3 * exponent) := (zpow_add₀ (by norm_num) _ _).symm
    _ ≤ 2 ^ (-1075 : ℤ) := zpow_le_zpow_right₀ (by norm_num) (by omega)

theorem ofRatio?_millis_eq_none (h : 10 ^ (400 : ℤ) ≤ (digits : ℚ) * 10 ^ exponent) :
    ofRatio? (millis digits exponent) = none := by
  rw [Option.eq_none_iff_forall_ne_some]
  intro b hb
  have hlimit := ((ofRatio?_eq_some_iff (den_millis_pos _ _)).1 hb).2
  have hle : 2 ^ 1024 ≤ (nearest (millis digits exponent)).toRat := by
    exact_mod_cast le_nearest_millis h
  exact absurd hlimit (not_lt.2 hle)

theorem ofRatio?_millis_eq_zero (h : (millis digits exponent).toRat < 2 ^ (-1075 : ℤ)) :
    ofRatio? (millis digits exponent) = some zero := by
  rw [ofRatio?_eq_some_iff (den_millis_pos _ _), nearest_of_lt (den_millis_pos _ _) h, toRat_zero]
  exact ⟨rfl, by positivity⟩

/-- Powers of ten that are not worked out lead to the same magnitude as if they were. -/
theorem magnitude?_eq : Numeral.magnitude? digits exponent = ofRatio? (millis digits exponent) := by
  unfold Numeral.magnitude?
  by_cases hd : digits = 0
  · subst hd
    rw [if_pos rfl, millis, Ratio.scaleTen, ofRatio?, if_pos (Nat.zero_mul _)]
  · rw [if_neg hd]
    by_cases hlarge : 400 < exponent
    · have hone : (1 : ℚ) ≤ digits := by exact_mod_cast Nat.one_le_iff_ne_zero.2 hd
      rw [if_pos hlarge, ofRatio?_millis_eq_none]
      calc (10 : ℚ) ^ (400 : ℤ) ≤ 10 ^ exponent := zpow_le_zpow_right₀ (by norm_num) hlarge.le
        _ ≤ digits * 10 ^ exponent := le_mul_of_one_le_left (by positivity) hone
    · rw [if_neg hlarge]
      by_cases hsmall : exponent + (Nat.log2 digits : ℤ) + 401 < 0
      · rw [if_pos hsmall, ofRatio?_millis_eq_zero (toRat_millis_lt hsmall)]
      · rw [if_neg hsmall]
        rfl

/-! ## To the second rounding -/

/-- A thousandth of a magnitude as a fraction. -/
def thousandth (b : Binary64) : Ratio := { num := b.value.num, den := b.value.den * 1000 }

theorem den_thousandth_pos (b : Binary64) : 0 < (thousandth b).den :=
  Nat.mul_pos b.den_value_pos (by norm_num)

theorem toRat_thousandth (b : Binary64) : (thousandth b).toRat = b.toRat / 1000 := by
  rw [← toRat_value, thousandth, Ratio.toRat, Ratio.toRat, Nat.cast_mul, div_mul_eq_div_div]
  norm_num

/-- The seconds that so many milliseconds come to, rounded twice. -/
def secondsOf (digits : ℕ) (exponent : ℤ) : Binary64 :=
  nearest (thousandth (nearest (millis digits exponent)))

/-- More milliseconds are not fewer seconds. -/
theorem secondsOf_mono {digits' : ℕ} {exponent' : ℤ}
    (h : (digits : ℚ) * 10 ^ exponent ≤ digits' * 10 ^ exponent') :
    (secondsOf digits exponent).toRat ≤ (secondsOf digits' exponent').toRat := by
  have hmillis : (nearest (millis digits exponent)).toRat ≤
      (nearest (millis digits' exponent')).toRat := by
    refine nearest_mono (den_millis_pos _ _) (den_millis_pos _ _) ?_
    rwa [toRat_millis, toRat_millis]
  refine nearest_mono (den_thousandth_pos _) (den_thousandth_pos _) ?_
  rw [toRat_thousandth, toRat_thousandth]
  gcongr

theorem secondsOf_of_lt (h : (digits : ℚ) * 10 ^ exponent < 2 ^ (-1075 : ℤ)) :
    (secondsOf digits exponent).toRat = 0 := by
  rw [← toRat_millis] at h
  have hzero : (thousandth zero).toRat < 2 ^ (-1075 : ℤ) := by
    rw [toRat_thousandth, toRat_zero, zero_div]
    positivity
  rw [secondsOf, nearest_of_lt (den_millis_pos _ _) h, nearest_of_lt (den_thousandth_pos _) hzero,
    toRat_zero]

/-- What is at most ten to the power -400 comes to no seconds at all. -/
theorem secondsOf_of_le (h : (digits : ℚ) * 10 ^ exponent ≤ 10 ^ (-400 : ℤ)) :
    (secondsOf digits exponent).toRat = 0 := by
  refine secondsOf_of_lt (lt_of_le_of_lt h ?_)
  calc (10 : ℚ) ^ (-400 : ℤ) ≤ 2 ^ (3 * -400 : ℤ) := ten_zpow_le_two_zpow (by norm_num)
    _ < 2 ^ (-1075 : ℤ) := zpow_lt_zpow_right₀ (by norm_num) (by norm_num)

theorem secondsOf_zero (exponent : ℤ) : (secondsOf 0 exponent).toRat = 0 :=
  secondsOf_of_lt (by rw [Nat.cast_zero, zero_mul]; positivity)

/-- What is beyond double precision as a number of milliseconds is too many seconds. -/
theorem le_secondsOf_of_le_nearest (h : 2 ^ (1024 : ℤ) ≤ (nearest (millis digits exponent)).toRat) :
    2 ^ 64 ≤ (secondsOf digits exponent).toRat := by
  have hthousandth :
      (2 : ℚ) ^ (64 : ℤ) ≤ (thousandth (nearest (millis digits exponent))).toRat := by
    rw [toRat_thousandth, le_div_iff₀ (by norm_num)]
    calc (2 : ℚ) ^ (64 : ℤ) * 1000 ≤ 2 ^ (64 : ℤ) * 2 ^ (10 : ℤ) := by gcongr; norm_num
      _ = 2 ^ (74 : ℤ) := by rw [← zpow_add₀ (by norm_num)]; norm_num
      _ ≤ 2 ^ (1024 : ℤ) := zpow_le_zpow_right₀ (by norm_num) (by norm_num)
      _ ≤ (nearest (millis digits exponent)).toRat := h
  exact_mod_cast two_zpow_le_nearest (den_thousandth_pos _) (by norm_num) hthousandth

/-- What is at least ten to the power 400 comes to too many seconds. -/
theorem le_secondsOf_of_le (h : 10 ^ (400 : ℤ) ≤ (digits : ℚ) * 10 ^ exponent) :
    2 ^ 64 ≤ (secondsOf digits exponent).toRat :=
  le_secondsOf_of_le_nearest (le_nearest_millis h)

/-- Two roundings err by little more than two parts in two to the power 53. -/
theorem abs_secondsOf_sub_le (h : 2 ^ (-1000 : ℤ) ≤ (digits : ℚ) * 10 ^ exponent) :
    |(secondsOf digits exponent).toRat - digits * 10 ^ exponent / 1000| ≤
      digits * 10 ^ exponent / 1000 * (2 / 2 ^ 53 + 1 / 2 ^ 106) := by
  rw [← toRat_millis] at h ⊢
  have hmillis := abs_nearest_sub_le (den_millis_pos digits exponent)
    ((zpow_le_zpow_right₀ (by norm_num) (by norm_num)).trans h)
  have hlow := two_zpow_le_nearest (den_millis_pos digits exponent) (by norm_num) h
  rw [secondsOf]
  generalize nearest (millis digits exponent) = ms at hmillis hlow
  generalize (millis digits exponent).toRat = q at h hmillis
  have hthousandth : (2 : ℚ) ^ (-1022 : ℤ) ≤ (thousandth ms).toRat := by
    rw [toRat_thousandth, le_div_iff₀ (by norm_num)]
    calc (2 : ℚ) ^ (-1022 : ℤ) * 1000 ≤ 2 ^ (-1022 : ℤ) * 2 ^ (10 : ℤ) := by gcongr; norm_num
      _ = 2 ^ (-1012 : ℤ) := by rw [← zpow_add₀ (by norm_num)]; norm_num
      _ ≤ 2 ^ (-1000 : ℤ) := zpow_le_zpow_right₀ (by norm_num) (by norm_num)
      _ ≤ ms.toRat := hlow
  have hseconds := abs_nearest_sub_le (den_thousandth_pos ms) hthousandth
  rw [toRat_thousandth] at hseconds
  obtain ⟨hms, hms'⟩ := abs_le.1 hmillis
  obtain ⟨hs, hs'⟩ := abs_le.1 hseconds
  rw [abs_le]
  constructor <;> linarith

/-! ## To the pause -/

theorem secondsLimit_le_iff (b : Binary64) :
    secondsLimit * b.value.den ≤ b.value.num ↔ 2 ^ 64 ≤ b.toRat := by
  have hden : (0 : ℚ) < b.value.den := by exact_mod_cast b.den_value_pos
  have hlimit : secondsLimit = 2 ^ 64 := by decide
  rw [← toRat_value, Ratio.toRat, le_div_iff₀ hden, hlimit]
  norm_cast

theorem ofSeconds?_eq_some_iff {b : Binary64} {d : Duration} :
    Duration.ofSeconds? b = some d ↔
      b.toRat < 2 ^ 64 ∧ IsNearest (b.toRat * 10 ^ 9) d.nanoseconds := by
  have hround := Ratio.isNearest_round
    (x := { num := b.value.num * Duration.perSecond, den := b.value.den }) b.den_value_pos
  have hscaled : Ratio.toRat { num := b.value.num * Duration.perSecond, den := b.value.den } =
      b.toRat * 10 ^ 9 := by
    rw [← toRat_value, Ratio.toRat, Ratio.toRat, Duration.perSecond, Nat.cast_mul,
      mul_div_right_comm]
    norm_num
  rw [hscaled] at hround
  rw [Duration.ofSeconds?, ← not_le, ← secondsLimit_le_iff]
  by_cases hlimit : secondsLimit * b.value.den ≤ b.value.num
  · rw [if_pos hlimit]
    exact iff_of_false (by rintro ⟨⟩) fun h => h.1 hlimit
  · rw [if_neg hlimit, Option.some.injEq]
    refine ⟨?_, fun h => ?_⟩
    · rintro rfl
      exact ⟨hlimit, hround⟩
    · rw [hround.unique h.2]

/-- The steps from a number to a pause, each of which may find that there is none. -/
theorem delay?_steps {negative : Bool} {d : Duration} :
    (Numeral.decimal negative digits exponent).delay? = some d ↔
      ∃ ms, ofRatio? (millis digits exponent) = some ms ∧
        ∃ seconds, ofRatio? (thousandth ms) = some seconds ∧
          (negative → seconds.toRat = 0) ∧ Duration.ofSeconds? seconds = some d := by
  rw [Numeral.delay?, magnitude?_eq, Option.bind_eq_bind, Option.bind_eq_some_iff]
  refine exists_congr fun ms => and_congr_right fun _ => ?_
  rw [Option.bind_eq_bind, Option.bind_eq_some_iff]
  refine exists_congr fun seconds => and_congr_right fun _ => ?_
  rw [toRat_eq_zero_iff]
  by_cases hsign : negative ∧ seconds.significand ≠ 0
  · rw [if_pos hsign]
    exact iff_of_false (by rintro ⟨⟩) fun h => hsign.2 (h.1 hsign.1)
  · rw [if_neg hsign, and_iff_right]
    intro hnegative
    by_contra hne
    exact hsign ⟨hnegative, hne⟩

/-- **A number is a pause exactly if its seconds are none below zero and fewer than two to the power
64**, and then it is the whole number of nanoseconds nearest to them. -/
theorem delay?_decimal_eq_some_iff {negative : Bool} {d : Duration} :
    (Numeral.decimal negative digits exponent).delay? = some d ↔
      (negative → (secondsOf digits exponent).toRat = 0) ∧
        (secondsOf digits exponent).toRat < 2 ^ 64 ∧
        IsNearest ((secondsOf digits exponent).toRat * 10 ^ 9) d.nanoseconds := by
  simp only [delay?_steps, ofRatio?_eq_some_iff (den_millis_pos _ _),
    ofRatio?_eq_some_iff (den_thousandth_pos _), ofSeconds?_eq_some_iff]
  constructor
  · rintro ⟨_, ⟨rfl, -⟩, _, ⟨rfl, -⟩, h⟩
    exact h
  · intro h
    -- too many milliseconds for double precision would have been too many seconds
    have hmillis : (nearest (millis digits exponent)).toRat < 2 ^ 1024 := by
      by_contra hlimit
      refine absurd (le_secondsOf_of_le_nearest ?_) (not_le.2 h.2.1)
      exact_mod_cast not_lt.1 hlimit
    have hlimit : (2 : ℚ) ^ 64 < 2 ^ 1024 := pow_lt_pow_right₀ (by norm_num) (by norm_num)
    exact ⟨_, ⟨rfl, hmillis⟩, _, ⟨rfl, h.2.1.trans hlimit⟩, h⟩

/-- The pause depends on the seconds alone, and on those only below the limit. -/
theorem delay?_congr {digits' : ℕ} {exponent' : ℤ} (negative : Bool)
    (h : (secondsOf digits exponent).toRat = (secondsOf digits' exponent').toRat ∨
      2 ^ 64 ≤ (secondsOf digits exponent).toRat ∧ 2 ^ 64 ≤ (secondsOf digits' exponent').toRat) :
    (Numeral.decimal negative digits exponent).delay? =
      (Numeral.decimal negative digits' exponent').delay? := by
  refine Option.ext fun d => ?_
  rw [delay?_decimal_eq_some_iff, delay?_decimal_eq_some_iff]
  rcases h with h | ⟨h, h'⟩
  · rw [h]
  · exact iff_of_false (fun hd => absurd h (not_le.2 hd.2.1)) fun hd => absurd h' (not_le.2 hd.2.1)

end Millis

end AdcFeed
