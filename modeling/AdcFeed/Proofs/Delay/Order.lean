import AdcFeed.Proofs.Delay.Seconds

/-!
Pauses in the order of the numbers they are written as. `seconds` is what a written number comes to
in seconds, its sign included. Main statements: the seconds decide whether a number is a pause, and
which (`readMillis_eq_ok_iff`), and they grow with the value (`seconds_mono`); so the values that
are pauses form an interval, and a greater value is no shorter pause (`readMillis_interval`).

A power of ten of 655360 or more is read as too small a one. That goes unnoticed unless there are
digits enough to balance it: `IsModerate` leaves such numbers out, and what is read of them is said
in `readMillis_of_le_exponent` and `readMillis_of_exponent_le`.
-/

namespace AdcFeed.WrittenNumber

variable (w : WrittenNumber)

/-- The power of ten is less than 655360, or there are too few digits to balance it, or they are all
zeros. -/
def IsModerate : Prop :=
  w.exponent.natAbs < 655360 ∨ w.digits.length ≤ 65000 ∨ w.magnitude = 0

/-- The seconds that the number of milliseconds comes to, before the limit and the last rounding. -/
def seconds : ℚ :=
  if w.sign.isMinus then -(secondsOf (decimalValue w.digits) w.lastPlace).toRat
  else (secondsOf (decimalValue w.digits) w.lastPlace).toRat

/-! ## Values -/

theorem isDigit_digits : ∀ c ∈ w.digits, c.isDigit := w.isDecimal.isDigit

theorem magnitude_nonneg : 0 ≤ w.magnitude := by
  unfold magnitude
  positivity

theorem magnitude_eq_zero_iff : w.magnitude = 0 ↔ decimalValue w.digits = 0 := by
  have hpow : (10 : ℚ) ^ w.lastPlace ≠ 0 := by positivity
  simp [magnitude, hpow]

theorem abs_value : |w.value| = w.magnitude := by
  rw [value]
  split
  · rw [abs_neg, abs_of_nonneg w.magnitude_nonneg]
  · rw [abs_of_nonneg w.magnitude_nonneg]

/-- Without a minus sign the value is what the digits say, shifted to the last place. -/
theorem value_eq {digits : ℕ} {place : ℤ} (hs : w.sign.isMinus = false)
    (hd : decimalValue w.digits = digits) (hp : w.lastPlace = place) :
    w.value = digits * 10 ^ place := by
  rw [value, hs, if_neg Bool.false_ne_true, magnitude, hd, hp]

/-- What the digits say at the place that is read. -/
theorem mul_zpow_readExponent :
    (decimalValue w.digits : ℚ) * 10 ^ (w.readExponent - (w.part.getD []).length) =
      w.magnitude * 10 ^ (w.readExponent - w.exponent) := by
  rw [magnitude, lastPlace, mul_assoc, ← zpow_add₀ (by norm_num)]
  congr 2
  omega

/-! ## What is read -/

theorem readMillis_text :
    Duration.readMillis w.text = w.numeral.delay?.elim (.error (.outOfRange w.text)) .ok := by
  simp only [Duration.readMillis, w.read?_text]
  cases w.numeral.delay? <;> rfl

theorem readMillis_text_eq_ok_iff {d : Duration} :
    Duration.readMillis w.text = .ok d ↔ w.numeral.delay? = some d := by
  rw [readMillis_text]
  cases w.numeral.delay? <;> simp

/-- A decimal number that is no pause is refused as one, not as no number. -/
theorem readMillis_text_cases :
    (∃ d, Duration.readMillis w.text = .ok d) ∨
      Duration.readMillis w.text = .error (.outOfRange w.text) := by
  rw [readMillis_text]
  cases w.numeral.delay? with
  | none => exact .inr rfl
  | some d => exact .inl ⟨d, rfl⟩

/-! ## Powers of ten that are misread -/

variable {w}

/-- Of a number that needs a power of ten from 655360 on to be of any size nothing is left. -/
theorem readMillis_of_le_exponent (he : 655360 ≤ w.exponent)
    (hm : w.magnitude ≤ 10 ^ (400 : ℤ)) : Duration.readMillis w.text = .ok ⟨0⟩ := by
  obtain ⟨-, hread⟩ : 65536 ≤ w.readExponent ∧ 10 * w.readExponent ≤ w.exponent := by
    have := w.readExponent_cases
    omega
  have hzero : (secondsOf (decimalValue w.digits)
      (w.readExponent - (w.part.getD []).length)).toRat = 0 := by
    refine secondsOf_of_le ?_
    calc (decimalValue w.digits : ℚ) * 10 ^ (w.readExponent - (w.part.getD []).length)
        = w.magnitude * 10 ^ (w.readExponent - w.exponent) := w.mul_zpow_readExponent
      _ ≤ 10 ^ (400 : ℤ) * 10 ^ (w.readExponent - w.exponent) := by gcongr
      _ = 10 ^ (400 + (w.readExponent - w.exponent)) := (zpow_add₀ (by norm_num) _ _).symm
      _ ≤ 10 ^ (-400 : ℤ) := zpow_le_zpow_right₀ (by norm_num) (by omega)
  rw [readMillis_text_eq_ok_iff, numeral, delay?_decimal_eq_some_iff, hzero]
  exact ⟨fun _ => rfl, by norm_num, .of_abs_sub_lt (by norm_num)⟩

/-- A number that a power of ten down to -655360 keeps from being too large is refused. -/
theorem readMillis_of_exponent_le (he : w.exponent ≤ -655360)
    (hm : 10 ^ (-400 : ℤ) ≤ w.magnitude) :
    Duration.readMillis w.text = .error (.outOfRange w.text) := by
  obtain ⟨-, hread⟩ : w.readExponent ≤ -65536 ∧ w.exponent ≤ 10 * w.readExponent := by
    have := w.readExponent_cases
    omega
  have hlimit : 2 ^ 64 ≤ (secondsOf (decimalValue w.digits)
      (w.readExponent - (w.part.getD []).length)).toRat := by
    refine le_secondsOf_of_le ?_
    calc (10 : ℚ) ^ (400 : ℤ) ≤ 10 ^ (-400 + (w.readExponent - w.exponent)) :=
          zpow_le_zpow_right₀ (by norm_num) (by omega)
      _ = 10 ^ (-400 : ℤ) * 10 ^ (w.readExponent - w.exponent) := zpow_add₀ (by norm_num) _ _
      _ ≤ w.magnitude * 10 ^ (w.readExponent - w.exponent) := by gcongr
      _ = decimalValue w.digits * 10 ^ (w.readExponent - (w.part.getD []).length) :=
          w.mul_zpow_readExponent.symm
  refine w.readMillis_text_cases.resolve_left ?_
  rintro ⟨d, hd⟩
  rw [readMillis_text_eq_ok_iff, numeral, delay?_decimal_eq_some_iff] at hd
  exact absurd hlimit (not_le.2 hd.2.1)

/-- Too few digits to bring a power of ten that is read as 65536 or more back into range. -/
theorem le_secondsOf_of_le_exponent {ds : List Char} {e : ℤ} {n : ℕ} (hd : decimalValue ds ≠ 0)
    (he : 65536 ≤ e) (hn : n ≤ 65000) :
    2 ^ 64 ≤ (secondsOf (decimalValue ds) (e - n)).toRat := by
  have hone : (1 : ℚ) ≤ decimalValue ds := by exact_mod_cast Nat.one_le_iff_ne_zero.2 hd
  refine le_secondsOf_of_le ?_
  calc (10 : ℚ) ^ (400 : ℤ) ≤ 10 ^ (e - n) := zpow_le_zpow_right₀ (by norm_num) (by omega)
    _ ≤ decimalValue ds * 10 ^ (e - n) := le_mul_of_one_le_left (by positivity) hone

/-- Too few digits for anything to be left of them where the power of ten is read as -65536 or
less. -/
theorem secondsOf_of_exponent_le {ds : List Char} {e : ℤ} (n : ℕ) (hd : ∀ c ∈ ds, c.isDigit)
    (he : e ≤ -65536) (hlen : ds.length ≤ 65000) :
    (secondsOf (decimalValue ds) (e - n)).toRat = 0 := by
  have hle : (decimalValue ds : ℚ) ≤ 10 ^ (ds.length : ℤ) := by
    exact_mod_cast (decimalValue_lt hd).le
  refine secondsOf_of_le ?_
  calc (decimalValue ds : ℚ) * 10 ^ (e - n) ≤ 10 ^ (ds.length : ℤ) * 10 ^ (e - n) := by gcongr
    _ = 10 ^ (ds.length + (e - n)) := (zpow_add₀ (by norm_num) _ _).symm
    _ ≤ 10 ^ (-400 : ℤ) := zpow_le_zpow_right₀ (by norm_num) (by omega)

/-- A moderate number is taken for what it is worth, also where its power of ten is misread. -/
theorem delay?_numeral (h : w.IsModerate) :
    w.numeral.delay? =
      (Numeral.decimal w.sign.isMinus (decimalValue w.digits) w.lastPlace).delay? := by
  by_cases hzero : decimalValue w.digits = 0
  · refine delay?_congr _ (.inl ?_)
    rw [hzero, secondsOf_zero, secondsOf_zero]
  · rw [numeral, lastPlace]
    have hpart : (w.part.getD []).length ≤ w.digits.length := by simp [digits]
    have hshort : w.exponent.natAbs < 655360 ∨ w.digits.length ≤ 65000 := by
      rcases h with h | h | h
      · exact .inl h
      · exact .inr h
      · exact absurd (w.magnitude_eq_zero_iff.1 h) hzero
    rcases w.readExponent_cases with ⟨he, -⟩ | ⟨he, hread, -⟩ | ⟨he, hread, -⟩
    · rw [he]
    · have hlen : w.digits.length ≤ 65000 := hshort.resolve_left (by omega)
      exact delay?_congr _ (.inr ⟨le_secondsOf_of_le_exponent hzero hread (by omega),
        le_secondsOf_of_le_exponent hzero (by omega) (by omega)⟩)
    · have hlen : w.digits.length ≤ 65000 := hshort.resolve_left (by omega)
      refine delay?_congr _ (.inl ?_)
      rw [secondsOf_of_exponent_le _ w.isDigit_digits hread hlen,
        secondsOf_of_exponent_le _ w.isDigit_digits (by omega) hlen]

/-- **The seconds that a moderate number comes to decide whether it is a pause, and which.** -/
theorem readMillis_eq_ok_iff (h : w.IsModerate) {d : Duration} :
    Duration.readMillis w.text = .ok d ↔
      0 ≤ w.seconds ∧ w.seconds < 2 ^ 64 ∧ IsNearest (w.seconds * 10 ^ 9) d.nanoseconds := by
  rw [readMillis_text_eq_ok_iff, delay?_numeral h, delay?_decimal_eq_some_iff, seconds]
  have hnonneg := (secondsOf (decimalValue w.digits) w.lastPlace).toRat_nonneg
  generalize (secondsOf (decimalValue w.digits) w.lastPlace).toRat = s at hnonneg
  cases w.sign.isMinus with
  | false => simp [hnonneg]
  | true =>
    -- behind a minus sign only zero is not negative
    have hzero : 0 ≤ -s ↔ s = 0 := by
      rw [neg_nonneg]
      exact ⟨fun hs => le_antisymm hs hnonneg, fun hs => hs.le⟩
    rw [if_pos rfl, hzero, imp_iff_right rfl]
    refine and_congr_right ?_
    rintro rfl
    rw [neg_zero]

/-! ## Order -/

theorem seconds_of_value_eq_zero (h : w.value = 0) : w.seconds = 0 := by
  have hzero : decimalValue w.digits = 0 := by
    rw [← magnitude_eq_zero_iff, ← abs_value, h, abs_zero]
  rw [seconds, hzero, secondsOf_zero, neg_zero, ite_self]

theorem value_nonpos (h : w.sign.isMinus) : w.value ≤ 0 := by
  rw [value, if_pos h]
  exact neg_nonpos.2 w.magnitude_nonneg

theorem value_nonneg (h : ¬ w.sign.isMinus) : 0 ≤ w.value := by
  rw [value, if_neg h]
  exact w.magnitude_nonneg

theorem seconds_nonpos (h : w.sign.isMinus) : w.seconds ≤ 0 := by
  rw [seconds, if_pos h]
  exact neg_nonpos.2 (Binary64.toRat_nonneg _)

theorem seconds_nonneg (h : 0 ≤ w.value) : 0 ≤ w.seconds := by
  by_cases hs : w.sign.isMinus
  · rw [seconds_of_value_eq_zero (le_antisymm (value_nonpos hs) h)]
  · rw [seconds, if_neg hs]
    exact Binary64.toRat_nonneg _

/-- A greater number of milliseconds is no smaller number of seconds. -/
theorem seconds_mono {v w : WrittenNumber} (h : v.value ≤ w.value) : v.seconds ≤ w.seconds := by
  by_cases hv : v.sign.isMinus <;> by_cases hw : w.sign.isMinus
  · rw [value, value, if_pos hv, if_pos hw, neg_le_neg_iff] at h
    rw [seconds, seconds, if_pos hv, if_pos hw]
    exact neg_le_neg (secondsOf_mono h)
  · exact (seconds_nonpos hv).trans (seconds_nonneg (value_nonneg hw))
  · -- the one value is not negative and at most the other, which is not positive: both are zero
    have hle := value_nonneg hv
    have hle' := value_nonpos hw
    rw [seconds_of_value_eq_zero (le_antisymm (h.trans hle') hle),
      seconds_of_value_eq_zero (le_antisymm hle' (hle.trans h))]
  · rw [value, value, if_neg hv, if_neg hw] at h
    rw [seconds, seconds, if_neg hv, if_neg hw]
    exact secondsOf_mono h

/-- Whatever comes to a number of seconds within the bounds is a pause. -/
theorem exists_readMillis_eq_ok (h : w.IsModerate) (hnonneg : 0 ≤ w.seconds)
    (hlimit : w.seconds < 2 ^ 64) :
    ∃ d, Duration.readMillis w.text = .ok d ∧ IsNearest (w.seconds * 10 ^ 9) d.nanoseconds := by
  obtain ⟨n, hn⟩ := Ratio.exists_isNearest (q := w.seconds * 10 ^ 9) (by positivity)
  exact ⟨⟨n⟩, (readMillis_eq_ok_iff h).2 ⟨hnonneg, hlimit, hn⟩, hn⟩

/-- Between two numbers that are pauses every number is one, and as long as its place tells. -/
theorem exists_between {s t u : WrittenNumber} {ds du : Duration} (hs : s.IsModerate)
    (ht : t.IsModerate) (hu : u.IsModerate) (hst : s.value ≤ t.value) (htu : t.value ≤ u.value)
    (hds : Duration.readMillis s.text = .ok ds) (hdu : Duration.readMillis u.text = .ok du) :
    ∃ dt, Duration.readMillis t.text = .ok dt ∧
      ds.nanoseconds ≤ dt.nanoseconds ∧ dt.nanoseconds ≤ du.nanoseconds := by
  obtain ⟨hnonneg, -, hns⟩ := (readMillis_eq_ok_iff hs).1 hds
  obtain ⟨-, hlimit, hnu⟩ := (readMillis_eq_ok_iff hu).1 hdu
  have hseconds := seconds_mono hst
  have hseconds' := seconds_mono htu
  obtain ⟨dt, hdt, hnt⟩ :=
    exists_readMillis_eq_ok ht (hnonneg.trans hseconds) (hseconds'.trans_lt hlimit)
  refine ⟨dt, hdt, hns.mono hnt ?_, hnt.mono hnu ?_⟩ <;> gcongr

/-- Two spellings of one value are the same pause. -/
theorem readMillis_eq_ok_of_value_eq {s t : WrittenNumber} {d : Duration} (hs : s.IsModerate)
    (ht : t.IsModerate) (h : s.value = t.value) (hd : Duration.readMillis s.text = .ok d) :
    Duration.readMillis t.text = .ok d := by
  have hseconds : s.seconds = t.seconds := le_antisymm (seconds_mono h.le) (seconds_mono h.ge)
  rw [readMillis_eq_ok_iff hs, hseconds] at hd
  exact (readMillis_eq_ok_iff ht).2 hd

/-- **Pauses are in the order of the numbers they are written as.** What is read as a decimal number
is a written one. Between two moderate ones that are pauses there are only pauses, none shorter than
the first and none longer than the second; and moderate numbers of one value are the same pause, or
none of them is one. -/
theorem readMillis_interval :
    (∀ text, (∃ negative digits exponent,
        Numeral.read? text = some (.decimal negative digits exponent)) ↔
      ∃ w : WrittenNumber, w.text = text) ∧
    (∀ s t u : WrittenNumber, s.IsModerate → t.IsModerate → u.IsModerate →
      s.value ≤ t.value → t.value ≤ u.value → ∀ ds du : Duration,
        Duration.readMillis s.text = .ok ds → Duration.readMillis u.text = .ok du →
          ∃ dt, Duration.readMillis t.text = .ok dt ∧
            ds.nanoseconds ≤ dt.nanoseconds ∧ dt.nanoseconds ≤ du.nanoseconds) ∧
    (∀ s t : WrittenNumber, s.IsModerate → t.IsModerate → s.value = t.value →
      (∃ d, Duration.readMillis s.text = .ok d ∧ Duration.readMillis t.text = .ok d) ∨
        Duration.readMillis s.text = .error (.outOfRange s.text) ∧
          Duration.readMillis t.text = .error (.outOfRange t.text)) := by
  refine ⟨fun text => exists_read?_eq_iff, ?_, ?_⟩
  · intro s t u hs ht hu hst htu ds du hds hdu
    exact exists_between hs ht hu hst htu hds hdu
  · intro s t hs ht h
    rcases s.readMillis_text_cases with ⟨d, hd⟩ | hrefused
    · exact .inl ⟨d, hd, readMillis_eq_ok_of_value_eq hs ht h hd⟩
    · refine .inr ⟨hrefused, t.readMillis_text_cases.resolve_left ?_⟩
      rintro ⟨d, hd⟩
      rw [readMillis_eq_ok_of_value_eq ht hs h.symm hd] at hrefused
      cases hrefused

/-- A half without a digit before the point. -/
def half : WrittenNumber := ⟨.none, [], some ['5'], none, by decide⟩

/-- One as a digit with a point behind it. -/
def one : WrittenNumber := ⟨.none, ['1'], some [], none, by decide⟩

/-- One as ten tenths. -/
def tenTenths : WrittenNumber :=
  ⟨.plus, ['1', '0'], none, some ⟨'e', .minus, ['1'], .inl rfl, by decide⟩,
    by decide⟩

/-- From a half of a millisecond over one to one that is spelled otherwise. -/
theorem readMillis_interval_one :
    half.IsModerate ∧ one.IsModerate ∧ tenTenths.IsModerate ∧
      half.value ≤ one.value ∧ one.value = tenTenths.value ∧
      Duration.readMillis half.text = .ok ⟨500000⟩ ∧
      Duration.readMillis tenTenths.text = .ok ⟨1000000⟩ ∧
      (∃ d : Duration, Duration.readMillis one.text = .ok d ∧
        500000 ≤ d.nanoseconds ∧ d.nanoseconds ≤ 1000000) ∧
      ((∃ d, Duration.readMillis one.text = .ok d ∧ Duration.readMillis tenTenths.text = .ok d) ∨
        Duration.readMillis one.text = .error (.outOfRange one.text) ∧
          Duration.readMillis tenTenths.text = .error (.outOfRange tenTenths.text)) := by
  have hhalf : half.IsModerate := .inl (by decide)
  have hone : one.IsModerate := .inl (by decide)
  have htenths : tenTenths.IsModerate := .inl (by decide)
  have hvalue : one.value = (1 : ℕ) * 10 ^ (0 : ℤ) := one.value_eq rfl rfl rfl
  have hless : half.value ≤ one.value := by
    have hhalf : half.value = (5 : ℕ) * 10 ^ (-1 : ℤ) := half.value_eq rfl rfl rfl
    rw [hhalf, hvalue]
    norm_num
  have hsame : one.value = tenTenths.value := by
    have htenths : tenTenths.value = (10 : ℕ) * 10 ^ (-1 : ℤ) := tenTenths.value_eq rfl rfl rfl
    rw [hvalue, htenths]
    norm_num
  have hshorter : Duration.readMillis half.text = .ok ⟨500000⟩ := by decide +kernel
  have hlonger : Duration.readMillis tenTenths.text = .ok ⟨1000000⟩ := by decide +kernel
  obtain ⟨-, hbetween, hspellings⟩ := readMillis_interval
  exact ⟨hhalf, hone, htenths, hless, hsame, hshorter, hlonger,
    hbetween _ _ _ hhalf hone htenths hless hsame.le _ _ hshorter hlonger,
    hspellings _ _ hone htenths hsame⟩

/-! ## A number that is not moderate -/

/-- A one behind so many zeros and the point, with a power of ten to balance them. -/
def farOne (zeros : ℕ) (power : WrittenPower) : WrittenNumber where
  sign := .none
  whole := ['0']
  part := some (List.replicate zeros '0' ++ ['1'])
  power := some power
  isDecimal := by
    refine ⟨by simp, fun c hc => ?_⟩
    have hc : c = '0' ∨ c = '1' := by
      simp only [Option.getD_some, List.mem_append, List.mem_replicate, List.mem_singleton] at hc
      tauto
    rcases hc with rfl | rfl <;> decide

theorem value_farOne (zeros : ℕ) (power : WrittenPower) :
    (farOne zeros power).value = 10 ^ (power.value - (zeros + 1)) := by
  have hdigits : decimalValue (farOne zeros power).digits = 1 := by
    have hzeros : decimalValue (List.replicate (zeros + 1) '0') = 0 :=
      Nat.ofDigitChars_replicate_zero
    have hone : (farOne zeros power).digits = List.replicate (zeros + 1) '0' ++ ['1'] := rfl
    rw [hone, decimalValue_concat, hzeros]
    rfl
  have hplace : (farOne zeros power).lastPlace = power.value - (zeros + 1) := by
    simp [lastPlace, farOne, exponent]
  rw [value_eq _ rfl hdigits hplace, Nat.cast_one, one_mul]

/-- Ten to the power 655361, of which all digits but the last one are read. -/
def longPower : WrittenPower :=
  ⟨'e', .none, ['6', '5', '5', '3', '6', '1'], .inl rfl, by decide⟩

/-- A hundred behind so many zeros that a power of ten which is misread has to balance them. -/
def farHundred : WrittenNumber := farOne 655358 longPower

theorem value_farHundred : farHundred.value = 100 := by
  have hpower : longPower.value = 655361 := by decide
  rw [farHundred, value_farOne, hpower]
  norm_num

theorem readMillis_farHundred : Duration.readMillis farHundred.text = .ok ⟨0⟩ := by
  have hexponent : (655361 : ℤ) = farHundred.exponent := rfl
  refine readMillis_of_le_exponent (by omega) ?_
  rw [← abs_value, value_farHundred, abs_of_pos (by norm_num)]
  calc (100 : ℚ) = 10 ^ (2 : ℤ) := by norm_num
    _ ≤ 10 ^ (400 : ℤ) := zpow_le_zpow_right₀ (by norm_num) (by norm_num)

/-- A hundred. -/
def hundred : WrittenNumber := ⟨.none, ['1', '0', '0'], none, none, by decide⟩

/-- Two spellings of a hundred that are different pauses. -/
theorem readMillis_hundred_ne_farHundred :
    hundred.value = farHundred.value ∧
      Duration.readMillis hundred.text = .ok ⟨100000000⟩ ∧
      Duration.readMillis farHundred.text = .ok ⟨0⟩ := by
  refine ⟨?_, by decide +kernel, readMillis_farHundred⟩
  have hhundred : hundred.value = (100 : ℕ) * 10 ^ (0 : ℤ) := hundred.value_eq rfl rfl rfl
  rw [value_farHundred, hhundred]
  norm_num

end AdcFeed.WrittenNumber
