import AdcFeed.Sampler.Seeded
import Mathlib.Algebra.Ring.Nat
import Mathlib.Data.Set.Card

/-!
The code that a word selects, bit by bit. Main statements: a word selects its upper ten bits if the
bit below them is clear, and nothing otherwise (`codeOfWord?_eq`), so each code is selected by one
in 2048 of all words (`ncard_codeOfWord?`).
-/

namespace AdcFeed

/-- Whether a word selects a code: the bit below its upper ten. -/
def selects (w : UInt32) : Bool := !w.toNat.testBit 21

theorem selects_iff {w : UInt32} : selects w = true ↔ w.toNat / 2097152 % 2 = 0 := by
  simp [selects, Nat.testBit_eq_decide_div_mod_eq]

theorem toNat_shiftRight_twentyTwo (w : UInt32) : (w >>> 22).toNat = w.toNat / 4194304 := by
  rw [UInt32.toNat_shiftRight, Nat.shiftRight_eq_div_pow]
  rfl

theorem toNat_shiftRight_lt (w : UInt32) : (w >>> 22).toNat < 1024 := by
  have hw := w.toNat_lt
  rw [toNat_shiftRight_twentyTwo]
  omega

/-- Scaling a word to the codes does not overflow. -/
theorem toNat_codeCount_mul (w : UInt32) : (codeCount * w.toUInt64).toNat = 1024 * w.toNat := by
  have hw := w.toNat_lt
  have hcount : codeCount.toNat = 1024 := rfl
  rw [UInt64.toNat_mul, UInt32.toNat_toUInt64, hcount, Nat.mod_eq_of_lt (by omega)]

/-- The upper half of the product is what stands above the lowest 22 bits of the word, and the
highest bit of its lower half is the bit below. -/
theorem codeOfWord?_eq (w : UInt32) :
    codeOfWord? w = if selects w then some (w >>> 22) else none := by
  have hw := w.toNat_lt
  have hproduct := toNat_codeCount_mul w
  have hlower : (codeCount * w.toUInt64).toUInt32 ≤ 0x7FFFFFFF ↔ selects w = true := by
    rw [UInt32.le_iff_toNat_le, UInt64.toNat_toUInt32, hproduct, selects_iff]
    simp only [UInt32.reduceToNat]
    omega
  have hupper : ((codeCount * w.toUInt64) >>> 32).toUInt32 = w >>> 22 := by
    have hshift : ((codeCount * w.toUInt64) >>> 32).toNat = 1024 * w.toNat / 4294967296 := by
      rw [UInt64.toNat_shiftRight, hproduct, Nat.shiftRight_eq_div_pow]
      rfl
    rw [← UInt32.toNat_inj, UInt64.toNat_toUInt32, hshift, toNat_shiftRight_twentyTwo]
    omega
  rw [codeOfWord?]
  simp only [hlower, hupper]

theorem codeOfWord?_eq_some_iff {w code : UInt32} :
    codeOfWord? w = some code ↔ selects w = true ∧ w >>> 22 = code := by
  rw [codeOfWord?_eq]
  split <;> simp_all

/-- The words that select a code are those with the code above a clear bit, whatever the 21 bits
below. -/
theorem codeOfWord?_eq_some_iff_exists {w code : UInt32} (hc : code.toNat < 1024) :
    codeOfWord? w = some code ↔
      ∃ low < 2097152, UInt32.ofNat (code.toNat * 4194304 + low) = w := by
  have hw := w.toNat_lt
  rw [codeOfWord?_eq_some_iff, selects_iff, ← UInt32.toNat_inj, toNat_shiftRight_twentyTwo]
  constructor
  · rintro ⟨hclear, hcode⟩
    refine ⟨w.toNat % 2097152, by omega, ?_⟩
    rw [← UInt32.toNat_inj, UInt32.toNat_ofNat_of_lt' (by rw [UInt32.size]; omega)]
    omega
  · rintro ⟨low, hlow, rfl⟩
    rw [UInt32.toNat_ofNat_of_lt' (by rw [UInt32.size]; omega)]
    omega

/-- **Every code is selected by equally many words**, one in 2048 of all. -/
theorem ncard_codeOfWord? {code : UInt32} (hc : code.toNat < 1024) :
    {w | codeOfWord? w = some code}.ncard = 2 ^ 21 := by
  let word (low : Nat) : UInt32 := UInt32.ofNat (code.toNat * 4194304 + low)
  have himage : {w | codeOfWord? w = some code} = word '' (Finset.range 2097152) := by
    ext w
    rw [Set.mem_image]
    simp only [Finset.coe_range, Set.mem_Iio]
    exact codeOfWord?_eq_some_iff_exists hc
  have hinj : Set.InjOn word (Finset.range 2097152) := by
    intro low hlow low' hlow' he
    simp only [Finset.coe_range, Set.mem_Iio] at hlow hlow'
    have hnat := congrArg UInt32.toNat he
    rw [UInt32.toNat_ofNat_of_lt' (by rw [UInt32.size]; omega),
      UInt32.toNat_ofNat_of_lt' (by rw [UInt32.size]; omega)] at hnat
    omega
  rw [himage, hinj.ncard_image, Set.ncard_coe_finset, Finset.card_range]
  rfl

end AdcFeed
