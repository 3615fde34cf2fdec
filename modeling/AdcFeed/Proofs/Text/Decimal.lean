import AdcFeed.Text.Integer
import Mathlib.Algebra.Ring.Nat
import Mathlib.Data.List.Infix

/-!
Decimal numbers, what they spell and how they are read. Main statements: reading a text gives a
number exactly if the text is an optional sign and digits that spell it, and it is in range
(`IntegerRange.read_eq_ok_iff`); and of the digits of a number, some from the front spell a smaller
one unless they are all (`eq_toDigits_of_decimalValue_eq`).
-/

namespace AdcFeed

/-- The letters are digits, at least one. -/
structure IsDecimal (cs : List Char) : Prop where
  ne_nil : cs ≠ []
  isDigit : ∀ c ∈ cs, c.isDigit

instance (cs : List Char) : Decidable (IsDecimal cs) :=
  decidable_of_iff (cs ≠ [] ∧ cs.all Char.isDigit)
    ⟨fun h => ⟨h.1, List.all_eq_true.1 h.2⟩, fun h => ⟨h.ne_nil, List.all_eq_true.2 h.isDigit⟩⟩

/-- The number that digits spell. -/
def decimalValue (digits : List Char) : Nat := Nat.ofDigitChars 10 digits 0

/-- Digits with a minus sign before them, or without a sign. -/
def signedDigits (negative : Bool) (digits : List Char) : List Char :=
  if negative then '-' :: digits else digits

/-- The number that digits with or without a minus sign spell. -/
def signedValue (negative : Bool) (digits : List Char) : Int :=
  if negative then -(decimalValue digits : Int) else decimalValue digits

/-! ## Reading -/

variable {limit value n : Nat} {outOfRange : IntegerError} {cs digits : List Char}

theorem le_ofDigitChars (cs : List Char) (value : Nat) : value ≤ Nat.ofDigitChars 10 cs value := by
  rw [Nat.ofDigitChars_eq_ofDigitChars_zero]
  have := Nat.le_mul_of_pos_left value (Nat.pow_pos (n := cs.length) (show 0 < 10 by omega))
  omega

theorem readDigits_eq_ok_iff (hv : value ≤ limit) :
    readDigits limit outOfRange value cs = .ok n ↔
      (∀ c ∈ cs, c.isDigit) ∧ n = Nat.ofDigitChars 10 cs value ∧ n ≤ limit := by
  induction cs generalizing value with
  | nil =>
    rw [readDigits]
    constructor
    · rintro ⟨⟩
      exact ⟨by simp, rfl, hv⟩
    · rintro ⟨-, rfl, -⟩
      rfl
  | cons c cs ih =>
    rw [readDigits, Nat.ofDigitChars_cons, Nat.mul_comm 10 value, List.forall_mem_cons]
    unfold digitValue?
    by_cases hc : c.isDigit
    · rw [if_pos hc]
      simp only [hc, true_and]
      by_cases hl : limit < value * 10 + (c.toNat - '0'.toNat)
      · rw [if_pos hl]
        constructor
        · rintro ⟨⟩
        · rintro ⟨-, rfl, hn⟩
          have := le_ofDigitChars cs (value * 10 + (c.toNat - '0'.toNat))
          omega
      · rw [if_neg hl]
        exact ih (Nat.not_lt.1 hl)
    · simp [hc]

theorem readMagnitude_eq_ok_iff :
    readMagnitude limit outOfRange digits = .ok n ↔
      IsDecimal digits ∧ n = decimalValue digits ∧ n ≤ limit := by
  unfold readMagnitude
  by_cases hd : digits = []
  · rw [if_pos (by simpa using hd)]
    constructor
    · rintro ⟨⟩
    · rintro ⟨h, -⟩
      exact absurd hd h.ne_nil
  · rw [if_neg (by simpa using hd), readDigits_eq_ok_iff (Nat.zero_le _)]
    constructor
    · rintro ⟨h, hn⟩
      exact ⟨⟨hd, h⟩, hn⟩
    · rintro ⟨h, hn⟩
      exact ⟨h.isDigit, hn⟩

theorem IsDecimal.head_ne {c : Char} (h : IsDecimal (c :: cs)) : c ≠ '-' ∧ c ≠ '+' := by
  have hc := h.isDigit c List.mem_cons_self
  constructor <;> rintro rfl <;> exact absurd hc (by decide)

/-- Where digits are to come, a text and the text without its plus sign are the same. -/
theorem dropPlus_eq_iff {c : Char} (hd : IsDecimal digits) :
    (if c = '+' then cs else c :: cs) = digits ↔ c :: cs = digits ∨ c :: cs = '+' :: digits := by
  by_cases hc : c = '+'
  · subst hc
    rw [if_pos rfl, List.cons.injEq]
    constructor
    · intro h
      exact .inr ⟨rfl, h⟩
    · rintro (rfl | ⟨-, h⟩)
      · exact absurd rfl hd.head_ne.2
      · exact h
  · rw [if_neg hc, List.cons.injEq]
    constructor
    · intro h
      exact .inl h
    · rintro (h | ⟨h, -⟩)
      · exact h
      · exact absurd h hc

theorem map_eq_ok_iff {ε α β : Type} {f : α → β} {x : Except ε α} {b : β} :
    x.map f = .ok b ↔ ∃ a, x = .ok a ∧ b = f a := by
  cases x with
  | error e => simp [Except.map]
  | ok a => simp [Except.map, eq_comm]

/-- A text is read as a number exactly if it is an optional sign and digits that spell the number,
a minus sign only where the range goes below zero, and the number is in range. -/
theorem IntegerRange.read_eq_ok_iff {range : IntegerRange} {v : Int} :
    range.read cs = .ok v ↔
      ∃ digits, IsDecimal digits ∧
        ((cs = '-' :: digits ∧ range.least < 0 ∧ v = -(decimalValue digits : Int) ∧
            range.least ≤ v) ∨
          ((cs = digits ∨ cs = '+' :: digits) ∧ v = decimalValue digits ∧ v ≤ range.greatest)) := by
  cases cs with
  | nil =>
    rw [IntegerRange.read]
    constructor
    · rintro ⟨⟩
    · rintro ⟨digits, hd, ⟨h, -⟩ | ⟨h | h, -⟩⟩
      · cases h
      · exact absurd h.symm hd.ne_nil
      · cases h
  | cons c cs =>
    rw [IntegerRange.read]
    by_cases hm : c = '-' ∧ range.least < 0
    · rw [if_pos hm, map_eq_ok_iff]
      obtain ⟨rfl, hl⟩ := hm
      constructor
      · rintro ⟨n, hn, rfl⟩
        obtain ⟨hd, rfl, hn⟩ := readMagnitude_eq_ok_iff.1 hn
        exact ⟨cs, hd, .inl ⟨rfl, hl, rfl, by omega⟩⟩
      · rintro ⟨digits, hd, ⟨h, -, rfl, hv⟩ | ⟨h | h, -⟩⟩
        · cases h
          exact ⟨_, readMagnitude_eq_ok_iff.2 ⟨hd, rfl, by omega⟩, rfl⟩
        · exact absurd rfl (h ▸ hd).head_ne.1
        · cases h
    · rw [if_neg hm, map_eq_ok_iff]
      constructor
      · rintro ⟨n, hn, rfl⟩
        obtain ⟨hd, rfl, hn⟩ := readMagnitude_eq_ok_iff.1 hn
        exact ⟨_, hd, .inr ⟨(dropPlus_eq_iff hd).1 rfl, rfl, by omega⟩⟩
      · rintro ⟨digits, hd, ⟨h, hl, -⟩ | ⟨h, rfl, hv⟩⟩
        · cases h
          exact absurd ⟨rfl, hl⟩ hm
        · rw [(dropPlus_eq_iff hd).2 h]
          exact ⟨_, readMagnitude_eq_ok_iff.2 ⟨hd, rfl, by omega⟩, rfl⟩

theorem IntegerRange.mem_of_read_eq_ok {range : IntegerRange} {v : Int}
    (h : range.read cs = .ok v) : range.least ≤ v ∧ v ≤ range.greatest := by
  have hl := range.least_nonpos
  obtain ⟨digits, -, ⟨-, -, rfl, hv⟩ | ⟨-, rfl, hv⟩⟩ := IntegerRange.read_eq_ok_iff.1 h
  · omega
  · omega

/-- Digits, with a minus sign or without, are read if what they spell is in range. -/
theorem IntegerRange.read_signedDigits {range : IntegerRange} (hl : range.least < 0)
    {negative : Bool} (hd : IsDecimal digits) (hv : range.least ≤ signedValue negative digits)
    (hg : signedValue negative digits ≤ range.greatest) :
    range.read (signedDigits negative digits) = .ok (signedValue negative digits) := by
  refine IntegerRange.read_eq_ok_iff.2 ⟨digits, hd, ?_⟩
  cases negative with
  | true => exact .inl ⟨rfl, hl, rfl, hv⟩
  | false => exact .inr ⟨.inl rfl, rfl, hg⟩

/-! ## The digits of a number -/

theorem isDecimal_toDigits (n : Nat) : IsDecimal (Nat.toDigits 10 n) where
  ne_nil := Nat.toDigits_ne_nil
  isDigit _ hc := Nat.isDigit_of_mem_toDigits (by omega) (by omega) hc

theorem decimalValue_toDigits (n : Nat) : decimalValue (Nat.toDigits 10 n) = n :=
  Nat.ofDigitChars_ten_toDigits

theorem decimalValue_append (ds es : List Char) :
    decimalValue (ds ++ es) = 10 ^ es.length * decimalValue ds + decimalValue es := by
  rw [decimalValue, Nat.ofDigitChars_append, Nat.ofDigitChars_eq_ofDigitChars_zero]
  rfl

theorem decimalValue_concat (ds : List Char) (c : Char) :
    decimalValue (ds ++ [c]) = 10 * decimalValue ds + (c.toNat - '0'.toNat) := by
  rw [decimalValue, Nat.ofDigitChars_append, Nat.ofDigitChars_cons, Nat.ofDigitChars_nil]
  rfl

theorem digitValue_lt {c : Char} (h : c.isDigit) : c.toNat - '0'.toNat < 10 := by
  simp only [Char.isDigit, Bool.and_eq_true, decide_eq_true_eq] at h
  have hmax : c.toNat ≤ 57 := UInt32.le_iff_toNat_le.1 h.2
  have hzero : '0'.toNat = 48 := rfl
  omega

theorem decimalValue_lt {ds : List Char} (h : ∀ c ∈ ds, c.isDigit) :
    decimalValue ds < 10 ^ ds.length := by
  induction ds using List.reverseRecOn with
  | nil => simp [decimalValue]
  | append_singleton ds c ih =>
    have hc := digitValue_lt (h c (by simp))
    have hds := ih fun d hd => h d (List.mem_append_left _ hd)
    rw [decimalValue_concat, List.length_append, List.length_singleton, Nat.pow_succ]
    omega

theorem decimalValue_mono {ds es : List Char} (h : ds <+: es) :
    decimalValue ds ≤ decimalValue es := by
  obtain ⟨later, rfl⟩ := h
  rw [decimalValue_append]
  have := Nat.le_mul_of_pos_left (decimalValue ds) (Nat.pow_pos (n := later.length)
    (show 0 < 10 by omega))
  omega

/-- Digits from the front of a number that spell all of it are all its digits. -/
theorem eq_toDigits_of_decimalValue_eq (hne : digits ≠ []) (h : digits <+: Nat.toDigits 10 n)
    (hn : decimalValue digits = n) : digits = Nat.toDigits 10 n := by
  obtain ⟨later, he⟩ := h
  cases later with
  | nil => rwa [List.append_nil] at he
  | cons c later =>
    -- A digit more is a value ten times as large, so the number is zero, and that has one digit.
    have hv := congrArg decimalValue he
    rw [decimalValue_append, decimalValue_toDigits, hn, List.length_cons, Nat.pow_succ] at hv
    have hpow := Nat.pow_pos (n := later.length) (show 0 < 10 by omega)
    have h10 : 10 * n ≤ 10 ^ later.length * 10 * n := by
      rw [Nat.mul_assoc]
      exact Nat.le_mul_of_pos_left _ hpow
    obtain rfl : n = 0 := by omega
    have hlen := congrArg List.length he
    have hpos := List.length_pos_iff.2 hne
    simp at hlen
    omega

theorem toList_toString_int (v : Int) :
    (toString v).toList = signedDigits (decide (v < 0)) (Nat.toDigits 10 v.natAbs) := by
  rw [Int.toString_eq_repr, Int.repr_eq_if, signedDigits]
  by_cases hv : v < 0
  · have hn : (-v).toNat = v.natAbs := by omega
    rw [if_neg (by omega), if_pos (by simpa using hv), String.toList_append, Nat.toList_repr, hn]
    rfl
  · have hn : v.toNat = v.natAbs := by omega
    rw [if_pos (by omega), if_neg (by simpa using hv), Nat.toList_repr, hn]

theorem signedValue_toDigits (v : Int) :
    signedValue (decide (v < 0)) (Nat.toDigits 10 v.natAbs) = v := by
  rw [signedValue, decimalValue_toDigits]
  by_cases hv : v < 0
  · rw [if_pos (by simpa using hv)]
    omega
  · rw [if_neg (by simpa using hv)]
    omega

/-- What spells a number from the front of a number's text has its sign and some of its digits. -/
theorem prefix_of_prefix_toString {negative : Bool} {v : Int} (hd : IsDecimal digits)
    (h : signedDigits negative digits <+: (toString v).toList) :
    negative = decide (v < 0) ∧ digits <+: Nat.toDigits 10 v.natAbs := by
  rw [toList_toString_int] at h
  have hall := isDecimal_toDigits v.natAbs
  obtain ⟨d, ds, hds⟩ := List.exists_cons_of_ne_nil hd.ne_nil
  obtain ⟨e, es, hes⟩ := List.exists_cons_of_ne_nil hall.ne_nil
  have hd' := (hds ▸ hd).head_ne
  have he' := (hes ▸ hall).head_ne
  unfold signedDigits at h
  rw [hds, hes] at h ⊢
  cases negative <;> cases hv : decide (v < 0) <;> rw [hv] at h <;>
    simp only [Bool.false_eq_true, if_true, if_false, List.cons_prefix_cons] at h ⊢
  · exact ⟨trivial, h⟩
  · exact absurd h.1 hd'.1
  · exact absurd h.1.symm he'.1
  · exact ⟨trivial, h.2⟩

end AdcFeed
