import AdcFeed.Number.Numeral
import AdcFeed.Proofs.Text.Decimal
import Mathlib.Algebra.Order.Field.Power
import Mathlib.Data.Rat.Cast.Order

/-!
Decimal numbers as they are written: a sign, digits around a point, a power of ten. A
`WrittenNumber` has a text and an exact value, and neither knows how numbers are read. Main
statements: the texts read as decimal numbers are those of written numbers (`exists_read?_eq_iff`),
and they are read digit by digit (`read?_text`), except that of a power of ten from 655360 on not
all digits are looked at (`readExponent_cases`).
-/

namespace AdcFeed

/-- A sign as it is written, or none. -/
inductive WrittenSign where
  | none
  | plus
  | minus
  deriving DecidableEq

namespace WrittenSign

/-- The letters of the sign. -/
def letters : WrittenSign → List Char
  | .none => []
  | .plus => ['+']
  | .minus => ['-']

/-- Whether the sign makes a number negative. -/
def isMinus : WrittenSign → Bool
  | .minus => true
  | _ => false

end WrittenSign

/-- A power of ten as it is written at the end of a number. -/
structure WrittenPower where
  letter : Char
  sign : WrittenSign
  digits : List Char
  letter_mem : letter = 'e' ∨ letter = 'E'
  isDecimal : IsDecimal digits

namespace WrittenPower

/-- The letters of the power. -/
def letters (p : WrittenPower) : List Char := p.letter :: (p.sign.letters ++ p.digits)

/-- The power itself. -/
def value (p : WrittenPower) : ℤ := signedValue p.sign.isMinus p.digits

end WrittenPower

/-- A decimal number as it is written, with at least one digit before or behind the point. -/
structure WrittenNumber where
  sign : WrittenSign
  whole : List Char
  /-- The digits behind the point, if there is a point. -/
  part : Option (List Char)
  power : Option WrittenPower
  isDecimal : IsDecimal (whole ++ part.getD [])

namespace WrittenNumber

/-- The digits before and behind the point. -/
def digits (w : WrittenNumber) : List Char := w.whole ++ w.part.getD []

/-- The letters of the number. -/
def letters (w : WrittenNumber) : List Char :=
  w.sign.letters ++
    (w.whole ++ (w.part.elim [] ('.' :: ·) ++ w.power.elim [] WrittenPower.letters))

/-- The text of the number. -/
def text (w : WrittenNumber) : String := String.ofList w.letters

/-- The power of ten that is written; the zeroth if none is. -/
def exponent (w : WrittenNumber) : ℤ := w.power.elim 0 WrittenPower.value

/-- The power of ten that the last digit stands for. -/
def lastPlace (w : WrittenNumber) : ℤ := w.exponent - (w.part.getD []).length

/-- The value without the sign. -/
def magnitude (w : WrittenNumber) : ℚ := decimalValue w.digits * 10 ^ w.lastPlace

/-- The exact value. -/
def value (w : WrittenNumber) : ℚ := if w.sign.isMinus then -w.magnitude else w.magnitude

end WrittenNumber

/-! ## Digits -/

/-- The number that a digit stands for. -/
def digitOf (c : Char) : ℕ := c.toNat - '0'.toNat

theorem takeDigits_eq (cs : List Char) :
    Numeral.takeDigits cs =
      ((cs.takeWhile Char.isDigit).map digitOf, cs.dropWhile Char.isDigit) := by
  induction cs with
  | nil => rfl
  | cons c cs ih =>
    rw [Numeral.takeDigits, digitValue?]
    by_cases hc : c.isDigit
    · simp [hc, ih, digitOf]
    · simp [hc]

theorem ofDigits_map_digitOf (ds : List Char) :
    ofDigits 10 (ds.map digitOf) = decimalValue ds := by
  rw [ofDigits_eq, decimalValue, Nat.ofDigitChars_eq_foldl, List.foldl_map]
  simp only [digitOf, Nat.mul_comm]

theorem ofExponentDigits_concat (ds : List Char) (c : Char) :
    Numeral.ofExponentDigits ((ds ++ [c]).map digitOf) =
      if Numeral.ofExponentDigits (ds.map digitOf) < 65536 then
        Numeral.ofExponentDigits (ds.map digitOf) * 10 + digitOf c
      else Numeral.ofExponentDigits (ds.map digitOf) := by
  rw [Numeral.ofExponentDigits, List.map_append, List.foldl_append]
  rfl

/-- What is read of the digits of a power of ten: all of them below 655360, and otherwise so few
that the power comes out at most a tenth of what is written, but still 65536 or more. -/
theorem ofExponentDigits_cases {ds : List Char} (h : ∀ c ∈ ds, c.isDigit) :
    (decimalValue ds < 655360 → Numeral.ofExponentDigits (ds.map digitOf) = decimalValue ds) ∧
      (655360 ≤ decimalValue ds → 65536 ≤ Numeral.ofExponentDigits (ds.map digitOf) ∧
        10 * Numeral.ofExponentDigits (ds.map digitOf) ≤ decimalValue ds) := by
  induction ds using List.reverseRecOn with
  | nil => exact ⟨fun _ => rfl, fun h => absurd h (by decide)⟩
  | append_singleton ds c ih =>
    obtain ⟨hshort, hlong⟩ := ih fun d hd => h d (List.mem_append_left _ hd)
    have hc := digitValue_lt (h c (by simp))
    rw [ofExponentDigits_concat, decimalValue_concat, digitOf]
    constructor <;> intro hvalue <;> split <;> omega

/-! ## Reading -/

section Reading

variable {cs ds rest : List Char}

theorem takeDigits_append (hd : ∀ c ∈ ds, c.isDigit) (hr : ∀ c, rest.head? = some c → ¬ c.isDigit) :
    Numeral.takeDigits (ds ++ rest) = (ds.map digitOf, rest) := by
  have hrest : rest.takeWhile Char.isDigit = [] ∧ rest.dropWhile Char.isDigit = rest := by
    cases rest with
    | nil => exact ⟨rfl, rfl⟩
    | cons c rest =>
      have hc := hr c rfl
      simp [hc]
  rw [takeDigits_eq, List.takeWhile_append_of_pos hd, List.dropWhile_append_of_pos hd, hrest.1,
    hrest.2, List.append_nil]

theorem takeSign_append (s : WrittenSign) (h : ∀ c, rest.head? = some c → c ≠ '+' ∧ c ≠ '-') :
    Numeral.takeSign (s.letters ++ rest) = (s.isMinus, rest) := by
  cases s with
  | none =>
    cases rest with
    | nil => rfl
    | cons c rest =>
      obtain ⟨hplus, hminus⟩ := h c rfl
      rw [WrittenSign.letters, List.nil_append, Numeral.takeSign]
      · rfl
      · rintro cs ⟨⟩
        exact hminus rfl
      · rintro cs ⟨⟩
        exact hplus rfl
  | plus => rfl
  | minus => rfl

theorem exists_sign (cs : List Char) :
    ∃ s : WrittenSign, cs = s.letters ++ (Numeral.takeSign cs).2 ∧
      (Numeral.takeSign cs).1 = s.isMinus := by
  unfold Numeral.takeSign
  split
  · exact ⟨.minus, rfl, rfl⟩
  · exact ⟨.plus, rfl, rfl⟩
  · exact ⟨.none, rfl, rfl⟩

theorem exists_digits (cs : List Char) :
    ∃ ds rest, (∀ c ∈ ds, c.isDigit) ∧ cs = ds ++ rest ∧
      Numeral.takeDigits cs = (ds.map digitOf, rest) :=
  ⟨cs.takeWhile Char.isDigit, cs.dropWhile Char.isDigit, List.all_eq_true.1 List.all_takeWhile,
    List.takeWhile_append_dropWhile.symm, takeDigits_eq cs⟩

/-- The power of ten that is read where this one is written. -/
def WrittenPower.read (p : WrittenPower) : ℤ :=
  if p.sign.isMinus then -(Numeral.ofExponentDigits (p.digits.map digitOf) : ℤ)
  else Numeral.ofExponentDigits (p.digits.map digitOf)

theorem readExponent?_letters (p : Option WrittenPower) :
    Numeral.readExponent? (p.elim [] WrittenPower.letters) = some (p.elim 0 WrittenPower.read) := by
  cases p with
  | none => rfl
  | some p =>
    obtain ⟨d, ds, hds⟩ := List.exists_cons_of_ne_nil p.isDecimal.ne_nil
    have hsign : Numeral.takeSign (p.sign.letters ++ p.digits) = (p.sign.isMinus, p.digits) := by
      refine takeSign_append p.sign fun c hc => ?_
      rw [hds] at hc
      cases hc
      exact (hds ▸ p.isDecimal).head_ne.symm
    have hdigits : Numeral.takeDigits p.digits = (p.digits.map digitOf, []) := by
      have htake : Numeral.takeDigits (p.digits ++ []) = (p.digits.map digitOf, []) :=
        takeDigits_append p.isDecimal.isDigit (by simp)
      rwa [List.append_nil] at htake
    simp only [Option.elim_some, WrittenPower.letters, Numeral.readExponent?, if_pos p.letter_mem,
      hsign, hdigits]
    rw [WrittenPower.read, hds, List.map_cons]

theorem exists_power {e : ℤ} (h : Numeral.readExponent? cs = some e) :
    ∃ p : Option WrittenPower,
      cs = p.elim [] WrittenPower.letters ∧ e = p.elim 0 WrittenPower.read := by
  cases cs with
  | nil =>
    cases h
    exact ⟨none, rfl, rfl⟩
  | cons c cs =>
    rw [Numeral.readExponent?] at h
    by_cases hc : c = 'e' ∨ c = 'E'
    · obtain ⟨s, hcs, hs⟩ := exists_sign cs
      obtain ⟨ds, rest, hd, hrest, htake⟩ := exists_digits (Numeral.takeSign cs).2
      simp only [if_pos hc, hs, htake] at h
      cases rest with
      | cons => cases ds <;> cases h
      | nil =>
        rw [List.append_nil] at hrest
        have hne : ds ≠ [] := by
          rintro rfl
          cases h
        refine ⟨some ⟨c, s, ds, hc, ⟨hne, hd⟩⟩, ?_, ?_⟩
        · rw [hcs, hrest]
          rfl
        · cases ds with
          | nil => exact absurd rfl hne
          | cons d ds => exact (Option.some.inj h).symm
    · rw [if_neg hc] at h
      cases h

namespace WrittenNumber

variable (w : WrittenNumber)

/-- The power of ten that is read of the number. -/
def readExponent : ℤ := w.power.elim 0 WrittenPower.read

/-- What is read of the number. -/
def numeral : Numeral :=
  .decimal w.sign.isMinus (decimalValue w.digits) (w.readExponent - (w.part.getD []).length)

/-- The power of ten that is read is the one written, or both are large and the one written is at
least ten times as large. -/
theorem readExponent_cases :
    w.readExponent = w.exponent ∧ w.exponent.natAbs < 655360 ∨
      655360 ≤ w.exponent ∧ 65536 ≤ w.readExponent ∧ 10 * w.readExponent ≤ w.exponent ∨
      w.exponent ≤ -655360 ∧ w.readExponent ≤ -65536 ∧ w.exponent ≤ 10 * w.readExponent := by
  unfold readExponent exponent
  cases w.power with
  | none => exact .inl ⟨rfl, by decide⟩
  | some p =>
    obtain ⟨hshort, hlong⟩ := ofExponentDigits_cases p.isDecimal.isDigit
    simp only [Option.elim_some, WrittenPower.read, WrittenPower.value, signedValue]
    rcases Nat.lt_or_ge (decimalValue p.digits) 655360 with h | h
    · have := hshort h
      split <;> omega
    · have := hlong h
      split <;> omega

theorem head?_power {c : Char} (h : (w.power.elim [] WrittenPower.letters).head? = some c) :
    ¬ c.isDigit ∧ c ≠ '.' := by
  cases hp : w.power with
  | none =>
    rw [hp] at h
    cases h
  | some p =>
    rw [hp] at h
    cases h
    rcases p.letter_mem with h | h <;> rw [h] <;> decide

theorem digits_not_isEmpty : ¬ ((w.whole.map digitOf).isEmpty &&
    ((w.part.getD []).map digitOf).isEmpty) = true := by
  have hne := w.isDecimal.ne_nil
  rw [Ne, List.append_eq_nil_iff] at hne
  simpa using hne

theorem readDecimal?_letters (negative : Bool) :
    Numeral.readDecimal? negative
        (w.whole ++ (w.part.elim [] ('.' :: ·) ++ w.power.elim [] WrittenPower.letters)) =
      some (.decimal negative (decimalValue w.digits)
        (w.readExponent - (w.part.getD []).length)) := by
  have hempty := w.digits_not_isEmpty
  have hwhole : ∀ c ∈ w.whole, c.isDigit := fun c hc =>
    w.isDecimal.isDigit c (List.mem_append_left _ hc)
  have hpower := readExponent?_letters w.power
  have hhead := fun c => w.head?_power (c := c)
  unfold Numeral.readDecimal? readExponent digits
  generalize w.power.elim [] WrittenPower.letters = powerLetters at hpower hhead
  cases hpart : w.part with
  | none =>
    rw [hpart] at hempty
    have htake : Numeral.takeDigits (w.whole ++ powerLetters) =
        (w.whole.map digitOf, powerLetters) :=
      takeDigits_append hwhole fun c hc => (hhead c hc).1
    have hpoint : ∀ rest, powerLetters ≠ '.' :: rest := by
      rintro rest rfl
      exact (hhead '.' rfl).2 rfl
    simp only [Option.elim_none, Option.getD_none, List.nil_append, List.append_nil, htake]
    refine (if_neg hempty).trans ?_
    rw [hpower, ofDigits_map_digitOf]
    rfl
  | some part =>
    rw [hpart] at hempty
    have hdigits : ∀ c ∈ part, c.isDigit := fun c hc =>
      w.isDecimal.isDigit c (List.mem_append_right _ (hpart ▸ hc))
    have htake : Numeral.takeDigits (w.whole ++ '.' :: (part ++ powerLetters)) =
        (w.whole.map digitOf, '.' :: (part ++ powerLetters)) := by
      refine takeDigits_append hwhole ?_
      rintro c ⟨⟩
      decide
    have htake' : Numeral.takeDigits (part ++ powerLetters) = (part.map digitOf, powerLetters) :=
      takeDigits_append hdigits fun c hc => (hhead c hc).1
    simp only [Option.elim_some, Option.getD_some, List.cons_append, htake, htake', hpower]
    refine (if_neg hempty).trans ?_
    rw [← List.map_append, ofDigits_map_digitOf, List.length_map]
    rfl

/-- No sign stands where the digits begin. -/
theorem head?_unsigned {c : Char}
    (h : (w.whole ++ (w.part.elim [] ('.' :: ·) ++ w.power.elim [] WrittenPower.letters)).head? =
      some c) : c ≠ '+' ∧ c ≠ '-' := by
  cases hw : w.whole with
  | cons d ds =>
    rw [hw] at h
    cases h
    have hd := w.isDecimal.isDigit c (List.mem_append_left _ (hw ▸ List.mem_cons_self))
    constructor <;> rintro rfl <;> exact absurd hd (by decide)
  | nil =>
    have hne := w.isDecimal.ne_nil
    rw [hw] at h hne
    cases hp : w.part with
    | none => simp [hp] at hne
    | some part =>
      rw [hp] at h
      cases h
      decide

/-- A written number is read, digit by digit. -/
theorem read?_text : Numeral.read? w.text = some w.numeral := by
  have hsign := takeSign_append w.sign fun c => w.head?_unsigned (c := c)
  unfold Numeral.read?
  rw [text, String.toList_ofList, letters, hsign]
  dsimp only
  rw [readDecimal?_letters]
  rfl

/-- Digits around a point, or without one, and behind them something that is read as a power. -/
theorem exists_of_readExponent? {sign : WrittenSign} {whole : List Char} (part : Option (List Char))
    {n : Numeral} (hwhole : ∀ c ∈ whole, c.isDigit) (hpart : ∀ c ∈ part.getD [], c.isDigit)
    (h : (if (whole.map digitOf).isEmpty && ((part.getD []).map digitOf).isEmpty then none
      else (Numeral.readExponent? rest).map fun e =>
        .decimal sign.isMinus (ofDigits 10 (whole.map digitOf ++ (part.getD []).map digitOf))
          (e - (((part.getD []).map digitOf).length : ℤ))) = some n) :
    ∃ w : WrittenNumber,
      w.letters = sign.letters ++ (whole ++ (part.elim [] ('.' :: ·) ++ rest)) ∧
        w.numeral = n := by
  by_cases hempty : ((whole.map digitOf).isEmpty && ((part.getD []).map digitOf).isEmpty) = true
  · rw [if_pos hempty] at h
    cases h
  · rw [if_neg hempty] at h
    obtain ⟨e, he, rfl⟩ := Option.map_eq_some_iff.1 h
    obtain ⟨power, rfl, rfl⟩ := exists_power he
    have hne : whole ++ part.getD [] ≠ [] := by
      intro hnil
      rw [List.append_eq_nil_iff] at hnil
      simp [hnil] at hempty
    have hdigits : ∀ c ∈ whole ++ part.getD [], c.isDigit := by
      intro c hc
      rcases List.mem_append.1 hc with hc | hc
      · exact hwhole c hc
      · exact hpart c hc
    refine ⟨⟨sign, whole, part, power, ⟨hne, hdigits⟩⟩, rfl, ?_⟩
    rw [← List.map_append, ofDigits_map_digitOf, List.length_map]
    rfl

/-- What is read behind a sign has digits, maybe a point with digits behind it, maybe a power. -/
theorem exists_of_readDecimal? {sign : WrittenSign} {n : Numeral}
    (h : Numeral.readDecimal? sign.isMinus cs = some n) :
    ∃ w : WrittenNumber, w.letters = sign.letters ++ cs ∧ w.numeral = n := by
  obtain ⟨whole, rest, hwhole, rfl, htake⟩ := exists_digits cs
  unfold Numeral.readDecimal? at h
  rw [htake] at h
  by_cases hpoint : ∃ rest', rest = '.' :: rest'
  · obtain ⟨rest, rfl⟩ := hpoint
    obtain ⟨part, rest, hpart, rfl, htake'⟩ := exists_digits rest
    simp only [htake'] at h
    exact exists_of_readExponent? (some part) hwhole hpart h
  · -- without a point in front there is nothing behind one
    have hmatch : ∀ rest', rest ≠ '.' :: rest' := fun rest' he => hpoint ⟨rest', he⟩
    simp only at h
    exact exists_of_readExponent? none hwhole (by simp) h

/-- What is read as a decimal number is one as it is written. -/
theorem exists_text_eq_of_read? {s : String} {negative : Bool} {digits : ℕ} {exponent : ℤ}
    (h : Numeral.read? s = some (.decimal negative digits exponent)) :
    ∃ w : WrittenNumber, w.text = s ∧ w.numeral = .decimal negative digits exponent := by
  obtain ⟨sign, hs, hminus⟩ := exists_sign s.toList
  unfold Numeral.read? at h
  generalize Numeral.takeSign s.toList = taken at h hs hminus
  obtain ⟨negative', cs⟩ := taken
  dsimp only at h hs hminus
  subst hminus
  rcases Option.or_eq_some_iff.1 h with h | ⟨-, h⟩
  · obtain ⟨w, hletters, hnumeral⟩ := exists_of_readDecimal? h
    refine ⟨w, ?_, hnumeral⟩
    rw [text, hletters, ← hs, String.ofList_toList]
  · -- the words are no decimal numbers
    rw [Numeral.readWord?] at h
    split at h
    · cases h
    · split at h <;> cases h

/-- The texts that are read as decimal numbers are those of written numbers. -/
theorem exists_read?_eq_iff {s : String} :
    (∃ negative digits exponent, Numeral.read? s = some (.decimal negative digits exponent)) ↔
      ∃ w : WrittenNumber, w.text = s := by
  constructor
  · rintro ⟨negative, digits, exponent, h⟩
    obtain ⟨w, hw, -⟩ := exists_text_eq_of_read? h
    exact ⟨w, hw⟩
  · rintro ⟨w, rfl⟩
    exact ⟨_, _, _, w.read?_text⟩

end WrittenNumber

end Reading

end AdcFeed
