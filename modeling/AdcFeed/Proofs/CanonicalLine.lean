import AdcFeed.Proofs.LineGrammar

/-!
The one spelling of a reading that is written, among the many that are read. `IsPlain` says of a
number, by its letters alone, that it is written so. Main statements: digits without a zero in front
are the digits of the number they spell (`toDigits_decimalValue`), hence a number is plain exactly
if it is its own text (`SpellsInteger.eq_toString_iff`); and what a line is read as is written as
this line exactly if it ends in a bare newline and its number is plain (`encode_canonical`).
-/

namespace AdcFeed

/-! ## Digits without a zero in front -/

section Digits

variable {c : Char} {digits : List Char}

theorem digitChar_of_isDigit (h : c.isDigit) : (c.toNat - '0'.toNat).digitChar = c := by
  simp only [Char.isDigit, Bool.and_eq_true, decide_eq_true_eq] at h
  have hmin : 48 ≤ c.toNat := UInt32.le_iff_toNat_le.1 h.1
  have hmax : c.toNat ≤ 57 := UInt32.le_iff_toNat_le.1 h.2
  have hzero : '0'.toNat = 48 := rfl
  have hten : ∀ d < 10, Nat.digitChar d = Char.ofNat (48 + d) := by decide
  rw [hzero, hten _ (by omega)]
  have hc : 48 + (c.toNat - 48) = c.toNat := by omega
  rw [hc, Char.ofNat_toNat]

/-- Digits without a zero before another digit are the digits of the number that they spell. -/
theorem toDigits_decimalValue (hd : IsDecimal digits) (hz : ∀ c, ¬ ['0', c] <+: digits) :
    Nat.toDigits 10 (decimalValue digits) = digits := by
  -- from the back: before the last digit stands a number that is not zero, or nothing
  induction digits using List.reverseRecOn with
  | nil => exact absurd rfl hd.ne_nil
  | append_singleton ds c ih =>
    have hc := hd.isDigit c (by simp)
    have hlast : Nat.toDigits 10 (c.toNat - '0'.toNat) = [c] := by
      rw [Nat.toDigits_of_lt_base (digitValue_lt hc), digitChar_of_isDigit hc]
    rw [decimalValue_concat]
    by_cases hds : ds = []
    · subst hds
      rw [List.nil_append, ← hlast, decimalValue, Nat.ofDigitChars_nil, Nat.mul_zero, Nat.zero_add]
    · have hfront : Nat.toDigits 10 (decimalValue ds) = ds :=
        ih ⟨hds, fun d hm => hd.isDigit d (List.mem_append_left _ hm)⟩
          fun d hp => hz d (hp.trans (List.prefix_append _ _))
      have hpos : 0 < decimalValue ds := by
        refine Nat.pos_of_ne_zero fun hzero => hz c ?_
        rw [hzero, Nat.toDigits_zero] at hfront
        rw [← hfront, List.singleton_append]
      rw [← Nat.toDigits_append_toDigits (by omega) hpos (digitValue_lt hc), hlast, hfront]

/-- The digits of a number do not begin with a zero before another digit. -/
theorem not_prefix_toDigits (n : Nat) (c : Char) : ¬ ['0', c] <+: Nat.toDigits 10 n := by
  rintro ⟨later, h⟩
  -- without the zero the same number is spelled by one digit less than it has
  have hlen : (Nat.toDigits 10 n).length = later.length + 2 := by simp [← h]
  have hdigits : ∀ d ∈ c :: later, d.isDigit := by
    intro d hd
    exact (isDecimal_toDigits n).isDigit d (h ▸ List.mem_cons_of_mem _ hd)
  have hvalue : decimalValue (c :: later) = n := by
    calc decimalValue (c :: later) = decimalValue ('0' :: c :: later) := by
          rw [decimalValue, decimalValue, Nat.ofDigitChars_cons (c := '0'), Nat.sub_self]
      _ = n := by rw [← decimalValue_toDigits n, ← h]; rfl
  have hlt := decimalValue_lt hdigits
  rw [hvalue, ← Nat.length_toDigits_le_iff (by omega) (by simp), hlen] at hlt
  simp at hlt

end Digits

/-! ## Plain numbers -/

/-- The number has no plus sign, no zero before another digit, and no minus sign before a zero
alone. -/
structure IsPlain (number : List Char) : Prop where
  plus_not_mem : '+' ∉ number
  no_leading_zero : ∀ c, ¬ ['0', c] <+: number ∧ ¬ ['-', '0', c] <+: number
  ne_minus_zero : number ≠ ['-', '0']

theorem isPlain_signedDigits {negative : Bool} {digits : List Char} (hd : IsDecimal digits)
    (hz : ∀ c, ¬ ['0', c] <+: digits) (hm : negative → digits ≠ ['0']) :
    IsPlain (signedDigits negative digits) := by
  have hsign : ∀ c ∈ digits, c ≠ '+' ∧ c ≠ '-' := by
    intro c hc
    have := hd.isDigit c hc
    constructor <;> rintro rfl <;> exact absurd this (by decide)
  cases negative with
  | false =>
    refine ⟨fun hp => (hsign _ hp).1 rfl, fun c => ⟨hz c, fun hp => ?_⟩, fun he => ?_⟩
    · exact (hsign _ (hp.subset List.mem_cons_self)).2 rfl
    · have hmem : '-' ∈ signedDigits false digits := he ▸ List.mem_cons_self
      exact (hsign _ hmem).2 rfl
  | true =>
    refine ⟨fun hp => ?_, fun c => ⟨fun hp => ?_, fun hp => ?_⟩, fun he => ?_⟩
    · rcases List.mem_cons.1 hp with hp | hp
      · exact absurd hp (by decide)
      · exact (hsign _ hp).1 rfl
    · exact absurd (List.cons_prefix_cons.1 hp).1 (by decide)
    · exact hz c (List.cons_prefix_cons.1 hp).2
    · exact hm rfl (List.cons.inj he).2

/-- A spelling of a number is its text exactly if it is plain. -/
theorem SpellsInteger.eq_toString_iff {number : List Char} {v : Int} (h : SpellsInteger number v) :
    number = (toString v).toList ↔ IsPlain number := by
  rw [toList_toString_int]
  constructor
  · rintro rfl
    refine isPlain_signedDigits (isDecimal_toDigits _) (not_prefix_toDigits _) ?_
    intro hv hzero
    have hvalue := decimalValue_toDigits v.natAbs
    rw [hzero] at hvalue
    have hneg := of_decide_eq_true hv
    have : decimalValue ['0'] = 0 := rfl
    omega
  · intro hp
    cases h with
    | bare hd =>
      have hdigits := toDigits_decimalValue hd fun c => (hp.no_leading_zero c).1
      rw [signedDigits, Int.natAbs_natCast, hdigits]
      simp
    | plus hd => exact absurd List.mem_cons_self hp.plus_not_mem
    | @minus digits hd =>
      have hdigits := toDigits_decimalValue hd fun c hc =>
        (hp.no_leading_zero c).2 (List.cons_prefix_cons.2 ⟨rfl, hc⟩)
      have hne : decimalValue digits ≠ 0 := by
        intro hzero
        rw [hzero, Nat.toDigits_zero] at hdigits
        exact hp.ne_minus_zero (by rw [← hdigits])
      have hneg : (-(decimalValue digits : Int)) < 0 := by omega
      rw [signedDigits, Int.natAbs_neg, Int.natAbs_natCast, hdigits, decide_eq_true hneg]
      rfl

/-! ## Lines -/

theorem SpellsInteger.ascii {number : List Char} {v : Int} (h : SpellsInteger number v) :
    Ascii (readingPrefix.toList ++ number) := by
  refine Ascii.append (by decide) fun c hc => ?_
  rcases h.mem hc with hsign | hdigit
  · have hascii : Ascii ['+', '-'] := by decide
    exact hascii c hsign
  · exact utf8Size_of_isDigit hdigit

namespace Reading

variable {line : Bytes} {number : List Char} {v : Int}

/-- Which of its three ends a line with a number has can be seen from its last two bytes. -/
theorem eq_newline_line_iff (h : SpellsInteger number v)
    (hu : Unended (readingPrefix ++ String.ofList number) line) :
    line = encodeText (readingPrefix ++ String.ofList number ++ "\n") ↔
      [newline] <:+ line ∧ ¬ [carriageReturn, newline] <:+ line := by
  obtain ⟨hn, hr⟩ := endings_not_mem h
  have htext : readingPrefix ++ String.ofList number =
      String.ofList (readingPrefix.toList ++ number) := by
    rw [String.ofList_append, String.ofList_toList]
  have hnewline : newline ∉ encodeText (readingPrefix ++ String.ofList number) := by
    rw [htext]
    exact newline_not_mem_encodeText h.ascii hn
  have hreturn : carriageReturn ∉ encodeText (readingPrefix ++ String.ofList number) := by
    rw [htext]
    exact byte_not_mem_encodeText h.ascii (c := '\r') rfl hr
  have hend : encodeText "\n" = [newline] := rfl
  have hends : encodeText "\r\n" = [carriageReturn, newline] := rfl
  cases hu with
  | bare =>
    rw [encodeText_append _ "\n", hend]
    generalize encodeText (readingPrefix ++ String.ofList number) = text at hnewline
    constructor
    · intro he
      exact absurd (he ▸ by simp) hnewline
    · rintro ⟨hs, -⟩
      exact absurd (hs.subset List.mem_cons_self) hnewline
  | newline =>
    rw [encodeText_append _ "\n", hend]
    generalize encodeText (readingPrefix ++ String.ofList number) = text at hreturn
    refine iff_of_true rfl ⟨List.suffix_append _ _, ?_⟩
    rintro ⟨before, hb⟩
    have hb : (before ++ [carriageReturn]) ++ [newline] = text ++ [newline] := by simpa using hb
    exact hreturn (List.append_cancel_right hb ▸ by simp)
  | returnNewline =>
    rw [encodeText_append _ "\r\n", encodeText_append _ "\n", hend, hends]
    refine iff_of_false ?_ ?_
    · intro he
      simp at he
    · rintro ⟨-, hs⟩
      exact hs (List.suffix_append _ _)

/-- A line with the number of a reading is written for the reading exactly if the number is written
as its text and a bare newline ends the line. -/
theorem encode_eq_iff {r : Reading} (hu : Unended (readingPrefix ++ String.ofList number) line) :
    r.encode = line ↔
      line = encodeText (readingPrefix ++ String.ofList number ++ "\n") ∧
        number = (toString r.value.toInt).toList := by
  constructor
  · rintro rfl
    have hreturn : '\r' ∉ readingLetters (decide (r.value.toInt < 0))
        (Nat.toDigits 10 r.value.toInt.natAbs) :=
      return_not_mem_readingLetters (isDecimal_toDigits _)
    have hstrip : stripLineEnd r.line.toList = r.text.toList := by
      have hend : "\n".toList = ['\n'] := rfl
      rw [Reading.line, String.toList_append, hend, stripLineEnd_append_newline]
      rwa [toList_text]
    have hline := unended_encodeText_iff.1 hu
    rw [hstrip, text, String.toList_append, String.toList_append, String.toList_ofList,
      List.append_cancel_left_eq] at hline
    rw [hline, String.ofList_toList]
    exact ⟨rfl, rfl⟩
  · rintro ⟨rfl, rfl⟩
    rw [String.ofList_toList]
    rfl

theorem ofLine_returnNewline (r : Reading) :
    ofLine (encodeText (r.text ++ "\r\n")) = .ok r := by
  have hends : "\r\n".toList = ['\r', '\n'] := rfl
  rw [ofLine_encodeText, String.toList_append, hends, stripLineEnd_returnNewline, toList_text]
  exact ofText_readingLetters (isDecimal_toDigits _) (signedValue_toDigits _).symm

/-- **A reading is written in one of the many ways that it is read, and which one it is can be seen
from the line.** The line of a reading is read as the reading, also without its newline and with a
carriage return before it. Different readings have different lines, of seven to seventeen bytes
with their only newline at the end. A line that is read as a reading is the reading's own exactly if
a newline ends it, no carriage return stands before that, and its number is plain. -/
theorem encode_canonical :
    (∀ r : Reading, ofLine r.encode = .ok r ∧ ofLine (encodeText r.text) = .ok r ∧
      ofLine (encodeText (r.text ++ "\r\n")) = .ok r) ∧
    (∀ r s : Reading, r ≠ s → r.encode ≠ s.encode) ∧
    (∀ r : Reading, 7 ≤ r.encode.length ∧ r.encode.length ≤ 17 ∧
      ∃ body, newline ∉ body ∧ r.encode = body ++ [newline]) ∧
    ∀ (line : Bytes) (r : Reading), ofLine line = .ok r →
      ∃ number, Unended (readingPrefix ++ String.ofList number) line ∧
        (r.encode = line ↔
          [newline] <:+ line ∧ ¬ [carriageReturn, newline] <:+ line ∧ IsPlain number) := by
  refine ⟨fun r => ⟨r.ofLine_encode, r.ofLine_text, r.ofLine_returnNewline⟩, ?_, ?_, ?_⟩
  · intro r s hne he
    have hs := s.ofLine_encode
    rw [← he, r.ofLine_encode] at hs
    exact hne (Except.ok.inj hs)
  · intro r
    exact ⟨r.length_encode.1, r.length_encode.2, _, r.newline_not_mem_text, r.encode_eq⟩
  · intro line r h
    obtain ⟨s, rfl⟩ : ∃ s, encodeText s = line := by
      by_contra hno
      rw [ofLine_of_not_text fun s hs => hno ⟨s, hs⟩] at h
      cases h
    obtain ⟨v, hspells, -, -, rfl⟩ := ofLine_encodeText_eq_ok_iff.1 h
    obtain ⟨number, hu, hv⟩ := spellsReading_iff.1 hspells
    refine ⟨number, hu, ?_⟩
    rw [encode_eq_iff hu, eq_newline_line_iff hv hu, hv.eq_toString_iff, and_assoc]

/-- A line of the reading -7 with zeros in front of its digit and a carriage return at its end. -/
def paddedLine : Bytes := encodeText "ADC: -007\r\n"

theorem encode_canonical_paddedLine :
    ofLine paddedLine = .ok ⟨-7⟩ ∧ (⟨-7⟩ : Reading) ≠ ⟨7⟩ ∧
      (⟨-7⟩ : Reading).encode ≠ (⟨7⟩ : Reading).encode ∧
      ∃ number, Unended (readingPrefix ++ String.ofList number) paddedLine ∧
        ((⟨-7⟩ : Reading).encode = paddedLine ↔
          [newline] <:+ paddedLine ∧ ¬ [carriageReturn, newline] <:+ paddedLine ∧
            IsPlain number) := by
  have hread : ofLine paddedLine = .ok ⟨-7⟩ := by decide
  have hne : (⟨-7⟩ : Reading) ≠ ⟨7⟩ := by decide
  obtain ⟨-, hdistinct, -, hplain⟩ := encode_canonical
  exact ⟨hread, hne, hdistinct _ _ hne, hplain _ _ hread⟩

end Reading

end AdcFeed
