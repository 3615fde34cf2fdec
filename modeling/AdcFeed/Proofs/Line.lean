import AdcFeed.Line
import AdcFeed.Proofs.Text.Ascii
import AdcFeed.Proofs.Text.Decimal

/-!
The line of a reading: its letters, its bytes, its length, and that reading it gives the reading
back. Main statements: the line is of seven to seventeen bytes and ends in its only newline
(`encode_eq`, `length_encode`), and with or without the newline it is read as the reading it was
written for (`ofLine_encode`, `ofLine_text`).
-/

namespace AdcFeed

/-! ## Line ends -/

section LineEnds

variable {cs : List Char}

theorem stripLineEnd_of_not_mem (h : '\n' ∉ cs) : stripLineEnd cs = cs := by
  unfold stripLineEnd
  cases hs : ['\n'].isSuffixOf? cs with
  | none => rfl
  | some rest =>
    have := List.isSuffixOf?_eq_some_iff_append_eq.1 hs
    exact absurd (this ▸ by simp) h

theorem stripLineEnd_append_newline (h : '\r' ∉ cs) : stripLineEnd (cs ++ ['\n']) = cs := by
  have hs : ['\n'].isSuffixOf? (cs ++ ['\n']) = some cs :=
    List.isSuffixOf?_eq_some_iff_append_eq.2 rfl
  unfold stripLineEnd
  rw [hs]
  cases hr : ['\r'].isSuffixOf? cs with
  | none => simp [hr]
  | some rest =>
    have := List.isSuffixOf?_eq_some_iff_append_eq.1 hr
    exact absurd (this ▸ by simp) h

end LineEnds

/-! ## The letters of a reading -/

/-- A reading as it is written, whatever its digits: the prefix, maybe a minus sign, the digits. -/
def readingLetters (negative : Bool) (digits : List Char) : List Char :=
  "ADC: ".toList ++ signedDigits negative digits

section Letters

variable {negative : Bool} {digits : List Char}

theorem mem_readingLetters (hd : IsDecimal digits) {c : Char}
    (hc : c ∈ readingLetters negative digits) :
    c ∈ ['A', 'D', 'C', ':', ' ', '-'] ∨ c.isDigit := by
  rcases List.mem_append.1 hc with hc | hc
  · exact .inl (List.mem_append_left ['-'] hc)
  · cases negative with
    | false => exact .inr (hd.isDigit c hc)
    | true =>
      rcases List.mem_cons.1 hc with rfl | hc
      · exact .inl (by decide)
      · exact .inr (hd.isDigit c hc)

theorem ascii_readingLetters (hd : IsDecimal digits) : Ascii (readingLetters negative digits) := by
  intro c hc
  rcases mem_readingLetters hd hc with hc | hc
  · have hascii : Ascii ['A', 'D', 'C', ':', ' ', '-'] := by decide
    exact hascii c hc
  · exact utf8Size_of_isDigit hc

theorem newline_not_mem_readingLetters (hd : IsDecimal digits) :
    '\n' ∉ readingLetters negative digits := by
  intro hc
  exact absurd (mem_readingLetters hd hc) (by decide)

theorem return_not_mem_readingLetters (hd : IsDecimal digits) :
    '\r' ∉ readingLetters negative digits := by
  intro hc
  exact absurd (mem_readingLetters hd hc) (by decide)

end Letters

namespace Reading

/-! ## Reading a text -/

theorem ofLine_encodeText (s : String) :
    ofLine (encodeText s) = ofText (stripLineEnd s.toList) := by
  rw [ofLine, decodeText?_encodeText]

theorem toInt_ofInt_of_read {cs : List Char} {v : Int}
    (h : IntegerRange.signed32.read cs = .ok v) : (Int32.ofInt v).toInt = v := by
  obtain ⟨hl, hg⟩ := IntegerRange.mem_of_read_eq_ok h
  exact Int32.toInt_ofInt_of_le hl (Int.lt_of_le_of_lt hg (by decide))

theorem ofText_append (ds : List Char) :
    ofText (readingPrefix.toList ++ ds) =
      match IntegerRange.signed32.read ds with
      | .error _ => .error (.invalidValue (String.ofList ds))
      | .ok v => .ok ⟨Int32.ofInt v⟩ := by
  have hp : readingPrefix.toList.isPrefixOf? (readingPrefix.toList ++ ds) = some ds :=
    List.isPrefixOf?_eq_some_iff_append_eq.2 rfl
  unfold ofText
  split
  · rename_i hnone
    rw [hp] at hnone
    cases hnone
  · rename_i digits hsome
    rw [hp] at hsome
    cases hsome
    rfl

/-- A text is read as a reading exactly if it is the prefix and then the value. -/
theorem ofText_eq_ok_iff {cs : List Char} {r : Reading} :
    ofText cs = .ok r ↔
      ∃ ds, cs = readingPrefix.toList ++ ds ∧
        IntegerRange.signed32.read ds = .ok r.value.toInt := by
  constructor
  · intro h
    cases hp : readingPrefix.toList.isPrefixOf? cs with
    | none =>
      rw [ofText, hp] at h
      cases h
    | some ds =>
      obtain rfl := List.isPrefixOf?_eq_some_iff_append_eq.1 hp
      rw [ofText_append] at h
      cases hv : IntegerRange.signed32.read ds with
      | error e =>
        rw [hv] at h
        cases h
      | ok v =>
        rw [hv] at h
        cases h
        exact ⟨ds, rfl, by rw [toInt_ofInt_of_read hv, hv]⟩
  · rintro ⟨ds, rfl, hv⟩
    rw [ofText_append, hv]
    exact congrArg (Except.ok ∘ Reading.mk) (Int32.ofInt_toInt r.value)

theorem ofText_readingLetters {negative : Bool} {digits : List Char} (hd : IsDecimal digits)
    {r : Reading} (hr : r.value.toInt = signedValue negative digits) :
    ofText (readingLetters negative digits) = .ok r := by
  refine ofText_eq_ok_iff.2 ⟨_, rfl, ?_⟩
  rw [hr]
  refine IntegerRange.read_signedDigits (by decide) hd ?_ ?_ <;> rw [← hr]
  · exact Int32.le_toInt r.value
  · have := Int32.toInt_lt r.value
    exact Int.le_of_lt_add_one this

/-! ## The bytes of a line -/

variable (r : Reading)

theorem toList_text : r.text.toList =
    readingLetters (decide (r.value.toInt < 0)) (Nat.toDigits 10 r.value.toInt.natAbs) := by
  rw [text, readingPrefix, String.toList_append, toList_toString_int, readingLetters]

theorem ascii_text : Ascii r.text.toList := by
  rw [toList_text]
  exact ascii_readingLetters (isDecimal_toDigits _)

theorem newline_not_mem_text : newline ∉ encodeText r.text := by
  have h := newline_not_mem_encodeText r.ascii_text
  rw [String.ofList_toList] at h
  apply h
  rw [toList_text]
  exact newline_not_mem_readingLetters (isDecimal_toDigits _)

theorem encode_eq : r.encode = encodeText r.text ++ [newline] := by
  rw [encode, line, encodeText_append]
  rfl

theorem encode_eq_ofList : r.encode = encodeText (String.ofList (r.text.toList ++ ['\n'])) := by
  rw [encode, line, String.ofList_append, String.ofList_toList]

theorem ascii_line : Ascii (r.text.toList ++ ['\n']) :=
  r.ascii_text.append (by decide)

theorem length_encode : 7 ≤ r.encode.length ∧ r.encode.length ≤ 17 := by
  have hlen : (encodeText r.text).length = r.text.toList.length := by
    rw [← length_encodeText_of_ascii r.ascii_text, String.ofList_toList]
  have hpos := List.length_pos_iff.2 (isDecimal_toDigits r.value.toInt.natAbs).ne_nil
  have hle : (Nat.toDigits 10 r.value.toInt.natAbs).length ≤ 10 := by
    rw [Nat.length_toDigits_le_iff (by omega) (by omega)]
    have := Int32.le_toInt r.value
    have := Int32.toInt_lt r.value
    omega
  have hprefix : "ADC: ".toList.length = 5 := rfl
  rw [encode_eq, List.length_append, hlen, toList_text, readingLetters, List.length_append,
    hprefix, signedDigits]
  split <;> simp only [List.length_cons, List.length_nil] <;> omega

/-- The text of a reading is read as the reading. -/
theorem ofLine_text : ofLine (encodeText r.text) = .ok r := by
  rw [ofLine_encodeText, toList_text, stripLineEnd_of_not_mem]
  · exact ofText_readingLetters (isDecimal_toDigits _) (signedValue_toDigits _).symm
  · exact newline_not_mem_readingLetters (isDecimal_toDigits _)

/-- The line of a reading is read as the reading. -/
theorem ofLine_encode : ofLine r.encode = .ok r := by
  have hend : "\n".toList = ['\n'] := rfl
  rw [encode, ofLine_encodeText, line, String.toList_append, toList_text, hend,
    stripLineEnd_append_newline]
  · exact ofText_readingLetters (isDecimal_toDigits _) (signedValue_toDigits _).symm
  · exact return_not_mem_readingLetters (isDecimal_toDigits _)

end Reading

end AdcFeed
