import AdcFeed.Proofs.Line

/-!
The line of a reading cut off somewhere. `Spells` says which parts of a line carry a number, and the
number. Main statements: these and no others are read as readings (`ofLine_part`); and the reading
is the one the line was written for exactly if the whole of its text is there (`Spells.eq_iff`).
-/

namespace AdcFeed

/-- The bytes are the prefix of a reading, maybe a minus sign, and digits that give the number with
it, at least one; then maybe a newline. -/
def Spells (part : Bytes) (value : Int) : Prop :=
  ∃ negative digits, IsDecimal digits ∧ value = signedValue negative digits ∧
    (part = encodeText (String.ofList (readingLetters negative digits)) ∨
      part = encodeText (String.ofList (readingLetters negative digits ++ ['\n'])))

variable {part : Bytes} {r s : Reading} {value : Int}

/-- What spells the value of a reading is read as the reading. -/
theorem Spells.ofLine (h : Spells part r.value.toInt) : Reading.ofLine part = .ok r := by
  obtain ⟨negative, digits, hd, hv, rfl | rfl⟩ := h
  · rw [Reading.ofLine_encodeText, String.toList_ofList,
      stripLineEnd_of_not_mem (newline_not_mem_readingLetters hd)]
    exact Reading.ofText_readingLetters hd hv
  · rw [Reading.ofLine_encodeText, String.toList_ofList,
      stripLineEnd_append_newline (return_not_mem_readingLetters hd)]
    exact Reading.ofText_readingLetters hd hv

/-! ## Parts of a line -/

/-- A part of a line is a part of its text, or the line. -/
theorem exists_letters (hp : part <+: r.encode) :
    ∃ cs, cs <+: r.text.toList ∧
      (part = encodeText (String.ofList cs) ∨
        cs = r.text.toList ∧ part = encodeText (String.ofList (cs ++ ['\n']))) := by
  rw [r.encode_eq_ofList] at hp
  obtain ⟨cs, hcs, rfl⟩ := exists_prefix_of_encodeText r.ascii_line hp
  rcases List.prefix_concat_iff.1 hcs with rfl | hcs
  · exact ⟨_, List.prefix_refl _, .inr ⟨rfl, rfl⟩⟩
  · exact ⟨cs, hcs, .inl rfl⟩

theorem ofLine_of_letters {cs : List Char} (hcs : cs <+: r.text.toList)
    (h : part = encodeText (String.ofList cs) ∨ part = encodeText (String.ofList (cs ++ ['\n']))) :
    Reading.ofLine part = Reading.ofText cs := by
  rw [r.toList_text] at hcs
  have hd := isDecimal_toDigits r.value.toInt.natAbs
  rcases h with rfl | rfl
  · rw [Reading.ofLine_encodeText, String.toList_ofList, stripLineEnd_of_not_mem]
    intro hc
    exact newline_not_mem_readingLetters hd (hcs.subset hc)
  · rw [Reading.ofLine_encodeText, String.toList_ofList, stripLineEnd_append_newline]
    intro hc
    exact return_not_mem_readingLetters hd (hcs.subset hc)

/-- A part of a line that is read as a reading spells its value: no line has a plus sign. -/
theorem spells_of_ofLine (hp : part <+: r.encode) (h : Reading.ofLine part = .ok s) :
    Spells part s.value.toInt := by
  obtain ⟨cs, hcs, hpart⟩ := exists_letters hp
  have hpart : part = encodeText (String.ofList cs) ∨
      part = encodeText (String.ofList (cs ++ ['\n'])) := hpart.imp id And.right
  rw [ofLine_of_letters hcs hpart] at h
  obtain ⟨ds, rfl, hread⟩ := Reading.ofText_eq_ok_iff.1 h
  obtain ⟨digits, hd, ⟨rfl, -, hv, -⟩ | ⟨rfl | rfl, hv, -⟩⟩ := IntegerRange.read_eq_ok_iff.1 hread
  · exact ⟨true, digits, hd, hv, hpart⟩
  · exact ⟨false, ds, hd, hv, hpart⟩
  · have hplus : '+' ∈ r.text.toList := hcs.subset (by simp)
    rw [r.toList_text] at hplus
    exact absurd (mem_readingLetters (isDecimal_toDigits _) hplus) (by decide)

/-! ## Numbers that parts of a line spell -/

/-- A part of a line that spells a number has the sign of the line's number and digits from its
front. -/
theorem Spells.exists_digits (hp : part <+: r.encode) (h : Spells part value) :
    ∃ digits, IsDecimal digits ∧ digits <+: Nat.toDigits 10 r.value.toInt.natAbs ∧
      value = signedValue (decide (r.value.toInt < 0)) digits ∧
      (part = encodeText (String.ofList (readingLetters (decide (r.value.toInt < 0)) digits)) ∨
        part = encodeText
          (String.ofList (readingLetters (decide (r.value.toInt < 0)) digits ++ ['\n']))) := by
  obtain ⟨negative, digits, hd, hv, hpart⟩ := h
  have hbytes : encodeText (String.ofList (readingLetters negative digits)) <+: r.encode := by
    refine List.IsPrefix.trans ?_ hp
    rcases hpart with rfl | rfl
    · exact List.prefix_refl _
    · rw [String.ofList_append, encodeText_append]
      exact List.prefix_append _ _
  rw [r.encode_eq_ofList] at hbytes
  -- the digits end before the newline, so they are part of the text already
  have hletters : readingLetters negative digits <+: r.text.toList := by
    rcases List.prefix_concat_iff.1 (prefix_of_prefix_encodeText r.ascii_line hbytes) with he | he
    · have hn : '\n' ∈ readingLetters negative digits := by simp [he]
      exact absurd hn (newline_not_mem_readingLetters hd)
    · exact he
  rw [Reading.text, readingPrefix, String.toList_append, readingLetters,
    List.prefix_append_right_inj] at hletters
  obtain ⟨rfl, hdigits⟩ := prefix_of_prefix_toString hd hletters
  exact ⟨digits, hd, hdigits, hv, hpart⟩

/-- A number that a part of a line spells is one that a reading can have. -/
theorem Spells.exists_reading (hp : part <+: r.encode) (h : Spells part value) :
    ∃ s : Reading, s.value.toInt = value := by
  obtain ⟨digits, -, hdigits, rfl, -⟩ := h.exists_digits hp
  have hle := decimalValue_mono hdigits
  rw [decimalValue_toDigits] at hle
  have hmin := Int32.le_toInt r.value
  have hmax := Int32.toInt_lt r.value
  refine ⟨⟨Int32.ofInt _⟩, Int32.toInt_ofInt_of_le ?_ ?_⟩ <;>
    by_cases hneg : r.value.toInt < 0 <;>
    simp only [signedValue, hneg, decide_true, decide_false, if_true, if_false,
      Bool.false_eq_true] <;>
    omega

/-- A part of a line spells the number of the line exactly if the whole text of it is there. -/
theorem Spells.eq_iff (hp : part <+: r.encode) (h : Spells part s.value.toInt) :
    s = r ↔ part = encodeText r.text ∨ part = r.encode := by
  constructor
  · rintro rfl
    obtain ⟨digits, hd, hdigits, hv, hpart⟩ := h.exists_digits hp
    have hn : decimalValue digits = s.value.toInt.natAbs := by
      unfold signedValue at hv
      split at hv <;> omega
    obtain rfl := eq_toDigits_of_decimalValue_eq hd.ne_nil hdigits hn
    rw [← s.toList_text, ← s.encode_eq_ofList, String.ofList_toList] at hpart
    exact hpart
  · intro hpart
    have hr : Reading.ofLine part = .ok r := by
      rcases hpart with rfl | rfl
      · exact r.ofLine_text
      · exact r.ofLine_encode
    have := h.ofLine.symm.trans hr
    exact Except.ok.inj this

/-- A part of a line is read as the number that it spells, and it is a fault if it spells none. -/
theorem ofLine_part (hp : part <+: r.encode) :
    (∃ s, Reading.ofLine part = .ok s ∧ Spells part s.value.toInt ∧
        (s = r ↔ part = encodeText r.text ∨ part = r.encode)) ∨
      ∃ fault, Reading.ofLine part = .error fault ∧ ∀ value, ¬ Spells part value := by
  cases h : Reading.ofLine part with
  | ok s =>
    have hs := spells_of_ofLine hp h
    exact .inl ⟨s, rfl, hs, hs.eq_iff hp⟩
  | error fault =>
    refine .inr ⟨fault, rfl, ?_⟩
    intro value hv
    obtain ⟨s, rfl⟩ := hv.exists_reading hp
    rw [hv.ofLine] at h
    cases h

end AdcFeed
