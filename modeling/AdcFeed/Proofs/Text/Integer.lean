import AdcFeed.Proofs.Text.Decimal

/-!
Whole numbers as people write them, apart from how they are read. Main statements: a text is read as
a number of a range exactly if it spells the number and the number is in the range
(`IntegerRange.read_eq_ok_iff_spells`), where the range decides whether a minus sign may stand
(`IntegerRange.read_unsigned_eq_ok_iff`).
-/

namespace AdcFeed

/-- The letters spell the number: maybe a sign, then digits, at least one. -/
inductive SpellsInteger : List Char → Int → Prop
  | bare {digits : List Char} (h : IsDecimal digits) : SpellsInteger digits (decimalValue digits)
  | plus {digits : List Char} (h : IsDecimal digits) :
      SpellsInteger ('+' :: digits) (decimalValue digits)
  | minus {digits : List Char} (h : IsDecimal digits) :
      SpellsInteger ('-' :: digits) (-(decimalValue digits : Int))

variable {cs : List Char} {v : Int} {range : IntegerRange}

theorem SpellsInteger.mem (h : SpellsInteger cs v) {c : Char} (hc : c ∈ cs) :
    c ∈ ['+', '-'] ∨ c.isDigit := by
  cases h with
  | bare h => exact .inr (h.isDigit c hc)
  | plus h =>
    rcases List.mem_cons.1 hc with rfl | hc
    · exact .inl (by decide)
    · exact .inr (h.isDigit c hc)
  | minus h =>
    rcases List.mem_cons.1 hc with rfl | hc
    · exact .inl (by decide)
    · exact .inr (h.isDigit c hc)

namespace IntegerRange

theorem spells_of_read (h : range.read cs = .ok v) : SpellsInteger cs v := by
  obtain ⟨digits, hd, ⟨rfl, -, rfl, -⟩ | ⟨rfl | rfl, rfl, -⟩⟩ := read_eq_ok_iff.1 h
  · exact .minus hd
  · exact .bare hd
  · exact .plus hd

/-- In a range that goes below zero every number of the range is read, however it is spelled. -/
theorem read_eq_ok_iff_spells (hl : range.least < 0) :
    range.read cs = .ok v ↔ SpellsInteger cs v ∧ range.least ≤ v ∧ v ≤ range.greatest := by
  constructor
  · intro h
    exact ⟨spells_of_read h, mem_of_read_eq_ok h⟩
  · rintro ⟨hs, hleast, hgreatest⟩
    refine read_eq_ok_iff.2 ?_
    cases hs with
    | bare hd => exact ⟨_, hd, .inr ⟨.inl rfl, rfl, hgreatest⟩⟩
    | plus hd => exact ⟨_, hd, .inr ⟨.inr rfl, rfl, hgreatest⟩⟩
    | minus hd => exact ⟨_, hd, .inl ⟨rfl, hl, rfl, hleast⟩⟩

/-- In a range that starts at zero a minus sign is refused, before a zero too. -/
theorem read_unsigned_eq_ok_iff (hl : range.least = 0) :
    range.read cs = .ok v ↔
      SpellsInteger cs v ∧ cs.head? ≠ some '-' ∧ v ≤ range.greatest := by
  constructor
  · intro h
    refine ⟨spells_of_read h, ?_, (mem_of_read_eq_ok h).2⟩
    obtain ⟨digits, hd, ⟨-, hneg, -⟩ | ⟨rfl | rfl, -⟩⟩ := read_eq_ok_iff.1 h
    · omega
    · obtain ⟨c, ds, rfl⟩ := List.exists_cons_of_ne_nil hd.ne_nil
      simpa using hd.head_ne.1
    · simp
  · rintro ⟨hs, hhead, hgreatest⟩
    refine read_eq_ok_iff.2 ?_
    cases hs with
    | bare hd => exact ⟨_, hd, .inr ⟨.inl rfl, rfl, hgreatest⟩⟩
    | plus hd => exact ⟨_, hd, .inr ⟨.inr rfl, rfl, hgreatest⟩⟩
    | minus hd => exact absurd rfl hhead

end IntegerRange

end AdcFeed
