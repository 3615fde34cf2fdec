import AdcFeed.Proofs.Line
import AdcFeed.Proofs.Text.Integer

/-!
What a line is read as, said without how it is read. `SpellsReading` is the form of a line that
carries a number, and `Unended` removes the end of any other. Main statement: these forms tell of
every byte string whether it is a reading, or else which of three faults it is (`ofLine_classes`).
-/

namespace AdcFeed

/-- The byte that may stand before the one that ends a line. -/
def carriageReturn : UInt8 := 13

/-- The bytes are the prefix of a reading and a number, and then the end of a line or nothing. -/
def SpellsReading (line : Bytes) (v : Int) : Prop :=
  ∃ number ending, SpellsInteger number v ∧ ending ∈ ["", "\n", "\r\n"] ∧
    line = encodeText ("ADC: " ++ String.ofList number ++ ending)

/-- The text is what is left of the bytes without a newline at their end and, only where that
newline stood, a carriage return before it. -/
inductive Unended (text : String) : Bytes → Prop
  | bare (h : ¬ ['\n'] <:+ text.toList) : Unended text (encodeText text)
  | newline (h : ¬ ['\r'] <:+ text.toList) : Unended text (encodeText (text ++ "\n"))
  | returnNewline : Unended text (encodeText (text ++ "\r\n"))

/-! ## Line ends -/

section LineEnds

variable {α : Type} [BEq α] [LawfulBEq α] {xs ys : List α}

theorem isPrefixOf?_eq_none_iff : xs.isPrefixOf? ys = none ↔ ¬ xs <+: ys := by
  rw [← List.isPrefixOf_iff_prefix, ← List.isSome_isPrefixOf?_eq_isPrefixOf]
  cases xs.isPrefixOf? ys <;> simp

theorem isSuffixOf?_eq_none_iff : xs.isSuffixOf? ys = none ↔ ¬ xs <:+ ys := by
  rw [← List.isSuffixOf_iff_suffix, ← List.isSome_isSuffixOf?_eq_isSuffixOf]
  cases xs.isSuffixOf? ys <;> simp

variable {cs text : List Char}

theorem stripLineEnd_bare (h : ¬ ['\n'] <:+ text) : stripLineEnd text = text := by
  rw [stripLineEnd, isSuffixOf?_eq_none_iff.2 h]

theorem stripLineEnd_newline (h : ¬ ['\r'] <:+ text) : stripLineEnd (text ++ ['\n']) = text := by
  have hs : ['\n'].isSuffixOf? (text ++ ['\n']) = some text :=
    List.isSuffixOf?_eq_some_iff_append_eq.2 rfl
  rw [stripLineEnd, hs]
  simp only
  rw [isSuffixOf?_eq_none_iff.2 h, Option.getD_none]

theorem stripLineEnd_returnNewline (text : List Char) :
    stripLineEnd (text ++ ['\r', '\n']) = text := by
  have hs : ['\n'].isSuffixOf? (text ++ ['\r', '\n']) = some (text ++ ['\r']) :=
    List.isSuffixOf?_eq_some_iff_append_eq.2 (by simp)
  have hr : ['\r'].isSuffixOf? (text ++ ['\r']) = some text :=
    List.isSuffixOf?_eq_some_iff_append_eq.2 rfl
  rw [stripLineEnd, hs]
  simp only
  rw [hr, Option.getD_some]

/-- A text ends in one of three ways, the longest line end first. -/
theorem lineEnd_cases (cs : List Char) :
    (∃ text, cs = text ++ ['\r', '\n']) ∨ (∃ text, cs = text ++ ['\n'] ∧ ¬ ['\r'] <:+ text) ∨
      ¬ ['\n'] <:+ cs := by
  by_cases hn : ['\n'] <:+ cs
  · obtain ⟨rest, rfl⟩ := hn
    by_cases hr : ['\r'] <:+ rest
    · obtain ⟨text, rfl⟩ := hr
      exact .inl ⟨text, by simp⟩
    · exact .inr (.inl ⟨rest, rfl, hr⟩)
  · exact .inr (.inr hn)

theorem Unended.exists_encodeText {t : String} {line : Bytes} (h : Unended t line) :
    ∃ s, encodeText s = line := by
  cases h <;> exact ⟨_, rfl⟩

/-- What is left of a text without its line end is unique. -/
theorem unended_encodeText_iff {s t : String} :
    Unended t (encodeText s) ↔ t.toList = stripLineEnd s.toList := by
  constructor
  · intro h
    generalize hline : encodeText s = line at h
    cases h with
    | bare h =>
      obtain rfl := encodeText_injective hline
      rw [stripLineEnd_bare h]
    | newline h =>
      obtain rfl := encodeText_injective hline
      rw [String.toList_append]
      exact (stripLineEnd_newline h).symm
    | returnNewline =>
      obtain rfl := encodeText_injective hline
      rw [String.toList_append]
      exact (stripLineEnd_returnNewline _).symm
  · intro h
    rcases lineEnd_cases s.toList with ⟨text, hs⟩ | ⟨text, hs, hr⟩ | hn
    · rw [hs, stripLineEnd_returnNewline] at h
      have hst : s.toList = (t ++ "\r\n").toList := by rw [hs, String.toList_append, h]; rfl
      rw [String.toList_injective hst]
      exact .returnNewline
    · rw [hs, stripLineEnd_newline hr] at h
      have hst : s.toList = (t ++ "\n").toList := by rw [hs, String.toList_append, h]; rfl
      rw [String.toList_injective hst]
      exact .newline (h ▸ hr)
    · rw [stripLineEnd_bare hn] at h
      obtain rfl := String.toList_injective h
      exact .bare hn

end LineEnds

/-! ## Lines that carry a number -/

theorem endings_not_mem {number : List Char} {v : Int} (h : SpellsInteger number v) :
    '\n' ∉ readingPrefix.toList ++ number ∧ '\r' ∉ readingPrefix.toList ++ number := by
  constructor <;> intro hm <;> rcases List.mem_append.1 hm with hm | hm
  · exact absurd hm (by decide)
  · exact absurd (h.mem hm) (by decide)
  · exact absurd hm (by decide)
  · exact absurd (h.mem hm) (by decide)

theorem spellsReading_iff {line : Bytes} {v : Int} :
    SpellsReading line v ↔
      ∃ number, Unended (readingPrefix ++ String.ofList number) line ∧ SpellsInteger number v := by
  constructor
  · rintro ⟨number, ending, hv, hending, rfl⟩
    obtain ⟨hn, hr⟩ := endings_not_mem hv
    have htext : (readingPrefix ++ String.ofList number).toList =
        readingPrefix.toList ++ number := by
      rw [String.toList_append, String.toList_ofList]
    refine ⟨number, ?_, hv⟩
    simp only [List.mem_cons, List.not_mem_nil, or_false] at hending
    rcases hending with rfl | rfl | rfl
    · rw [String.append_empty]
      refine .bare ?_
      rw [htext]
      exact fun h => hn (h.subset List.mem_cons_self)
    · refine .newline ?_
      rw [htext]
      exact fun h => hr (h.subset List.mem_cons_self)
    · exact .returnNewline
  · rintro ⟨number, hu, hv⟩
    cases hu with
    | bare => exact ⟨number, "", hv, by simp, by rw [String.append_empty, readingPrefix]⟩
    | newline => exact ⟨number, "\n", hv, by simp, rfl⟩
    | returnNewline => exact ⟨number, "\r\n", hv, by simp, rfl⟩

namespace Reading

/-! ## What a text without line end is read as -/

variable {cs : List Char} {t : String}

theorem ofText_of_unmatched (h : ¬ readingPrefix.toList <+: cs) :
    ofText cs = .error (.missingPrefix (String.ofList cs)) := by
  rw [ofText, isPrefixOf?_eq_none_iff.2 h]

theorem ofText_eq_missingPrefix_iff :
    ofText cs = .error (.missingPrefix t) ↔ t.toList = cs ∧ ¬ readingPrefix.toList <+: cs := by
  by_cases hp : readingPrefix.toList <+: cs
  · obtain ⟨ds, rfl⟩ := hp
    rw [ofText_append]
    cases IntegerRange.signed32.read ds <;> simp
  · rw [ofText_of_unmatched hp]
    simp [hp, ← String.toList_inj, eq_comm]

theorem ofText_eq_invalidValue_iff :
    ofText cs = .error (.invalidValue t) ↔
      cs = readingPrefix.toList ++ t.toList ∧
        ∀ v, IntegerRange.signed32.read t.toList ≠ .ok v := by
  by_cases hp : readingPrefix.toList <+: cs
  · obtain ⟨ds, rfl⟩ := hp
    rw [ofText_append, List.append_cancel_left_eq]
    constructor
    · intro h
      cases hv : IntegerRange.signed32.read ds with
      | ok v => rw [hv] at h; cases h
      | error e =>
        rw [hv] at h
        cases h
        simp [hv]
    · rintro ⟨rfl, hv⟩
      cases hr : IntegerRange.signed32.read t.toList with
      | ok v => exact absurd hr (hv v)
      | error e => simp
  · rw [ofText_of_unmatched hp]
    constructor
    · intro h
      cases h
    · rintro ⟨rfl, -⟩
      exact absurd (List.prefix_append _ _) hp

theorem ofText_ne_others (cs : List Char) :
    ofText cs ≠ .error .notUtf8 ∧ ∀ limit dropped, ofText cs ≠ .error (.tooLong limit dropped) := by
  by_cases hp : readingPrefix.toList <+: cs
  · obtain ⟨ds, rfl⟩ := hp
    rw [ofText_append]
    cases IntegerRange.signed32.read ds <;> simp
  · rw [ofText_of_unmatched hp]
    simp

theorem read_signed32_eq_ok_iff {v : Int} :
    IntegerRange.signed32.read cs = .ok v ↔
      SpellsInteger cs v ∧ -0x80000000 ≤ v ∧ v ≤ 0x7FFFFFFF :=
  IntegerRange.read_eq_ok_iff_spells (by decide)

/-! ## What a line is read as -/

theorem ofLine_of_not_text {line : Bytes} (h : ∀ s, encodeText s ≠ line) :
    ofLine line = .error .notUtf8 := by
  cases hd : decodeText? line with
  | none => rw [ofLine, hd]
  | some s => exact absurd (decodeText?_eq_some_iff.1 hd) (h s)

theorem spellsReading_encodeText_iff {s : String} {v : Int} :
    SpellsReading (encodeText s) v ↔
      ∃ number, stripLineEnd s.toList = readingPrefix.toList ++ number ∧
        SpellsInteger number v := by
  rw [spellsReading_iff]
  simp only [unended_encodeText_iff, String.toList_append, String.toList_ofList, eq_comm]

theorem ofLine_encodeText_eq_ok_iff {s : String} {r : Reading} :
    ofLine (encodeText s) = .ok r ↔
      ∃ v, SpellsReading (encodeText s) v ∧ -0x80000000 ≤ v ∧ v ≤ 0x7FFFFFFF ∧
        r.value.toInt = v := by
  rw [ofLine_encodeText, ofText_eq_ok_iff]
  simp only [spellsReading_encodeText_iff, read_signed32_eq_ok_iff]
  constructor
  · rintro ⟨number, hs, hv, hmin, hmax⟩
    exact ⟨_, ⟨number, hs, hv⟩, hmin, hmax, rfl⟩
  · rintro ⟨v, ⟨number, hs, hv⟩, hmin, hmax, rfl⟩
    exact ⟨number, hs, hv, hmin, hmax⟩

theorem ofLine_encodeText_eq_invalidValue_iff {s t : String} :
    ofLine (encodeText s) = .error (.invalidValue t) ↔
      Unended (readingPrefix ++ t) (encodeText s) ∧
        ∀ v, SpellsReading (encodeText s) v → ¬ (-0x80000000 ≤ v ∧ v ≤ 0x7FFFFFFF) := by
  rw [ofLine_encodeText, ofText_eq_invalidValue_iff, unended_encodeText_iff, String.toList_append,
    eq_comm]
  refine and_congr_right fun hs => ?_
  simp only [spellsReading_encodeText_iff, ← hs, List.append_cancel_left_eq, ne_eq,
    read_signed32_eq_ok_iff]
  constructor
  · rintro h v ⟨number, rfl, hv⟩ hrange
    exact h v ⟨hv, hrange⟩
  · rintro h v ⟨hv, hrange⟩
    exact h v ⟨_, rfl, hv⟩ hrange

/-- **Every byte string is a reading or one of three faults, by its form alone.** It is read as a
reading exactly if it is the prefix, then a number with or without a sign, in the range of values,
and then no line end, a newline, or a carriage return and a newline. Otherwise it is no text, or the
text without its line end does not start with the prefix, or what follows the prefix is at fault. -/
theorem ofLine_classes (line : Bytes) :
    (∀ r, ofLine line = .ok r ↔
      ∃ v, SpellsReading line v ∧ -0x80000000 ≤ v ∧ v ≤ 0x7FFFFFFF ∧ r.value.toInt = v) ∧
    (ofLine line = .error .notUtf8 ↔ ∀ s, encodeText s ≠ line) ∧
    (∀ t, ofLine line = .error (.missingPrefix t) ↔
      Unended t line ∧ ¬ "ADC: ".toList <+: t.toList) ∧
    (∀ t, ofLine line = .error (.invalidValue t) ↔
      Unended ("ADC: " ++ t) line ∧
        ∀ v, SpellsReading line v → ¬ (-0x80000000 ≤ v ∧ v ≤ 0x7FFFFFFF)) ∧
    ∀ limit dropped, ofLine line ≠ .error (.tooLong limit dropped) := by
  by_cases htext : ∃ s, encodeText s = line
  · obtain ⟨s, rfl⟩ := htext
    obtain ⟨hutf8, hlong⟩ := ofText_ne_others (stripLineEnd s.toList)
    rw [← ofLine_encodeText] at hutf8
    simp only [← ofLine_encodeText] at hlong
    refine ⟨fun r => ofLine_encodeText_eq_ok_iff, ?_, fun t => ?_,
      fun t => ofLine_encodeText_eq_invalidValue_iff, hlong⟩
    · simp [hutf8]
    · rw [unended_encodeText_iff, ofLine_encodeText, ofText_eq_missingPrefix_iff]
      refine and_congr_right fun hs => ?_
      rw [hs, readingPrefix]
  · -- no text, so none of the forms, which are all forms of texts
    have hno : ∀ s, encodeText s ≠ line := fun s hs => htext ⟨s, hs⟩
    have hended : ∀ t, ¬ Unended t line := fun t h => htext h.exists_encodeText
    have hspells : ∀ v, ¬ SpellsReading line v := by
      intro v h
      obtain ⟨number, hu, -⟩ := spellsReading_iff.1 h
      exact hended _ hu
    rw [ofLine_of_not_text hno]
    simp [hno, hended, hspells]

end Reading

end AdcFeed
