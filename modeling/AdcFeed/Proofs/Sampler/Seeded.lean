import AdcFeed.Proofs.Sampler.Codes
import AdcFeed.Proofs.Sender.Run

/-!
Readings of a seeded sampler against the words of its stream. The words are those of one block after
the other (`WordKey.blocks_eq`), and after a period they come again (`word_add_wordPeriod`). A
sampler that has drawn the codes of the first words stands behind the last word that selected one
(`HasRead`), and draws the next code wherever that is (`HasRead.sample`). Main statement: the
readings are the codes of the words that select one, in the order of the stream, each once
(`readings_ofSeed`).
-/

namespace AdcFeed

namespace WordKey

/-- The words of the first blocks of a stream, one after the other. -/
def blocks (key : WordKey) (count : Nat) : List UInt32 :=
  (List.range count).flatMap fun number => (wordBlock key (UInt64.ofNat number)).toList

theorem toList_wordBlock (key : WordKey) (number : Nat) :
    (wordBlock key (UInt64.ofNat number)).toList =
      (List.range 16).map fun i => key.word (16 * number + i) := by
  refine List.ext_getElem (by simp) ?_
  intro i hi _
  have hi' : i < 16 := by simpa using hi
  have hdiv : (16 * number + i) / 16 = number := by omega
  have hmod : (16 * number + i) % 16 = i := by omega
  rw [List.getElem_map, List.getElem_range, word]
  simp only [hdiv, hmod, Vector.getElem_toList]

/-- The index of a word counts the words of the blocks before its own. -/
theorem blocks_eq (key : WordKey) (count : Nat) :
    key.blocks count = (List.range (16 * count)).map key.word := by
  induction count with
  | zero => rfl
  | succ count ih =>
    have hrange : List.range (16 * (count + 1)) =
        List.range (16 * count) ++ (List.range 16).map (16 * count + ·) := by
      rw [← List.range_add]
      rfl
    rw [blocks, List.range_succ, List.flatMap_append, List.flatMap_singleton, toList_wordBlock,
      ← blocks, ih, hrange, List.map_append, List.map_map]
    rfl

/-- The number of a block is a word of 64 bits, and starts again. -/
theorem word_add_wordPeriod (key : WordKey) (index : Nat) :
    key.word (index + wordPeriod) = key.word index := by
  have hperiod : wordPeriod = 16 * 18446744073709551616 := rfl
  have hdiv : (index + wordPeriod) / 16 = index / 16 + 18446744073709551616 := by omega
  have hmod : (index + wordPeriod) % 16 = index % 16 := by omega
  have hnumber : UInt64.ofNat (index / 16 + 18446744073709551616) = UInt64.ofNat (index / 16) := by
    rw [← UInt64.toNat_inj, UInt64.toNat_ofNat', UInt64.toNat_ofNat']
    omega
  simp only [word, hdiv, hmod, hnumber]

theorem word_add_mul_wordPeriod (key : WordKey) (index n : Nat) :
    key.word (index + n * wordPeriod) = key.word index := by
  induction n with
  | zero => rw [Nat.zero_mul, Nat.add_zero]
  | succ n ih => rw [Nat.succ_mul, ← Nat.add_assoc, word_add_wordPeriod, ih]

end WordKey

/-! ## The codes of a stream -/

/-- The codes that the first words of a stream select. -/
def codes (words : Nat → UInt32) (count : Nat) : List UInt32 :=
  ((List.range count).map words).filterMap codeOfWord?

theorem codes_succ (words : Nat → UInt32) (count : Nat) :
    codes words (count + 1) = codes words count ++ (codeOfWord? (words count)).toList := by
  rw [codes, List.range_succ, List.map_append, List.filterMap_append]
  simp only [codes, List.map_cons, List.map_nil]
  cases h : codeOfWord? (words count) <;> simp [h]

theorem length_codes_mono (words : Nat → UInt32) {count later : Nat} (h : count ≤ later) :
    (codes words count).length ≤ (codes words later).length := by
  obtain ⟨n, rfl⟩ := Nat.exists_eq_add_of_le h
  rw [codes, codes, List.range_add, List.map_append, List.filterMap_append, List.length_append]
  exact Nat.le_add_right _ _

theorem filterMap_codeOfWord? (words : List UInt32) :
    words.filterMap codeOfWord? = (words.filter selects).map fun w : UInt32 => w >>> 22 := by
  induction words with
  | nil => rfl
  | cons w words ih =>
    rw [List.filterMap_cons, codeOfWord?_eq]
    cases h : selects w <;> simp [h, ih]

variable {words : Nat → UInt32} {tries index : Nat}

/-- Words that select nothing are passed over. -/
theorem firstCode?_of_none {i : Nat} {code : UInt32} (hi : index ≤ i) (ht : i < index + tries)
    (hnone : ∀ j, index ≤ j → j < i → codeOfWord? (words j) = none)
    (hcode : codeOfWord? (words i) = some code) :
    firstCode? words tries index = some (code, i + 1) := by
  induction tries generalizing index with
  | zero => omega
  | succ tries ih =>
    rw [firstCode?]
    rcases Nat.eq_or_lt_of_le hi with rfl | hlt
    · rw [hcode]
    · rw [hnone index (Nat.le_refl _) hlt]
      exact ih hlt (by omega) fun j hj => hnone j (by omega)

theorem toNat_lt_of_firstCode? {code : UInt32} {next : Nat}
    (h : firstCode? words tries index = some (code, next)) : code.toNat < 1024 := by
  induction tries generalizing index with
  | zero => simp [firstCode?] at h
  | succ tries ih =>
    rw [firstCode?] at h
    split at h
    · rename_i hc
      cases h
      obtain ⟨-, rfl⟩ := codeOfWord?_eq_some_iff.1 hc
      exact toNat_shiftRight_lt _
    · exact ih h

theorem toInt_toInt32 {code : UInt32} (h : code.toNat < 1024) :
    code.toInt32.toInt = code.toNat := by
  have hcode : code.toBitVec.toNat < 1024 := h
  rw [← Int32.toInt_toBitVec, UInt32.toBitVec_toInt32, BitVec.toInt_eq_toNat_of_lt (by omega),
    UInt32.toNat_toBitVec]

namespace SeededSampler

variable {s : SeededSampler} {count : Nat} {code : UInt32}

/-- Of the first words of its stream, those that the sampler has not looked at select nothing. -/
def HasRead (s : SeededSampler) (count : Nat) : Prop :=
  s.index ≤ count ∧ ∀ i, s.index ≤ i → i < count → codeOfWord? (s.key.word i) = none

theorem HasRead.succ (h : s.HasRead count) (hnone : codeOfWord? (s.key.word count) = none) :
    s.HasRead (count + 1) := by
  refine ⟨Nat.le_succ_of_le h.1, ?_⟩
  intro i hi hlt
  rcases Nat.lt_succ_iff_lt_or_eq.1 hlt with hlt | rfl
  · exact h.2 i hi hlt
  · exact hnone

/-- A word that selects a code comes within a period, since a period before it there is another. -/
theorem HasRead.lt_index_add (h : s.HasRead count)
    (hcode : codeOfWord? (s.key.word count) = some code) : count < s.index + wordPeriod := by
  by_contra hlong
  have hearlier : s.key.word (count - wordPeriod) = s.key.word count := by
    rw [← s.key.word_add_wordPeriod (count - wordPeriod), Nat.sub_add_cancel (by omega)]
  have hperiod : 0 < wordPeriod := by decide
  have hnone := h.2 (count - wordPeriod) (by omega) (by omega)
  rw [hearlier, hcode] at hnone
  cases hnone

theorem HasRead.sample (h : s.HasRead count)
    (hcode : codeOfWord? (s.key.word count) = some code) :
    Sampler.sample s =
      ((⟨code.toInt32⟩, { s with index := count + 1 }) : Reading × SeededSampler) := by
  have hfirst := firstCode?_of_none h.1 (h.lt_index_add hcode) h.2 hcode
  simp only [Sampler.sample, hfirst]

theorem take_succ_of_sample {n : Nat} {t : SeededSampler}
    (h : Sampler.sample (Sampler.after s n) = ((⟨code.toInt32⟩, t) : Reading × SeededSampler)) :
    Sampler.take s (n + 1) = Sampler.take s n ++ [⟨code.toInt32⟩] ∧
      Sampler.after s (n + 1) = t := by
  rw [Sampler.take_add, Sampler.after_add, Sampler.take, Sampler.take, Sampler.after,
    Sampler.after, h]
  exact ⟨rfl, rfl⟩

/-- A new sampler draws the codes of the first words one after the other, whatever lies between. -/
theorem hasRead_after (key : WordKey) (count : Nat) :
    let s : SeededSampler := { key }
    let later := Sampler.after s (codes key.word count).length
    Sampler.take s (codes key.word count).length =
        (codes key.word count).map (fun code => ⟨code.toInt32⟩) ∧
      later.key = key ∧ later.HasRead count := by
  intro s
  induction count with
  | zero => exact ⟨rfl, rfl, Nat.le_refl _, fun i _ hi => absurd hi (Nat.not_lt_zero i)⟩
  | succ count ih =>
    obtain ⟨htake, hkey, hread⟩ := ih
    cases hcode : codeOfWord? (key.word count) with
    | none =>
      rw [codes_succ, hcode, Option.toList_none, List.append_nil]
      refine ⟨htake, hkey, hread.succ ?_⟩
      rw [hkey, hcode]
    | some code =>
      obtain ⟨htake', hafter⟩ := take_succ_of_sample (hread.sample (by rw [hkey, hcode]))
      rw [codes_succ, hcode, Option.toList_some, List.length_append, List.length_singleton,
        htake', hafter, htake, List.map_append]
      refine ⟨rfl, hkey, Nat.le_refl _, ?_⟩
      intro i hi hlt
      exact absurd hlt (Nat.not_lt.2 hi)

/-- Readings are codes, also where none could be drawn. -/
theorem sample_mem (s : SeededSampler) :
    0 ≤ (Sampler.sample s).1.value.toInt ∧ (Sampler.sample s).1.value.toInt < 1024 := by
  simp only [Sampler.sample]
  split
  · rename_i code index hfirst
    have hcode := toNat_lt_of_firstCode? hfirst
    rw [toInt_toInt32 hcode]
    omega
  · show 0 ≤ (0 : Int32).toInt ∧ (0 : Int32).toInt < 1024
    decide

/-- A stream that selects a code selects any number of them, one in each period at least. -/
theorem exists_le_length_codes {key : WordKey} {i : Nat} (hi : selects (key.word i) = true)
    (n : Nat) : ∃ count, n ≤ (codes key.word count).length := by
  induction n with
  | zero => exact ⟨0, Nat.zero_le _⟩
  | succ n ih =>
    obtain ⟨count, hcount⟩ := ih
    have hlater : count ≤ i + count * wordPeriod :=
      Nat.le_add_left_of_le (Nat.le_mul_of_pos_right count (by decide))
    have hmono := length_codes_mono key.word hlater
    refine ⟨i + count * wordPeriod + 1, ?_⟩
    rw [codes_succ, key.word_add_mul_wordPeriod, codeOfWord?_eq, if_pos hi, List.length_append,
      Option.toList_some, List.length_singleton]
    omega

/-- Of the words in the first blocks of the stream of a seed, those whose bit 21 is clear. -/
def selecting (seed : UInt64) (count : Nat) : List UInt32 :=
  ((WordKey.ofSeed seed).blocks count).filter fun w => !w.toNat.testBit 21

theorem codes_ofSeed (seed : UInt64) (count : Nat) :
    codes (WordKey.ofSeed seed).word (16 * count) =
      (selecting seed count).map fun w : UInt32 => w >>> 22 := by
  rw [codes, ← WordKey.blocks_eq, filterMap_codeOfWord?]
  rfl

theorem length_codes_ofSeed (seed : UInt64) (count : Nat) :
    (codes (WordKey.ofSeed seed).word (16 * count)).length = (selecting seed count).length := by
  rw [codes_ofSeed, List.length_map]

/-- **A seeded sampler draws each word of its stream that selects a code, once and in order.** Take
the words of the first blocks, as many blocks as you like, and of them those whose bit 21 is clear:
the sampler for the seed gives their upper ten bits one after the other, whatever words lie between
and wherever blocks end. It gives any number of them, unless no word of the whole stream selects a
code. All readings lie below the number of codes; readings taken after others are those that would
have been taken after them; and each code is selected by as many words as any other. -/
theorem readings_ofSeed (seed : UInt64) :
    (∀ count, (Sampler.take (ofSeed seed) (selecting seed count).length).map
          (fun r => r.value.toInt) =
        (selecting seed count).map fun w : UInt32 => ((w >>> 22).toNat : Int)) ∧
      (∀ first, selecting seed first ≠ [] → ∀ n, ∃ count, n ≤ (selecting seed count).length) ∧
      (∀ n, 0 ≤ (Sampler.reading (ofSeed seed) n).value.toInt ∧
        (Sampler.reading (ofSeed seed) n).value.toInt < 1024) ∧
      (∀ k n, Sampler.take (Sampler.after (ofSeed seed) k) n =
        (Sampler.take (ofSeed seed) (k + n)).drop k) ∧
      ∀ code : UInt32, code.toNat < 1024 → {w | codeOfWord? w = some code}.ncard = 2 ^ 21 := by
  refine ⟨?_, ?_, fun n => sample_mem _, ?_, fun code hc => ncard_codeOfWord? hc⟩
  · intro count
    have htake : Sampler.take (ofSeed seed) (codes (WordKey.ofSeed seed).word (16 * count)).length =
        (codes (WordKey.ofSeed seed).word (16 * count)).map fun code => ⟨code.toInt32⟩ :=
      (hasRead_after (WordKey.ofSeed seed) (16 * count)).1
    rw [length_codes_ofSeed, codes_ofSeed, List.map_map] at htake
    rw [htake, List.map_map]
    exact List.map_congr_left fun w _ => toInt_toInt32 (toNat_shiftRight_lt w)
  · intro first hfirst n
    obtain ⟨w, hw⟩ := List.exists_mem_of_ne_nil _ hfirst
    obtain ⟨hmem, hselects⟩ := List.mem_filter.1 hw
    rw [WordKey.blocks_eq] at hmem
    obtain ⟨i, -, rfl⟩ := List.mem_map.1 hmem
    obtain ⟨count, hcount⟩ := exists_le_length_codes hselects n
    refine ⟨count, ?_⟩
    rw [← length_codes_ofSeed]
    exact Nat.le_trans hcount (length_codes_mono _ (by omega))
  · intro k n
    rw [Sampler.take_add, List.drop_left' (Sampler.length_take _ k)]

/-- Of the words in the first two blocks of a seed, eight in each are passed over. -/
theorem readings_ofSeed_seven :
    (Sampler.take (ofSeed 7) 16).map (fun r => r.value.toInt) =
        [31, 314, 62, 146, 667, 279, 610, 761, 481, 128, 654, 403, 21, 95, 87, 806] ∧
      (∀ n, ∃ count, n ≤ (selecting 7 count).length) ∧
      {w | codeOfWord? w = some 1023}.ncard = 2 ^ 21 := by
  have hcodes : (selecting 7 2).map (fun w : UInt32 => ((w >>> 22).toNat : Int)) =
      [31, 314, 62, 146, 667, 279, 610, 761, 481, 128, 654, 403, 21, 95, 87, 806] := by
    decide +kernel
  have hlength : (selecting 7 2).length = 16 := by
    have := congrArg List.length hcodes
    rwa [List.length_map] at this
  have hsome : selecting 7 2 ≠ [] := List.ne_nil_of_length_pos (by omega)
  obtain ⟨hreadings, hany, -, -, hcount⟩ := readings_ofSeed 7
  refine ⟨?_, hany 2 hsome, hcount 1023 (by decide)⟩
  rw [← hcodes, ← hreadings 2, ← hlength]

end SeededSampler

end AdcFeed
