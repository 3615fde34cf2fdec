import AdcFeed.Text.Printable
import Mathlib.Data.List.Basic

/-!
Texts of a stranger between quotes. No escape is the beginning of another
(`escapeChar_append_inj`), so the escapes up to a quote tell the letters (`flatMap_escapeChar_inj`).
Main statements: all letters of a quoted text can be shown in a log line (`shown_quote`), and no
two texts are quoted alike (`quote_injective`).
-/

namespace AdcFeed

/-- Whether the character is a control: the general category Cc. -/
def isControl (c : Char) : Bool := c.toNat < 0x20 || 0x7F ≤ c.toNat && c.toNat ≤ 0x9F

/-- A log line may show the character as it is. -/
structure Visible (c : Char) : Prop where
  isPrintable : isPrintable c = true
  not_isGraphemeExtend : isGraphemeExtend c = false
  not_isControl : isControl c = false

/-- A log line may show all letters of the text. -/
def Shown (cs : List Char) : Prop := ∀ c ∈ cs, Visible c

/-! ## Letters -/

/-- The table of unprintable characters holds all controls. -/
theorem isControl_eq_false {c : Char} (h : isPrintable c = true) : isControl c = false := by
  have hranges : ∀ r ∈ unprintableRanges, ¬ (r.1 ≤ c.toNat ∧ c.toNat ≤ r.2) := by
    simpa [isPrintable, inRanges] using h
  have hlow := hranges (0x0, 0x1F) List.mem_cons_self
  have hhigh := hranges (0x7F, 0xA0) (List.mem_cons_of_mem _ List.mem_cons_self)
  simp only [isControl, Bool.or_eq_false_iff, Bool.and_eq_false_iff, decide_eq_false_iff_not]
  omega

theorem inRanges_eq_false {ranges : List (Nat × Nat)} {n : Nat}
    (h : ranges.all (fun r => r.2 < 0x20 || 0x7E < r.1) = true) (hl : 0x20 ≤ n) (hh : n ≤ 0x7E) :
    inRanges ranges n = false := by
  rw [inRanges, List.any_eq_false]
  intro r hr
  have := List.all_eq_true.1 h r hr
  simp only [Bool.or_eq_true, Bool.and_eq_true, decide_eq_true_eq] at this ⊢
  omega

/-- The letters, digits and signs of ASCII can be shown, and its space. -/
theorem visible_of_ascii {c : Char} (hl : 0x20 ≤ c.toNat) (hh : c.toNat ≤ 0x7E) : Visible c := by
  have hprintable : isPrintable c = true := by
    rw [isPrintable, inRanges_eq_false (by decide +kernel) hl hh]
    rfl
  exact ⟨hprintable, inRanges_eq_false (by decide +kernel) hl hh, isControl_eq_false hprintable⟩

/-- Whether all letters are letters, digits, signs or spaces of ASCII. -/
def isVisibleAscii (cs : List Char) : Bool := cs.all fun c => 0x20 ≤ c.toNat && c.toNat ≤ 0x7E

theorem shown_of_isVisibleAscii {cs : List Char} (h : isVisibleAscii cs = true) : Shown cs := by
  intro c hc
  have := List.all_eq_true.1 h c hc
  simp only [Bool.and_eq_true, decide_eq_true_eq] at this
  exact visible_of_ascii this.1 this.2

theorem shown_append_iff {cs ds : List Char} : Shown (cs ++ ds) ↔ Shown cs ∧ Shown ds :=
  List.forall_mem_append

theorem shown_cons_iff {c : Char} {cs : List Char} : Shown (c :: cs) ↔ Visible c ∧ Shown cs :=
  List.forall_mem_cons

/-- Two texts in which a mark comes for the first time are equal up to it and behind it. -/
theorem eq_of_append_cons_eq {cs ds later later' : List Char} {mark : Char} (hc : mark ∉ cs)
    (hd : mark ∉ ds) (h : cs ++ mark :: later = ds ++ mark :: later') :
    cs = ds ∧ later = later' := by
  induction cs generalizing ds with
  | nil =>
    cases ds with
    | nil => exact ⟨rfl, (List.cons.inj h).2⟩
    | cons d ds => exact absurd ((List.cons.inj h).1 ▸ List.mem_cons_self) hd
  | cons c cs ih =>
    cases ds with
    | nil => exact absurd ((List.cons.inj h).1 ▸ List.mem_cons_self) hc
    | cons d ds =>
      obtain ⟨hfirst, hrest⟩ := List.cons.inj h
      obtain ⟨hcs, hlater⟩ := ih (List.not_mem_of_not_mem_cons hc)
        (List.not_mem_of_not_mem_cons hd) hrest
      exact ⟨List.cons_eq_cons.2 ⟨hfirst, hcs⟩, hlater⟩

/-! ## Digits -/

theorem exists_digitChar_of_mem_toDigits {base n : Nat} (hb : 1 < base) {c : Char}
    (h : c ∈ Nat.toDigits base n) : ∃ k < base, c = Nat.digitChar k := by
  induction n using Nat.strongRecOn with
  | _ n ih =>
    rw [Nat.toDigits_eq_if hb] at h
    split at h
    · rename_i hn
      exact ⟨n, hn, List.mem_singleton.1 h⟩
    · rename_i hn
      rcases List.mem_append.1 h with h | h
      · exact ih (n / base) (Nat.div_lt_self (by omega) hb) h
      · exact ⟨n % base, Nat.mod_lt n (by omega), List.mem_singleton.1 h⟩

theorem isVisibleAscii_digitChar : ∀ k < 16, isVisibleAscii [Nat.digitChar k] = true := by decide

theorem digitChar_ne_brace : ∀ k < 16, Nat.digitChar k ≠ '\x7d' := by decide

theorem digitChar_inj_sixteen : ∀ j < 16, ∀ k < 16, Nat.digitChar j = Nat.digitChar k → j = k := by
  decide

/-- A number is determined by its hexadecimal digits, from the last one on. -/
theorem toDigits_sixteen_inj {m n : Nat} (h : Nat.toDigits 16 m = Nat.toDigits 16 n) : m = n := by
  induction m using Nat.strongRecOn generalizing n with
  | _ m ih =>
    have hm := List.length_pos_iff.2 (Nat.toDigits_ne_nil (n := m / 16) (b := 16))
    have hn := List.length_pos_iff.2 (Nat.toDigits_ne_nil (n := n / 16) (b := 16))
    have hlength := congrArg List.length h
    rw [Nat.toDigits_eq_if (by omega), Nat.toDigits_eq_if (n := n) (by omega)] at h hlength
    split at h <;> split at h <;> rename_i hm' hn'
    · exact digitChar_inj_sixteen m hm' n hn' (List.singleton_inj.1 h)
    · simp only [if_pos hm', if_neg hn', List.length_singleton, List.length_append] at hlength
      omega
    · simp only [if_neg hm', if_pos hn', List.length_singleton, List.length_append] at hlength
      omega
    · obtain ⟨hhigh, hlow⟩ := List.append_inj' h rfl
      have hhigh := ih (m / 16) (by omega) hhigh
      have hlow := digitChar_inj_sixteen _ (Nat.mod_lt m (by omega)) _ (Nat.mod_lt n (by omega))
        (List.singleton_inj.1 hlow)
      omega

theorem shown_toDigits {base : Nat} (hb : 1 < base) (hs : base ≤ 16) (n : Nat) :
    Shown (Nat.toDigits base n) := by
  intro c hc
  obtain ⟨k, hk, rfl⟩ := exists_digitChar_of_mem_toDigits hb hc
  exact shown_of_isVisibleAscii (isVisibleAscii_digitChar k (by omega)) _ List.mem_cons_self

theorem brace_not_mem_toDigits (n : Nat) : '\x7d' ∉ Nat.toDigits 16 n := by
  intro h
  obtain ⟨k, hk, he⟩ := exists_digitChar_of_mem_toDigits (by omega) h
  exact digitChar_ne_brace k hk he.symm

/-! ## Escapes -/

/-- The character for which a letter after a backslash stands. -/
def namedChar : Char → Char
  | '0' => '\x00'
  | 't' => '\t'
  | 'r' => '\r'
  | 'n' => '\n'
  | c => c

/-- A character is written as itself, as a letter after a backslash, or by its code point. -/
theorem escapeChar_cases (c : Char) :
    (escapeChar c = [c] ∧ Visible c ∧ c ≠ '\\' ∧ c ≠ '"') ∨
    (∃ letter, escapeChar c = ['\\', letter] ∧ isVisibleAscii [letter] = true ∧ letter ≠ 'u' ∧
      namedChar letter = c) ∨
    escapeChar c = codePointEscape c := by
  unfold escapeChar
  split
  · rename_i h
    exact .inr (.inl ⟨'0', rfl, by decide, by decide, h.symm⟩)
  split
  · rename_i h
    exact .inr (.inl ⟨'t', rfl, by decide, by decide, h.symm⟩)
  split
  · rename_i h
    exact .inr (.inl ⟨'r', rfl, by decide, by decide, h.symm⟩)
  split
  · rename_i h
    exact .inr (.inl ⟨'n', rfl, by decide, by decide, h.symm⟩)
  split
  · rename_i h
    rcases Bool.or_eq_true_iff.1 h with h | h
    · obtain rfl := of_decide_eq_true h
      exact .inr (.inl ⟨'\\', rfl, by decide, by decide, rfl⟩)
    · obtain rfl := of_decide_eq_true h
      exact .inr (.inl ⟨'"', rfl, by decide, by decide, rfl⟩)
  split
  · rename_i hmark h
    simp only [Bool.or_eq_true, decide_eq_true_eq, not_or] at hmark
    simp only [Bool.and_eq_true, Bool.not_eq_true'] at h
    exact .inl ⟨rfl, ⟨h.1, h.2, isControl_eq_false h.1⟩, hmark⟩
  · exact .inr (.inr rfl)

theorem shown_escapeChar (c : Char) : Shown (escapeChar c) := by
  have hbackslash : Visible '\\' := visible_of_ascii (by decide) (by decide)
  rcases escapeChar_cases c with ⟨he, hv, -⟩ | ⟨letter, he, hplain, -⟩ | he <;> rw [he]
  · exact shown_cons_iff.2 ⟨hv, List.forall_mem_nil _⟩
  · exact shown_cons_iff.2 ⟨hbackslash, shown_of_isVisibleAscii hplain⟩
  · rw [codePointEscape]
    simp only [List.cons_append, shown_cons_iff, shown_append_iff]
    exact ⟨hbackslash, visible_of_ascii (by decide) (by decide),
      visible_of_ascii (by decide) (by decide), shown_toDigits (by omega) (by omega) _,
      visible_of_ascii (by decide) (by decide), List.forall_mem_nil _⟩

/-- No escape is the beginning of another, so the first letters of an escaped text tell the first
letter of the text. -/
theorem escapeChar_append_inj {c d : Char} {cs ds : List Char}
    (h : escapeChar c ++ cs = escapeChar d ++ ds) : c = d ∧ cs = ds := by
  rcases escapeChar_cases c with ⟨hc, -, hc', -⟩ | ⟨l, hc, -, hl, hc'⟩ | hc <;>
    rcases escapeChar_cases d with ⟨hd, -, hd', -⟩ | ⟨k, hd, -, hk, hd'⟩ | hd <;>
    rw [hc, hd] at h <;>
    simp only [codePointEscape, List.cons_append, List.nil_append, List.cons.injEq] at h
  · exact h
  · exact absurd h.1 hc'
  · exact absurd h.1 hc'
  · exact absurd h.1.symm hd'
  · obtain ⟨-, rfl, rfl⟩ := h
    exact ⟨hc'.symm.trans hd', rfl⟩
  · exact absurd h.2.1 hl
  · exact absurd h.1.symm hd'
  · exact absurd h.2.1.symm hk
  · -- both are code points, whose digits end at the first brace
    obtain ⟨-, -, -, h⟩ := h
    rw [List.append_assoc, List.append_assoc] at h
    obtain ⟨hdigits, hlater⟩ :=
      eq_of_append_cons_eq (brace_not_mem_toDigits _) (brace_not_mem_toDigits _) h
    exact ⟨Char.toNat_inj.1 (toDigits_sixteen_inj hdigits), hlater⟩

theorem escapeChar_append_ne (c : Char) (cs ds : List Char) :
    escapeChar c ++ cs ≠ '"' :: ds := by
  intro h
  rcases escapeChar_cases c with ⟨hc, -, -, hc'⟩ | ⟨l, hc, -⟩ | hc <;> rw [hc] at h
  · exact hc' (List.cons.inj h).1
  · exact absurd (List.cons.inj h).1 (by decide)
  · exact absurd (List.cons.inj h).1 (by decide)

/-! ## Quoted texts -/

/-- Escapes up to a quote are those of one text, whatever comes after the quote. -/
theorem flatMap_escapeChar_inj {cs ds later later' : List Char}
    (h : cs.flatMap escapeChar ++ '"' :: later = ds.flatMap escapeChar ++ '"' :: later') :
    cs = ds ∧ later = later' := by
  induction cs generalizing ds with
  | nil =>
    cases ds with
    | nil => exact ⟨rfl, (List.cons.inj h).2⟩
    | cons d ds =>
      rw [List.flatMap_cons, List.append_assoc] at h
      exact absurd h.symm (escapeChar_append_ne d _ _)
  | cons c cs ih =>
    cases ds with
    | nil =>
      rw [List.flatMap_cons, List.append_assoc] at h
      exact absurd h (escapeChar_append_ne c _ _)
    | cons d ds =>
      rw [List.flatMap_cons, List.flatMap_cons, List.append_assoc, List.append_assoc] at h
      obtain ⟨hc, hcs⟩ := escapeChar_append_inj h
      obtain ⟨hcs, hlater⟩ := ih hcs
      exact ⟨List.cons_eq_cons.2 ⟨hc, hcs⟩, hlater⟩

theorem toList_quote (s : String) :
    (quote s).toList = '"' :: s.toList.flatMap escapeChar ++ ['"'] := String.toList_ofList

theorem shown_quote (s : String) : Shown (quote s).toList := by
  have hquote : Visible '"' := visible_of_ascii (by decide) (by decide)
  rw [toList_quote, shown_append_iff, shown_cons_iff]
  refine ⟨⟨hquote, ?_⟩, shown_cons_iff.2 ⟨hquote, List.forall_mem_nil _⟩⟩
  intro c hc
  obtain ⟨d, -, hc⟩ := List.mem_flatMap.1 hc
  exact shown_escapeChar d c hc

/-- A text is determined by what is written between its quotes. -/
theorem quote_injective {s t : String} (h : quote s = quote t) : s = t := by
  have hlist := congrArg String.toList h
  rw [toList_quote, toList_quote] at hlist
  exact String.toList_inj.1 (flatMap_escapeChar_inj (List.cons.inj hlist).2).1

end AdcFeed
