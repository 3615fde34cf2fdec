import AdcFeed.Lines
import AdcFeed.Text.Bytes
import Mathlib.Data.List.Infix

/-!
Texts in which each letter takes one byte. Main statement: the bytes of such a text, cut off
anywhere, are the bytes of the text cut off there (`exists_prefix_of_encodeText`).
-/

namespace AdcFeed

theorem encodeText_injective {s t : String} (h : encodeText s = encodeText t) : s = t := by
  have := congrArg decodeText? h
  rwa [decodeText?_encodeText, decodeText?_encodeText, Option.some.injEq] at this

theorem encodeText_ofList (cs : List Char) :
    encodeText (String.ofList cs) = cs.flatMap String.utf8EncodeChar := by
  simp [encodeText, List.utf8Encode]

/-- Every letter of the text takes one byte. -/
def Ascii (cs : List Char) : Prop := ∀ c ∈ cs, c.utf8Size = 1

instance (cs : List Char) : Decidable (Ascii cs) :=
  List.decidableBAll (Char.utf8Size · = 1) cs

variable {cs : List Char}

theorem Ascii.mono {ds : List Char} (h : Ascii cs) (hd : ds <+: cs) : Ascii ds := by
  intro c hc
  exact h c (hd.subset hc)

theorem Ascii.append {ds : List Char} (h : Ascii cs) (hd : Ascii ds) : Ascii (cs ++ ds) := by
  intro c hc
  rcases List.mem_append.1 hc with hc | hc
  · exact h c hc
  · exact hd c hc

theorem utf8Size_of_isDigit {c : Char} (h : c.isDigit) : c.utf8Size = 1 := by
  simp only [Char.isDigit, Bool.and_eq_true, decide_eq_true_eq] at h
  have hv : c.val ≤ 57 := h.2
  exact Char.utf8Size_eq_one_iff.2 (UInt32.le_trans hv (by decide))

theorem encodeText_of_ascii (h : Ascii cs) :
    encodeText (String.ofList cs) = cs.map fun c => c.val.toUInt8 := by
  rw [encodeText_ofList]
  induction cs with
  | nil => rfl
  | cons c cs ih =>
    rw [List.flatMap_cons, List.map_cons, ih fun d hd => h d (List.mem_cons_of_mem _ hd)]
    rw [String.utf8EncodeChar_eq_singleton (h c List.mem_cons_self)]
    rfl

theorem length_encodeText_of_ascii (h : Ascii cs) :
    (encodeText (String.ofList cs)).length = cs.length := by
  rw [encodeText_of_ascii h, List.length_map]

/-- A letter of one byte that is not in the text leaves its byte out of the bytes of the text. -/
theorem byte_not_mem_encodeText {c : Char} (h : Ascii cs) (hc : c.utf8Size = 1) (hn : c ∉ cs) :
    c.val.toUInt8 ∉ encodeText (String.ofList cs) := by
  rw [encodeText_of_ascii h]
  intro hm
  obtain ⟨d, hd, he⟩ := List.mem_map.1 hm
  have hval : d.val = c.val := by
    have hlec := UInt32.le_iff_toNat_le.1 (Char.utf8Size_eq_one_iff.1 hc)
    have hled := UInt32.le_iff_toNat_le.1 (Char.utf8Size_eq_one_iff.1 (h d hd))
    have hmod := congrArg UInt8.toNat he
    rw [UInt32.toNat_toUInt8, UInt32.toNat_toUInt8] at hmod
    simp only [UInt32.reduceToNat] at hlec hled
    exact UInt32.toNat_inj.1 (by omega)
  exact hn (Char.ext hval ▸ hd)

theorem newline_not_mem_encodeText (h : Ascii cs) (hn : '\n' ∉ cs) :
    newline ∉ encodeText (String.ofList cs) :=
  byte_not_mem_encodeText h rfl hn

theorem exists_prefix_of_encodeText (h : Ascii cs) {part : Bytes}
    (hp : part <+: encodeText (String.ofList cs)) :
    ∃ ds, ds <+: cs ∧ part = encodeText (String.ofList ds) := by
  rw [encodeText_of_ascii h, List.prefix_map_iff] at hp
  obtain ⟨ds, hd, rfl⟩ := hp
  exact ⟨ds, hd, (encodeText_of_ascii (h.mono hd)).symm⟩

theorem prefix_of_prefix_encodeText (h : Ascii cs) {ds : List Char}
    (hp : encodeText (String.ofList ds) <+: encodeText (String.ofList cs)) : ds <+: cs := by
  obtain ⟨es, he, hes⟩ := exists_prefix_of_encodeText h hp
  have := String.ofList_injective (encodeText_injective hes)
  exact this ▸ he

end AdcFeed
