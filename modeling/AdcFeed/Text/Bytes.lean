/-!
Byte strings and the text they spell. Main statement: reading bytes as text and writing the text
as bytes undo each other, so a byte string spells at most one text.
-/

namespace AdcFeed

/-- What travels on the wire. -/
abbrev Bytes := List UInt8

/-- The UTF-8 bytes of a text. -/
def encodeText (s : String) : Bytes := s.toUTF8.data.toList

/-- The text that the bytes spell in UTF-8; surrogates and overlong forms spell nothing. -/
def decodeText? (bs : Bytes) : Option String := String.fromUTF8? bs.toByteArray

theorem toByteArray_encodeText (s : String) : (encodeText s).toByteArray = s.toByteArray := by
  apply ByteArray.ext
  simp [encodeText]

theorem decodeText?_eq_some_iff {bs : Bytes} {s : String} :
    decodeText? bs = some s ↔ encodeText s = bs := by
  unfold decodeText? String.fromUTF8?
  constructor
  · intro h
    split at h
    · simp only [Option.some.injEq] at h
      subst h
      simp [encodeText, String.fromUTF8]
    · simp at h
  · rintro rfl
    have h : (encodeText s).toByteArray.IsValidUTF8 := by
      rw [toByteArray_encodeText]; exact s.isValidUTF8
    rw [dif_pos h, Option.some.injEq, ← String.toByteArray_inj]
    exact toByteArray_encodeText s

theorem decodeText?_encodeText (s : String) : decodeText? (encodeText s) = some s :=
  decodeText?_eq_some_iff.2 rfl

theorem encodeText_append (s t : String) : encodeText (s ++ t) = encodeText s ++ encodeText t := by
  simp [encodeText]

end AdcFeed
