import AdcFeed.Line
import AdcFeed.Proofs.Text.Decimal
import AdcFeed.Proofs.Text.Quoted

/-!
The words for the fault of a line. Main statements: all their letters can be shown in a log line
(`shown_message`), and no two faults have the same words (`message_inj`): they begin differently for
every kind of fault, and what follows spells a number or is a text in quotes.
-/

namespace AdcFeed

theorem shown_toString_nat (n : Nat) : Shown (toString n).toList := by
  rw [Nat.toString_eq_repr, Nat.toList_repr]
  exact shown_toDigits (by omega) (by omega) n

theorem shown_toString_int (v : Int) : Shown (toString v).toList := by
  have hdigits : Shown (Nat.toDigits 10 v.natAbs) := shown_toDigits (by omega) (by omega) _
  rw [toList_toString_int, signedDigits]
  split
  · exact shown_cons_iff.2 ⟨visible_of_ascii (by decide) (by decide), hdigits⟩
  · exact hdigits

theorem toDigits_ten_inj {m n : Nat} (h : Nat.toDigits 10 m = Nat.toDigits 10 n) : m = n := by
  rw [← decimalValue_toDigits m, h, decimalValue_toDigits]

theorem toString_nat_inj {m n : Nat} (h : toString m = toString n) : m = n := by
  have hlist := congrArg String.toList h
  rw [Nat.toString_eq_repr, Nat.toString_eq_repr, Nat.toList_repr, Nat.toList_repr] at hlist
  exact toDigits_ten_inj hlist

theorem space_not_mem_toDigits (n : Nat) : ' ' ∉ Nat.toDigits 10 n := fun h =>
  absurd ((isDecimal_toDigits n).isDigit _ h) (by decide)

namespace LineFault

theorem toList_message_tooLong (limit dropped : Nat) :
    (tooLong limit dropped).message.toList =
      "line exceeds ".toList ++ (Nat.toDigits 10 limit ++ ' ' :: ("bytes (".toList ++
        (Nat.toDigits 10 dropped ++ ' ' :: "bytes dropped)".toList))) := by
  unfold message
  simp [Nat.toString_eq_repr]

theorem shown_message (fault : LineFault) : Shown fault.message.toList := by
  unfold message
  cases fault with
  | notUtf8 => exact shown_of_isVisibleAscii (by decide)
  | missingPrefix text =>
    rw [String.toList_append, shown_append_iff]
    exact ⟨shown_of_isVisibleAscii (by decide), shown_quote text⟩
  | invalidValue text =>
    rw [String.toList_append, shown_append_iff]
    exact ⟨shown_of_isVisibleAscii (by decide), shown_quote text⟩
  | tooLong limit dropped =>
    simp only [String.toList_append, shown_append_iff]
    exact ⟨⟨⟨⟨shown_of_isVisibleAscii (by decide), shown_toString_nat limit⟩,
      shown_of_isVisibleAscii (by decide)⟩, shown_toString_nat dropped⟩,
      shown_of_isVisibleAscii (by decide)⟩

/-- The first six letters of the words, which only the kind of the fault decides. -/
def opening : LineFault → List Char
  | .notUtf8 => ['l', 'i', 'n', 'e', ' ', 'i']
  | .missingPrefix _ => ['m', 'i', 's', 's', 'i', 'n']
  | .invalidValue _ => ['i', 'n', 'v', 'a', 'l', 'i']
  | .tooLong .. => ['l', 'i', 'n', 'e', ' ', 'e']

theorem take_message (fault : LineFault) : fault.message.toList.take 6 = fault.opening := by
  unfold message
  cases fault <;> simp [opening]

theorem message_tooLong_inj {limit dropped limit' dropped' : Nat}
    (h : (tooLong limit dropped).message = (tooLong limit' dropped').message) :
    limit = limit' ∧ dropped = dropped' := by
  have hlist := congrArg String.toList h
  rw [toList_message_tooLong, toList_message_tooLong] at hlist
  -- each number ends at the first space behind it
  obtain ⟨hlimit, hlater⟩ := eq_of_append_cons_eq (space_not_mem_toDigits limit)
    (space_not_mem_toDigits limit') (List.append_cancel_left hlist)
  obtain ⟨hdropped, -⟩ := eq_of_append_cons_eq (space_not_mem_toDigits dropped)
    (space_not_mem_toDigits dropped') (List.append_cancel_left hlater)
  exact ⟨toDigits_ten_inj hlimit, toDigits_ten_inj hdropped⟩

/-- The words tell the fault, with the text or the numbers it carries. -/
theorem message_inj {fault fault' : LineFault} (h : fault.message = fault'.message) :
    fault = fault' := by
  have hopening : fault.opening = fault'.opening := by
    rw [← take_message, ← take_message, h]
  cases fault <;> cases fault' <;> simp [opening] at hopening
  case notUtf8.notUtf8 => rfl
  case missingPrefix.missingPrefix text text' =>
    rw [quote_injective ((String.append_right_inj _).1 h)]
  case invalidValue.invalidValue text text' =>
    rw [quote_injective ((String.append_right_inj _).1 h)]
  case tooLong.tooLong limit dropped limit' dropped' =>
    obtain ⟨rfl, rfl⟩ := message_tooLong_inj h
    rfl

end LineFault

end AdcFeed
