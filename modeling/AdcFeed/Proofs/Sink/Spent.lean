import AdcFeed.Proofs.Sink.Delivered

/-!
What attempts at a sink use up. Main statement: an attempt that has an effect uses up a step as long
as there are any, and every byte taken uses up room (`Attempts.spent`); so a sink with limited room
never takes more than it has room for.
-/

namespace AdcFeed

namespace SinkView

/-- What is left of a sink after some attempts. -/
structure Spent (v v' : SinkView) : Prop where
  writes_le : v'.writes.length ≤ v.writes.length
  writes_lt : v'.out ≠ v.out → v'.writes.length ≤ v.writes.length - 1
  flushes_le : v'.flushes.length ≤ v.flushes.length
  flushes_lt : v'.flushedAt ≠ v.flushedAt → v'.flushes.length ≤ v.flushes.length - 1
  room_none : v.room = none → v'.room = none
  room_some : ∀ n, v.room = some n →
    ∃ m, v'.room = some m ∧ v'.out.length + m = v.out.length + n

variable {u v v' : SinkView}

theorem Spent.refl (v : SinkView) : Spent v v where
  writes_le := Nat.le_refl _
  writes_lt h := absurd rfl h
  flushes_le := Nat.le_refl _
  flushes_lt h := absurd rfl h
  room_none h := h
  room_some n hn := ⟨n, hn, rfl⟩

theorem Spent.trans (h : Spent u v) (h' : Spent v v') : Spent u v' where
  writes_le := Nat.le_trans h'.writes_le h.writes_le
  writes_lt ho := by
    have hle := h.writes_le
    have hle' := h'.writes_le
    by_cases hv : v.out = u.out
    · have := h'.writes_lt (hv ▸ ho)
      omega
    · have := h.writes_lt hv
      omega
  flushes_le := Nat.le_trans h'.flushes_le h.flushes_le
  flushes_lt ho := by
    have hle := h.flushes_le
    have hle' := h'.flushes_le
    by_cases hv : v.flushedAt = u.flushedAt
    · have := h'.flushes_lt (hv ▸ ho)
      omega
    · have := h.flushes_lt hv
      omega
  room_none hr := h'.room_none (h.room_none hr)
  room_some n hn := by
    obtain ⟨m, hm, hout⟩ := h.room_some n hn
    obtain ⟨k, hk, hout'⟩ := h'.room_some m hm
    exact ⟨k, hk, by omega⟩

theorem spent_afterWrite (v : SinkView) (offered : Bytes) : Spent v (v.afterWrite offered) where
  writes_le := List.length_tail ▸ Nat.sub_le _ _
  writes_lt _ := Nat.le_of_eq List.length_tail
  flushes_le := Nat.le_refl _
  flushes_lt h := absurd rfl h
  room_none hr := by simp only [afterWrite, hr, Option.map_none]
  room_some n hn := by
    have htaken : ((v.writeAnswer offered).taken offered).length ≤ n := by
      cases ha : v.writeAnswer offered with
      | retry | fail => simp [Attempt.taken]
      | took size =>
        rw [writeAnswer, hn] at ha
        have hmin := took_le_min ha
        have hlen : (offered.take size).length ≤ size := List.length_take_le _ _
        simp only [Option.getD_some] at hmin
        show (offered.take size).length ≤ n
        omega
    refine ⟨n - ((v.writeAnswer offered).taken offered).length, ?_, ?_⟩
    · simp only [afterWrite, hn, Option.map_some]
    · simp only [afterWrite, List.length_append]
      omega

theorem spent_afterFlush (v : SinkView) : Spent v v.afterFlush where
  writes_le := Nat.le_refl _
  writes_lt h := absurd rfl h
  flushes_le := List.length_tail ▸ Nat.sub_le _ _
  flushes_lt _ := Nat.le_of_eq List.length_tail
  room_none h := h
  room_some n hn := ⟨n, hn, rfl⟩

theorem Attempts.spent {error : Option IoError} (h : Attempts v error v') : Spent v v' := by
  induction h with
  | done v => exact .refl v
  | write offered _ _ _ ih => exact (spent_afterWrite _ offered).trans ih
  | writeFailed offered _ _ => exact spent_afterWrite _ offered
  | flush _ _ ih => exact (spent_afterFlush _).trans ih
  | flushFailed _ => exact spent_afterFlush _

end SinkView

end AdcFeed
