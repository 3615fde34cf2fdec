import AdcFeed.Proofs.Sink.Delivered

/-!
The attempt at which a delivery stops. Main statement: a buffer that is not delivered has met its
failure in a write that was offered what was left of it or, taken whole, in the flush behind it; no
attempt failed for good before that one, and none was made after it (`exists_stop_of_deliver`).
-/

namespace AdcFeed

namespace SinkView

/-- The attempt that fails for good when `part` of a buffer has been taken: a write that is offered
the rest, or the flush behind the whole buffer. -/
inductive Stop (buffer part : Bytes) (e : IoError) (v : SinkView) : SinkView → Prop
  | write (rest : Bytes) (hr : rest ≠ []) (hb : part ++ rest = buffer)
      (ha : v.writeAnswer rest = .fail e) : Stop buffer part e v (v.afterWrite rest)
  | flush (hb : part = buffer) (ha : v.flushAnswer = .fail e) : Stop buffer part e v v.afterFlush

variable {v v' : SinkView} {buffer part bs : Bytes} {e : IoError}

theorem Stop.isPrefix (h : Stop buffer part e v v') : part <+: buffer := by
  cases h with
  | write rest _ hb _ => exact ⟨rest, hb⟩
  | flush hb _ => exact hb ▸ List.prefix_refl part

/-- The attempt that fails leaves nothing behind. -/
theorem Stop.out_eq (h : Stop buffer part e v v') :
    v'.out = v.out ∧ v'.flushedAt = v.flushedAt := by
  cases h with
  | write rest _ _ ha =>
    rw [afterWrite_of_fail ha]
    exact ⟨rfl, rfl⟩
  | flush _ ha => exact ⟨rfl, if_neg (by simp [ha])⟩

/-- A write that is interrupted is tried again, so this failure is one of the flush. -/
theorem Stop.eq_of_interrupted (h : Stop buffer part e v v') (he : e.kind = .interrupted) :
    part = buffer := by
  cases h with
  | flush hb _ => exact hb
  | write rest hr _ ha =>
    rw [writeAnswer, attempt_eq_fail_iff (List.length_pos_iff.2 hr)] at ha
    rcases ha with ⟨-, hne⟩ | ⟨size, -, ⟨-, rfl⟩ | ⟨-, -, rfl⟩⟩
    · exact absurd he hne
    · cases he
    · cases he

/-- Bytes taken earlier stand in front of both the buffer and the part of it. -/
theorem Stop.after (earlier : Bytes) (h : Stop buffer part e v v') :
    Stop (earlier ++ buffer) (earlier ++ part) e v v' := by
  cases h with
  | write rest hr hb ha => exact .write rest hr (by rw [List.append_assoc, hb]) ha
  | flush hb ha => exact .flush (by rw [hb]) ha

theorem taken_append_drop (answer : Attempt) (bs : Bytes) :
    answer.taken bs ++ bs.drop (answer.taken bs).length = bs := by
  cases answer with
  | took size => exact List.prefix_iff_eq_append.1 (List.take_prefix size bs)
  | retry | fail => rfl

theorem Writing.exists_stop (h : Writing v bs (some e) v') :
    ∃ w part, v.Attempts none w ∧ w.out = v.out ++ part ∧ w.flushedAt = v.flushedAt ∧
      w.Stop bs part e v' := by
  generalize he : some e = error at h
  induction h with
  | done => cases he
  | @more v _ bs _ ho ha _ ih =>
    obtain ⟨w, part, hw, hout, hat, hstop⟩ := ih he
    refine ⟨w, (v.writeAnswer bs).taken bs ++ part, .write bs ho ha hw, ?_, hat, ?_⟩
    · rw [hout, ← List.append_assoc]
      rfl
    · have hafter := hstop.after ((v.writeAnswer bs).taken bs)
      rwa [taken_append_drop] at hafter
  | @failed v bs _ ho ha =>
    cases he
    exact ⟨v, [], .done v, (List.append_nil _).symm, rfl, .write bs ho rfl ha⟩

theorem Flushing.exists_stop (h : Flushing v (some e) v') :
    ∃ w, v.Attempts none w ∧ w.out = v.out ∧ w.flushedAt = v.flushedAt ∧ w.Stop [] [] e v' := by
  generalize he : some e = error at h
  induction h with
  | done => cases he
  | more ha _ ih =>
    obtain ⟨w, hw, hout, hat, hstop⟩ := ih he
    exact ⟨w, .flush (by simp [ha]) hw, hout, hat.trans (if_neg (by simp [ha])), hstop⟩
  | @failed v _ ha =>
    cases he
    exact ⟨v, .done v, rfl, rfl, .flush rfl ha⟩

end SinkView

/-- A buffer that is not delivered has been taken up to where one attempt, the last that was made,
failed for good. -/
theorem Sink.exists_stop_of_deliver {s t : Sink} {bs : Bytes} {e : IoError}
    (h : s.deliver [bs] = (t, some e)) :
    ∃ w part, s.view.Attempts none w ∧ w.Stop bs part e t.view ∧ t.out = s.out ++ part ∧
      t.flushedAt = s.flushedAt := by
  have hwrite := writing_write s bs
  unfold deliver at h
  split at h
  · rename_i next e' hw
    cases h
    rw [hw] at hwrite
    obtain ⟨w, part, hattempts, hout, hat, hstop⟩ := hwrite.exists_stop
    obtain ⟨hout', hat'⟩ := hstop.out_eq
    exact ⟨w, part, hattempts, hstop, hout'.trans hout, hat'.trans hat⟩
  · rename_i next hw
    have htaken := (taken_writeSteps s.room s.writes bs).2 (congrArg Prod.snd hw)
    have hnext := out_write s bs
    have hnextAt := flushedAt_write s bs
    rw [hw] at hwrite hnext hnextAt
    rw [htaken] at hnext
    have hflush := flushing_flush next
    rw [deliver] at h
    rw [h] at hflush
    obtain ⟨w, hattempts, hout, hat, hstop⟩ := hflush.exists_stop
    obtain ⟨hout', hat'⟩ := hstop.out_eq
    have hafter := hstop.after bs
    rw [List.append_nil] at hafter
    refine ⟨w, bs, hwrite.attempts.trans hattempts, hafter, ?_, ?_⟩
    · exact (hout'.trans hout).trans hnext
    · exact (hat'.trans hat).trans hnextAt

end AdcFeed
