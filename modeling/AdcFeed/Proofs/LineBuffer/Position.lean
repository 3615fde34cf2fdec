import AdcFeed.Proofs.LineBuffer.History
import AdcFeed.Proofs.LineBuffer.Cursor

/-!
Where a buffer stands in the stream that was pushed. What has left the buffer ends between two
lines, or inside a line over the cap while that line is skipped (`StandsIn`); no call changes this
(`StandsIn.next`, `StandsIn.history`). Main statement: a settled buffer holds the rest of the stream
after its last newline and skips nothing, or holds nothing and skips, and the length of that rest
decides which (`StandsIn.settled`). So nothing that happened before a newline outlives it
(`StandsIn.eq_empty`).
-/

namespace AdcFeed.LineBuffer

/-- Some of the stream has left the buffer, and the rest is held. What has left ends with a line or,
while a line is skipped, with more bytes of it than the cap. -/
def StandsIn (b : LineBuffer) (stream : Bytes) : Prop :=
  ∃ gone, stream = gone ++ b.held ∧
    match b.skipping with
    | true => b.cap < (cutLines gone).2.length
    | false => (cutLines gone).2 = []

variable {b : LineBuffer} {stream : Bytes}

theorem standsIn_empty (cap : Nat) : (empty cap).StandsIn [] := ⟨[], rfl, rfl⟩

theorem StandsIn.push (h : b.StandsIn stream) (chunk : Bytes) :
    (b.push chunk).StandsIn (stream ++ chunk) := by
  obtain ⟨gone, rfl, hgone⟩ := h
  exact ⟨gone, List.append_assoc _ _ _, hgone⟩

/-! ## Pulls -/

theorem StandsIn.nextWhole (hb : b.Sound) (hs : b.skipping = false) (h : b.StandsIn stream) :
    b.nextWhole.rest.StandsIn stream := by
  obtain ⟨gone, rfl, hgone⟩ := h
  rw [hs] at hgone
  -- a line taken off the front, reported or not, is gone with its newline
  have hline : ∀ body later, b.held = body ++ newline :: later →
      StandsIn { b with held := later, scanned := 0 } (gone ++ b.held) := by
    intro body later hheld
    refine ⟨gone ++ body ++ [newline], by simp [hheld], ?_⟩
    rw [hs]
    exact rest_append_newline _
  rcases nextWhole_cases hb hs with
    ⟨-, -, he⟩ | ⟨hn, hl, he⟩ | ⟨body, later, -, hheld, ⟨-, he⟩ | ⟨-, he⟩⟩ <;> rw [he]
  · refine ⟨gone, rfl, ?_⟩
    rw [hs]
    exact hgone
  · refine ⟨gone ++ b.held, (List.append_nil _).symm, ?_⟩
    rw [rest_append_of_not_mem hn, hgone]
    exact hl
  · exact hline body later hheld
  · exact hline body later hheld

/-- A pull moves bytes out of the buffer and leaves what was pushed as it is. -/
theorem StandsIn.next (hb : b.Sound) (h : b.StandsIn stream) : b.next.rest.StandsIn stream := by
  rcases next_cases hb with ⟨hs, he⟩ | ⟨hs, hn, he⟩ | ⟨hs, body, later, hbody, hheld, he⟩ <;> rw [he]
  · exact h.nextWhole hb hs
  · obtain ⟨gone, rfl, hgone⟩ := h
    rw [hs] at hgone
    refine ⟨gone ++ b.held, (List.append_nil _).symm, ?_⟩
    rw [hs, rest_append_of_not_mem hn, List.length_append]
    exact Nat.lt_add_right _ hgone
  · obtain ⟨gone, rfl, -⟩ := h
    refine StandsIn.nextWhole (b := { b with held := later, scanned := 0, skipping := false })
      (sound_of_scanned rfl) rfl ⟨gone ++ body ++ [newline], by simp [hheld], ?_⟩
    exact rest_append_newline _

theorem StandsIn.history (hb : b.Sound) (h : b.StandsIn stream) (calls : List Call) :
    (b.history calls).2.StandsIn (stream ++ pushed calls) := by
  induction calls generalizing b stream with
  | nil =>
    rw [pushed, List.append_nil]
    exact h
  | cons call calls ih =>
    cases call with
    | push chunk =>
      rw [pushed, ← List.append_assoc]
      exact ih (sound_push hb chunk) (h.push chunk)
    | next => exact ih (sound_next hb) (h.next hb)

/-! ## Settled buffers -/

/-- What a settled buffer holds and whether it skips is decided by the length of the stream after
its last newline. -/
theorem StandsIn.settled (h : b.StandsIn stream) (hs : b.Settled) :
    (b.skipping = true ↔ b.cap < (cutLines stream).2.length) ∧
      b.held = if b.cap < (cutLines stream).2.length then [] else (cutLines stream).2 := by
  obtain ⟨gone, rfl, hgone⟩ := h
  rw [rest_append_of_not_mem hs.newline_not_mem]
  cases hskip : b.skipping with
  | true =>
    rw [hskip] at hgone
    simp only at hgone
    rw [hs.held_of_skipping hskip, List.append_nil, if_pos hgone]
    exact ⟨by simpa using hgone, rfl⟩
  | false =>
    rw [hskip] at hgone
    have hl := hs.length_le
    rw [hgone, List.nil_append, if_neg (Nat.not_lt.2 hl)]
    exact ⟨by simpa using hl, rfl⟩

/-- A settled buffer whose stream ends with a newline is a new one. -/
theorem StandsIn.eq_empty (h : b.StandsIn stream) (hb : b.Sound) (hs : b.Settled)
    (hstream : stream = [] ∨ [newline] <:+ stream) : b = { cap := b.cap } := by
  have hrest := (rest_eq_nil_iff stream).2 hstream
  obtain ⟨hskip, hheld⟩ := h.settled hs
  rw [hrest] at hskip hheld
  have hskipping : b.skipping = false := by
    simpa using hskip
  have hheld' : b.held = [] := hheld.trans (ite_self _)
  have hscanned : b.scanned = 0 := by
    have := hb.scanned_le
    rw [hheld'] at this
    exact Nat.le_zero.1 this
  cases b
  simp only at hskipping hheld' hscanned
  rw [hskipping, hheld', hscanned]

/-- Whatever was called on a new buffer, a pull that yields nothing leaves it settled in the stream
that was pushed. -/
theorem standsIn_history_append_next {m : Nat} {calls : List Call}
    (h : ((empty m).history calls).2.next.result = none) :
    let final := ((empty m).history (calls ++ [.next])).2
    final.Sound ∧ final.Settled ∧ final.cap = max m 1 ∧ final.StandsIn (pushed calls) := by
  have hsound := sound_empty m
  have hstands := (standsIn_empty m).history hsound (calls ++ [.next])
  rw [List.nil_append, pushed_append_next] at hstands
  exact ⟨sound_history hsound _, settled_history_append_next hsound h, cap_history hsound _,
    hstands⟩

end AdcFeed.LineBuffer
