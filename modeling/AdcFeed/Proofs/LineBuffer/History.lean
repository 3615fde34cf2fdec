import AdcFeed.Proofs.LineBuffer.Pull

/-!
Any list of calls on a line buffer. Main statement: once a pull yields nothing, the lines told of
are those of the stream that was pushed, one result for each and in order, and what is left is its
rest; the chunks and the moments of the pulls leave no trace but in the number of bytes reported as
dropped (`history_told`, `results_history_append_next`). Pulling until nothing is left is such a
list of calls, and one that always comes to that point (`exists_history_eq_drain`, `drain_told`).
-/

namespace AdcFeed

/-- The fault without the number of bytes that were gone, the one thing in it that depends on how a
line arrived. -/
def LineFault.uncounted : LineFault → LineFault
  | .tooLong limit _ => .tooLong limit 0
  | fault => fault

/-- What is told of a line under a cap, no number of dropped bytes in it. -/
def verdict (cap : Nat) (line : Bytes) : Except LineFault Bytes :=
  if line.length ≤ cap then .ok line else .error (.tooLong cap 0)

theorem Told.mapError_uncounted {cap : Nat} {line : Bytes} {r : Except LineFault Bytes}
    (h : Told cap line r) : r.mapError LineFault.uncounted = verdict cap line := by
  cases h with
  | whole h => rw [verdict, if_pos h]; rfl
  | overlong h hd => rw [verdict, if_neg (by omega)]; rfl

theorem map_mapError_uncounted {cap : Nat} {lines : List Bytes}
    {results : List (Except LineFault Bytes)} (h : List.Forall₂ (Told cap) lines results) :
    results.map (Except.mapError LineFault.uncounted) = lines.map (verdict cap) := by
  induction h with
  | nil => rfl
  | cons h _ ih => rw [List.map_cons, List.map_cons, h.mapError_uncounted, ih]

namespace LineBuffer

variable {b : LineBuffer}

/-- What the pulls of a list yielded. -/
def results (pulls : List Pull) : List (Except LineFault Bytes) := pulls.filterMap Pull.result

theorem results_cons (pull : Pull) (pulls : List Pull) :
    results (pull :: pulls) = pull.result.toList ++ results pulls := by
  unfold results
  cases hr : pull.result with
  | none => rw [List.filterMap_cons_none hr]; rfl
  | some r => rw [List.filterMap_cons_some hr]; rfl

/-! ## The calls one after the other -/

theorem sound_history (hb : b.Sound) (calls : List Call) : (b.history calls).2.Sound := by
  induction calls generalizing b with
  | nil => exact hb
  | cons call calls ih =>
    cases call with
    | push chunk => exact ih (sound_push hb chunk)
    | next => exact ih (sound_next hb)

/-- In a settled buffer no line is ahead, and what it holds is the rest of the stream. -/
theorem Settled.reportedLines_ahead (hb : b.Settled) : reportedLines b.cap (b.ahead []) = [] := by
  unfold ahead
  split
  · rename_i hs
    rw [hb.held_of_skipping hs]
    exact reportedLines_nil b.cap
  · rw [List.append_nil, reportedLines_of_not_mem _ hb.newline_not_mem,
      if_neg (Nat.not_lt.2 hb.length_le)]

theorem Settled.tail?_eq (hb : b.Settled) : b.tail? = keptRest b.cap (b.ahead []) := by
  cases hs : b.skipping with
  | true => simp [tail?, ahead, hs, hb.held_of_skipping hs, afterLine, keptRest_nil]
  | false =>
    have hl := hb.length_le
    rw [ahead, if_neg (by simp [hs]), List.append_nil, keptRest_of_not_mem _ hb.newline_not_mem]
    by_cases hheld : b.held = []
    · simp [tail?, hheld]
    · simp [tail?, hheld, hs, hl]

/-- Every call takes the buffer on along one and the same stream: a push makes bytes to come into
bytes held, and a pull tells the first of the lines ahead. -/
theorem history_told (hb : b.Sound) (calls : List Call) (h : (b.history calls).2.Settled) :
    List.Forall₂ (Told b.cap) (reportedLines b.cap (b.ahead (pushed calls)))
        (results (b.history calls).1) ∧
      (b.history calls).2.tail? = keptRest b.cap (b.ahead (pushed calls)) := by
  induction calls generalizing b with
  | nil =>
    have hb' : b.Settled := h
    rw [pushed, hb'.reportedLines_ahead]
    exact ⟨.nil, hb'.tail?_eq⟩
  | cons call calls ih =>
    cases call with
    | push chunk =>
      have := ih (sound_push hb chunk) h
      rwa [ahead_push] at this
    | next =>
      have hstep := advances_next hb (pushed calls)
      obtain ⟨htold, htail⟩ := ih (sound_next hb) h
      rw [cap_next hb] at htold htail
      simp only [Advances] at hstep
      simp only [history, pushed]
      cases hr : b.next.result with
      | none =>
        rw [hr] at hstep
        simp only at hstep
        rw [← hstep, results_cons, hr]
        exact ⟨htold, htail⟩
      | some r =>
        rw [hr] at hstep
        obtain ⟨line, hline, hreported, hkept⟩ := hstep
        rw [hreported, hkept, results_cons, hr]
        exact ⟨.cons hline htold, htail⟩

theorem settled_history_append_next (hb : b.Sound) {calls : List Call}
    (h : (b.history calls).2.next.result = none) : (b.history (calls ++ [.next])).2.Settled := by
  rw [history_append]
  exact settled_next (sound_history hb calls) h

theorem pushed_append_next (calls : List Call) : pushed (calls ++ [.next]) = pushed calls := by
  rw [pushed_append, pushed, pushed, List.append_nil]

theorem pushed_replicate_next (n : Nat) : pushed (List.replicate n .next) = [] := by
  induction n with
  | zero => rfl
  | succ n ih => rw [List.replicate_succ, pushed, ih]

/-- **The lines of a stream do not depend on how it arrives.** Push its bytes in any chunks, pull
whenever you like, and pull at last until nothing comes: each line within the cap has come out once,
each longer one was reported once, all in order, and what is left is the rest of the stream unless
it was reported too. A report counts more bytes than the cap and no more than its line has. -/
theorem results_history_append_next (m : Nat) (calls : List Call)
    (h : ((empty m).history calls).2.next.result = none) :
    let cap := max m 1
    let (pulls, final) := (empty m).history (calls ++ [.next])
    (results pulls).map (Except.mapError LineFault.uncounted) =
        (reportedLines cap (pushed calls)).map (verdict cap) ∧
      final.tail? = keptRest cap (pushed calls) ∧
      List.Forall₂ (Told cap) (reportedLines cap (pushed calls)) (results pulls) := by
  have hs := settled_history_append_next (sound_empty m) h
  obtain ⟨htold, htail⟩ := history_told (sound_empty m) (calls ++ [.next]) hs
  rw [pushed_append_next] at htold htail
  exact ⟨map_mapError_uncounted htold, htail, htold⟩

/-- A line over a cap of four that is seen to be while it still arrives, a short one, and a rest. -/
def overlongCalls : List Call :=
  [.push [65, 66, 67], .next, .push [68, 69], .next, .push [], .push [70], .next,
    .push [newline, 71, newline, 72], .next]

theorem results_overlongCalls :
    ((empty 4).history overlongCalls).2.next.result = none ∧
      (results ((empty 4).history (overlongCalls ++ [.next])).1).map
          (Except.mapError LineFault.uncounted) = [.error (.tooLong 4 0), .ok [71, newline]] ∧
      ((empty 4).history (overlongCalls ++ [.next])).2.tail? = some [72] := by
  have hend : ((empty 4).history overlongCalls).2.next.result = none := by decide
  obtain ⟨hresults, htail, -⟩ := results_history_append_next 4 overlongCalls hend
  exact ⟨hend, hresults.trans (by decide), htail.trans (by decide)⟩

/-! ## Pulling until nothing is left -/

theorem exists_history_eq_drain (b : LineBuffer) :
    ∃ n, b.history (List.replicate n .next) = (b.drain, b.drained) := by
  induction b using drain.induct with
  | case1 b h => exact ⟨1, by rw [drain_of_none h, drained_of_none h]; rfl⟩
  | case2 b r h ih =>
    obtain ⟨n, hn⟩ := ih
    exact ⟨n + 1, by rw [drain_of_some h, drained_of_some h, List.replicate_succ, history, hn]⟩

theorem sound_drained (hb : b.Sound) : b.drained.Sound := by
  obtain ⟨n, hn⟩ := exists_history_eq_drain b
  have := sound_history hb (List.replicate n .next)
  rwa [hn] at this

theorem settled_drained (hb : b.Sound) : b.drained.Settled := by
  induction b using drain.induct with
  | case1 b h => rw [drained_of_none h]; exact settled_next hb h
  | case2 b r h ih => rw [drained_of_some h]; exact ih (sound_next hb)

/-- Whatever was called before, pulling until nothing is left tells the rest of the lines. -/
theorem drain_told (hb : b.Sound) (calls : List Call) :
    List.Forall₂ (Told b.cap) (reportedLines b.cap (b.ahead (pushed calls)))
        (results ((b.history calls).1 ++ (b.history calls).2.drain)) ∧
      (b.history calls).2.drained.tail? = keptRest b.cap (b.ahead (pushed calls)) := by
  obtain ⟨n, hn⟩ := exists_history_eq_drain (b.history calls).2
  have happend := history_append b calls (List.replicate n .next)
  have hs := settled_drained (sound_history hb calls)
  rw [hn] at happend
  have htold := history_told hb (calls ++ List.replicate n .next) (by rw [happend]; exact hs)
  rwa [happend, pushed_append, pushed_replicate_next, List.append_nil] at htold

end LineBuffer

end AdcFeed
