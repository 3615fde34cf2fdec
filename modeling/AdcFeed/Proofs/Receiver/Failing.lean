import AdcFeed.Proofs.Receiver.Decoding

/-!
What the receiving side tells on a run that fails. `LineBuffer.drainEach` takes in chunks and takes
out the lines after each, with no sink in sight. Main statement: a session that fails has told of
the lines that come out so of the chunks it had written out and flushed, and of nothing else; the
chunk that met the failure and the unterminated rest leave no trace (`session_of_error`).
-/

namespace AdcFeed

/-- Takes in the chunks one after the other and pulls after each until nothing is left. -/
def LineBuffer.drainEach (b : LineBuffer) : List Bytes → List Pull
  | [] => []
  | chunk :: chunks => (b.push chunk).drain ++ (b.push chunk).drained.drainEach chunks

/-- Whether the event is about a line: a reading, a fault, or a report that it is too long. -/
def Event.isOfLine : Event → Bool
  | .received _ | .malformed _ | .dropping _ => true
  | _ => false

/-! ## Events about lines -/

theorem Event.isOfLine_ofResult (r : Except LineFault Bytes) : (Event.ofResult r).isOfLine := by
  cases r with
  | error fault => rfl
  | ok line =>
    rw [Event.ofResult, Event.ofLine]
    cases Reading.ofLine line <;> rfl

theorem Event.filter_isOfLine_ofPull (pull : Pull) :
    (Event.ofPull pull).filter Event.isOfLine = pull.result.toList.map Event.ofResult := by
  have hnotes : (pull.notes.map Event.buffer).filter Event.isOfLine = [] := by
    rw [List.filter_eq_nil_iff]
    intro e he
    obtain ⟨note, -, rfl⟩ := List.mem_map.1 he
    exact Bool.false_ne_true
  rw [Event.ofPull, List.filter_append, hnotes]
  cases pull.result with
  | none => rfl
  | some r => exact List.filter_cons_of_pos (Event.isOfLine_ofResult r)

theorem filter_isOfLine_pulls (pulls : List Pull) :
    (pulls.flatMap Event.ofPull).filter Event.isOfLine =
      (LineBuffer.results pulls).map Event.ofResult := by
  induction pulls with
  | nil => rfl
  | cons pull pulls ih =>
    rw [List.flatMap_cons, List.filter_append, Event.filter_isOfLine_ofPull, ih,
      LineBuffer.results_cons, List.map_append]

/-- Pulls tell of the work of the buffer and of lines, never of the stream. -/
theorem mem_pulls {pulls : List Pull} {e : Event} (he : e ∈ pulls.flatMap Event.ofPull) :
    (∃ note, e = .buffer note) ∨ e.isOfLine := by
  obtain ⟨pull, -, he⟩ := List.mem_flatMap.1 he
  rcases List.mem_append.1 he with he | he
  · obtain ⟨note, -, rfl⟩ := List.mem_map.1 he
    exact .inl ⟨note, rfl⟩
  · obtain ⟨r, -, rfl⟩ := Option.map_eq_some_iff.1 (Option.mem_toList.1 he)
    exact .inr (Event.isOfLine_ofResult r)

/-! ## Failing sessions -/

theorem Sink.Passed.length_flushedAt {s t : Sink} {deliveries : List (List Bytes)}
    (h : s.Passed deliveries t) : t.flushedAt.length = s.flushedAt.length + deliveries.length := by
  rw [h.flushedAt_eq]
  simp [sizesAfter]

namespace Receiver

/-- What a receiver tells of chunks is what its buffer yields when it is drained after each. -/
theorem takeAll_eq_drainEach (r : Receiver) (chunks : List Bytes) :
    (r.takeAll chunks).2 = (r.buffer.drainEach chunks).flatMap Event.ofPull := by
  induction chunks generalizing r with
  | nil => rfl
  | cons chunk chunks ih =>
    rw [takeAll, ih, LineBuffer.drainEach, List.flatMap_append]
    rfl

/-- What is told of chunks while their stream goes on: the lines that they complete or that are
known to be too long, and nothing of its end. -/
theorem told_of_takeAll (chunks : List Bytes) :
    let events := (takeAll {} chunks).2
    events.filter Event.isOfLine =
        (LineBuffer.results ((LineBuffer.empty defaultLineCap).drainEach chunks)).map
          Event.ofResult ∧
      events.filterMap Event.lineOutcome? =
        (reportedLines defaultLineCap chunks.flatten).map (LineOutcome.ofLine defaultLineCap) ∧
      (∀ size, .midLine size ∉ events) ∧ .endOfStream ∉ events := by
  intro events
  have hdrain : events = (LineBuffer.drainEach (.empty defaultLineCap) chunks).flatMap
      Event.ofPull := takeAll_eq_drainEach {} chunks
  obtain ⟨pulls, hpulls, htold, -⟩ := told_takeAll chunks
  refine ⟨?_, ?_, ?_, ?_⟩
  · rw [hdrain, filter_isOfLine_pulls]
  · rw [← filterMap_lineOutcome?_pulls htold, ← hpulls]
  · intro size he
    rcases mem_pulls (hdrain ▸ he) with ⟨note, h⟩ | h <;> cases h
  · intro he
    rcases mem_pulls (hdrain ▸ he) with ⟨note, h⟩ | h <;> cases h

/-- Where a session fails whose sink is `s` after the first `k` chunks: at the read behind the last
chunk, or at the sink with the chunk that follows. -/
def FailsAt (chunks : List Bytes) (ending : Option IoError) (k : Nat) (s after : Sink) :
    Failure → Prop
  | .read e => chunks.length = k ∧ ending = some e ∧ after = s
  | .output e => ∃ chunk, chunks[k]? = some chunk ∧ s.deliver (echoOf chunk) = (after, some e)
  | _ => False

variable {steps : List ReadStep} {chunkSize : Nat} {sink : Sink} {failure : Failure}

/-- **A session that fails has decoded what it had written out, and no more.** Take the chunks of
which the prefix, the bytes and the flush all succeeded, as many as there were flushes. What the
session told of lines is what a new buffer yields that is drained after each of them: the lines that
end in them, and the one that is too long already. Nothing is told of the chunk that met a failing
sink, of the rest that a failing read leaves, or of an end of the stream. -/
theorem session_of_error (h : (session chunkSize steps sink).result = .error failure) :
    let run := session chunkSize steps sink
    let k := run.sink.flushedAt.length - sink.flushedAt.length
    ∃ chunks ending s, Reads (max chunkSize 1) steps chunks ending ∧
      sink.Passed ((chunks.take k).map echoOf) s ∧ FailsAt chunks ending k s run.sink failure ∧
      run.events.filter Event.isOfLine =
        (LineBuffer.results ((LineBuffer.empty defaultLineCap).drainEach (chunks.take k))).map
          Event.ofResult ∧
      run.events.filterMap Event.lineOutcome? =
        (reportedLines defaultLineCap (chunks.take k).flatten).map
          (LineOutcome.ofLine defaultLineCap) ∧
      (∀ size, .midLine size ∉ run.events) ∧ .endOfStream ∉ run.events := by
  have hreads := reads_ofSteps chunkSize steps
  rcases session_cases chunkSize steps sink with
    ⟨s, -, -, he⟩ | ⟨s, e, herror, hp, he⟩ | ⟨done, chunk, later, s, s', e, hc, hp, hd, he⟩ <;>
    rw [he] at h ⊢ <;> cases h
  · have hk := hp.length_flushedAt
    rw [List.length_map] at hk
    refine ⟨_, _, s, hreads, ?_⟩
    simp only [hk, Nat.add_sub_cancel_left, List.take_length]
    exact ⟨hp, ⟨rfl, herror, rfl⟩, told_of_takeAll _⟩
  · obtain ⟨-, -, -, hat⟩ := Sink.deliver_some hd
    have hk := hp.length_flushedAt
    rw [List.length_map] at hk
    refine ⟨_, _, s, hreads, ?_⟩
    simp only [hat, hk, Nat.add_sub_cancel_left, hc, List.take_left]
    exact ⟨hp, ⟨chunk, by simp, hd⟩, told_of_takeAll done⟩

/-- A reading and the start of a line in one read, and the end of that line in another. -/
def cutLineSteps : List ReadStep :=
  [.arrive [65, 68, 67, 58, 32, 55, newline, 65], .pending, .arrive [68, 67, 58, 32, 56, newline]]

/-- Into a sink that has no room for the second read only the first is told of. -/
theorem session_of_error_cutLineSteps :
    let run := session 8 cutLineSteps { room := some 30 }
    run.result = .error (.output .full) ∧ run.sink.flushedAt = [18] ∧
      ∃ chunks ending, Reads 8 cutLineSteps chunks ending ∧ 1 < chunks.length ∧
        run.events.filterMap Event.lineOutcome? =
          (reportedLines defaultLineCap (chunks.take 1).flatten).map
            (LineOutcome.ofLine defaultLineCap) ∧
        .endOfStream ∉ run.events := by
  intro run
  have h : run.result = .error (.output .full) := by decide +kernel
  have hat : run.sink.flushedAt = [18] := by decide +kernel
  obtain ⟨chunks, ending, s, hreads, -, hf, -, houtcomes, -, hend⟩ := session_of_error h
  have hk : run.sink.flushedAt.length - ({ room := some 30 } : Sink).flushedAt.length = 1 := by
    rw [hat]
    rfl
  rw [hk] at hf houtcomes
  obtain ⟨chunk, hchunk, -⟩ := hf
  obtain ⟨hlt, -⟩ := List.getElem?_eq_some_iff.1 hchunk
  exact ⟨h, hat, chunks, ending, hreads, hlt, houtcomes, hend⟩

end Receiver

end AdcFeed
