import AdcFeed.Proofs.LineBuffer.History
import AdcFeed.Proofs.Sink.Delivered
import AdcFeed.Receiver

/-!
A run of the receiving side taken apart. Main statements: a run either writes out and takes in all
chunks and then ends as its source does, or it stops at the first chunk that the sink does not take,
which is not taken in (`run_cases`); and what it tells of the chunks is what the pulls of one list
of calls on its buffer yield (`exists_history_eq_takeAll`).
-/

namespace AdcFeed

namespace Receiver

/-- Takes in chunks one after the other; what is told of them. -/
def takeAll (r : Receiver) : List Bytes → Receiver × List Event
  | [] => (r, [])
  | chunk :: chunks =>
    (((r.take chunk).1.takeAll chunks).1, (r.take chunk).2 ++ ((r.take chunk).1.takeAll chunks).2)

/-- A run takes in every chunk that the sink has taken whole, and ends with its source or with the
first chunk that the sink does not take. -/
theorem run_cases (r : Receiver) (sink : Sink) (error : Option IoError) (chunks : List Bytes) :
    (∃ s, sink.Passed (chunks.map echoOf) s ∧
      r.run sink error chunks = ((r.takeAll chunks).1.run s error []).after (r.takeAll chunks).2) ∨
    ∃ done chunk later s s' e, chunks = done ++ chunk :: later ∧
      sink.Passed (done.map echoOf) s ∧ s.deliver (echoOf chunk) = (s', some e) ∧
      r.run sink error chunks =
        { result := .error (.output e), sink := s', events := (r.takeAll done).2 } := by
  induction chunks generalizing r sink with
  | nil => exact Or.inl ⟨sink, .nil sink, rfl⟩
  | cons chunk chunks ih =>
    rw [run]
    generalize hdeliver : sink.deliver (echoOf chunk) = taken
    obtain ⟨next, failed⟩ := taken
    cases failed with
    | some e => exact Or.inr ⟨[], chunk, chunks, sink, next, e, rfl, .nil sink, hdeliver, rfl⟩
    | none =>
      rcases ih (r.take chunk).1 next with ⟨s, hs, he⟩ | ⟨done, c, later, s, s', e, hc, hs, hd, he⟩
      · refine Or.inl ⟨s, .cons hdeliver hs, ?_⟩
        simp only [afterEcho, he, takeAll, ReceiveRun.after, List.append_assoc]
      · refine Or.inr ⟨chunk :: done, c, later, s, s', e, ?_, .cons hdeliver hs, hd, ?_⟩
        · rw [hc, List.cons_append]
        · simp only [afterEcho, he, takeAll, ReceiveRun.after]

/-- All that a new receiver tells of chunks, up to the end of their stream. -/
def wholeLog (chunks : List Bytes) : List Event :=
  (takeAll {} chunks).2 ++ (takeAll {} chunks).1.closing

/-- The counts of a new receiver at the end of the stream. -/
def wholeTally (chunks : List Bytes) : Tally :=
  (takeAll {} chunks).1.closing.foldl Tally.count (takeAll {} chunks).1.tally

/-- A session comes to the end of its stream, or to a read that fails, or to a chunk that the sink
does not take. -/
theorem session_cases (chunkSize : Nat) (steps : List ReadStep) (sink : Sink) :
    let delivery := Delivery.ofSteps chunkSize steps
    (∃ s, delivery.error = none ∧ sink.Passed (delivery.chunks.map echoOf) s ∧
      session chunkSize steps sink =
        { result := .ok (wholeTally delivery.chunks), sink := s,
          events := wholeLog delivery.chunks }) ∨
    (∃ s e, delivery.error = some e ∧ sink.Passed (delivery.chunks.map echoOf) s ∧
      session chunkSize steps sink =
        { result := .error (.read e), sink := s, events := (takeAll {} delivery.chunks).2 }) ∨
    ∃ done chunk later s s' e, delivery.chunks = done ++ chunk :: later ∧
      sink.Passed (done.map echoOf) s ∧ s.deliver (echoOf chunk) = (s', some e) ∧
      session chunkSize steps sink =
        { result := .error (.output e), sink := s', events := (takeAll {} done).2 } := by
  intro delivery
  rcases run_cases {} sink delivery.error delivery.chunks with ⟨s, hs, he⟩ | h
  · cases hd : delivery.error with
    | none =>
      refine Or.inl ⟨s, rfl, hs, ?_⟩
      rw [hd] at he
      rw [session, hd, he]
      rfl
    | some e =>
      refine Or.inr (Or.inl ⟨s, e, rfl, hs, ?_⟩)
      rw [hd] at he
      rw [session, hd, he]
      simp [run, conclude, ReceiveRun.after]
  · exact Or.inr (Or.inr h)

theorem take_eq_history (r : Receiver) (chunk : Bytes) :
    ∃ n, r.buffer.history (.push chunk :: List.replicate n .next) =
        ((r.buffer.push chunk).drain, (r.take chunk).1.buffer) ∧
      (r.take chunk).2 = (r.buffer.push chunk).drain.flatMap Event.ofPull := by
  obtain ⟨n, hn⟩ := LineBuffer.exists_history_eq_drain (r.buffer.push chunk)
  exact ⟨n, hn, rfl⟩

/-- What is told of the chunks are the pulls of a list of calls that pushes them in order. -/
theorem exists_history_eq_takeAll (r : Receiver) (chunks : List Bytes) :
    ∃ calls, LineBuffer.pushed calls = chunks.flatten ∧
      (r.buffer.history calls).2 = (r.takeAll chunks).1.buffer ∧
      (r.takeAll chunks).2 = (r.buffer.history calls).1.flatMap Event.ofPull := by
  induction chunks generalizing r with
  | nil => exact ⟨[], rfl, rfl, rfl⟩
  | cons chunk chunks ih =>
    obtain ⟨n, hhistory, hevents⟩ := take_eq_history r chunk
    obtain ⟨calls, hpushed, hbuffer, hlater⟩ := ih (r.take chunk).1
    refine ⟨(.push chunk :: List.replicate n .next) ++ calls, ?_, ?_, ?_⟩
    · rw [LineBuffer.pushed_append, hpushed, LineBuffer.pushed, LineBuffer.pushed_replicate_next,
        List.append_nil, List.flatten_cons]
    · rw [LineBuffer.history_append, hhistory]
      exact hbuffer
    · rw [LineBuffer.history_append, hhistory, List.flatMap_append, ← hevents, ← hlater]
      rfl

theorem settled_takeAll {r : Receiver} (hb : r.buffer.Sound) (hs : r.buffer.Settled)
    (chunks : List Bytes) : (r.takeAll chunks).1.buffer.Settled := by
  induction chunks generalizing r with
  | nil => exact hs
  | cons chunk chunks ih =>
    have hdrained := LineBuffer.settled_drained (LineBuffer.sound_push hb chunk)
    have hsound := LineBuffer.sound_drained (LineBuffer.sound_push hb chunk)
    exact ih (r := (r.take chunk).1) hsound hdrained

/-- What a new receiver tells of chunks is what may be told of the lines of their stream, and its
buffer keeps the rest. -/
theorem told_takeAll (chunks : List Bytes) :
    ∃ pulls, (takeAll {} chunks).2 = pulls.flatMap Event.ofPull ∧
      List.Forall₂ (Told defaultLineCap) (reportedLines defaultLineCap chunks.flatten)
        (LineBuffer.results pulls) ∧
      (takeAll {} chunks).1.buffer.tail? = keptRest defaultLineCap chunks.flatten := by
  have hsound := LineBuffer.sound_empty defaultLineCap
  -- a receiver leaves its buffer drained after each chunk, so no pull has to be added at the end
  have hsettled := settled_takeAll (r := {}) hsound (LineBuffer.settled_empty _) chunks
  obtain ⟨calls, hpushed, hbuffer, hevents⟩ := exists_history_eq_takeAll {} chunks
  rw [← hbuffer] at hsettled
  obtain ⟨htold, htail⟩ := LineBuffer.history_told hsound calls hsettled
  rw [hpushed] at htold htail
  exact ⟨_, hevents, htold, hbuffer ▸ htail⟩

end Receiver

end AdcFeed
