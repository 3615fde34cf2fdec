import AdcFeed.Proofs.Delivery
import AdcFeed.Proofs.Receiver.Run
import Mathlib.Algebra.Ring.Nat

/-!
What the receiving side makes of the lines of a stream. `LineOutcome.ofLine` says it of one line,
`streamLines` says which lines there are, and neither knows of chunks. Main statement: a session
that comes to the end of its stream has told exactly this, line by line, and its counts are the
counts of it (`session_outcomes`).
-/

namespace AdcFeed

/-- What a line comes to: a reading, a fault, or a report that it is too long. -/
inductive LineOutcome where
  | reading (reading : Reading)
  | malformed (fault : LineFault)
  /-- The line was thrown away; how many of its bytes were gone at the time is left out. -/
  | dropped (fault : LineFault)
  deriving DecidableEq

namespace LineOutcome

/-- A line within the cap is read, and a longer one is reported as too long. -/
def ofLine (cap : Nat) (line : Bytes) : LineOutcome :=
  if cap < line.length then .dropped (.tooLong cap 0)
  else
    match Reading.ofLine line with
    | .ok r => .reading r
    | .error fault => .malformed fault

/-- Whether the line carried a reading. -/
def isReading : LineOutcome → Bool
  | .reading _ => true
  | _ => false

end LineOutcome

/-- What an event tells of a line, if it is about one. -/
def Event.lineOutcome? : Event → Option LineOutcome
  | .received reading => some (.reading reading)
  | .malformed fault => some (.malformed fault)
  | .dropping fault => some (.dropped fault.uncounted)
  | _ => none

/-- The number of bytes in a line that the stream ended in, if the event tells of one. -/
def Event.midLineSize? : Event → Option Nat
  | .midLine size => some size
  | _ => none

/-- The lines of a stream and, as one more, what is left after the last newline. -/
def streamLines (bs : Bytes) : List Bytes :=
  (cutLines bs).1 ++ if (cutLines bs).2 = [] then [] else [(cutLines bs).2]

/-- What the lines of a stream come to; one of more than 4096 bytes is too long. -/
def streamOutcomes (bs : Bytes) : List LineOutcome :=
  (streamLines bs).map (LineOutcome.ofLine 4096)

/-! ## Lines told of -/

theorem reportedLines_append_keptRest (cap : Nat) (bs : Bytes) :
    reportedLines cap bs ++ (keptRest cap bs).toList = streamLines bs := by
  unfold reportedLines keptRest streamLines
  by_cases hr : (cutLines bs).2 = []
  · simp [hr]
  · by_cases hl : cap < (cutLines bs).2.length
    · simp [hr, hl]
    · simp [hr, hl]

theorem lineOutcome?_ofLine {cap : Nat} {line : Bytes} (h : line.length ≤ cap) :
    (Event.ofLine line).lineOutcome? = some (LineOutcome.ofLine cap line) := by
  unfold Event.ofLine LineOutcome.ofLine
  rw [if_neg (Nat.not_lt.2 h)]
  cases Reading.ofLine line <;> rfl

theorem Told.lineOutcome? {cap : Nat} {line : Bytes} {r : Except LineFault Bytes}
    (h : Told cap line r) :
    (Event.ofResult r).lineOutcome? = some (LineOutcome.ofLine cap line) := by
  cases h with
  | whole h => exact lineOutcome?_ofLine h
  | overlong h hd =>
    rw [LineOutcome.ofLine, if_pos (by omega)]
    rfl

theorem filterMap_lineOutcome?_ofPull (pull : Pull) :
    (Event.ofPull pull).filterMap Event.lineOutcome? =
      pull.result.toList.filterMap fun r => (Event.ofResult r).lineOutcome? := by
  have hnotes : (pull.notes.map Event.buffer).filterMap Event.lineOutcome? = [] := by
    simp [List.filterMap_map, Function.comp_def, Event.lineOutcome?]
  rw [Event.ofPull, List.filterMap_append, hnotes]
  cases pull.result <;> rfl

/-- The pulls tell of the lines one event each, and nothing more of lines. -/
theorem filterMap_lineOutcome?_pulls {cap : Nat} {lines : List Bytes} {pulls : List Pull}
    (h : List.Forall₂ (Told cap) lines (LineBuffer.results pulls)) :
    (pulls.flatMap Event.ofPull).filterMap Event.lineOutcome? =
      lines.map (LineOutcome.ofLine cap) := by
  have hresults : (pulls.flatMap Event.ofPull).filterMap Event.lineOutcome? =
      (LineBuffer.results pulls).filterMap fun r => (Event.ofResult r).lineOutcome? := by
    clear h
    induction pulls with
    | nil => rfl
    | cons pull pulls ih =>
      rw [List.flatMap_cons, List.filterMap_append, ih, filterMap_lineOutcome?_ofPull]
      rw [LineBuffer.results_cons, List.filterMap_append]
  rw [hresults]
  generalize LineBuffer.results pulls = results at h
  induction h with
  | nil => rfl
  | cons h _ ih =>
    rw [List.map_cons, ← ih]
    exact List.filterMap_cons_some h.lineOutcome?

theorem filterMap_midLineSize?_pulls (pulls : List Pull) :
    (pulls.flatMap Event.ofPull).filterMap Event.midLineSize? = [] := by
  rw [List.filterMap_eq_nil_iff]
  intro e he
  obtain ⟨pull, -, he⟩ := List.mem_flatMap.1 he
  rcases List.mem_append.1 he with he | he
  · obtain ⟨note, -, rfl⟩ := List.mem_map.1 he
    rfl
  · obtain ⟨r, -, rfl⟩ := Option.map_eq_some_iff.1 (Option.mem_toList.1 he)
    cases r with
    | error fault => rfl
    | ok line =>
      simp only [Event.ofResult, Event.ofLine]
      cases Reading.ofLine line <;> rfl

/-! ## Counts -/

theorem Tally.count_eq (t : Tally) (e : Event) :
    t.count e =
      match e.lineOutcome? with
      | none => t
      | some outcome =>
        if outcome.isReading then { t with readings := t.readings + 1 }
        else { t with malformed := t.malformed + 1 } := by
  cases e <;> rfl

/-- Counting events counts the lines they tell of. -/
theorem Tally.foldl_count (t : Tally) (events : List Event) :
    events.foldl Tally.count t =
      { t with
        readings := t.readings + (events.filterMap Event.lineOutcome?).countP LineOutcome.isReading
        malformed := t.malformed
          + (events.filterMap Event.lineOutcome?).countP (!LineOutcome.isReading ·) } := by
  induction events generalizing t with
  | nil => rfl
  | cons e events ih =>
    rw [List.foldl_cons, ih, Tally.count_eq]
    cases ho : e.lineOutcome? with
    | none => rw [List.filterMap_cons_none ho]
    | some outcome =>
      rw [List.filterMap_cons_some ho]
      cases hr : outcome.isReading <;> simp [hr] <;> omega

theorem countP_received (events : List Event) :
    events.countP (· matches .received _) =
      (events.filterMap Event.lineOutcome?).countP LineOutcome.isReading := by
  rw [List.countP_filterMap]
  congr
  funext e
  cases e <;> rfl

theorem countP_malformed_or_dropping (events : List Event) :
    events.countP (· matches .malformed _ | .dropping _) =
      (events.filterMap Event.lineOutcome?).countP (!LineOutcome.isReading ·) := by
  rw [List.countP_filterMap]
  congr
  funext e
  cases e <;> rfl

theorem tally_takeAll (r : Receiver) (chunks : List Bytes) :
    (r.takeAll chunks).1.tally =
      let outcomes := (r.takeAll chunks).2.filterMap Event.lineOutcome?
      { bytes := r.tally.bytes + (chunks.map List.length).sum
        chunks := r.tally.chunks + chunks.length
        readings := r.tally.readings + outcomes.countP LineOutcome.isReading
        malformed := r.tally.malformed + outcomes.countP (!LineOutcome.isReading ·) } := by
  induction chunks generalizing r with
  | nil => rfl
  | cons chunk chunks ih =>
    have htake : (r.take chunk).1.tally = (r.take chunk).2.foldl Tally.count
        { r.tally with
          bytes := r.tally.bytes + chunk.length, chunks := r.tally.chunks + 1 } := rfl
    rw [Receiver.takeAll, ih, htake, Tally.foldl_count]
    simp only [List.filterMap_append, List.countP_append, List.map_cons, List.sum_cons,
      List.length_cons]
    simp only [Tally.mk.injEq]
    omega

/-! ## Whole sessions -/

namespace Receiver

theorem length_le_of_keptRest {cap : Nat} {bs rest : Bytes} (h : keptRest cap bs = some rest) :
    rest.length ≤ cap := by
  unfold keptRest at h
  split at h
  · cases h
  · cases h
    omega

/-- At the end of the stream only the rest is told of, with its length before it. -/
theorem filterMap_closing {r : Receiver} {cap : Nat} {bs : Bytes}
    (h : r.buffer.tail? = keptRest cap bs) :
    r.closing.filterMap Event.lineOutcome? =
        (keptRest cap bs).toList.map (LineOutcome.ofLine cap) ∧
      r.closing.filterMap Event.midLineSize? = ((keptRest cap bs).map List.length).toList := by
  unfold closing
  rw [h]
  cases hk : keptRest cap bs with
  | none => exact ⟨rfl, rfl⟩
  | some rest =>
    have houtcome := lineOutcome?_ofLine (length_le_of_keptRest hk)
    have hmid : (Event.ofLine rest).midLineSize? = none := by
      unfold Event.ofLine
      cases Reading.ofLine rest <;> rfl
    refine ⟨?_, ?_⟩
    · exact List.filterMap_cons_some houtcome
    · exact congrArg (rest.length :: ·) (List.filterMap_cons_none hmid)

theorem filterMap_wholeLog (chunks : List Bytes) :
    (wholeLog chunks).filterMap Event.lineOutcome? = streamOutcomes chunks.flatten ∧
      (wholeLog chunks).filterMap Event.midLineSize? =
        ((keptRest defaultLineCap chunks.flatten).map List.length).toList := by
  obtain ⟨pulls, hevents, htold, htail⟩ := told_takeAll chunks
  obtain ⟨houtcomes, hmid⟩ := filterMap_closing htail
  unfold wholeLog
  rw [List.filterMap_append, List.filterMap_append, houtcomes, hmid, hevents,
    filterMap_lineOutcome?_pulls htold, filterMap_midLineSize?_pulls, ← List.map_append,
    reportedLines_append_keptRest]
  exact ⟨rfl, rfl⟩

/-- The counts at the end of the stream. -/
theorem wholeTally_eq (chunks : List Bytes) :
    wholeTally chunks =
      { bytes := chunks.flatten.length
        chunks := chunks.length
        readings := (streamOutcomes chunks.flatten).countP LineOutcome.isReading
        malformed := (streamOutcomes chunks.flatten).countP (!LineOutcome.isReading ·) } := by
  have houtcomes := (filterMap_wholeLog chunks).1
  rw [wholeTally, Tally.foldl_count, tally_takeAll, ← houtcomes, wholeLog]
  simp [List.filterMap_append, List.length_flatten]

variable {steps : List ReadStep} {stream : Bytes} {chunkSize : Nat} {sink : Sink} {tally : Tally}

/-- Where no step fails, of the source up to its end and of the sink, the session does not. -/
theorem exists_session_ok (h : Delivers steps stream) (hs : sink.Reliable) (chunkSize : Nat) :
    ∃ tally, (session chunkSize steps sink).result = .ok tally := by
  rcases session_cases chunkSize steps sink with
    ⟨s, -, -, he⟩ | ⟨s, e, herror, -, -⟩ | ⟨done, chunk, later, s, s', e, -, hp, hd, -⟩
  · exact ⟨_, by rw [he]⟩
  · rw [(flatten_ofSteps h chunkSize).2] at herror
    cases herror
  · have := ((hp.reliable hs).deliver (echoOf chunk)).1
    rw [hd] at this
    cases this

/-- A session without a failure has written out all its chunks and tells what they come to. -/
theorem session_of_ok (h : (session chunkSize steps sink).result = .ok tally) :
    tally = wholeTally (Delivery.ofSteps chunkSize steps).chunks ∧
      (session chunkSize steps sink).events =
        wholeLog (Delivery.ofSteps chunkSize steps).chunks ∧
      sink.Passed ((Delivery.ofSteps chunkSize steps).chunks.map echoOf)
        (session chunkSize steps sink).sink := by
  rcases session_cases chunkSize steps sink with
    ⟨s, -, hp, he⟩ | ⟨s, e, -, -, he⟩ | ⟨done, chunk, later, s, s', e, -, -, -, he⟩ <;>
    rw [he] at h ⊢
  · cases h
    exact ⟨rfl, rfl, hp⟩
  · cases h
  · cases h

/-- A session without a failure tells what the lines of its stream come to, and counts that. -/
theorem told_of_ok (h : Delivers steps stream)
    (ht : (session chunkSize steps sink).result = .ok tally) :
    tally.bytes = stream.length ∧
      tally.readings = (streamOutcomes stream).countP LineOutcome.isReading ∧
      tally.malformed = (streamOutcomes stream).countP (!LineOutcome.isReading ·) ∧
      (session chunkSize steps sink).events.filterMap Event.lineOutcome? = streamOutcomes stream ∧
      (session chunkSize steps sink).events.filterMap Event.midLineSize? =
        ((keptRest defaultLineCap stream).map List.length).toList := by
  obtain ⟨htally, hevents, -⟩ := session_of_ok ht
  obtain ⟨houtcomes, hmid⟩ := filterMap_wholeLog (Delivery.ofSteps chunkSize steps).chunks
  have hstream := (flatten_ofSteps h chunkSize).1
  rw [wholeTally_eq, hstream] at htally
  rw [hstream] at houtcomes hmid
  rw [htally, hevents]
  exact ⟨rfl, rfl, rfl, houtcomes, hmid⟩

/-- **What is made of a stream does not depend on how its bytes arrive**, nor on the size of the
reads or on the sink. A session that nothing fails in comes to its end, and then it has told of each
line of the stream once, in order and as that line alone decides; the counts are those of the lines,
and of the events; and the end inside a line is told of once, exactly if it was not too long. -/
theorem session_outcomes (h : Delivers steps stream) (chunkSize : Nat) (sink : Sink) :
    let run := session chunkSize steps sink
    let outcomes := streamOutcomes stream
    (sink.Reliable → ∃ tally, run.result = .ok tally) ∧
      ∀ tally, run.result = .ok tally →
        tally.bytes = stream.length ∧
        tally.readings = outcomes.countP LineOutcome.isReading ∧
        tally.malformed = outcomes.countP (!LineOutcome.isReading ·) ∧
        run.events.filterMap Event.lineOutcome? = outcomes ∧
        tally.readings = run.events.countP (· matches .received _) ∧
        tally.malformed = run.events.countP (· matches .malformed _ | .dropping _) ∧
        run.events.filterMap Event.midLineSize? =
          ((keptRest 4096 stream).map List.length).toList := by
  refine ⟨fun hs => exists_session_ok h hs chunkSize, ?_⟩
  intro tally ht
  obtain ⟨hbytes, hreadings, hmalformed, houtcomes, hmid⟩ := told_of_ok h ht
  refine ⟨hbytes, hreadings, hmalformed, houtcomes, ?_, ?_, hmid⟩
  · rw [hreadings, ← houtcomes, countP_received]
  · rw [hmalformed, ← houtcomes, countP_malformed_or_dropping]

/-- The line of the reading 7, cut after its prefix, then a line that is none, without its end. -/
def splitSteps : List ReadStep :=
  [.arrive [65, 68, 67, 58, 32], .pending, .arrive [55, newline, 63]]

theorem session_outcomes_splitSteps :
    Delivers splitSteps [65, 68, 67, 58, 32, 55, newline, 63] ∧ ({} : Sink).Reliable ∧
      ∃ tally, (session 2 splitSteps {}).result = .ok tally ∧
        tally.bytes = 8 ∧ tally.readings = 1 ∧ tally.malformed = 1 := by
  have hd : Delivers splitSteps [65, 68, 67, 58, 32, 55, newline, 63] :=
    .arrive (by decide) (.pending (.arrive (by decide) .usedUp))
  have hs : ({} : Sink).Reliable := ⟨rfl, by simp, by simp⟩
  have houtcomes : streamOutcomes [65, 68, 67, 58, 32, 55, newline, 63] =
      [.reading ⟨7⟩, .malformed (.missingPrefix "?")] := by decide
  obtain ⟨hok, hall⟩ := session_outcomes hd 2 {}
  obtain ⟨tally, ht⟩ := hok hs
  obtain ⟨hbytes, hreadings, hmalformed, -⟩ := hall tally ht
  rw [houtcomes] at hreadings hmalformed
  exact ⟨hd, hs, tally, ht, hbytes, hreadings, hmalformed⟩

end Receiver

end AdcFeed
