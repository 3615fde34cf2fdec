import AdcFeed.Proofs.LineBuffer.Position
import AdcFeed.Proofs.Receiver.Decoding

/-!
What is left of a stream once a newline has ended it: nothing. The lines of two streams put together
are the lines of both if the first one ends with a newline (`streamOutcomes_append`). Main
statement: whatever was called on a buffer, after a newline and a pull that yields nothing it is a
new buffer, so the counts of two streams add up (`afresh_after_newline`).
-/

namespace AdcFeed

/-! ## Two streams -/

theorem streamLines_append {as : Bytes} (h : as = [] ∨ [newline] <:+ as) (bs : Bytes) :
    streamLines (as ++ bs) = streamLines as ++ streamLines bs := by
  have hrest := (rest_eq_nil_iff as).2 h
  unfold streamLines
  rw [cutLines_append, hrest, if_pos rfl, List.append_nil, List.nil_append, List.append_assoc]

/-- Behind a newline the lines of a stream come to what they come to alone. -/
theorem streamOutcomes_append {as : Bytes} (h : as = [] ∨ [newline] <:+ as) (bs : Bytes) :
    streamOutcomes (as ++ bs) = streamOutcomes as ++ streamOutcomes bs := by
  unfold streamOutcomes
  rw [streamLines_append h, List.map_append]

namespace Receiver

/-- These are the counts of a session over the stream, with whatever reads and sink. -/
def Counted (stream : Bytes) (tally : Tally) : Prop :=
  ∃ chunkSize steps sink, Delivers steps stream ∧ (session chunkSize steps sink).result = .ok tally

variable {stream : Bytes} {tally : Tally}

theorem Counted.eq (h : Counted stream tally) :
    tally.readings = (streamOutcomes stream).countP LineOutcome.isReading ∧
      tally.malformed = (streamOutcomes stream).countP (!LineOutcome.isReading ·) := by
  obtain ⟨chunkSize, steps, sink, hd, ht⟩ := h
  obtain ⟨-, hreadings, hmalformed, -⟩ := told_of_ok hd ht
  exact ⟨hreadings, hmalformed⟩

/-- **A newline leaves nothing behind.** Whatever was called on a buffer, if the bytes pushed end
with a newline or there are none, a pull that yields nothing leaves a new buffer: nothing is held or
skipped, and no further calls tell it from one, not even by the bytes they report as dropped. So a
session over two streams, the first ended by a newline, counts what sessions over each of them
count together. -/
theorem afresh_after_newline :
    (∀ (m : Nat) (calls : List LineBuffer.Call),
      LineBuffer.pushed calls = [] ∨ [newline] <:+ LineBuffer.pushed calls →
      ((LineBuffer.empty m).history calls).2.next.result = none →
      let final := ((LineBuffer.empty m).history (calls ++ [.next])).2
      final = .empty m ∧ final.pending = 0 ∧ final.tail? = none ∧ final.skipping = false ∧
        ∀ further, final.history further = (LineBuffer.empty m).history further) ∧
    ∀ (as bs : Bytes) (first second : Tally), as = [] ∨ [newline] <:+ as →
      Counted as first → Counted bs second →
      ∀ steps, Delivers steps (as ++ bs) → ∀ (chunkSize : Nat) (sink : Sink),
        let run := session chunkSize steps sink
        (sink.Reliable → ∃ tally, run.result = .ok tally) ∧
        ∀ tally, run.result = .ok tally →
          tally.readings = first.readings + second.readings ∧
          tally.malformed = first.malformed + second.malformed := by
  refine ⟨?_, ?_⟩
  · intro m calls hend hnone final
    obtain ⟨hsound, hsettled, hcap, hstands⟩ := LineBuffer.standsIn_history_append_next hnone
    have hnew : final = .empty m := by
      rw [LineBuffer.empty, ← hcap]
      exact hstands.eq_empty hsound hsettled hend
    rw [hnew]
    exact ⟨rfl, rfl, rfl, rfl, fun _ => rfl⟩
  · intro as bs first second hend hfirst hsecond steps hd chunkSize sink run
    refine ⟨fun hs => exists_session_ok hd hs chunkSize, ?_⟩
    intro tally ht
    obtain ⟨hreadings, hmalformed⟩ := hfirst.eq
    obtain ⟨hreadings', hmalformed'⟩ := hsecond.eq
    obtain ⟨htotal, htotal'⟩ := Counted.eq ⟨chunkSize, steps, sink, hd, ht⟩
    rw [streamOutcomes_append hend, List.countP_append] at htotal htotal'
    exact ⟨by rw [htotal, hreadings, hreadings'], by rw [htotal', hmalformed, hmalformed']⟩

/-- Two lines over a cap of four, one seen to be while it still arrives and one that comes whole,
with a short line between them. -/
def endedCalls : List LineBuffer.Call :=
  [.push [65, 66, 67, 68, 69], .next, .push [70], .push [newline, 71, newline, 72, 73], .next, .next,
    .push [74, 75, 76, newline], .next]

theorem afresh_after_newline_endedCalls :
    [newline] <:+ LineBuffer.pushed endedCalls ∧
      ((LineBuffer.empty 4).history endedCalls).2.next.result = none ∧
      ((LineBuffer.empty 4).history (endedCalls ++ [.next])).2 = .empty 4 ∧
      ∃ first second tally, Counted [63, newline] first ∧
        Counted [65, 68, 67, 58, 32, 55] second ∧
        Counted ([63, newline] ++ [65, 68, 67, 58, 32, 55]) tally ∧
        tally.readings = first.readings + second.readings ∧
        tally.malformed = first.malformed + second.malformed := by
  have hend : [newline] <:+ LineBuffer.pushed endedCalls := by decide
  have hnone : ((LineBuffer.empty 4).history endedCalls).2.next.result = none := by decide
  obtain ⟨hnew, -⟩ := afresh_after_newline.1 4 endedCalls (.inr hend) hnone
  have hs : ({} : Sink).Reliable := ⟨rfl, by simp, by simp⟩
  have hfirst : Delivers [.arrive [63, newline]] [63, newline] := .arrive (by decide) .usedUp
  have hsecond : Delivers [.arrive [65, 68, 67, 58, 32, 55]] [65, 68, 67, 58, 32, 55] :=
    .arrive (by decide) .usedUp
  have hboth : Delivers [.arrive [63, newline], .arrive [65, 68, 67, 58, 32, 55]]
      ([63, newline] ++ [65, 68, 67, 58, 32, 55]) := .arrive (by decide) hsecond
  obtain ⟨first, ht⟩ := exists_session_ok hfirst hs 1
  obtain ⟨second, ht'⟩ := exists_session_ok hsecond hs 4
  obtain ⟨hok, hsum⟩ := afresh_after_newline.2 _ _ first second (.inr (List.suffix_append [63] _))
    ⟨1, _, _, hfirst, ht⟩ ⟨4, _, _, hsecond, ht'⟩ _ hboth 3 {}
  obtain ⟨tally, htotal⟩ := hok hs
  exact ⟨hend, hnone, hnew, first, second, tally, ⟨1, _, _, hfirst, ht⟩, ⟨4, _, _, hsecond, ht'⟩,
    ⟨3, _, _, hboth, htotal⟩, hsum tally htotal⟩

end Receiver

end AdcFeed
