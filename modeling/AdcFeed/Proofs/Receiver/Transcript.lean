import AdcFeed.Proofs.Receiver.Decoding

/-!
The transcript that the receiving side writes. Main statement: on every run the sink has taken each
chunk that was read behind its prefix, one after the other and each followed by a flush, up to the
end of the stream, to the read that failed, or to somewhere inside the chunk at which an attempt
failed for good (`session_transcript`).
-/

namespace AdcFeed

/-- A chunk as it stands in the transcript. -/
def echoed (chunk : Bytes) : Bytes := encodeText "Received: " ++ chunk

/-- The sink has taken the chunks, each behind its prefix and followed by a flush, then a part of
one more. -/
structure Transcribed (before : Sink) (chunks : List Bytes) (part : Bytes) (after : Sink) :
    Prop where
  out_eq : after.out = before.out ++ (chunks.map echoed).flatten ++ part
  flushedAt_eq :
    after.flushedAt = before.flushedAt ++ sizesAfter before.out.length (chunks.map echoed)

theorem flatten_echoOf (chunk : Bytes) : (echoOf chunk).flatten = echoed chunk := by
  simp [echoOf, echoed, transcriptPrefix]

theorem map_flatten_echoOf (chunks : List Bytes) :
    (chunks.map echoOf).map List.flatten = chunks.map echoed := by
  rw [List.map_map]
  exact List.map_congr_left fun chunk _ => flatten_echoOf chunk

theorem transcribed_of_passed {before after : Sink} {chunks : List Bytes}
    (h : before.Passed (chunks.map echoOf) after) : Transcribed before chunks [] after := by
  refine ⟨?_, ?_⟩
  · rw [h.out_eq, map_flatten_echoOf, List.append_nil]
  · rw [h.flushedAt_eq, map_flatten_echoOf]

theorem transcribed_of_deliver {before s after : Sink} {chunks : List Bytes} {chunk : Bytes}
    {e : IoError} (h : before.Passed (chunks.map echoOf) s)
    (hd : s.deliver (echoOf chunk) = (after, some e)) :
    ∃ part, part <+: echoed chunk ∧ Transcribed before chunks part after := by
  obtain ⟨part, hpart, hout, hat⟩ := Sink.deliver_some hd
  obtain ⟨hs, hsat⟩ := transcribed_of_passed h
  rw [List.append_nil] at hs
  exact ⟨part, flatten_echoOf chunk ▸ hpart, by rw [hout, hs], by rw [hat, hsat]⟩

namespace Receiver

/-- **The transcript is exact on every run.** The chunks are what the reads get one after the other,
and no read gets more than there is room for. A session without a failure has written all of them,
and they are the bytes of its stream; one that ends with a failed read has written all those before
it; and one that ends with a failed write or flush has written the chunks before, all of them
flushed, and a part of the next. No attempt at the sink failed for good before the one that the
failure tells of, and none was made after it. -/
theorem session_transcript (chunkSize : Nat) (steps : List ReadStep) (sink : Sink) :
    let run := session chunkSize steps sink
    ∃ chunks ending, Reads (max chunkSize 1) steps chunks ending ∧
      (∀ chunk ∈ chunks, 1 ≤ chunk.length ∧ chunk.length ≤ max chunkSize 1) ∧
      match run.result with
      | .ok tally =>
        ending = none ∧ Delivers steps chunks.flatten ∧ Transcribed sink chunks [] run.sink ∧
          sink.view.Attempts none run.sink.view ∧
          tally.chunks = chunks.length ∧ tally.bytes = (chunks.map List.length).sum
      | .error (.read e) =>
        ending = some e ∧ Transcribed sink chunks [] run.sink ∧
          sink.view.Attempts none run.sink.view
      | .error (.output e) =>
        ∃ done chunk later part, chunks = done ++ chunk :: later ∧ part <+: echoed chunk ∧
          Transcribed sink done part run.sink ∧ sink.view.Attempts (some e) run.sink.view
      | .error _ => False := by
  have hreads := reads_ofSteps chunkSize steps
  refine ⟨_, _, hreads, hreads.length_mem (by omega), ?_⟩
  rcases session_cases chunkSize steps sink with
    ⟨s, herror, hp, he⟩ | ⟨s, e, herror, hp, he⟩ |
      ⟨done, chunk, later, s, s', e, hc, hp, hd, he⟩ <;>
    rw [he]
  · rw [herror] at hreads
    refine ⟨herror, hreads.delivers, transcribed_of_passed hp, hp.attempts, ?_, ?_⟩
    · rw [wholeTally_eq]
    · rw [wholeTally_eq, List.length_flatten]
  · exact ⟨herror, transcribed_of_passed hp, hp.attempts⟩
  · obtain ⟨part, hpart, ht⟩ := transcribed_of_deliver hp hd
    have hattempts := Sink.attempts_deliver s (echoOf chunk)
    rw [hd] at hattempts
    exact ⟨done, chunk, later, part, hc, hpart, ht, hp.attempts.trans hattempts⟩

end Receiver

end AdcFeed
