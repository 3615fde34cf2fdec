import AdcFeed.Proofs.Sender.Patience
import AdcFeed.Proofs.Sink.Stop

/-!
What a run of the sending side leaves at its sink, of its sampler and in the log. Main statement:
the readings that a run counts are those that it took from its sampler, sent, flushed and told of,
in order; and a run that fails has taken one more, whose line stops at the attempt that the failure
tells of (`run_transcript`).
-/

namespace AdcFeed

/-- The sink has taken the lines of readings, each followed by a flush, then a part of one more. -/
structure Sent (before : Sink) (readings : List Reading) (part : Bytes) (after : Sink) : Prop where
  out_eq : after.out = before.out ++ (readings.map Reading.encode).flatten ++ part
  flushedAt_eq :
    after.flushedAt =
      before.flushedAt ++ sizesAfter before.out.length (readings.map Reading.encode)

namespace Sender

variable {σ : Type} [Sampler σ] {delay n : Nat} {s t u : Sender σ}

theorem Sends.sent (h : Sends delay s n t) :
    Sent s.sink (Sampler.take s.sampler n) [] t.sink := by
  refine ⟨by rw [h.out_eq, List.append_nil], ?_⟩
  rw [h.passed.flushedAt_eq, List.map_map]
  congr 2
  exact List.map_congr_left fun r _ => List.flatten_singleton

/-- A reading that cannot be sent is taken from the sampler all the same, and its line is taken up
to the attempt that failed. -/
theorem Sends.sent_of_step {reading : Reading} {e : IoError} (h : Sends delay s n t)
    (hu : Step delay t reading (some e) u) :
    (∃ part w, Sent s.sink (Sampler.take s.sampler n) part u.sink ∧
        s.sink.view.Attempts none w ∧
        w.Stop (Sampler.reading s.sampler n).encode part e u.sink.view) ∧
      u.sampler = Sampler.after s.sampler (n + 1) := by
  have hsampler := h.sampler_eq
  have hreading : reading = Sampler.reading s.sampler n := by
    rw [hu.reading_eq, hsampler, Sampler.reading]
  obtain ⟨w, part, hattempts, hstop, hout, hat⟩ := Sink.exists_stop_of_deliver hu.deliver_eq
  rw [hreading] at hstop
  refine ⟨⟨part, w, ⟨?_, ?_⟩, h.passed.attempts.trans hattempts, hstop⟩, ?_⟩
  · rw [hout, h.out_eq]
  · rw [hat, h.sent.flushedAt_eq]
  · rw [hu.sampler_eq, hsampler, Sampler.after_add]
    rfl

/-- **A run sends exactly the readings that it counts.** If it comes to an end, the count is the
limit; it has taken so many readings from the sampler, and the sink has taken their lines, each with
a flush behind it. If it fails, a limit is not yet reached; it has taken one reading more than it
counts, the sink has taken the lines counted, each with a flush behind it, and of the next line all
before the attempt that failed, which was the first to fail for good and the last that was made; if
that one was interrupted, it was the flush behind the whole line. Each reading counted was told of
with its number. A run does neither only without a limit, if its sink takes any number of
readings. -/
theorem run_transcript (sampler : σ) (delay : Nat) (limit : Option Nat) (sink : Sink) :
    let run := Sender.run delay limit { sampler, sink }
    match run.result with
    | .finished n =>
      limit = some n ∧ Sent sink (Sampler.take sampler n) [] run.sender.sink ∧
        sink.view.Attempts none run.sender.sink.view ∧
        run.sender.sampler = Sampler.after sampler n ∧
        run.events = sentEvents 0 (Sampler.take sampler n)
    | .failed k e =>
      (∀ count, limit = some count → k < count) ∧
        (∃ part w, Sent sink (Sampler.take sampler k) part run.sender.sink ∧
          part <+: (Sampler.reading sampler k).encode ∧ sink.view.Attempts none w ∧
          w.Stop (Sampler.reading sampler k).encode part e run.sender.sink.view ∧
          (e.kind = .interrupted → part = (Sampler.reading sampler k).encode)) ∧
        run.sender.sampler = Sampler.after sampler (k + 1) ∧
        run.events = sentEvents 0 (Sampler.take sampler k)
    | .endless =>
      limit = none ∧
        ∀ count, (Sender.run delay (some count) { sampler, sink }).result = .finished count := by
  intro run
  rcases run_cases delay limit { sampler, sink } with
    ⟨n, t, hlimit, ht, he⟩ | ⟨n, t, u, reading, e, hlimit, ht, hu, he⟩ | ⟨hlimit, he, hall⟩
  · simp only [run, he, Nat.zero_add]
    exact ⟨hlimit, ht.sent, ht.passed.attempts, ht.sampler_eq, trivial⟩
  · obtain ⟨⟨part, w, hpart, hattempts, hstop⟩, hsampler⟩ := ht.sent_of_step hu
    simp only [run, he, Nat.zero_add]
    refine ⟨hlimit, ⟨part, w, hpart, hstop.isPrefix, hattempts, hstop, ?_⟩, hsampler, trivial⟩
    exact hstop.eq_of_interrupted
  · simp only [run, he]
    refine ⟨hlimit, ?_⟩
    intro count
    obtain ⟨t, ht⟩ := hall count
    have hresult := congrArg SendRun.result (sendMany_of_sends ht)
    rwa [Nat.zero_add] at hresult

end Sender

end AdcFeed
