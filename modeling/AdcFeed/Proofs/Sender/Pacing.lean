import AdcFeed.Proofs.Sender.Patience
import AdcFeed.Proofs.Sink.Stop

/-!
When readings are sent, by a clock that only pauses move. Main statement: the first reading is
flushed at once and each later one a pause after the one before, whatever the sink does in between,
so a run lasts one pause less than it has readings, the one that failed included (`run_pacing`).
A pause is never longer than thirty years of 365 days, so not every delay is one
(`flushTimes_longDelayRun`).
-/

namespace AdcFeed

theorem Duration.pauseMillis_whole (n : Nat) : (⟨n * 1000000⟩ : Duration).pauseMillis = n := by
  simp only [pauseMillis]
  omega

namespace Sender

variable {σ : Type}

/-- So far the first reading was flushed at once and each later one a pause after the last. -/
structure Paced (delay : Nat) (s : Sender σ) : Prop where
  clock_eq : s.clock = (s.sent - 1) * min delay longestPause
  flushTimes_eq : s.flushTimes = (List.range s.sent).map (· * min delay longestPause)

theorem paced_start (delay : Nat) (sampler : σ) (sink : Sink) :
    Paced delay ({ sampler, sink } : Sender σ) :=
  ⟨(Nat.zero_mul _).symm, rfl⟩

variable {delay n : Nat} {s t : Sender σ}

/-- Before the next reading the clock has come to one pause for each reading sent. -/
theorem Paced.clock_pause (h : s.Paced delay) :
    (s.pause delay).clock = s.sent * min delay longestPause := by
  have hclock := h.clock_eq
  unfold pause
  split
  · rename_i hsent
    rw [hclock, hsent]
  · rename_i hsent
    obtain ⟨j, hj⟩ := Nat.exists_eq_succ_of_ne_zero hsent
    simp only [hclock, hj, Nat.succ_sub_one]
    exact (Nat.succ_mul _ _).symm

variable [Sampler σ]

theorem Step.paced {reading : Reading} (h : Step delay s reading none t) (hs : s.Paced delay) :
    t.Paced delay := by
  have hsent : t.sent = s.sent + 1 := h.sent_eq
  have hclock : t.clock = s.sent * min delay longestPause := h.clock_eq.trans hs.clock_pause
  have hclocks : t.flushClocks = t.clock :: s.flushClocks := h.flushClocks_eq
  refine ⟨?_, ?_⟩
  · rw [hclock, hsent, Nat.add_sub_cancel]
  · have htimes : s.flushClocks.reverse = _ := hs.flushTimes_eq
    rw [flushTimes, hclocks, List.reverse_cons, htimes, hclock, hsent, List.range_succ,
      List.map_append, List.map_singleton]

theorem Sends.paced (h : Sends delay s n t) (hs : s.Paced delay) : t.Paced delay := by
  induction h with
  | nil => exact hs
  | cons h _ ih => exact ih (h.paced hs)

/-- Readings sent from the start are the ones counted, at their pace. -/
theorem Sends.paced_of_start {sampler : σ} {sink : Sink}
    (h : Sends delay { sampler, sink } n t) : t.sent = n ∧ t.Paced delay :=
  ⟨h.sent_eq.trans (Nat.zero_add n), h.paced (paced_start delay sampler sink)⟩

theorem Sends.length_flushedAt (h : Sends delay s n t) :
    t.sink.flushedAt.length = s.sink.flushedAt.length + n := by
  simp [h.passed.flushedAt_eq, sizesAfter, Sampler.length_take]

/-- **Readings are sent at the pace of the delay.** A pause is the delay, counted in milliseconds
that have begun, but no more than thirty years of 365 days. Each reading is flushed at the sink
once, the first at time zero and each later one a pause after the one before. A run that comes to
its limit ends with its last flush; one that fails ends where the next flush was due. -/
theorem run_pacing (sampler : σ) (delay : Duration) (limit : Option Nat) (sink : Sink) :
    let run := Sender.run delay.pauseMillis limit { sampler, sink }
    let pause := min ((delay.nanoseconds + 999999) / 1000000) 946080000000
    (∀ millis, delay = ⟨millis * 1000000⟩ → pause = min millis 946080000000) ∧
      match run.result with
      | .finished n =>
        run.sender.flushTimes = (List.range n).map (· * pause) ∧
          run.sender.sink.flushedAt.length = sink.flushedAt.length + n ∧
          run.sender.clock = (n - 1) * pause
      | .failed k _ =>
        run.sender.flushTimes = (List.range k).map (· * pause) ∧
          run.sender.sink.flushedAt.length = sink.flushedAt.length + k ∧
          run.sender.clock = k * pause
      | .endless =>
        ∀ n, (Sender.run delay.pauseMillis (some n) { sampler, sink }).sender.flushTimes =
          (List.range n).map (· * pause) := by
  intro run pause
  have hpause : min delay.pauseMillis longestPause = pause := rfl
  refine ⟨?_, ?_⟩
  · rintro millis rfl
    rw [← hpause, Duration.pauseMillis_whole, longestPause]
  rcases run_cases delay.pauseMillis limit { sampler, sink } with
    ⟨n, t, -, ht, he⟩ | ⟨n, t, u, reading, e, -, ht, hu, he⟩ | ⟨-, he, hall⟩
  · obtain ⟨rfl, hclock, htimes⟩ := ht.paced_of_start
    simp only [run, he, Nat.zero_add]
    exact ⟨htimes, ht.length_flushedAt, hclock⟩
  · obtain ⟨rfl, hpaced⟩ := ht.paced_of_start
    have hclock := hu.clock_eq.trans hpaced.clock_pause
    have hclocks : u.flushTimes = t.flushTimes := congrArg List.reverse hu.flushClocks_eq
    obtain ⟨w, part, -, -, -, hat⟩ := Sink.exists_stop_of_deliver hu.deliver_eq
    simp only [run, he, Nat.zero_add]
    refine ⟨?_, ?_, hclock⟩
    · rw [hclocks, hpaced.flushTimes_eq, hpause]
    · rw [hat, ht.length_flushedAt]
  · simp only [run, he]
    intro n
    obtain ⟨t, ht⟩ := hall n
    obtain ⟨rfl, hpaced⟩ := ht.paced_of_start
    have hsender := congrArg SendRun.sender (sendMany_of_sends ht)
    rw [Sender.run, hsender, hpaced.flushTimes_eq, hpause]

/-- Two readings with a delay of more than thirty years. -/
def longDelayRun : SendRun Replay :=
  Sender.run (Duration.ofMillis 9007199254740992).pauseMillis (some 2)
    { sampler := ⟨⟨1⟩, [⟨-22⟩]⟩, sink := {} }

/-- Not every delay is kept to: one beyond the longest pause is cut short. -/
theorem flushTimes_longDelayRun :
    longDelayRun.result = .finished 2 ∧
      longDelayRun.sender.flushTimes ≠ [0, 9007199254740992] ∧
      longDelayRun.sender.clock ≠ 9007199254740992 := by
  decide +kernel

end Sender

end AdcFeed
