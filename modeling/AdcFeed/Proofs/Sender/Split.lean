import AdcFeed.Proofs.Sender.Pacing

/-!
Runs of the sending side one after the other, on one sampler and one sink. What a reading comes to
depends on these two alone: `CountsOn` relates two states that differ in how many readings they
count, and in their times, and no later reading tells them apart (`CountsOn.sendMany`). Main
statement: a run for some readings and another for more come to the same as one run for all of
them, which takes longer by the pause between the two (`run_add`). That pause is never longer than
thirty years of 365 days, so it is not always the delay (`clock_runOn_steadySender`).
-/

namespace AdcFeed

/-- The same end where so many readings had been sent before. -/
def SendEnd.onFrom (earlier : Nat) : SendEnd → SendEnd
  | .finished sent => .finished (earlier + sent)
  | .failed sent error => .failed (earlier + sent) error
  | .endless => .endless

theorem SendEnd.onFrom_eq_finished (earlier sent : Nat) (e : SendEnd) :
    e.onFrom earlier = .finished (earlier + sent) ↔ e = .finished sent := by
  cases e <;> simp [onFrom]

theorem SendEnd.onFrom_eq_failed (earlier sent : Nat) (error : IoError) (e : SendEnd) :
    e.onFrom earlier = .failed (earlier + sent) error ↔ e = .failed sent error := by
  cases e <;> simp [onFrom]

namespace Sender

variable {σ : Type} {delay earlier k m n : Nat}

/-- The same sampler and the same sink, where so many more readings count as sent. -/
structure CountsOn (earlier : Nat) (s s' : Sender σ) : Prop where
  sampler_eq : s.sampler = s'.sampler
  sink_eq : s.sink = s'.sink
  sent_eq : s.sent = earlier + s'.sent

variable [Sampler σ] {s s' t t' u : Sender σ} {sampler : σ} {sink : Sink}

/-! ## A run from where another has come to -/

theorem sendMany_add (h : Sends delay s m t) (n : Nat) :
    sendMany delay s (m + n) =
      (sendMany delay t n).after (sentEvents s.sent (Sampler.take s.sampler m)) := by
  induction h with
  | nil s => rw [Nat.zero_add]; rfl
  | cons h _ ih =>
    rw [Nat.succ_add, sendMany, sendOne_of_step h, h.sentEvents_eq]
    simp only [ih, SendRun.after, List.cons_append, List.nil_append]

/-- A reading that cannot be sent ends every run that comes to it, and each in the same way. -/
theorem sendMany_of_step {reading : Reading} {e : IoError} (h : Sends delay s k t)
    (hu : Step delay t reading (some e) u) (hk : k < n) :
    sendMany delay s n =
      { result := .failed (s.sent + k) e, sender := u,
        events := sentEvents s.sent (Sampler.take s.sampler k) } := by
  obtain ⟨more, rfl⟩ := Nat.exists_eq_add_of_lt hk
  rw [Nat.add_assoc, sendMany_add h, sendMany, sendOne_of_step hu, h.sent_eq]
  simp only [SendRun.after, List.append_nil]

/-! ## Counts and times aside -/

theorem CountsOn.step {reading reading' : Reading} {error error' : Option IoError}
    (h : CountsOn earlier s s') (ht : Step delay s reading error t)
    (ht' : Step delay s' reading' error' t') :
    reading = reading' ∧ error = error' ∧ CountsOn earlier t t' := by
  have hreading : reading = reading' := by rw [ht.reading_eq, ht'.reading_eq, h.sampler_eq]
  have hdeliver := ht.deliver_eq
  rw [h.sink_eq, hreading, ht'.deliver_eq] at hdeliver
  obtain ⟨hsink, rfl⟩ := Prod.mk.inj hdeliver
  refine ⟨hreading, rfl, ?_, hsink.symm, ?_⟩
  · rw [ht.sampler_eq, ht'.sampler_eq, h.sampler_eq]
  · rw [ht.sent_eq, ht'.sent_eq, h.sent_eq]
    split <;> rfl

theorem CountsOn.sendMany (h : CountsOn earlier s s') (delay n : Nat) :
    let run := Sender.sendMany delay s n
    let run' := Sender.sendMany delay s' n
    run.result = run'.result.onFrom earlier ∧ run.sender.sampler = run'.sender.sampler ∧
      run.sender.sink = run'.sender.sink := by
  induction n generalizing s s' with
  | zero => exact ⟨congrArg SendEnd.finished h.sent_eq, h.sampler_eq, h.sink_eq⟩
  | succ n ih =>
    obtain ⟨⟨t, reading, error⟩, hone⟩ : ∃ one, s.sendOne delay = one := ⟨_, rfl⟩
    obtain ⟨⟨t', reading', error'⟩, hone'⟩ : ∃ one, s'.sendOne delay = one := ⟨_, rfl⟩
    obtain ⟨rfl, rfl, hnext⟩ := h.step (step_sendOne hone) (step_sendOne hone')
    simp only [Sender.sendMany, hone, hone']
    cases error with
    | some e => exact ⟨congrArg (SendEnd.failed · e) h.sent_eq, hnext.sampler_eq, hnext.sink_eq⟩
    | none => exact ih hnext

/-! ## How long a run takes -/

theorem clock_of_finished
    (h : (sendMany delay { sampler, sink : Sender σ } n).result = .finished k) :
    (sendMany delay { sampler, sink : Sender σ } n).sender.clock =
      (k - 1) * min delay longestPause := by
  rcases sendMany_cases delay { sampler, sink : Sender σ } n with
    ⟨t, ht, he⟩ | ⟨j, t, u, reading, e, -, -, -, he⟩ <;> rw [he] at h ⊢ <;> cases h
  obtain ⟨rfl, hpaced⟩ := ht.paced_of_start
  simpa only [Nat.zero_add] using hpaced.clock_eq

theorem clock_of_failed {e : IoError}
    (h : (sendMany delay { sampler, sink : Sender σ } n).result = .failed k e) :
    (sendMany delay { sampler, sink : Sender σ } n).sender.clock = k * min delay longestPause := by
  rcases sendMany_cases delay { sampler, sink : Sender σ } n with
    ⟨t, -, he⟩ | ⟨j, t, u, reading, e, -, ht, hu, he⟩ <;> rw [he] at h ⊢ <;> cases h
  obtain ⟨rfl, hpaced⟩ := ht.paced_of_start
  simpa only [Nat.zero_add] using hu.clock_eq.trans hpaced.clock_pause

/-! ## Two runs for one -/

/-- Once readings have been sent, the run for more of them goes on as one from the start would with
the sampler and the sink they leave. -/
theorem Sends.sendMany_add (ht : Sends delay { sampler, sink } m t) (n : Nat) :
    let second := sendMany delay { sampler := t.sampler, sink := t.sink } n
    let whole := sendMany delay { sampler, sink } (m + n)
    whole.result = second.result.onFrom m ∧ whole.sender.sampler = second.sender.sampler ∧
      whole.sender.sink = second.sender.sink := by
  have hcounts : CountsOn m t { sampler := t.sampler, sink := t.sink } :=
    ⟨rfl, rfl, ht.paced_of_start.1⟩
  rw [Sender.sendMany_add ht n]
  exact hcounts.sendMany delay n

/-- The run for all the readings makes the pauses of both runs and the one between them. -/
theorem Sends.clock_sendMany_add (ht : Sends delay { sampler, sink } m t) (n : Nat) :
    (sendMany delay { sampler, sink } (m + n)).sender.clock =
      t.clock + (sendMany delay { sampler := t.sampler, sink := t.sink } n).sender.clock +
        if 0 < m ∧ 0 < n then min delay longestPause else 0 := by
  have hwhole := (ht.sendMany_add n).1
  have hfirst : t.clock = (m - 1) * min delay longestPause := by
    rw [ht.paced_of_start.2.clock_eq, ht.paced_of_start.1]
  have hpauses : ∀ total later, total = m - 1 + later + (if 0 < m ∧ 0 < n then 1 else 0) →
      total * min delay longestPause = (m - 1) * min delay longestPause +
        later * min delay longestPause + if 0 < m ∧ 0 < n then min delay longestPause else 0 := by
    rintro _ later rfl
    rw [Nat.add_mul, Nat.add_mul, ite_mul, Nat.one_mul, Nat.zero_mul]
  rcases sendMany_cases delay { sampler := t.sampler, sink := t.sink } n with
    ⟨v, -, he⟩ | ⟨k, v, w, reading, e, hk, -, -, he⟩
  · have hsecond := congrArg SendRun.result he
    rw [Nat.zero_add] at hsecond
    rw [hsecond] at hwhole
    rw [hfirst, clock_of_finished hsecond, clock_of_finished hwhole]
    exact hpauses (m + n - 1) (n - 1) (by split <;> omega)
  · -- the pause before the reading that failed counts, so there is one for each reading sent
    have hsecond := congrArg SendRun.result he
    rw [Nat.zero_add] at hsecond
    rw [hsecond] at hwhole
    rw [hfirst, clock_of_failed hsecond, clock_of_failed hwhole]
    exact hpauses (m + k) k (by split <;> omega)

/-- **A run for some readings and then a run for more are one run for all of them.** If the first
comes to its limit, the two leave the same sampler and the same sink as the one, with all the bytes
taken and counted at flushes; the one ends as the second does, and takes as long as both and the
pause between them, if there is a reading on either side. That pause is the delay, counted in
milliseconds that have begun, but no more than thirty years of 365 days. If the first fails, so does
the one, and then there is no difference at all. -/
theorem run_add (sampler : σ) (delay : Duration) (a b : Nat) (sink : Sink) :
    let first := Sender.run delay.pauseMillis (some a) { sampler, sink }
    let second := Sender.run delay.pauseMillis (some b)
      { sampler := first.sender.sampler, sink := first.sender.sink }
    let whole := Sender.run delay.pauseMillis (some (a + b)) { sampler, sink }
    let pause := min ((delay.nanoseconds + 999999) / 1000000) 946080000000
    (∀ millis, delay = ⟨millis * 1000000⟩ → pause = min millis 946080000000) ∧
      match first.result with
      | .finished _ =>
        whole.sender.sampler = second.sender.sampler ∧ whole.sender.sink = second.sender.sink ∧
          (whole.result = .finished (a + b) ↔ second.result = .finished b) ∧
          (∀ k e, whole.result = .failed (a + k) e ↔ second.result = .failed k e) ∧
          whole.sender.clock = first.sender.clock + second.sender.clock +
            if 0 < a ∧ 0 < b then pause else 0
      | .failed .. => whole = first
      | .endless => False := by
  intro first second whole pause
  have hpause : min delay.pauseMillis longestPause = pause := rfl
  refine ⟨?_, ?_⟩
  · rintro millis rfl
    rw [← hpause, Duration.pauseMillis_whole, longestPause]
  rcases sendMany_cases delay.pauseMillis { sampler, sink : Sender σ } a with
    ⟨t, ht, hfirst⟩ | ⟨k, t, u, reading, e, hk, ht, hu, hfirst⟩
  · have hsender : first.sender = t := congrArg SendRun.sender hfirst
    have hend : first.result = .finished a :=
      (congrArg SendRun.result hfirst).trans (congrArg SendEnd.finished (Nat.zero_add a))
    have hsecond :
        second = sendMany delay.pauseMillis { sampler := t.sampler, sink := t.sink } b := by
      simp only [second, hsender, Sender.run]
    obtain ⟨hresult, hsampler, hsink⟩ := ht.sendMany_add b
    have hclock := ht.clock_sendMany_add b
    rw [← hsecond] at hresult hsampler hsink hclock
    rw [hpause] at hclock
    change whole.result = _ at hresult
    simp only [hend, hsender]
    refine ⟨hsampler, hsink, ?_, ?_, hclock⟩
    · rw [hresult, SendEnd.onFrom_eq_finished]
    · intro k e
      rw [hresult, SendEnd.onFrom_eq_failed]
  · have hwhole : whole = first :=
      (sendMany_of_step ht hu (Nat.lt_add_right b hk)).trans hfirst.symm
    have hend : first.result = .failed (0 + k) e := congrArg SendRun.result hfirst
    simp only [hend, hwhole]

/-- A run for so many readings, on the sampler and the sink that another has left. -/
def runOn (delay : Duration) (count : Nat) (s : Sender Replay) : SendRun Replay :=
  Sender.run delay.pauseMillis (some count) { sampler := s.sampler, sink := s.sink }

/-- Readings of one value, and a sink that takes them all. -/
def steadySender : Sender Replay := { sampler := ⟨⟨5⟩, []⟩, sink := {} }

/-- Not every delay is what lies between two runs: one beyond the longest pause is cut short. -/
theorem clock_runOn_steadySender :
    let late : Duration := .ofMillis 946080000001
    let first := runOn late 1 steadySender
    first.result = .finished 1 ∧
      (runOn late 2 steadySender).sender.clock ≠
        first.sender.clock + (runOn late 1 first.sender).sender.clock + 946080000001 := by
  decide +kernel

end Sender

end AdcFeed
