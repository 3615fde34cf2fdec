import AdcFeed.Proofs.Line
import AdcFeed.Proofs.Sender.Run
import AdcFeed.Proofs.Sink.Spent

/-!
Runs without a limit. Every reading sent uses up a step of either kind and at least seven bytes of
room, so a sink that did not fail while its patience lasted never will. Main statements: a run comes
to its limit, fails at a reading, or could go on for any number of readings (`run_cases`); and it is
endless exactly if every number of readings can be sent (`run_endless_iff`).
-/

namespace AdcFeed

namespace Sender

variable {σ : Type} [Sampler σ] {delay m n : Nat} {s t u : Sender σ}

/-! ## Readings sent and runs -/

theorem sendOne_of_step {reading : Reading} {error : Option IoError}
    (h : Step delay s reading error t) : s.sendOne delay = (t, reading, error) := by
  generalize hone : s.sendOne delay = one
  obtain ⟨t', reading', error'⟩ := one
  have h' := step_sendOne hone
  obtain rfl : reading' = reading := h'.reading_eq.trans h.reading_eq.symm
  obtain ⟨hsink, rfl⟩ := Prod.mk.inj (h'.deliver_eq.symm.trans h.deliver_eq)
  have hclock := h'.clock_eq.trans h.clock_eq.symm
  have hclocks := h'.flushClocks_eq
  rw [hclock, ← h.flushClocks_eq] at hclocks
  have hsampler := h'.sampler_eq.trans h.sampler_eq.symm
  have hsent := h'.sent_eq.trans h.sent_eq.symm
  cases t
  cases t'
  simp only at hsink hclock hclocks hsampler hsent
  rw [hsink, hclock, hclocks, hsampler, hsent]

theorem sendMany_of_sends (h : Sends delay s n t) :
    sendMany delay s n =
      { result := .finished (s.sent + n), sender := t,
        events := sentEvents s.sent (Sampler.take s.sampler n) } := by
  induction h with
  | nil => rfl
  | cons h _ ih =>
    rw [sendMany, sendOne_of_step h, h.sentEvents_eq, ← h.sent_add]
    simp only [ih, SendRun.after, List.singleton_append]

theorem Sends.trans (h : Sends delay s m t) (h' : Sends delay t n u) :
    Sends delay s (m + n) u := by
  induction h with
  | nil => rwa [Nat.zero_add]
  | cons h _ ih =>
    rw [Nat.succ_add]
    exact .cons h (ih h')

theorem Sends.take (h : Sends delay s (m + n) u) : ∃ t, Sends delay s m t := by
  induction m generalizing s with
  | zero => exact ⟨s, .nil s⟩
  | succ m ih =>
    rw [Nat.succ_add] at h
    cases h with
    | cons h later =>
      obtain ⟨t, ht⟩ := ih later
      exact ⟨t, .cons h ht⟩

/-! ## What is left of the sink -/

theorem Step.steps_le {reading : Reading} (h : Step delay s reading none t) :
    t.sink.writes.length ≤ s.sink.writes.length - 1 ∧
      t.sink.flushes.length ≤ s.sink.flushes.length - 1 := by
  obtain ⟨hout, hat⟩ := Sink.deliver_none h.deliver_eq
  have hspent := Sink.attempts_deliver s.sink [reading.encode]
  rw [h.deliver_eq] at hspent
  have hlen := reading.length_encode
  refine ⟨hspent.spent.writes_lt fun he => ?_, hspent.spent.flushes_lt fun he => ?_⟩ <;>
    simp only [Sink.view] at he
  · have := congrArg List.length (hout.symm.trans he)
    simp only [List.flatten_singleton, List.length_append] at this
    omega
  · have := congrArg List.length (hat.symm.trans he)
    simp only [List.length_append, List.length_singleton] at this
    omega

theorem Sends.steps_le (h : Sends delay s n t) :
    t.sink.writes.length ≤ s.sink.writes.length - n ∧
      t.sink.flushes.length ≤ s.sink.flushes.length - n := by
  induction h with
  | nil => exact ⟨Nat.le_refl _, Nat.le_refl _⟩
  | cons h _ ih =>
    have := h.steps_le
    omega

theorem Sends.le_length_out (h : Sends delay s n t) :
    s.sink.out.length + 7 * n ≤ t.sink.out.length := by
  induction h with
  | nil => exact Nat.le_refl _
  | @cons s t u reading n h _ ih =>
    have hout := congrArg List.length (Sink.deliver_none h.deliver_eq).1
    rw [List.flatten_singleton, List.length_append] at hout
    have := reading.length_encode
    omega

/-- A sink that has room for `m` bytes takes no more than a seventh as many readings. -/
theorem Sends.le_of_room (h : Sends delay s n t) (hr : s.sink.room = some m) : 7 * n ≤ m := by
  obtain ⟨left, -, hout⟩ := h.passed.attempts.spent.room_some m hr
  have := h.le_length_out
  simp only [Sink.view] at hout
  omega

/-! ## Runs that never end -/

theorem exists_sends (hs : s.sink.Reliable) (n : Nat) : ∃ t, Sends delay s n t := by
  induction n generalizing s with
  | zero => exact ⟨s, .nil s⟩
  | succ n ih =>
    generalize hone : s.sendOne delay = one
    obtain ⟨next, reading, error⟩ := one
    have hstep := step_sendOne hone
    have hdeliver := hs.deliver [reading.encode]
    rw [hstep.deliver_eq] at hdeliver
    obtain ⟨rfl, hnext⟩ := hdeliver
    obtain ⟨t, ht⟩ := ih hnext
    exact ⟨t, .cons hstep ht⟩

/-- A sink whose patience is at an end never fails. -/
theorem Sends.reliable (h : Sends delay s (patience s.sink) t) : t.sink.Reliable := by
  cases hr : s.sink.room with
  | some m =>
    have := h.le_of_room hr
    rw [patience, hr] at this
    simp only at this
    omega
  | none =>
    have hsteps := h.steps_le
    rw [patience, hr] at hsteps
    simp only at hsteps
    have hw : t.sink.writes = [] := List.length_eq_zero_iff.1 (by omega)
    have hf : t.sink.flushes = [] := List.length_eq_zero_iff.1 (by omega)
    have hroom : t.sink.room = none := h.passed.attempts.spent.room_none hr
    exact ⟨hroom, by simp [hw], by simp [hf]⟩

/-- Beyond its patience the sink takes everything, so any number of readings can be sent. -/
theorem Sends.exists_sends (h : Sends delay s (patience s.sink) t) (n : Nat) :
    ∃ u, Sends delay s n u := by
  obtain ⟨u, hu⟩ := Sender.exists_sends h.reliable n
  have hall := h.trans hu
  rw [Nat.add_comm] at hall
  exact hall.take

/-- A run comes to its limit, or one reading cannot be sent, or it is endless. -/
theorem run_cases (delay : Nat) (limit : Option Nat) (s : Sender σ) :
    (∃ n t, limit = some n ∧ Sends delay s n t ∧
        run delay limit s =
          { result := .finished (s.sent + n), sender := t,
            events := sentEvents s.sent (Sampler.take s.sampler n) }) ∨
      (∃ n t u reading e, (∀ count, limit = some count → n < count) ∧ Sends delay s n t ∧
        Step delay t reading (some e) u ∧
        run delay limit s =
          { result := .failed (s.sent + n) e, sender := u,
            events := sentEvents s.sent (Sampler.take s.sampler n) }) ∨
      (limit = none ∧ (run delay limit s).result = .endless ∧ ∀ n, ∃ t, Sends delay s n t) := by
  cases limit with
  | some count =>
    rcases sendMany_cases delay s count with ⟨t, ht, he⟩ | ⟨n, t, u, reading, e, hn, ht, hu, he⟩
    · exact .inl ⟨count, t, rfl, ht, he⟩
    · refine .inr (.inl ⟨n, t, u, reading, e, ?_, ht, hu, he⟩)
      intro c hc
      cases hc
      exact hn
  | none =>
    rcases sendMany_cases delay s (patience s.sink) with
      ⟨t, ht, he⟩ | ⟨n, t, u, reading, e, -, ht, hu, he⟩
    · exact .inr (.inr ⟨rfl, by simp only [run, he], ht.exists_sends⟩)
    · exact .inr (.inl ⟨n, t, u, reading, e, by simp, ht, hu, by simp only [run, he]⟩)

/-- A run without a limit is endless exactly if, whatever limit is set, it is reached. -/
theorem run_endless_iff :
    (run delay none s).result = .endless ↔
      ∀ count, (sendMany delay s count).result = .finished (s.sent + count) := by
  constructor
  · intro h count
    rcases run_cases delay none s with ⟨n, t, hn, -, -⟩ | ⟨n, t, u, reading, e, -, -, -, he⟩ | hall
    · cases hn
    · rw [he] at h
      cases h
    · obtain ⟨t, ht⟩ := hall.2.2 count
      rw [sendMany_of_sends ht]
  · intro h
    simp only [run, h]

end Sender

end AdcFeed
