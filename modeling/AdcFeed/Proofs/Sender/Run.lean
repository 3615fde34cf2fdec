import AdcFeed.Proofs.Sink.Delivered
import AdcFeed.Sender

/-!
Runs of the sending side, reading by reading. `Step` is what sending one reading does, and `Sends`
is so many readings sent. Main statements: a run sends readings until it has sent all or the next
one fails, and tells of each that it sent (`sendMany_cases`), so the sink has taken the lines of the
readings sent and then a part of the next line (`exists_part`).
-/

namespace AdcFeed

variable {σ : Type}

/-- What is told of readings sent one after the other, where so many had been sent before. -/
def sentEvents (sent : Nat) (readings : List Reading) : List Event :=
  (readings.zipIdx (sent + 1)).map fun (reading, number) => .sent reading number

theorem Sampler.length_take [Sampler σ] (s : σ) (n : Nat) : (take s n).length = n := by
  induction n generalizing s with
  | zero => rfl
  | succ n ih => rw [take, List.length_cons, ih]

theorem Sampler.take_add [Sampler σ] (s : σ) (m n : Nat) :
    take s (m + n) = take s m ++ take (after s m) n := by
  induction m generalizing s with
  | zero => rw [Nat.zero_add, take, after, List.nil_append]
  | succ m ih => rw [Nat.succ_add, take, take, after, ih, List.cons_append]

namespace Sender

/-- A pause moves the clock and nothing else. -/
theorem pause_eq (delay : Nat) (s : Sender σ) :
    (s.pause delay).sampler = s.sampler ∧ (s.pause delay).sink = s.sink ∧
      (s.pause delay).sent = s.sent ∧ (s.pause delay).flushClocks = s.flushClocks := by
  unfold pause
  split <;> exact ⟨rfl, rfl, rfl, rfl⟩

variable [Sampler σ] {delay n : Nat} {s t u : Sender σ}

/-- One reading is taken, whether or not it can be sent; it counts if it is. -/
structure Step (delay : Nat) (s : Sender σ) (reading : Reading) (error : Option IoError)
    (t : Sender σ) : Prop where
  reading_eq : reading = (Sampler.sample s.sampler).1
  sampler_eq : t.sampler = (Sampler.sample s.sampler).2
  deliver_eq : s.sink.deliver [reading.encode] = (t.sink, error)
  sent_eq : t.sent = if error = none then s.sent + 1 else s.sent
  clock_eq : t.clock = (s.pause delay).clock
  flushClocks_eq : t.flushClocks = if error = none then t.clock :: s.flushClocks else s.flushClocks

/-- So many readings are sent one after the other. -/
inductive Sends (delay : Nat) : Sender σ → Nat → Sender σ → Prop
  | nil (s : Sender σ) : Sends delay s 0 s
  | cons {s t u : Sender σ} {reading : Reading} {n : Nat} (h : Step delay s reading none t)
      (later : Sends delay t n u) : Sends delay s (n + 1) u

/-! ## One reading -/

theorem step_sendOne {reading : Reading} {error : Option IoError}
    (h : s.sendOne delay = (t, reading, error)) : Step delay s reading error t := by
  obtain ⟨hsampler, hsink, hsent, hclocks⟩ := pause_eq delay s
  simp only [sendOne, draw, hsampler, hsink] at h
  generalize hd : s.sink.deliver [(Sampler.sample s.sampler).1.encode] = taken at h
  obtain ⟨sink, failed⟩ := taken
  cases failed with
  | some e =>
    cases h
    exact ⟨rfl, rfl, hd, hsent, rfl, hclocks⟩
  | none =>
    cases h
    exact ⟨rfl, rfl, hd, congrArg (· + 1) hsent, rfl, congrArg _ hclocks⟩

/-! ## Many readings -/

theorem Sends.sampler_eq (h : Sends delay s n t) : t.sampler = Sampler.after s.sampler n := by
  induction h with
  | nil => rfl
  | cons h _ ih => rw [ih, h.sampler_eq, Sampler.after]

/-- A reading sent and so many more. -/
theorem Step.sent_add {reading : Reading} (h : Step delay s reading none t) (n : Nat) :
    t.sent + n = s.sent + (n + 1) := by
  rw [h.sent_eq, if_pos rfl, Nat.add_right_comm, Nat.add_assoc]

theorem Sends.sent_eq (h : Sends delay s n t) : t.sent = s.sent + n := by
  induction h with
  | nil => rfl
  | cons h _ ih => rw [ih, h.sent_add]

theorem Sends.passed (h : Sends delay s n t) :
    s.sink.Passed ((Sampler.take s.sampler n).map fun r => [r.encode]) t.sink := by
  induction h with
  | nil => exact .nil _
  | cons h _ ih =>
    rw [h.sampler_eq] at ih
    exact .cons (h.reading_eq ▸ h.deliver_eq) ih

/-- The sink takes the lines of the readings sent, and no more. -/
theorem Sends.out_eq (h : Sends delay s n t) :
    t.sink.out = s.sink.out ++ ((Sampler.take s.sampler n).map Reading.encode).flatten := by
  rw [h.passed.out_eq, List.map_map]
  congr 2
  exact List.map_congr_left fun r _ => List.flatten_singleton

/-- A reading sent is the first of those told of. -/
theorem Step.sentEvents_eq {reading : Reading} (h : Step delay s reading none t) (n : Nat) :
    sentEvents s.sent (Sampler.take s.sampler (n + 1)) =
      .sent reading t.sent :: sentEvents t.sent (Sampler.take t.sampler n) := by
  rw [h.reading_eq, h.sampler_eq, h.sent_eq, if_pos rfl]
  rfl

/-- A run for so many readings sends all of them, or it sends some and fails at the next. -/
theorem sendMany_cases (delay : Nat) (s : Sender σ) (count : Nat) :
    (∃ t, Sends delay s count t ∧
        sendMany delay s count =
          { result := .finished (s.sent + count), sender := t,
            events := sentEvents s.sent (Sampler.take s.sampler count) }) ∨
      ∃ n t u reading e, n < count ∧ Sends delay s n t ∧ Step delay t reading (some e) u ∧
        sendMany delay s count =
          { result := .failed (s.sent + n) e, sender := u,
            events := sentEvents s.sent (Sampler.take s.sampler n) } := by
  induction count generalizing s with
  | zero => exact .inl ⟨s, .nil s, rfl⟩
  | succ count ih =>
    rw [sendMany]
    generalize hone : s.sendOne delay = one
    obtain ⟨next, reading, error⟩ := one
    have hstep := step_sendOne hone
    cases error with
    | some e => exact .inr ⟨0, s, next, reading, e, by omega, .nil s, hstep, rfl⟩
    | none =>
      rcases ih next with ⟨t, ht, he⟩ | ⟨n, t, u, r, e, hn, ht, hu, he⟩
      · refine .inl ⟨t, .cons hstep ht, ?_⟩
        rw [hstep.sentEvents_eq, ← hstep.sent_add]
        simp only [he, SendRun.after, List.singleton_append]
      · refine .inr ⟨n + 1, t, u, r, e, by omega, .cons hstep ht, hu, ?_⟩
        rw [hstep.sentEvents_eq, ← hstep.sent_add]
        simp only [he, SendRun.after, List.singleton_append]

/-! ## Runs -/

/-- A run that ends is one for so many readings, whether or not a limit was set. -/
theorem exists_run_eq_sendMany {limit : Option Nat} (h : (run delay limit s).result ≠ .endless) :
    ∃ count, run delay limit s = sendMany delay s count := by
  cases limit with
  | some count => exact ⟨count, rfl⟩
  | none =>
    refine ⟨patience s.sink, ?_⟩
    unfold run at h ⊢
    simp only at h ⊢
    split
    · rename_i hr
      rw [hr] at h
      exact absurd rfl h
    · rfl

/-- When a run ends, the sink has taken the lines of the readings sent and a part of the next
line, none of it if the run did not fail. -/
theorem exists_part {limit : Option Nat} {k : Nat} (hs : s.sent = 0)
    (h : (run delay limit s).result = .finished k ∨ ∃ e, (run delay limit s).result = .failed k e) :
    ∃ part, part <+: (Sampler.reading s.sampler k).encode ∧
      (run delay limit s).sender.sink.out =
        s.sink.out ++ ((Sampler.take s.sampler k).map Reading.encode).flatten ++ part ∧
      ((run delay limit s).result = .finished k → part = []) := by
  have hends : (run delay limit s).result ≠ .endless := by
    rcases h with h | ⟨e, h⟩ <;> rw [h] <;> simp
  obtain ⟨count, hrun⟩ := exists_run_eq_sendMany hends
  rw [hrun] at h ⊢
  rcases sendMany_cases delay s count with
    ⟨t, ht, he⟩ | ⟨n, t, u, reading, e, -, ht, hu, he⟩ <;> rw [he] at h ⊢
  · obtain rfl : count = k := by
      rcases h with h | ⟨e, h⟩ <;> cases h
      omega
    exact ⟨[], List.nil_prefix, by rw [ht.out_eq, List.append_nil], fun _ => rfl⟩
  · obtain rfl : n = k := by
      rcases h with h | ⟨e, h⟩ <;> cases h
      omega
    obtain ⟨part, hpart, hout, -⟩ := Sink.deliver_some hu.deliver_eq
    rw [List.flatten_singleton, hu.reading_eq, ht.sampler_eq] at hpart
    exact ⟨part, hpart, by rw [hout, ht.out_eq], fun h => by cases h⟩

end Sender

end AdcFeed
