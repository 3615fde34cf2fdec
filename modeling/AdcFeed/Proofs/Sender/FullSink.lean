import AdcFeed.Proofs.Sender.Patience
import AdcFeed.Proofs.Sink.Room
import Mathlib.Order.Bounds.Defs

/-!
Runs without a limit into a sink that fails for want of room and for nothing else. Main statement:
such a run comes to an end when the room does, whatever the readings and however the sink splits
their lines, and has sent as many readings as there is room for (`run_fills_room`).
-/

namespace AdcFeed

variable {σ : Type} [Sampler σ]

/-! ## The lines of a sampler -/

/-- The lines of the next `n` readings, one after the other. -/
def Sampler.lines (s : σ) (n : Nat) : Bytes := ((take s n).map Reading.encode).flatten

theorem Sampler.lines_add (s : σ) (m n : Nat) :
    lines s (m + n) = lines s m ++ lines (after s m) n := by
  rw [lines, take_add, List.map_append, List.flatten_append]
  rfl

theorem Sampler.lines_succ (s : σ) (n : Nat) :
    lines s (n + 1) = lines s n ++ (reading s n).encode := by
  rw [lines_add]
  simp [lines, take, reading]

theorem Sampler.length_lines_mono (s : σ) {m n : Nat} (h : m ≤ n) :
    (lines s m).length ≤ (lines s n).length := by
  obtain ⟨k, rfl⟩ := Nat.exists_eq_add_of_le h
  rw [lines_add, List.length_append]
  exact Nat.le_add_right _ _

namespace Sender

variable {delay n : Nat} {s t u : Sender σ}

/-- A reading for which there is no room is the first one that cannot be sent: the readings sent
before have left just the room that a part of its line takes. -/
theorem Sends.room_of_step {room : Nat} {reading : Reading} {e : IoError} (h : Sends delay s n t)
    (hu : Step delay t reading (some e) u) (hs : s.sink.Willing) (hr : s.sink.room = some room) :
    e = .full ∧ (Sampler.lines s.sampler n).length ≤ room ∧
      room < (Sampler.lines s.sampler (n + 1)).length ∧
      u.sink.out = s.sink.out ++ (Sampler.lines s.sampler (n + 1)).take room := by
  obtain ⟨left, hleft, hsum⟩ := h.passed.attempts.spent.room_some room hr
  have hout : t.sink.out = s.sink.out ++ Sampler.lines s.sampler n := h.out_eq
  have hreading : reading = Sampler.reading s.sampler n := by
    rw [hu.reading_eq, h.sampler_eq, Sampler.reading]
  obtain ⟨rfl, hlong, hout'⟩ := (h.passed.willing hs).of_deliver_some hleft hu.deliver_eq
  have hroom : room = (Sampler.lines s.sampler n).length + left := by
    simp only [Sink.view, hout, List.length_append] at hsum
    omega
  rw [hreading] at hlong hout'
  rw [Sampler.lines_succ, hroom, List.length_append, List.take_length_add_append]
  refine ⟨rfl, Nat.le_add_right _ _, by omega, ?_⟩
  rw [hout', hout, List.append_assoc]

/-- **Readings go on until the room is used up, and to its last byte.** Without a limit, a run into a
sink that has so much room and fails for no other reason ends with a broken pipe. It has sent the
most readings whose lines there is room for, at most one for seven bytes, each with its flush; and
the sink has taken, of the lines of all readings, just what it had room for. -/
theorem run_fills_room (sampler : σ) (delay : Nat) {sink : Sink} {room : Nat} (hs : sink.Willing)
    (hr : sink.room = some room) :
    let run := Sender.run delay none { sampler, sink }
    ∃ k e, run.result = .failed k e ∧ e.kind = .brokenPipe ∧
      IsGreatest {n | (Sampler.lines sampler n).length ≤ room} k ∧ k ≤ room / 7 ∧
      (∀ n, k < n → room < (Sampler.lines sampler n).length ∧
        run.sender.sink.out = sink.out ++ (Sampler.lines sampler n).take room) ∧
      run.sender.sink.flushedAt.length = sink.flushedAt.length + k := by
  intro run
  rcases run_cases delay none { sampler, sink } with
    ⟨n, t, hlimit, -, -⟩ | ⟨k, t, u, reading, e, -, ht, hu, he⟩ | ⟨-, -, hall⟩
  · cases hlimit
  · obtain ⟨rfl, hfits, hlong, hout⟩ := ht.room_of_step hu hs hr
    have hmost := ht.le_of_room hr
    obtain ⟨-, -, -, hat⟩ := Sink.deliver_some hu.deliver_eq
    simp only at hfits hlong hout
    have hover : ∀ n, k < n → room < (Sampler.lines sampler n).length := by
      intro n hn
      exact Nat.lt_of_lt_of_le hlong (Sampler.length_lines_mono sampler hn)
    simp only [run, he, Nat.zero_add]
    refine ⟨k, .full, rfl, rfl, ⟨hfits, ?_⟩, by omega, ?_, ?_⟩
    · intro n hn
      by_contra hlt
      exact absurd hn (Nat.not_le.2 (hover n (by omega)))
    · intro n hn
      refine ⟨hover n hn, ?_⟩
      -- more readings only add bytes behind those that there is room for
      obtain ⟨more, rfl⟩ := Nat.exists_eq_add_of_le (Nat.succ_le_of_lt hn)
      rw [hout, Sampler.lines_add sampler (k + 1) more,
        List.take_append_of_le_length (Nat.le_of_lt hlong)]
    · rw [hat, ht.passed.flushedAt_eq]
      simp [sizesAfter, Sampler.length_take]
  · -- a sink with room for so many bytes cannot take one more reading than that
    obtain ⟨t, ht⟩ := hall (room + 1)
    have := ht.le_of_room hr
    omega

/-- A reading of one, and readings of another value from then on. -/
def exactSampler : Replay := ⟨⟨1⟩, [⟨-22⟩]⟩

/-- Room for the lines of the first two readings and nothing more, taken in pieces. -/
def exactSink : Sink :=
  { writes := [.accept 3, .pending, .accept 9, .pending, .accept 1],
    flushes := [.pending, .ok, .pending], room := some 16 }

theorem run_fills_room_exactSink :
    exactSink.Willing ∧ exactSink.room = some 16 ∧
      ∃ e, (Sender.run 5 none { sampler := exactSampler, sink := exactSink }).result =
        .failed 2 e ∧ e.kind = .brokenPipe := by
  have hs : exactSink.Willing := ⟨by simp [exactSink, WriteStep.Willing], by simp [exactSink]⟩
  obtain ⟨k, e, hresult, hkind, ⟨hfits, hmost⟩, -⟩ := run_fills_room exactSampler 5 hs rfl
  have htwo : 2 ≤ k := hmost (show (Sampler.lines exactSampler 2).length ≤ 16 by decide +kernel)
  have hthree : 16 < (Sampler.lines exactSampler 3).length := by decide +kernel
  have hk : k < 3 := by
    by_contra hge
    have hmono := Sampler.length_lines_mono exactSampler (Nat.not_lt.1 hge)
    exact absurd (Nat.le_trans hmono hfits) (Nat.not_le.2 hthree)
  obtain rfl : k = 2 := by omega
  exact ⟨hs, rfl, e, hresult, hkind⟩

end Sender

end AdcFeed
