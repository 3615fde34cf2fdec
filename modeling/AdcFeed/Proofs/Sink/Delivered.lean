import AdcFeed.Proofs.Sink.Attempts

/-!
What delivering buffers adds to the bytes that a sink took and to its flushes. Main statements: a
delivery that succeeds adds its buffers and one flush behind them, one that fails adds a part of its
buffers and no flush (`deliver_none`, `deliver_some`); deliveries one after the other add up
(`Passed.out_eq`, `Passed.flushedAt_eq`); and a sink of which no step fails takes everything
(`Reliable.deliver`).
-/

namespace AdcFeed

/-! ## A single buffer -/

/-- A part of a buffer is taken, and all of it unless the write fails. -/
theorem taken_writeSteps (room : Option Nat) (steps : List WriteStep) (bs : Bytes) :
    (writeSteps room steps bs).taken <+: bs ∧
      ((writeSteps room steps bs).error = none → (writeSteps room steps bs).taken = bs) := by
  induction room, steps, bs using writeSteps.induct with
  | case1 room steps =>
    rw [writeSteps]
    exact ⟨List.nil_prefix, fun _ => rfl⟩
  | case2 bs ho =>
    rw [writeSteps]
    · exact ⟨List.prefix_refl bs, fun _ => rfl⟩
    · exact ho
  | case3 bs ho n hn =>
    rw [writeSteps, if_pos hn]
    · exact ⟨List.prefix_refl bs, fun _ => rfl⟩
    · exact ho
  | case4 bs ho n hn =>
    rw [writeSteps, if_neg hn]
    · exact ⟨List.take_prefix n bs, fun h => by simp at h⟩
    · exact ho
  | case5 room step steps bs ho size h ih =>
    rw [writeSteps_cons_of_took steps ho h]
    refine ⟨?_, fun he => ?_⟩
    · conv => rhs; rw [← List.take_append_drop size bs]
      exact (List.prefix_append_right_inj _).2 ih.1
    · rw [Written.after, ih.2 he, List.take_append_drop]
  | case6 room step steps bs ho h ih => rwa [writeSteps_cons_of_retry steps ho h]
  | case7 room step steps bs ho e h =>
    rw [writeSteps_cons_of_fail steps ho h]
    exact ⟨List.nil_prefix, fun he => by simp at he⟩

namespace Sink

variable {s t u : Sink}

/-! ## One delivery -/

/-- A delivery that succeeds adds its buffers, and a flush behind the last of them. -/
theorem deliver_none {buffers : List Bytes} (h : s.deliver buffers = (t, none)) :
    t.out = s.out ++ buffers.flatten ∧ t.flushedAt = s.flushedAt ++ [t.out.length] := by
  induction buffers generalizing s with
  | nil =>
    rw [deliver] at h
    have hout := out_flush s
    have hat : s.flush.1.flushedAt = s.flushedAt ++ [s.out.length] := flushedAt_flush (by rw [h])
    rw [h] at hout hat
    exact ⟨by simp [hout], by rw [hout, hat]⟩
  | cons bs buffers ih =>
    rw [deliver] at h
    split at h
    · cases h
    · rename_i next hw
      have htaken := (taken_writeSteps s.room s.writes bs).2 (congrArg Prod.snd hw)
      have hout := out_write s bs
      have hat := flushedAt_write s bs
      rw [hw] at hout hat
      obtain ⟨h1, h2⟩ := ih h
      refine ⟨?_, ?_⟩
      · rw [h1, hout, htaken, List.flatten_cons, List.append_assoc]
      · rw [h2, hat]

/-- A delivery that fails adds a part of its buffers, and no flush. -/
theorem deliver_some {buffers : List Bytes} {e : IoError} (h : s.deliver buffers = (t, some e)) :
    ∃ part, part <+: buffers.flatten ∧ t.out = s.out ++ part ∧ t.flushedAt = s.flushedAt := by
  induction buffers generalizing s with
  | nil =>
    rw [deliver] at h
    have hout := out_flush s
    rw [h] at hout
    refine ⟨[], List.nil_prefix, by rw [hout, List.append_nil], ?_⟩
    rw [flush] at h
    split at h
    · cases h
    · cases h
      rfl
  | cons bs buffers ih =>
    have hout := out_write s bs
    have hat := flushedAt_write s bs
    rw [deliver] at h
    split at h
    · rename_i hw
      cases h
      rw [hw] at hout hat
      refine ⟨_, ?_, hout, hat⟩
      exact (taken_writeSteps s.room s.writes bs).1.trans (List.prefix_append _ _)
    · rename_i next hw
      have htaken := (taken_writeSteps s.room s.writes bs).2 (congrArg Prod.snd hw)
      rw [hw] at hout hat
      obtain ⟨part, hpart, h1, h2⟩ := ih h
      refine ⟨bs ++ part, ?_, ?_, ?_⟩
      · exact (List.prefix_append_right_inj bs).2 hpart
      · rw [h1, hout, htaken, List.append_assoc]
      · rw [h2, hat]

end Sink

/-! ## Deliveries one after the other -/

/-- How many bytes have been written when each of the pieces has been, where so many had been at the
start. -/
def sizesAfter (size : Nat) (pieces : List Bytes) : List Nat :=
  (List.range pieces.length).map fun i => size + (pieces.take (i + 1)).flatten.length

theorem sizesAfter_nil (size : Nat) : sizesAfter size [] = [] := rfl

theorem sizesAfter_cons (size : Nat) (piece : Bytes) (pieces : List Bytes) :
    sizesAfter size (piece :: pieces) =
      (size + piece.length) :: sizesAfter (size + piece.length) pieces := by
  simp [sizesAfter, List.range_succ_eq_map, Nat.add_assoc, Function.comp_def]

namespace Sink

variable {s t u : Sink}

/-- Every one of the deliveries succeeds, and they lead from one sink to the other. -/
inductive Passed : Sink → List (List Bytes) → Sink → Prop
  | nil (s : Sink) : Passed s [] s
  | cons {s t u : Sink} {buffers : List Bytes} {later : List (List Bytes)}
      (h : s.deliver buffers = (t, none)) (ht : Passed t later u) : Passed s (buffers :: later) u

variable {deliveries : List (List Bytes)}

theorem Passed.out_eq (h : Passed s deliveries u) :
    u.out = s.out ++ (deliveries.map List.flatten).flatten := by
  induction h with
  | nil => simp
  | cons h _ ih =>
    rw [ih, (deliver_none h).1, List.map_cons, List.flatten_cons, List.append_assoc]

theorem Passed.flushedAt_eq (h : Passed s deliveries u) :
    u.flushedAt = s.flushedAt ++ sizesAfter s.out.length (deliveries.map List.flatten) := by
  induction h with
  | nil => simp [sizesAfter_nil]
  | cons h _ ih =>
    obtain ⟨hout, hat⟩ := deliver_none h
    rw [ih, hat, List.map_cons, sizesAfter_cons, hout, List.length_append, List.append_assoc]
    rfl

theorem Passed.attempts (h : Passed s deliveries u) : s.view.Attempts none u.view := by
  induction h with
  | nil => exact .done _
  | @cons s t u buffers later h _ ih =>
    have := attempts_deliver s buffers
    rw [h] at this
    exact this.trans ih

/-! ## Sinks that never fail -/

/-- No step of the sink ever fails for good, and there is no limit to what it takes. -/
structure Reliable (s : Sink) : Prop where
  room : s.room = none
  writes : ∀ step ∈ s.writes, ∀ size, 0 < size → ∀ e, step.attempt none size ≠ .fail e
  flushes : ∀ e, .fail e ∉ s.flushes

end Sink

theorem error_writeSteps (steps : List WriteStep) (bs : Bytes)
    (h : ∀ step ∈ steps, ∀ size, 0 < size → ∀ e, step.attempt none size ≠ .fail e) :
    (writeSteps none steps bs).error = none ∧ (writeSteps none steps bs).steps <:+ steps := by
  induction steps generalizing bs with
  | nil =>
    cases bs with
    | nil => exact ⟨rfl, List.suffix_refl _⟩
    | cons b bs => exact ⟨rfl, List.suffix_refl _⟩
  | cons step steps ih =>
    have hsteps : ∀ s ∈ steps, ∀ size, 0 < size → ∀ e, s.attempt none size ≠ .fail e :=
      fun s hs => h s (List.mem_cons_of_mem _ hs)
    have hsuffix := List.suffix_cons step steps
    by_cases ho : bs = []
    · subst ho
      exact ⟨rfl, List.suffix_refl _⟩
    · cases ha : step.attempt none bs.length with
      | took size =>
        rw [writeSteps_cons_of_took steps ho ha]
        exact ⟨(ih _ hsteps).1, (ih _ hsteps).2.trans hsuffix⟩
      | retry =>
        rw [writeSteps_cons_of_retry steps ho ha]
        exact ⟨(ih _ hsteps).1, (ih _ hsteps).2.trans hsuffix⟩
      | fail e =>
        exact absurd ha (h step List.mem_cons_self _ (List.length_pos_iff.2 ho) e)

theorem error_flushUntilDone (steps : List FlushStep) (h : ∀ e, .fail e ∉ steps) :
    (flushUntilDone steps).2 = none ∧ (flushUntilDone steps).1 <:+ steps := by
  induction steps with
  | nil => exact ⟨rfl, List.suffix_refl _⟩
  | cons step steps ih =>
    have hsteps : ∀ e, FlushStep.fail e ∉ steps := fun e hm => h e (List.mem_cons_of_mem _ hm)
    cases step with
    | ok => exact ⟨rfl, List.suffix_cons _ _⟩
    | pending => exact ⟨(ih hsteps).1, (ih hsteps).2.trans (List.suffix_cons _ _)⟩
    | fail e => exact absurd List.mem_cons_self (h e)

namespace Sink

variable {s : Sink}

theorem Reliable.write (hs : s.Reliable) (bs : Bytes) :
    (s.write bs).2 = none ∧ (s.write bs).1.Reliable := by
  have h := error_writeSteps s.writes bs hs.writes
  rw [← hs.room] at h
  exact ⟨h.1, by simp [Sink.write, hs.room], fun step hm => hs.writes step (h.2.subset hm),
    hs.flushes⟩

theorem Reliable.flush (hs : s.Reliable) : s.flush.2 = none ∧ s.flush.1.Reliable := by
  have h := error_flushUntilDone s.flushes hs.flushes
  unfold Sink.flush
  split
  · rename_i steps hf
    rw [hf] at h
    exact ⟨rfl, hs.room, hs.writes, fun e hm => hs.flushes e (h.2.subset hm)⟩
  · rename_i steps e hf
    rw [hf] at h
    exact absurd h.1 (by simp)

theorem Reliable.deliver (hs : s.Reliable) (buffers : List Bytes) :
    (s.deliver buffers).2 = none ∧ (s.deliver buffers).1.Reliable := by
  induction buffers generalizing s with
  | nil => exact hs.flush
  | cons bs buffers ih =>
    obtain ⟨he, hr⟩ := hs.write bs
    unfold Sink.deliver
    split
    · rename_i next e hw
      rw [hw] at he
      exact absurd he (by simp)
    · rename_i next hw
      rw [hw] at hr
      exact ih hr

theorem Passed.reliable {t : Sink} {deliveries : List (List Bytes)} (h : Passed s deliveries t)
    (hs : s.Reliable) : t.Reliable := by
  induction h with
  | nil => exact hs
  | @cons s _ _ buffers _ h _ ih =>
    have := (hs.deliver buffers).2
    rw [h] at this
    exact ih this

end Sink

end AdcFeed
