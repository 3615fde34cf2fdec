import AdcFeed.Proofs.Sink.Delivered

/-!
Sinks that fail for want of room and for nothing else. Main statement: such a sink takes of a buffer
what it has room for, however its steps split it, and fails exactly if that is not all
(`writeSteps_of_room`, `Willing.of_deliver_some`).
-/

namespace AdcFeed

/-- The step takes at least one byte, or the attempt is to be repeated. -/
def WriteStep.Willing : WriteStep → Prop
  | .accept size => 0 < size
  | .pending => True
  | .fail _ => False

/-- No step of the sink fails, so nothing but its room comes to an end. -/
structure Sink.Willing (s : Sink) : Prop where
  writes : ∀ step ∈ s.writes, step.Willing
  flushes : ∀ e, .fail e ∉ s.flushes

/-! ## Steps -/

/-- Where there is room, a willing step takes no more than there is room for. -/
theorem attempt_of_willing {step : WriteStep} (h : step.Willing) {offered : Nat} (ho : 0 < offered)
    (room : Nat) :
    step.attempt (some room) offered = .retry ∨
      (room = 0 ∧ step.attempt (some room) offered = .fail .full) ∨
      ∃ size, size ≤ min offered room ∧ step.attempt (some room) offered = .took size := by
  cases ha : step.attempt (some room) offered with
  | retry => exact .inl rfl
  | took size => exact .inr (.inr ⟨size, took_le_min ha, rfl⟩)
  | fail e =>
    rcases (attempt_eq_fail_iff ho).1 ha with
      ⟨rfl, -⟩ | ⟨size, rfl, ⟨hroom, rfl⟩ | ⟨-, hsize, -⟩⟩
    · exact absurd h not_false
    · exact .inr (.inl ⟨Option.some_inj.1 hroom, rfl⟩)
    · exact absurd h (by simp [WriteStep.Willing, hsize])

/-- Steps that are willing take of a buffer what there is room for. -/
theorem writeSteps_of_room {steps : List WriteStep} (h : ∀ step ∈ steps, step.Willing) (room : Nat)
    (bs : Bytes) :
    (writeSteps (some room) steps bs).taken = bs.take room ∧
      (writeSteps (some room) steps bs).error = if bs.length ≤ room then none else some .full := by
  induction steps generalizing room bs with
  | nil =>
    by_cases hbs : bs = []
    · subst hbs
      exact ⟨List.take_nil.symm, rfl⟩
    · by_cases hl : bs.length ≤ room
      · rw [writeSteps, if_pos hl, if_pos hl, List.take_of_length_le hl]
        · exact ⟨rfl, rfl⟩
        · exact hbs
      · rw [writeSteps, if_neg hl, if_neg hl]
        · exact ⟨rfl, rfl⟩
        · exact hbs
  | cons step steps ih =>
    obtain ⟨hstep, hsteps⟩ := List.forall_mem_cons.1 h
    by_cases hbs : bs = []
    · subst hbs
      exact ⟨List.take_nil.symm, rfl⟩
    have hpos := List.length_pos_iff.2 hbs
    rcases attempt_of_willing hstep hpos room with ha | ⟨rfl, ha⟩ | ⟨size, hsize, ha⟩
    · rw [writeSteps_cons_of_retry steps hbs ha]
      exact ih hsteps room bs
    · rw [writeSteps_cons_of_fail steps hbs ha, if_neg (by omega)]
      exact ⟨rfl, rfl⟩
    · -- the room that is left is the room for what is left of the buffer
      obtain ⟨htaken, herror⟩ := ih hsteps (room - size) (bs.drop size)
      have hroom : (some room).map (· - size) = some (room - size) := rfl
      rw [writeSteps_cons_of_took steps hbs ha, hroom]
      refine ⟨?_, ?_⟩
      · have hsum : room = size + (room - size) := by omega
        rw [Written.after, htaken]
        conv => rhs; rw [hsum, List.take_add]
      · rw [Written.after, herror, List.length_drop]
        congr 1
        exact propext (by omega)

/-- A write uses up steps from the front. -/
theorem steps_writeSteps (room : Option Nat) (steps : List WriteStep) (bs : Bytes) :
    (writeSteps room steps bs).steps <:+ steps := by
  induction steps generalizing room bs with
  | nil =>
    have hnone : (writeSteps room [] bs).steps = [] := by
      cases bs with
      | nil => rfl
      | cons b bs =>
        cases room with
        | none => rfl
        | some n =>
          simp only [writeSteps]
          split <;> rfl
    exact ⟨[], hnone⟩
  | cons step steps ih =>
    have hsuffix := List.suffix_cons step steps
    by_cases hbs : bs = []
    · subst hbs
      exact List.suffix_refl _
    · cases ha : step.attempt room bs.length with
      | took size =>
        rw [writeSteps_cons_of_took steps hbs ha]
        exact (ih _ _).trans hsuffix
      | retry =>
        rw [writeSteps_cons_of_retry steps hbs ha]
        exact (ih _ _).trans hsuffix
      | fail e =>
        rw [writeSteps_cons_of_fail steps hbs ha]
        exact hsuffix

/-! ## Buffers -/

namespace Sink

variable {s t : Sink}

theorem Willing.write (hs : s.Willing) (bs : Bytes) : (s.write bs).1.Willing where
  writes step hm := hs.writes step ((steps_writeSteps s.room s.writes bs).subset hm)
  flushes := hs.flushes

theorem Willing.flush (hs : s.Willing) : s.flush.2 = none ∧ s.flush.1.Willing := by
  have h := error_flushUntilDone s.flushes hs.flushes
  unfold Sink.flush
  split
  · rename_i steps hf
    rw [hf] at h
    exact ⟨rfl, hs.writes, fun e hm => hs.flushes e (h.2.subset hm)⟩
  · rename_i steps e hf
    rw [hf] at h
    exact absurd h.1 (by simp)

theorem Willing.of_deliver_none (hs : s.Willing) {buffers : List Bytes}
    (h : s.deliver buffers = (t, none)) : t.Willing := by
  induction buffers generalizing s with
  | nil =>
    have hflush := hs.flush.2
    rw [deliver] at h
    rwa [h] at hflush
  | cons bs buffers ih =>
    have hwrite := hs.write bs
    rw [deliver] at h
    split at h
    · cases h
    · rename_i next hw
      rw [hw] at hwrite
      exact ih hwrite h

theorem Passed.willing {deliveries : List (List Bytes)} (h : Passed s deliveries t)
    (hs : s.Willing) : t.Willing := by
  induction h with
  | nil => exact hs
  | cons h _ ih => exact ih (hs.of_deliver_none h)

/-- A buffer is not delivered only if there is no room for all of it, and then the room is used
up. -/
theorem Willing.of_deliver_some (hs : s.Willing) {room : Nat} (hr : s.room = some room) {bs : Bytes}
    {e : IoError} (h : s.deliver [bs] = (t, some e)) :
    e = .full ∧ room < bs.length ∧ t.out = s.out ++ bs.take room := by
  obtain ⟨htaken, herror⟩ := writeSteps_of_room hs.writes room bs
  have hout := out_write s bs
  have hwrite := hs.write bs
  rw [← hr] at htaken herror
  rw [htaken] at hout
  rw [deliver] at h
  split at h
  · rename_i next e' hw
    cases h
    have herror' : some e = if bs.length ≤ room then none else some .full := by
      rw [← herror]
      exact (congrArg Prod.snd hw).symm
    rw [hw] at hout
    by_cases hl : bs.length ≤ room
    · rw [if_pos hl] at herror'
      cases herror'
    · rw [if_neg hl, Option.some_inj] at herror'
      exact ⟨herror', by omega, hout⟩
  · rename_i next hw
    rw [hw] at hwrite
    have hflush := hwrite.flush.1
    rw [deliver] at h
    rw [h] at hflush
    cases hflush

end Sink

end AdcFeed
