import AdcFeed.Sink

/-!
A sink one attempt at a time. `SinkView.Attempts` is any number of attempts to write or to flush, up
to the first that fails for good; `Writing` is those that a single buffer takes, each offered what
is left of it, and `Flushing` those that a single flush takes. Main statement: writing a whole
buffer, flushing, and delivering buffers are attempts of this kind, and the failure they end with is
the one that was met (`writing_write`, `flushing_flush`, `attempts_deliver`).
-/

namespace AdcFeed

/-- A sink as it shows from outside: the steps still to come, the room left, the bytes taken, and
how many of them there were at each flush. -/
structure SinkView where
  writes : List WriteStep
  flushes : List FlushStep
  room : Option Nat
  out : Bytes
  flushedAt : List Nat

/-- The sink from outside. -/
def Sink.view (sink : Sink) : SinkView :=
  ⟨sink.writes, sink.flushes, sink.room, sink.out, sink.flushedAt⟩

/-- The bytes that an attempt took of those it was offered. -/
def Attempt.taken (offered : Bytes) : Attempt → Bytes
  | .took size => offered.take size
  | _ => []

namespace SinkView

/-- What comes of an attempt to write. The next step answers it; beyond the last one all that fits
is taken. -/
def writeAnswer (v : SinkView) (offered : Bytes) : Attempt :=
  (v.writes.head?.getD (.accept offered.length)).attempt v.room offered.length

/-- The sink after an attempt to write. -/
def afterWrite (v : SinkView) (offered : Bytes) : SinkView :=
  let taken := (v.writeAnswer offered).taken offered
  { v with
    writes := v.writes.tail
    room := v.room.map (· - taken.length)
    out := v.out ++ taken }

/-- What comes of an attempt to flush. The next step answers it; beyond the last one it succeeds. -/
def flushAnswer (v : SinkView) : FlushStep := v.flushes.head?.getD .ok

/-- The sink after an attempt to flush. -/
def afterFlush (v : SinkView) : SinkView :=
  { v with
    flushes := v.flushes.tail
    flushedAt := if v.flushAnswer = .ok then v.flushedAt ++ [v.out.length] else v.flushedAt }

/-- Attempts one after the other. Either none of them failed for good, or the last one did, with the
`error` given, and was the first to. -/
inductive Attempts : SinkView → Option IoError → SinkView → Prop
  | done (v : SinkView) : Attempts v none v
  | write {v v' : SinkView} {error : Option IoError} (offered : Bytes) (ho : offered ≠ [])
      (ha : ∀ e, v.writeAnswer offered ≠ .fail e)
      (later : Attempts (v.afterWrite offered) error v') : Attempts v error v'
  | writeFailed {v : SinkView} {e : IoError} (offered : Bytes) (ho : offered ≠ [])
      (ha : v.writeAnswer offered = .fail e) : Attempts v (some e) (v.afterWrite offered)
  | flush {v v' : SinkView} {error : Option IoError} (ha : ∀ e, v.flushAnswer ≠ .fail e)
      (later : Attempts v.afterFlush error v') : Attempts v error v'
  | flushFailed {v : SinkView} {e : IoError} (ha : v.flushAnswer = .fail e) :
      Attempts v (some e) v.afterFlush

/-- Attempts at one buffer, each offered what is left of it, until nothing is left or one fails for
good. -/
inductive Writing : SinkView → Bytes → Option IoError → SinkView → Prop
  | done (v : SinkView) : Writing v [] none v
  | more {v v' : SinkView} {bs : Bytes} {error : Option IoError} (ho : bs ≠ [])
      (ha : ∀ e, v.writeAnswer bs ≠ .fail e)
      (later : Writing (v.afterWrite bs) (bs.drop ((v.writeAnswer bs).taken bs).length) error v') :
      Writing v bs error v'
  | failed {v : SinkView} {bs : Bytes} {e : IoError} (ho : bs ≠ [])
      (ha : v.writeAnswer bs = .fail e) : Writing v bs (some e) (v.afterWrite bs)

/-- Attempts to flush, until one succeeds or fails for good. -/
inductive Flushing : SinkView → Option IoError → SinkView → Prop
  | done {v : SinkView} (ha : v.flushAnswer = .ok) : Flushing v none v.afterFlush
  | more {v v' : SinkView} {error : Option IoError} (ha : v.flushAnswer = .pending)
      (later : Flushing v.afterFlush error v') : Flushing v error v'
  | failed {v : SinkView} {e : IoError} (ha : v.flushAnswer = .fail e) :
      Flushing v (some e) v.afterFlush

theorem Attempts.trans {u v w : SinkView} {error : Option IoError} (h : Attempts u none v)
    (hw : Attempts v error w) : Attempts u error w := by
  generalize hn : (none : Option IoError) = first at h
  induction h with
  | done => exact hw
  | write offered ho ha _ ih => exact .write offered ho ha (ih hw hn)
  | writeFailed => cases hn
  | flush ha _ ih => exact .flush ha (ih hw hn)
  | flushFailed => cases hn

theorem Writing.attempts {v v' : SinkView} {bs : Bytes} {error : Option IoError}
    (h : Writing v bs error v') : Attempts v error v' := by
  induction h with
  | done v => exact .done v
  | more ho ha _ ih => exact .write _ ho ha ih
  | failed ho ha => exact .writeFailed _ ho ha

theorem Flushing.attempts {v v' : SinkView} {error : Option IoError} (h : Flushing v error v') :
    Attempts v error v' := by
  induction h with
  | done ha => exact .flush (by simp [ha]) (.done _)
  | more ha _ ih => exact .flush (by simp [ha]) ih
  | failed ha => exact .flushFailed ha

/-- The view after a buffer was written as far as `w` says. -/
def afterWriting (v : SinkView) (w : Written) : SinkView :=
  { v with
    writes := w.steps
    room := v.room.map (· - w.taken.length)
    out := v.out ++ w.taken }

end SinkView

/-! ## What a single step answers -/

theorem getD_pos {room : Option Nat} {size : Nat} (h : 0 < size) (hr : room ≠ some 0) :
    0 < room.getD size := by
  cases room with
  | none => exact h
  | some n =>
    have : n ≠ 0 := fun e => hr (e ▸ rfl)
    simp only [Option.getD_some]
    omega

/-- Offered to a step that takes it all, a buffer is taken as far as there is room. -/
theorem attempt_accept_self (room : Option Nat) {size : Nat} (h : 0 < size) :
    (WriteStep.accept size).attempt room size =
      if room = some 0 then .fail .full else .took (min size (room.getD size)) := by
  simp only [WriteStep.attempt]
  by_cases hr : room = some 0
  · rw [if_pos hr, if_pos hr]
  · rw [if_neg hr, if_neg hr]
    have hroom := getD_pos h hr
    have hpos : 0 < min size (room.getD size) := by omega
    obtain ⟨k, hk⟩ := Nat.exists_eq_succ_of_ne_zero (Nat.ne_of_gt hpos)
    have hmin : min size (min size (room.getD size)) = k + 1 := by omega
    rw [hmin, hk]

/-- No more is taken than was offered and than there is room for. -/
theorem took_le_min {step : WriteStep} {room : Option Nat} {offered size : Nat}
    (h : step.attempt room offered = .took size) : size ≤ min offered (room.getD offered) := by
  cases step with
  | pending => simp [WriteStep.attempt] at h
  | fail e =>
    simp only [WriteStep.attempt] at h
    split at h <;> cases h
  | accept most =>
    simp only [WriteStep.attempt] at h
    split at h
    · cases h
    · split at h
      · cases h
      · cases h
        omega

theorem took_le {step : WriteStep} {room : Option Nat} {offered size : Nat}
    (h : step.attempt room offered = .took size) : size ≤ offered :=
  Nat.le_trans (took_le_min h) (Nat.min_le_left _ _)

/-- An attempt to write fails for good if its step does, unless it was interrupted, or if there is
no room, or if nothing is taken. -/
theorem attempt_eq_fail_iff {step : WriteStep} {room : Option Nat} {offered : Nat} {e : IoError}
    (ho : 0 < offered) :
    step.attempt room offered = .fail e ↔
      (step = .fail e ∧ e.kind ≠ .interrupted) ∨
        ∃ size, step = .accept size ∧
          ((room = some 0 ∧ e = .full) ∨ (room ≠ some 0 ∧ size = 0 ∧ e = .nothingTaken)) := by
  cases step with
  | pending => simp [WriteStep.attempt]
  | fail e' =>
    by_cases hi : e'.kind = .interrupted
    · simp only [WriteStep.attempt, if_pos hi]
      constructor
      · intro h
        cases h
      · rintro (⟨h, hne⟩ | ⟨size, h, -⟩)
        · cases h
          exact absurd hi hne
        · cases h
    · simp only [WriteStep.attempt, if_neg hi]
      constructor
      · intro h
        cases h
        exact .inl ⟨rfl, hi⟩
      · rintro (⟨h, -⟩ | ⟨size, h, -⟩) <;> cases h
        rfl
  | accept size =>
    by_cases hr : room = some 0
    · simp [WriteStep.attempt, hr, eq_comm]
    · have hroom := getD_pos ho hr
      simp only [WriteStep.attempt, if_neg hr]
      split
      · have hsize : size = 0 := by omega
        simp [hr, hsize, eq_comm]
      · have hsize : size ≠ 0 := by omega
        simp [hr, hsize]

/-! ## Writing a whole buffer -/

namespace SinkView

variable {v v' : SinkView} {bs : Bytes}

theorem afterWrite_of_took {size : Nat} (h : v.writeAnswer bs = .took size) :
    v.afterWrite bs =
      { v with
        writes := v.writes.tail
        room := v.room.map (· - size)
        out := v.out ++ bs.take size } := by
  simp only [afterWrite, h, Attempt.taken, List.length_take_of_le (took_le h)]

theorem afterWrite_of_retry (h : v.writeAnswer bs = .retry) :
    v.afterWrite bs = { v with writes := v.writes.tail } := by
  simp [afterWrite, h, Attempt.taken]

theorem afterWrite_of_fail {e : IoError} (h : v.writeAnswer bs = .fail e) :
    v.afterWrite bs = { v with writes := v.writes.tail } := by
  simp [afterWrite, h, Attempt.taken]

/-- Beyond the last step a buffer is taken as far as there is room. -/
theorem writeAnswer_of_nil (hw : v.writes = []) (ho : bs ≠ []) :
    v.writeAnswer bs =
      if v.room = some 0 then .fail .full else .took (min bs.length (v.room.getD bs.length)) := by
  rw [writeAnswer, hw]
  exact attempt_accept_self v.room (List.length_pos_iff.2 ho)

theorem Writing.of_took {error : Option IoError} {size : Nat} (ho : bs ≠ [])
    (ha : v.writeAnswer bs = .took size)
    (later : Writing (v.afterWrite bs) (bs.drop size) error v') : Writing v bs error v' := by
  refine .more ho (by simp [ha]) ?_
  rwa [ha, Attempt.taken, List.length_take_of_le (took_le ha)]

theorem Writing.of_retry {error : Option IoError} (ho : bs ≠ []) (ha : v.writeAnswer bs = .retry)
    (later : Writing (v.afterWrite bs) bs error v') : Writing v bs error v' := by
  refine .more ho (by simp [ha]) ?_
  rwa [ha]

theorem writeAnswer_of_cons {step : WriteStep} {steps : List WriteStep}
    (hw : v.writes = step :: steps) : v.writeAnswer bs = step.attempt v.room bs.length := by
  rw [writeAnswer, hw]
  rfl

end SinkView

open SinkView

theorem writeSteps_cons_of_took {room : Option Nat} {step : WriteStep} {bs : Bytes} {size : Nat}
    (steps : List WriteStep) (ho : bs ≠ []) (h : step.attempt room bs.length = .took size) :
    writeSteps room (step :: steps) bs =
      (writeSteps (room.map (· - size)) steps (bs.drop size)).after (bs.take size) := by
  rw [writeSteps, h]
  exact ho

theorem writeSteps_cons_of_retry {room : Option Nat} {step : WriteStep} {bs : Bytes}
    (steps : List WriteStep) (ho : bs ≠ []) (h : step.attempt room bs.length = .retry) :
    writeSteps room (step :: steps) bs = writeSteps room steps bs := by
  rw [writeSteps, h]
  exact ho

theorem writeSteps_cons_of_fail {room : Option Nat} {step : WriteStep} {bs : Bytes} {e : IoError}
    (steps : List WriteStep) (ho : bs ≠ []) (h : step.attempt room bs.length = .fail e) :
    writeSteps room (step :: steps) bs = { steps, error := some e } := by
  rw [writeSteps, h]
  exact ho

/-- Beyond the last step, one attempt takes a buffer that fits. -/
theorem writing_of_fits {v : SinkView} {bs : Bytes} (hw : v.writes = []) (ho : bs ≠ [])
    (hr : ∀ n, v.room = some n → bs.length ≤ n) :
    v.Writing bs none (v.afterWriting { taken := bs, steps := [] }) := by
  have hpos := List.length_pos_iff.2 ho
  have ha : v.writeAnswer bs = .took bs.length := by
    rw [writeAnswer_of_nil hw ho]
    cases hroom : v.room with
    | none => simp
    | some n =>
      have := hr n hroom
      rw [if_neg (by simp; omega), Option.getD_some, Nat.min_eq_left this]
  have hv : v.afterWriting { taken := bs, steps := [] } = v.afterWrite bs := by
    rw [afterWrite_of_took ha]
    simp [afterWriting, hw]
  rw [hv]
  refine .of_took ho ha ?_
  rw [List.drop_length]
  exact .done _

/-- Beyond the last step, a buffer that does not fit uses up the room, and the attempt at what is
left of it meets a full sink. -/
theorem writing_of_not_fits {v : SinkView} {bs : Bytes} {n : Nat} (hw : v.writes = [])
    (hr : v.room = some n) (hn : n < bs.length) :
    v.Writing bs (some .full)
      (v.afterWriting { taken := bs.take n, steps := [], error := some .full }) := by
  have ho : bs ≠ [] := List.length_pos_iff.1 (by omega)
  have ha := writeAnswer_of_nil hw ho
  cases n with
  | zero =>
    rw [hr, if_pos rfl] at ha
    have hv : v.afterWriting { taken := bs.take 0, steps := [], error := some .full } =
        v.afterWrite bs := by
      rw [afterWrite_of_fail ha]
      simp [afterWriting, hw, hr]
    rw [hv]
    exact .failed ho ha
  | succ n =>
    rw [hr, if_neg (by simp), Option.getD_some, Nat.min_eq_right (by omega)] at ha
    have hrest : bs.drop (n + 1) ≠ [] := by
      rw [Ne, List.drop_eq_nil_iff]
      omega
    have ha' : (v.afterWrite bs).writeAnswer (bs.drop (n + 1)) = .fail .full := by
      rw [afterWrite_of_took ha, writeAnswer_of_nil (by simp [hw]) hrest, if_pos]
      simp [hr]
    have hv : v.afterWriting { taken := bs.take (n + 1), steps := [], error := some .full } =
        (v.afterWrite bs).afterWrite (bs.drop (n + 1)) := by
      rw [afterWrite_of_fail ha', afterWrite_of_took ha]
      simp [afterWriting, hw, hr]
      omega
    rw [hv]
    exact .of_took ho ha (.failed hrest ha')

/-- However the steps split a buffer, writing it is one attempt after the other at what is left of
it, until all is taken or an attempt fails for good. -/
theorem writing_writeSteps (room : Option Nat) (steps : List WriteStep) (bs : Bytes)
    (v : SinkView) (hw : v.writes = steps) (hr : v.room = room) :
    v.Writing bs (writeSteps room steps bs).error (v.afterWriting (writeSteps room steps bs)) := by
  induction room, steps, bs using writeSteps.induct generalizing v with
  | case1 room steps =>
    have hv : v.afterWriting { steps } = v := by
      cases v
      simp_all [afterWriting]
    rw [writeSteps, hv]
    exact .done v
  | case2 bs ho =>
    rw [writeSteps]
    · exact writing_of_fits hw ho (by simp [hr])
    · exact ho
  | case3 bs ho n hn =>
    rw [writeSteps, if_pos hn]
    · refine writing_of_fits hw ho fun m hm => ?_
      rw [hr, Option.some.injEq] at hm
      omega
    · exact ho
  | case4 bs ho n hn =>
    rw [writeSteps, if_neg hn]
    · exact writing_of_not_fits hw hr (by omega)
    · exact ho
  | case5 room step steps bs ho size h ih =>
    have ha : v.writeAnswer bs = .took size := by rw [writeAnswer_of_cons hw, hr, h]
    have hlater := ih (v.afterWrite bs) (by simp [afterWrite, hw])
      (by simp [afterWrite_of_took ha, hr])
    rw [writeSteps_cons_of_took steps ho h]
    -- what was taken by the first attempt stands in front of what the later ones take
    have hv : ∀ w : Written, v.afterWriting (w.after (bs.take size)) =
        (v.afterWrite bs).afterWriting w := by
      intro w
      rw [afterWrite_of_took ha]
      simp [afterWriting, Written.after, List.length_take_of_le (took_le h), Function.comp_def,
        Nat.sub_sub]
    rw [hv]
    exact .of_took ho ha hlater
  | case6 room step steps bs ho h ih =>
    have ha : v.writeAnswer bs = .retry := by rw [writeAnswer_of_cons hw, hr, h]
    have hlater := ih (v.afterWrite bs) (by simp [afterWrite, hw])
      (by simp [afterWrite_of_retry ha, hr])
    rw [writeSteps_cons_of_retry steps ho h]
    refine .of_retry ho ha ?_
    rw [afterWrite_of_retry ha] at hlater ⊢
    exact hlater
  | case7 room step steps bs ho e h =>
    have ha : v.writeAnswer bs = .fail e := by rw [writeAnswer_of_cons hw, hr, h]
    have hv : v.afterWriting { steps, error := some e } = v.afterWrite bs := by
      rw [afterWrite_of_fail ha]
      cases hroom : v.room <;> simp [afterWriting, hw, hroom]
    rw [writeSteps_cons_of_fail steps ho h, hv]
    exact .failed ho ha

/-! ## Flushing -/

theorem SinkView.afterFlush_of_cons {v : SinkView} {step : FlushStep} {steps : List FlushStep}
    (hf : v.flushes = step :: steps) :
    v.afterFlush =
      { v with
        flushes := steps
        flushedAt := if step = .ok then v.flushedAt ++ [v.out.length] else v.flushedAt } := by
  simp [afterFlush, flushAnswer, hf]

theorem flushing_flushUntilDone (steps : List FlushStep) (v : SinkView) (hf : v.flushes = steps) :
    v.Flushing (flushUntilDone steps).2
      { v with
        flushes := (flushUntilDone steps).1
        flushedAt :=
          if (flushUntilDone steps).2 = none then v.flushedAt ++ [v.out.length]
          else v.flushedAt } := by
  induction steps generalizing v with
  | nil =>
    have ha : v.flushAnswer = .ok := by simp [flushAnswer, hf]
    have hv : v.afterFlush =
        { v with flushes := [], flushedAt := v.flushedAt ++ [v.out.length] } := by
      simp [afterFlush, ha, hf]
    rw [flushUntilDone, if_pos rfl, ← hv]
    exact .done ha
  | cons step steps ih =>
    have ha : v.flushAnswer = step := by simp [flushAnswer, hf]
    have hv := afterFlush_of_cons hf
    cases step with
    | ok =>
      rw [if_pos rfl] at hv
      rw [flushUntilDone, if_pos rfl, ← hv]
      exact .done ha
    | pending =>
      rw [if_neg (by simp)] at hv
      have hlater := ih v.afterFlush (by rw [hv])
      refine .more ha ?_
      rw [hv] at hlater ⊢
      exact hlater
    | fail e =>
      rw [if_neg (by simp)] at hv
      rw [flushUntilDone, if_neg (by simp), ← hv]
      exact .failed ha

/-! ## Whole buffers -/

namespace Sink

theorem view_write (sink : Sink) (bs : Bytes) :
    (sink.write bs).1.view = sink.view.afterWriting (writeSteps sink.room sink.writes bs) := by
  simp only [view, afterWriting, out_write, flushedAt_write]
  rfl

theorem writing_write (sink : Sink) (bs : Bytes) :
    sink.view.Writing bs (sink.write bs).2 (sink.write bs).1.view := by
  rw [view_write]
  exact writing_writeSteps sink.room sink.writes bs sink.view rfl rfl

theorem flushing_flush (sink : Sink) : sink.view.Flushing sink.flush.2 sink.flush.1.view := by
  have h := flushing_flushUntilDone sink.flushes sink.view rfl
  unfold flush
  split
  · rename_i steps hf
    have hview : { sink with flushes := steps, marks := .flushed :: sink.marks }.view =
        { sink.view with flushes := steps, flushedAt := sink.flushedAt ++ [sink.out.length] } := by
      simp [view, out, flushedAt, sizesAtFlushes_append, sizesAtFlushes, SinkMark.bytes]
    rw [hf, if_pos rfl] at h
    rw [hview]
    exact h
  · rename_i steps e hf
    rw [hf, if_neg (by simp)] at h
    exact h

theorem attempts_deliver (sink : Sink) (buffers : List Bytes) :
    sink.view.Attempts (sink.deliver buffers).2 (sink.deliver buffers).1.view := by
  induction buffers generalizing sink with
  | nil => exact (flushing_flush sink).attempts
  | cons bs buffers ih =>
    have hwrite := (writing_write sink bs).attempts
    unfold deliver
    split
    · rename_i next e h
      rwa [h] at hwrite
    · rename_i next h
      rw [h] at hwrite
      exact hwrite.trans (ih next)

end Sink

end AdcFeed
