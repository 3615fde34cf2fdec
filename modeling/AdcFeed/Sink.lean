import AdcFeed.IoError
import AdcFeed.Text.Bytes

/-!
Where bytes are written to. How a sink answers its write attempts and flush attempts is given in
advance, step by step; once the steps are used up it takes all that fits. Main statements: what a
write and a flush add to the bytes taken (`out_write`) and to the sizes at flushes
(`flushedAt_flush`).
-/

namespace AdcFeed

/-- How one write attempt is answered. -/
inductive WriteStep where
  /-- At most `size` of the offered bytes are taken. -/
  | accept (size : Nat)
  /-- Nothing is taken yet; the attempt is to be repeated. -/
  | pending
  | fail (error : IoError)
  deriving DecidableEq, Repr

/-- How one flush attempt is answered. -/
inductive FlushStep where
  | ok
  /-- Not yet; the attempt is to be repeated. -/
  | pending
  | fail (error : IoError)
  deriving DecidableEq, Repr

/-- What comes of one write attempt. -/
inductive Attempt where
  /-- So many bytes, at least one, were taken. -/
  | took (size : Nat)
  | retry
  | fail (error : IoError)
  deriving DecidableEq, Repr

/-- The failure of a write to a sink that has no room left. -/
def IoError.full : IoError := { kind := .brokenPipe, text := "full" }

/-- The failure of a write of which nothing was taken. -/
def IoError.nothingTaken : IoError := { kind := .writeZero }

/--
One attempt to write `offered` bytes, at least one, where `room` is left. An interrupted attempt is
repeated like one that was not ready.
-/
def WriteStep.attempt (room : Option Nat) (offered : Nat) : WriteStep → Attempt
  | .pending => .retry
  | .fail error => if error.kind = .interrupted then .retry else .fail error
  | .accept size =>
    if room = some 0 then .fail .full
    else
      match min size (min offered (room.getD offered)) with
      | 0 => .fail .nothingTaken
      | taken + 1 => .took (taken + 1)

/-- How far a buffer got: the bytes taken, the steps left, and the failure that stopped it. -/
structure Written where
  taken : Bytes := []
  steps : List WriteStep
  error : Option IoError := none

/-- Puts bytes taken earlier in front. -/
def Written.after (earlier : Bytes) (w : Written) : Written :=
  { w with taken := earlier ++ w.taken }

/--
Attempts to write until the whole buffer is taken or an attempt fails for good. Beyond the last
step all that fits is taken, and what does not fit meets a full sink.
-/
def writeSteps (room : Option Nat) : List WriteStep → Bytes → Written
  | steps, [] => { steps }
  | [], bs =>
    match room with
    | none => { taken := bs, steps := [] }
    | some n =>
      if bs.length ≤ n then { taken := bs, steps := [] }
      else { taken := bs.take n, steps := [], error := some .full }
  | step :: steps, bs =>
    match step.attempt room bs.length with
    | .took size =>
      (writeSteps (room.map (· - size)) steps (bs.drop size)).after (bs.take size)
    | .retry => writeSteps room steps bs
    | .fail error => { steps, error := some error }

/-- Attempts to flush until one succeeds or fails; the steps left and the failure. -/
def flushUntilDone : List FlushStep → List FlushStep × Option IoError
  | [] => ([], none)
  | .ok :: steps => (steps, none)
  | .pending :: steps => flushUntilDone steps
  | .fail error :: steps => (steps, some error)

/-- Something that a sink has done for good. -/
inductive SinkMark where
  | took (bytes : Bytes)
  | flushed
  deriving DecidableEq

/-- The bytes that were taken. -/
def SinkMark.bytes : SinkMark → Bytes
  | .took bytes => bytes
  | .flushed => []

/--
A sink: the steps still to come, the room left if it is bounded, and everything done so far, the
last thing first.
-/
structure Sink where
  writes : List WriteStep := []
  flushes : List FlushStep := []
  room : Option Nat := none
  marks : List SinkMark := []
  deriving DecidableEq

/-- How many bytes had been taken at each flush, where so many had been taken at the start. -/
def sizesAtFlushes (taken : Nat) : List SinkMark → List Nat
  | [] => []
  | .took bytes :: marks => sizesAtFlushes (taken + bytes.length) marks
  | .flushed :: marks => taken :: sizesAtFlushes taken marks

theorem sizesAtFlushes_append (taken : Nat) (xs ys : List SinkMark) :
    sizesAtFlushes taken (xs ++ ys) = sizesAtFlushes taken xs
      ++ sizesAtFlushes (taken + (xs.flatMap SinkMark.bytes).length) ys := by
  induction xs generalizing taken with
  | nil => simp [sizesAtFlushes]
  | cons x xs ih =>
    cases x with
    | took bytes => simp [sizesAtFlushes, ih, SinkMark.bytes, Nat.add_assoc]
    | flushed => simp [sizesAtFlushes, ih, SinkMark.bytes]

namespace Sink

/-- All bytes taken so far. -/
def out (sink : Sink) : Bytes := sink.marks.reverse.flatMap SinkMark.bytes

/-- For each successful flush how many bytes had been taken. -/
def flushedAt (sink : Sink) : List Nat := sizesAtFlushes 0 sink.marks.reverse

/-- Writes a whole buffer; the failure, if it was not taken whole. -/
def write (sink : Sink) (bs : Bytes) : Sink × Option IoError :=
  let w := writeSteps sink.room sink.writes bs
  ({ sink with
      writes := w.steps
      room := sink.room.map (· - w.taken.length)
      marks := .took w.taken :: sink.marks }, w.error)

/-- Flushes what was written; the failure, if there was one. -/
def flush (sink : Sink) : Sink × Option IoError :=
  match flushUntilDone sink.flushes with
  | (steps, none) => ({ sink with flushes := steps, marks := .flushed :: sink.marks }, none)
  | (steps, some error) => ({ sink with flushes := steps }, some error)

/-- Writes the buffers one after the other and then flushes; the first failure ends it. -/
def deliver (sink : Sink) : List Bytes → Sink × Option IoError
  | [] => sink.flush
  | bs :: buffers =>
    match sink.write bs with
    | (sink, some error) => (sink, some error)
    | (sink, none) => sink.deliver buffers

theorem out_write (sink : Sink) (bs : Bytes) :
    (sink.write bs).1.out = sink.out ++ (writeSteps sink.room sink.writes bs).taken := by
  simp [write, out, SinkMark.bytes]

theorem flushedAt_write (sink : Sink) (bs : Bytes) :
    (sink.write bs).1.flushedAt = sink.flushedAt := by
  simp [write, flushedAt, sizesAtFlushes_append, sizesAtFlushes]

theorem out_flush (sink : Sink) : sink.flush.1.out = sink.out := by
  unfold flush
  split <;> simp [out, SinkMark.bytes]

theorem flushedAt_flush {sink : Sink} (h : sink.flush.2 = none) :
    sink.flush.1.flushedAt = sink.flushedAt ++ [sink.out.length] := by
  unfold flush at h ⊢
  split
  · simp [flushedAt, out, sizesAtFlushes_append, sizesAtFlushes]
  · rename_i hf
    rw [hf] at h
    simp at h

end Sink

end AdcFeed
