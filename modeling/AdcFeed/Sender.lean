import AdcFeed.Event
import AdcFeed.Sampler.Basic
import AdcFeed.Sink

/-!
The sending side: readings are taken from a sampler one at a time, and each is written as a line,
flushed and, unless it is the last, followed by a pause. Nothing is repeated; the first failure
ends the run.
-/

namespace AdcFeed

/-- The longest pause, in milliseconds: thirty years of 365 days. -/
def longestPause : Nat := 946080000000

/-- A run of the sending side as it stands. The clock counts milliseconds and is moved by pauses
alone; `flushClocks` has its value at each successful flush, the last one first. -/
structure Sender (σ : Type) where
  sampler : σ
  sink : Sink
  sent : Nat := 0
  clock : Nat := 0
  flushClocks : List Nat := []

/-- How a run of the sending side ends, if it does. -/
inductive SendEnd where
  /-- The wanted number of readings was sent. -/
  | finished (sent : Nat)
  /-- A reading could not be sent, after so many that were. -/
  | failed (sent : Nat) (error : IoError)
  /-- No limit was set and the sink never fails. -/
  | endless
  deriving DecidableEq

/-- What a run of the sending side leaves: how it ended, its last state, what happened. -/
structure SendRun (σ : Type) where
  result : SendEnd
  sender : Sender σ
  events : List Event := []

/-- Puts what happened earlier in front. -/
def SendRun.after {σ : Type} (earlier : List Event) (run : SendRun σ) : SendRun σ :=
  { run with events := earlier ++ run.events }

namespace Sender

variable {σ : Type}

/-- The clock at each successful flush. -/
def flushTimes (s : Sender σ) : List Nat := s.flushClocks.reverse

variable [Sampler σ]

/-- Waits before every reading but the first, at most for the longest pause. -/
def pause (delay : Nat) (s : Sender σ) : Sender σ :=
  if s.sent = 0 then s else { s with clock := s.clock + min delay longestPause }

/-- Waits if it has to and takes the next reading from the sampler. -/
def draw (delay : Nat) (s : Sender σ) : Reading × Sender σ :=
  let s := s.pause delay
  let (reading, sampler) := Sampler.sample s.sampler
  (reading, { s with sampler })

/-- Counts a reading as sent when its line has been handed to the sink, unless the sink failed. -/
def count (s : Sender σ) : Option IoError → Sender σ
  | some _ => s
  | none => { s with sent := s.sent + 1, flushClocks := s.clock :: s.flushClocks }

/-- Takes one reading and sends it; the reading, and the failure if it was not sent. -/
def sendOne (delay : Nat) (s : Sender σ) : Sender σ × Reading × Option IoError :=
  let (reading, drawn) := s.draw delay
  let (sink, error) := drawn.sink.deliver [reading.encode]
  ({ drawn with sink }.count error, reading, error)

/-- Sends `count` more readings. -/
def sendMany (delay : Nat) (s : Sender σ) : (count : Nat) → SendRun σ
  | 0 => { result := .finished s.sent, sender := s }
  | count + 1 =>
    match s.sendOne delay with
    | (next, _, some error) => { result := .failed s.sent error, sender := next }
    | (next, reading, none) => (sendMany delay next count).after [.sent reading next.sent]

/--
How many readings a sink can take at most before it fails, if it ever does: with limited room there
is none for more lines, each of at least seven bytes; without a limit each reading uses up a step
of either kind while there are any.
-/
def patience (sink : Sink) : Nat :=
  match sink.room with
  | some n => n / 7 + 1
  | none => max sink.writes.length sink.flushes.length

/-- Sends readings until the limit is reached or one cannot be sent. Without a limit, a sink that
has not failed when its patience is at an end never will. -/
def run (delay : Nat) (limit : Option Nat) (s : Sender σ) : SendRun σ :=
  match limit with
  | some count => sendMany delay s count
  | none =>
    let run := sendMany delay s (patience s.sink)
    match run.result with
    | .finished _ => { run with result := .endless }
    | _ => run

end Sender

end AdcFeed
