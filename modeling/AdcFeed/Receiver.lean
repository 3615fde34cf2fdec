import AdcFeed.Event
import AdcFeed.Failure
import AdcFeed.Sink
import AdcFeed.Source

/-!
The receiving side: every chunk read is written out after a fixed prefix and flushed, and the lines
that the chunks form are read as readings on the side. A line that holds none is counted and told,
and never stops the transcript. Taking the prefixes out of a transcript leaves what was received.
-/

namespace AdcFeed

/-- What stands before each chunk in the transcript. -/
def transcriptPrefix : String := "Received: "

/-- What is written out for a chunk: the prefix, then the chunk. -/
def echoOf (chunk : Bytes) : List Bytes := [encodeText transcriptPrefix, chunk]

/-- The largest chunk that is read unless another size is asked for. -/
def defaultChunkSize : Nat := 1024

/-- The receiving side as it stands between two chunks. -/
structure Receiver where
  buffer : LineBuffer := .empty defaultLineCap
  tally : Tally := {}

/-- What a session of the receiving side leaves: its counts or the failure, the sink, what
happened. -/
structure ReceiveRun where
  result : Except Failure Tally
  sink : Sink
  events : List Event := []

/-- Puts what happened earlier in front. -/
def ReceiveRun.after (earlier : List Event) (run : ReceiveRun) : ReceiveRun :=
  { run with events := earlier ++ run.events }

/-- What is told of a line that was received whole. -/
def Event.ofLine (line : Bytes) : Event :=
  match Reading.ofLine line with
  | .ok reading => .received reading
  | .error fault => .malformed fault

/-- What is told of a line that was taken from the buffer. -/
def Event.ofResult : Except LineFault Bytes → Event
  | .ok line => .ofLine line
  | .error fault => .dropping fault

/-- What is told of a pull: the buffer's notes, then the line. -/
def Event.ofPull (pull : Pull) : List Event :=
  pull.notes.map .buffer ++ (pull.result.map Event.ofResult).toList

/-- Counts a line by what is told of it. -/
def Tally.count (t : Tally) : Event → Tally
  | .received _ => { t with readings := t.readings + 1 }
  | .malformed _ | .dropping _ => { t with malformed := t.malformed + 1 }
  | _ => t

namespace Receiver

/-- Takes in a chunk that has been written out, and all lines that it completes. -/
def take (r : Receiver) (chunk : Bytes) : Receiver × List Event :=
  let pushed := r.buffer.push chunk
  let events := pushed.drain.flatMap Event.ofPull
  let tally := { r.tally with bytes := r.tally.bytes + chunk.length, chunks := r.tally.chunks + 1 }
  ({ buffer := pushed.drained, tally := events.foldl Tally.count tally }, events)

/-- What is told at the end of the stream: an unterminated rest is one more line. -/
def closing (r : Receiver) : List Event :=
  .endOfStream ::
    match r.buffer.tail? with
    | none => []
    | some tail => [.midLine tail.length, .ofLine tail]

/-- Goes on when a chunk has been handed to the sink: it is taken in unless the sink failed. -/
def afterEcho (r : Receiver) (chunk : Bytes) :
    Option IoError → Except Failure (Receiver × List Event)
  | some error => .error (.output error)
  | none => .ok (r.take chunk)

/-- What a session comes to when nothing more is read, at the end of the stream or after a read that
failed, and what is told then. -/
def conclude (r : Receiver) : Option IoError → Except Failure Tally × List Event
  | some error => (.error (.read error), [])
  | none => (.ok (r.closing.foldl Tally.count r.tally), r.closing)

/-- Writes out and takes in the chunks of a delivery, one after the other. -/
def run (r : Receiver) (sink : Sink) (error : Option IoError) : List Bytes → ReceiveRun
  | [] =>
    let (result, events) := r.conclude error
    { result, sink, events }
  | chunk :: chunks =>
    let (sink, failed) := sink.deliver (echoOf chunk)
    match r.afterEcho chunk failed with
    | .error failure => { result := .error failure, sink }
    | .ok (next, events) => (run next sink error chunks).after events

/-- A whole session: a new receiver takes what a reader with a buffer of `chunkSize` bytes gets. -/
def session (chunkSize : Nat) (steps : List ReadStep) (sink : Sink) : ReceiveRun :=
  let delivery := Delivery.ofSteps chunkSize steps
  run {} sink delivery.error delivery.chunks

end Receiver

/-! ## The transcript read back -/

/-- Takes every occurrence of a pattern out of a byte string, from left to right; what is left, and
how many there were. The first `skip` bytes belong to an occurrence already found. -/
def takeOut (pattern : Bytes) (skip : Nat) : Bytes → Bytes × Nat
  | [] => ([], 0)
  | b :: bs =>
    if 0 < skip then takeOut pattern (skip - 1) bs
    else if pattern.isPrefixOf (b :: bs) then
      let later := takeOut pattern (pattern.length - 1) bs
      (later.1, later.2 + 1)
    else
      let later := takeOut pattern 0 bs
      (b :: later.1, later.2)

/-- A transcript without its prefixes, and how many there were. -/
def withoutPrefixes (transcript : Bytes) : Bytes × Nat :=
  takeOut (encodeText transcriptPrefix) 0 transcript

end AdcFeed
