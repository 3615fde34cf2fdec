import AdcFeed.Program.Sending
import AdcFeed.Receiver

/-!
The receiving side over a network: a session with one peer, the program, and both sides on one
machine.
-/

namespace AdcFeed

/-- Serves one peer, whose stream arrives as given. -/
def serveSession (peer : Endpoint) (chunkSize : Nat) (steps : List ReadStep) (sink : Sink) :
    ReceiveRun :=
  let run := Receiver.session chunkSize steps sink
  let left :=
    match run.result with
    | .ok tally => [.peerLeft peer tally]
    | .error _ => []
  { run with events := .peerConnected peer :: run.events ++ left }

/-- Serves a peer on the own machine that sends each chunk when the one before it has come back; the
failure if the peer finds no way. -/
def serveLoopback (net : Network) (peer : Endpoint) (chunkSize : Nat) (chunks : List Bytes)
    (sink : Sink) : Except IoError ReceiveRun :=
  if net.loopbackUp then .ok (serveSession peer chunkSize (chunks.map .arrive) sink)
  else .error Network.unreachable

/-- Who comes to be served: a peer on the own machine and the chunks that it sends. -/
structure Visitor where
  endpoint : Endpoint
  chunks : List Bytes

/-- What the program of the receiving side leaves; nothing if it waits for a peer forever. -/
def runReceiving (net : Network) (env : Environment) (args : List Bytes)
    (visitor : Option Visitor) : Option ProgramReport :=
  match ReceiverConfig.ofArguments args with
  | .error e => some (.ofUsage e)
  | .ok config =>
    let port := config.listenAt.port
    let log := ProgramReport.logLines (.ofEnvironment env)
    let failed (events : List Event) (failure : Failure) : ProgramReport :=
      { exitCode := 1
        stderr := log events ++ ProgramReport.failureLines
          ("serving on port " ++ toString port ++ " failed") failure }
    match net.listen config.listenAt with
    | some cause => some (failed [] (.listen config.listenAt cause))
    | none => do
      let visitor ← visitor
      let run ←
        (serveLoopback net visitor.endpoint config.chunkSize visitor.chunks {}).toOption
      let events := .listening port :: run.events
      match run.result with
      | .ok tally =>
        return { stdout := run.sink.out
                 stderr := log (events ++ [.receiverFinished tally.readings]) }
      | .error failure => return { failed events failure with stdout := run.sink.out }

/-! ## Both sides on one machine -/

/-- What a sender and a receiver on one machine agree on: readings sent, the receiver's counts, and
the transcript without its prefixes. -/
structure LoopbackExchange where
  sent : Nat
  tally : Tally
  stream : Bytes

/-- Sends so many readings of a seeded sampler to a receiver on the own machine; nothing if that
would never end. -/
def exchangeLoopback (net : Network) (seed : UInt64) (count : Nat) :
    Option (Except Failure LoopbackExchange) :=
  let config : SenderConfig := { delay := ⟨0⟩, limit := some count, seed := some seed }
  let listening := { net with listening := config.server.port :: net.listening }
  (sendSession listening 0 config {}).map fun session => do
    let sent ← session.result
    let run := serveSession config.server defaultChunkSize [.arrive session.received] {}
    let tally ← run.result
    return { sent, tally, stream := (withoutPrefixes run.sink.out).1 }

end AdcFeed
