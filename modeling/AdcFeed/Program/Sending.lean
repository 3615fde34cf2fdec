import AdcFeed.CommandLine.Parameters
import AdcFeed.Net.Network
import AdcFeed.Program.Report
import AdcFeed.Sampler.Seeded
import AdcFeed.Sender

/-!
The sending side over a network: a session with one peer, and the program.
-/

namespace AdcFeed

/-- The sampler that a configuration asks for; without a seed it takes the one it is given. -/
def SenderConfig.sampler (config : SenderConfig) (entropy : UInt64) : SeededSampler :=
  .ofSeed (config.seed.getD entropy)

/-- What a session of the sending side leaves: the number of readings sent or the failure, what its
peer got, what happened. -/
structure SendSession where
  result : Except Failure Nat
  received : Bytes := []
  events : List Event := []

/-- Connects and sends readings until the limit is reached or one cannot be sent; nothing if that
would never end. -/
def sendSession (net : Network) (entropy : UInt64) (config : SenderConfig) (sink : Sink) :
    Option SendSession :=
  match net.connect config.server with
  | some cause => some { result := .error (.connect config.server cause) }
  | none =>
    let run := Sender.run config.delay.pauseMillis config.limit
      { sampler := config.sampler entropy, sink }
    let events := .connected config.server :: run.events
    match run.result with
    | .finished sent =>
      some { result := .ok sent, received := run.sender.sink.out,
             events := events ++ [.closing sent] }
    | .failed sent cause =>
      some { result := .error (.send sent cause), received := run.sender.sink.out, events }
    | .endless => none

/-- What the program of the sending side leaves, and what its peer got; nothing if it never ends. -/
def runSending (net : Network) (entropy : UInt64) (env : Environment) (args : List Bytes) :
    Option (ProgramReport × Bytes) :=
  match SenderConfig.ofArguments env args with
  | .error e => some (.ofUsage e, [])
  | .ok config =>
    (sendSession net entropy config {}).map fun session =>
      let log (last : List Event) :=
        ProgramReport.logLines (.ofEnvironment env)
          (.senderStarting config.server config.delay :: session.events ++ last)
      match session.result with
      | .ok sent => ({ stderr := log [.senderFinished sent] }, session.received)
      | .error failure =>
        ({ exitCode := 1
           stderr := log [] ++ ProgramReport.failureLines
            ("streaming to " ++ config.server.text ++ " failed") failure },
          session.received)

end AdcFeed
