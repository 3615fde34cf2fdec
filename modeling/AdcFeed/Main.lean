import AdcFeed.Program.Receiving
import AdcFeed.Program.Sending
import Std.Async.TCP

/-!
The programs on real sockets. The first argument names the program, the others are its command
line. What is sent, told and counted, and how long to wait, is decided by the steps of `Sender` and
`Receiver`; here it is only carried out.
-/

open AdcFeed

namespace AdcFeed.Main

/-- The variables of the environment that the programs look at. -/
def readEnvironment : IO Environment := do
  let names := ["ADC_COUNT", "ADC_SEED", "RUST_LOG"]
  let values ← names.mapM fun name => do
    return (← IO.getEnv name).map fun value => (name, encodeText value)
  return values.filterMap id

/-- Writes lines to the standard error. -/
def complain (lines : List String) : IO Unit := lines.forM IO.eprintln

/-- Writes buffers to the standard output, one after the other and at once. -/
def put (buffers : List Bytes) : IO Unit := do
  let out ← IO.getStdout
  buffers.forM fun bytes => out.write bytes.toByteArray
  out.flush

/-- Ends the program as a report says. -/
def finish (report : ProgramReport) : IO UInt32 := do
  put [report.stdout]
  complain report.stderr
  return UInt32.ofNat report.exitCode

/-- Ends the program with a failure. -/
def fail (task : String) (failure : Failure) : IO UInt32 := do
  complain (ProgramReport.failureLines task failure)
  return 1

/-- Tells of an event, if the filter lets it through. -/
def tell (filter : LogFilter) (event : Event) : IO Unit :=
  complain (ProgramReport.logLines filter [event])

/-- The code that the system gives a failure, zero if it gives none. -/
def systemCode : IO.Error → UInt32
  | .alreadyExists _ code _ | .otherError code _ | .resourceBusy code _
  | .resourceVanished code _ | .unsupportedOperation code _ | .hardwareFault code _
  | .unsatisfiedConstraints code _ | .illegalOperation code _ | .protocolError code _
  | .timeExpired code _ | .interrupted _ code _ | .noFileOrDirectory _ code _
  | .invalidArgument _ code _ | .permissionDenied _ code _ | .resourceExhausted _ code _
  | .inappropriateType _ code _ | .noSuchThing _ code _ => code
  | .unexpectedEof | .userError _ => 0

/-- A failure of the system as a failure of the library. Sockets give codes with a minus sign. -/
def causeOf (e : IO.Error) : IoError :=
  let code := systemCode e
  match (if 0x80000000 ≤ code then 0 - code else code).toNat with
  | 19 => Network.noDevice
  | 22 => Network.invalid
  | 32 => { kind := .brokenPipe, text := "Broken pipe (os error 32)" }
  | 98 => Network.inUse
  | 99 => Network.notAvailable
  | 101 => Network.unreachable
  | 104 => { kind := .connectionReset, text := "Connection reset by peer (os error 104)" }
  | 111 => Network.refused
  | _ => { kind := .other, text := toString e }

/-- Carries out an action of a socket; the failure if it fails. -/
def attempt {α : Type} (action : Std.Async.Async α) : IO (Except IoError α) := do
  try
    return .ok (← action.block)
  catch e => return .error (causeOf e)

/-- An endpoint as sockets take it. -/
def socketAddress (e : Endpoint) : Std.Net.SocketAddress :=
  match e.ip with
  | .v4 octets => .v4 { addr := { octets }, port := e.port }
  | .v6 groups => .v6 { addr := { segments := groups }, port := e.port }

/-- An endpoint as sockets give it. -/
def endpointOf : Std.Net.SocketAddress → Endpoint
  | .v4 a => { ip := .v4 a.addr.octets, port := a.port }
  | .v6 a => { ip := .v6 a.addr.segments, port := a.port }

/-- Waits for so many milliseconds, at most a day at a time. -/
partial def wait (millis : Nat) : IO Unit := do
  let day := 86400000
  IO.sleep (UInt32.ofNat (min millis day))
  if day < millis then wait (millis - day)

/-- Sends the next reading over a connection. -/
def sendOne (filter : LogFilter) (delay : Duration) (socket : Std.Async.TCP.Socket.Client)
    (s : Sender SeededSampler) : ExceptT Failure IO (Sender SeededSampler) := do
  let (reading, drawn) := s.draw delay.pauseMillis
  wait (drawn.clock - s.clock)
  match ← attempt (socket.send reading.encode.toByteArray) with
  | .error cause => throw (.send (drawn.count (some cause)).sent cause)
  | .ok _ =>
    let next := drawn.count none
    tell filter (.sent reading next.sent)
    return next

/-- Sends so many readings over a connection, or readings without end. -/
def send (filter : LogFilter) (config : SenderConfig) (socket : Std.Async.TCP.Socket.Client)
    (sampler : SeededSampler) : ExceptT Failure IO Nat := do
  let mut s : Sender SeededSampler := { sampler, sink := {} }
  match config.limit with
  | some count => for _ in [0:count] do s ← sendOne filter config.delay socket s
  | none => repeat s ← sendOne filter config.delay socket s
  return s.sent

/-- The program of the sending side. -/
def sending (args : List String) : IO UInt32 := do
  let env ← readEnvironment
  match SenderConfig.ofArguments env (args.map encodeText) with
  | .error e => finish (.ofUsage e)
  | .ok config =>
    let filter := LogFilter.ofEnvironment env
    let task := "streaming to " ++ config.server.text ++ " failed"
    tell filter (.senderStarting config.server config.delay)
    let socket ← Std.Async.TCP.Socket.Client.mk
    match ← attempt (socket.connect (socketAddress config.server)) with
    | .error cause => fail task (.connect config.server cause)
    | .ok _ =>
      socket.noDelay
      tell filter (.connected config.server)
      let entropy ← IO.getRandomBytes 8
      let sampler := config.sampler entropy.toUInt64LE!
      match ← (send filter config socket sampler).run with
      | .error failure => fail task failure
      | .ok sent =>
        discard (attempt socket.shutdown)
        tell filter (.closing sent)
        tell filter (.senderFinished sent)
        return 0

/-- Writes out and takes in what arrives over a connection until nothing more is read. -/
partial def receive (filter : LogFilter) (chunkSize : Nat) (socket : Std.Async.TCP.Socket.Client)
    (r : Receiver) : IO (Except Failure Tally) := do
  let conclude (error : Option IoError) : IO (Except Failure Tally) := do
    let (result, events) := r.conclude error
    events.forM (tell filter)
    return result
  match ← attempt (socket.recv? (UInt64.ofNat chunkSize)) with
  | .error cause => conclude (some cause)
  | .ok none => conclude none
  | .ok (some bytes) =>
    let chunk := bytes.data.toList
    let failed ← try put (echoOf chunk); pure none
      catch e => pure (some (causeOf e))
    match r.afterEcho chunk failed with
    | .error failure => return .error failure
    | .ok (next, events) =>
      events.forM (tell filter)
      receive filter chunkSize socket next

/-- The program of the receiving side. -/
def receiving (args : List String) : IO UInt32 := do
  match ReceiverConfig.ofArguments (args.map encodeText) with
  | .error e => finish (.ofUsage e)
  | .ok config =>
    let filter := LogFilter.ofEnvironment (← readEnvironment)
    let port := config.listenAt.port
    let task := "serving on port " ++ toString port ++ " failed"
    let server ← Std.Async.TCP.Socket.Server.mk
    let listen : IO Unit := do
      server.bind (socketAddress config.listenAt)
      server.listen (UInt32.ofNat config.backlog)
    match ← listen.toBaseIO with
    | .error e => fail task (.listen config.listenAt (causeOf e))
    | .ok _ =>
      tell filter (.listening port)
      match ← attempt server.accept with
      | .error cause => fail task (.accept cause)
      | .ok socket =>
        let peer := endpointOf (← socket.getPeerName)
        tell filter (.peerConnected peer)
        match ← receive filter config.chunkSize socket {} with
        | .error failure => fail task failure
        | .ok tally =>
          tell filter (.peerLeft peer tally)
          tell filter (.receiverFinished tally.readings)
          return 0

end AdcFeed.Main

/-- Runs the program that the first argument names. -/
def main (args : List String) : IO UInt32 :=
  match args with
  | "adc-client" :: args => AdcFeed.Main.sending args
  | "adc-server" :: args => AdcFeed.Main.receiving args
  | _ => do
    IO.eprintln "usage: (adc-client | adc-server) [ARGUMENTS]"
    return 2
