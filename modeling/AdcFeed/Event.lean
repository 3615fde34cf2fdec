import AdcFeed.Duration
import AdcFeed.LineBuffer
import AdcFeed.Net.Address

/-!
What happens during a run, as it is told in the log.
-/

namespace AdcFeed

/-- How much an event matters, the most severe first. -/
inductive Level where
  | error
  | warn
  | info
  | debug
  | trace
  deriving DecidableEq, Repr

/-- The rank of a level; a lower rank is more severe. -/
def Level.rank : Level → Nat
  | .error => 1
  | .warn => 2
  | .info => 3
  | .debug => 4
  | .trace => 5

/-- The level's name in a log line. -/
def Level.text : Level → String
  | .error => "ERROR"
  | .warn => "WARN"
  | .info => "INFO"
  | .debug => "DEBUG"
  | .trace => "TRACE"

/-- What was received during a session: bytes and non-empty reads, and what their lines held. -/
structure Tally where
  bytes : Nat := 0
  chunks : Nat := 0
  readings : Nat := 0
  malformed : Nat := 0
  deriving DecidableEq, Repr

/-- An event of a run. -/
inductive Event where
  /-- A note of the line buffer. -/
  | buffer (note : BufferNote)
  /-- A reading was sent as the `number`-th of its run. -/
  | sent (reading : Reading) (number : Nat)
  /-- A line was received that carries a reading. -/
  | received (reading : Reading)
  /-- A line was received that carries none. -/
  | malformed (fault : LineFault)
  /-- A line over the cap is being thrown away. -/
  | dropping (fault : LineFault)
  /-- The peer closed the connection. -/
  | endOfStream
  /-- The stream ended inside a line of which so many bytes had come. -/
  | midLine (size : Nat)
  | senderStarting (server : Endpoint) (delay : Duration)
  | connected (server : Endpoint)
  | closing (sent : Nat)
  | senderFinished (sent : Nat)
  | listening (port : UInt16)
  | peerConnected (peer : Endpoint)
  | peerLeft (peer : Endpoint) (tally : Tally)
  | receiverFinished (readings : Nat)
  deriving DecidableEq

namespace Event

/-- How much the event matters. -/
def level : Event → Level
  | .buffer _ => .trace
  | .sent .. | .received _ | .endOfStream => .debug
  | .malformed _ | .dropping _ | .midLine _ => .warn
  | .senderStarting .. | .connected _ | .closing _ | .senderFinished _ | .listening _
  | .peerConnected _ | .peerLeft .. | .receiverFinished _ => .info

/-- The event in words. -/
def message : Event → String
  | .buffer (.decoded size) => "decoded line of " ++ toString size ++ " bytes"
  | .buffer (.skipped size) =>
    "discarded " ++ toString size ++ " trailing bytes of an over-long line"
  | .sent reading number => "sent " ++ reading.text ++ " (#" ++ toString number ++ ")"
  | .received reading => "reading " ++ toString reading.value.toInt
  | .malformed fault => "malformed line: " ++ fault.message
  | .dropping fault => "dropping line: " ++ fault.message
  | .endOfStream => "client closed the connection (EOF)"
  | .midLine size => "stream ended mid-line (" ++ toString size ++ " bytes without newline)"
  | .senderStarting server delay =>
    "ADC client starting: server=" ++ server.text ++ ", delay=" ++ delay.text
  | .connected server => "Connected to " ++ server.text
  | .closing count => "sent " ++ toString count ++ " readings; closing connection"
  | .senderFinished count => "ADC client finished after " ++ toString count ++ " readings"
  | .listening port => "Server listening on port " ++ toString port ++ "..."
  | .peerConnected peer => "Client connected from " ++ peer.text
  | .peerLeft peer tally =>
    "client " ++ peer.text ++ " disconnected: " ++ toString tally.bytes ++ " bytes in "
      ++ toString tally.chunks ++ " chunks, " ++ toString tally.readings ++ " readings, "
      ++ toString tally.malformed ++ " malformed"
  | .receiverFinished readings =>
    "ADC server done: " ++ toString readings ++ " readings received"

/-- The part of the program that tells of the event, from the outermost to the innermost name. -/
def target : Event → String
  | .buffer _ => "adc_core::protocol::decoder"
  | .sent .. => "adc_client::application::stream_readings"
  | .received _ | .malformed _ | .dropping _ | .endOfStream | .midLine _ =>
    "adc_server::application::echo"
  | .senderStarting .. | .senderFinished _ => "adc_client"
  | .connected _ | .closing _ => "adc_client::infrastructure::connection"
  | .listening _ | .peerConnected _ | .peerLeft .. => "adc_server::infrastructure::listener"
  | .receiverFinished _ => "adc_server"

/-- The field that holds the words of an event. -/
def fieldName : String := "message"

/-- The event as a line without its target. -/
def line (e : Event) : String := e.level.text ++ " " ++ e.message

/-- The event as a line of a program's log. -/
def targetLine (e : Event) : String := e.level.text ++ " " ++ e.target ++ ": " ++ e.message

end Event

/-- The events at a level or more severe. -/
def eventsUpTo (level : Level) (events : List Event) : List Event :=
  events.filter fun e => e.level.rank ≤ level.rank

end AdcFeed
