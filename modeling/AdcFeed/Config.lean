import AdcFeed.Duration
import AdcFeed.Net.Address
import AdcFeed.Receiver

/-!
What a run of either side is told to do.
-/

namespace AdcFeed

/-- The port that is used unless another is asked for. -/
def defaultPort : UInt16 := 5000

/-- What the sending side is told: where to connect, how long to wait between readings, after how
many readings to stop, and a seed for the sampler. -/
structure SenderConfig where
  server : Endpoint := { ip := .loopback, port := defaultPort }
  delay : Duration := .ofMillis 100
  limit : Option Nat := none
  seed : Option UInt64 := none
  deriving DecidableEq

/-- What the receiving side is told: where to listen, how many connections may wait, and how much
to read at once. -/
structure ReceiverConfig where
  listenAt : Endpoint := { ip := .anyInterface, port := defaultPort }
  backlog : Nat := 1
  chunkSize : Nat := defaultChunkSize
  deriving DecidableEq

/-- Listening at a port of every interface. -/
def ReceiverConfig.onPort (port : UInt16) : ReceiverConfig :=
  { listenAt := { ip := .anyInterface, port } }

end AdcFeed
