import AdcFeed.IoError
import AdcFeed.Net.Address

/-!
The network of a machine as the programs meet it: a machine with no interface but the one that leads
back to itself.
-/

namespace AdcFeed

/-- Whether the loopback interface is up, and the ports at which something listens. -/
structure Network where
  loopbackUp : Bool := true
  listening : List UInt16 := []

namespace Network

/-- The failure of a connection for which there is no way. -/
def unreachable : IoError :=
  { kind := .networkUnreachable, text := "Network is unreachable (os error 101)" }

/-- The failure of a connection to a port at which nothing listens. -/
def refused : IoError := { kind := .connectionRefused, text := "Connection refused (os error 111)" }

/-- The failure of listening at a port where something listens already. -/
def inUse : IoError := { kind := .addrInUse, text := "Address already in use (os error 98)" }

/-- The failure of listening at an address of another machine. -/
def notAvailable : IoError :=
  { kind := .addrNotAvailable, text := "Cannot assign requested address (os error 99)" }

/-- The failure of using an address that names no single place. -/
def invalid : IoError := { kind := .invalidInput, text := "Invalid argument (os error 22)" }

/-- The failure of listening at an interface that the machine does not have. -/
def noDevice : IoError := { kind := .uncategorized, text := "No such device (os error 19)" }

/-- The number of the loopback interface. -/
def loopbackZone : UInt32 := 1

/-- Whether the version 6 address stands for every interface. -/
def isUnspecified (groups : Vector UInt16 8) : Bool := groups.toList = [0, 0, 0, 0, 0, 0, 0, 0]

/-- Whether the version 6 address is one of a group of machines. -/
def isMulticast (groups : Vector UInt16 8) : Bool :=
  groups.toList.head?.any fun g => 0xFF00 ≤ g

/-- Whether the version 6 address has a meaning at one interface only, so that it needs a zone. -/
def isLinkLocal (groups : Vector UInt16 8) : Bool :=
  groups.toList.head?.any fun g => 0xFE80 ≤ g && g ≤ 0xFEBF

/-- Whether the address leads back to the machine while loopback is up. -/
def leadsBack : IpAddress → Bool
  | .v4 octets => octets.toList.head? = some 127 || octets.toList = [0, 0, 0, 0]
  | .v6 groups => groups.toList = [0, 0, 0, 0, 0, 0, 0, 1] || isUnspecified groups

/-- Whether the version 4 address is one of a group of machines or of all of them. -/
def isShared (octets : Vector UInt8 4) : Bool :=
  (octets.toList.head?.any fun o => 224 ≤ o && o ≤ 239) || octets.toList = [255, 255, 255, 255]

/-- Whether the address is a version 6 address that holds one of version 4. -/
def embedsV4 (groups : Vector UInt16 8) : Bool :=
  groups.toList.take 6 = [0, 0, 0, 0, 0, 0xFFFF]

/-- The version 4 address that a version 6 address holds, and else the address itself. -/
def underlying : IpAddress → IpAddress
  | .v4 octets => .v4 octets
  | .v6 groups =>
    if embedsV4 groups then
      let octets := (groups.toList.drop 6).flatMap IpAddress.groupOctets
      .v4 (Vector.ofFn fun i => octets.getD i.val 0)
    else .v6 groups

/--
The failure of looking for a way to an endpoint. Without loopback there is no way to any version 4
address, and no version 6 address of the machine's own to set out from.
-/
def wayTo (net : Network) (e : Endpoint) : Option IoError :=
  match underlying e.ip with
  | .v4 octets =>
    if net.loopbackUp && leadsBack (.v4 octets) then none else some unreachable
  | .v6 groups =>
    if isMulticast groups then some unreachable
    else if isLinkLocal groups && e.zone = 0 then some invalid
    else if !net.loopbackUp then some notAvailable
    else if leadsBack (.v6 groups) then none
    else some unreachable

/-- Connects to an endpoint; the failure, if that cannot be done. -/
def connect (net : Network) (e : Endpoint) : Option IoError :=
  match net.wayTo e with
  | some cause => some cause
  | none => if e.port ∈ net.listening then none else some refused

/--
The failure of taking the address of an endpoint for one's own. Without loopback the machine has no
table of its own addresses, and then no version 4 address is refused.
-/
def claim (net : Network) (e : Endpoint) : Option IoError :=
  match underlying e.ip with
  | .v4 octets =>
    if !net.loopbackUp || leadsBack (.v4 octets) || isShared octets then none
    else some notAvailable
  | .v6 groups =>
    if isUnspecified groups || (net.loopbackUp && leadsBack (.v6 groups)) then none
    else if isMulticast groups || (isLinkLocal groups && e.zone = 0) then some invalid
    else if isLinkLocal groups && e.zone ≠ loopbackZone then some noDevice
    else some notAvailable

/-- Listens at an endpoint; the failure, if that cannot be done. Port zero asks for any free one. -/
def listen (net : Network) (e : Endpoint) : Option IoError :=
  match net.claim e with
  | some cause => some cause
  | none => if e.port ≠ 0 ∧ e.port ∈ net.listening then some inUse else none

end Network

end AdcFeed
