/-!
Internet addresses and their texts: four decimal octets, or eight hexadecimal groups with the
longest run of zeros left out.
-/

namespace AdcFeed

/-- An internet address of either version. -/
inductive IpAddress where
  | v4 (octets : Vector UInt8 4)
  | v6 (groups : Vector UInt16 8)
  deriving DecidableEq

namespace IpAddress

/-- The octets in decimal with dots between them. -/
def octetsText (octets : List UInt8) : String :=
  ".".intercalate (octets.map toString)

/-- The groups in hexadecimal with colons between them. -/
def groupsText (groups : List UInt16) : String :=
  ":".intercalate (groups.map fun g => String.ofList (Nat.toDigits 16 g.toNat))

/-- The high and the low octet of a group. -/
def groupOctets (g : UInt16) : List UInt8 := [(g >>> 8).toUInt8, g.toUInt8]

/-- How many zero groups the list starts with. -/
def leadingZeros (groups : List UInt16) : Nat := (groups.takeWhile (· == 0)).length

/-- Start and length of the longest run of zero groups, the first of several; `(0, 0)` if there is
none. -/
def longestZeros (groups : List UInt16) : Nat × Nat :=
  (List.range groups.length).foldl
    (fun best start =>
      let size := leadingZeros (groups.drop start)
      if best.2 < size then (start, size) else best)
    (0, 0)

/-- The text of eight groups: an embedded version 4 address keeps its dots, and the longest run of
at least two zeros is left out. -/
def v6Text (groups : List UInt16) : String :=
  if groups.take 6 = [0, 0, 0, 0, 0, 0xFFFF] then
    "::ffff:" ++ octetsText ((groups.drop 6).flatMap groupOctets)
  else
    match longestZeros groups with
    | (start, size) =>
      if 1 < size then
        groupsText (groups.take start) ++ "::" ++ groupsText (groups.drop (start + size))
      else groupsText groups

/-- The address as people write it. -/
def text : IpAddress → String
  | .v4 octets => octetsText octets.toList
  | .v6 groups => v6Text groups.toList

/-- The address of the own machine. -/
def loopback : IpAddress := .v4 #v[127, 0, 0, 1]

/-- The address that stands for every interface. -/
def anyInterface : IpAddress := .v4 #v[0, 0, 0, 0]

end IpAddress

/-- One end of a connection. The zone is the number of the interface at which a version 6 address
is meant, zero if it is not said. -/
structure Endpoint where
  ip : IpAddress
  port : UInt16
  zone : UInt32 := 0
  deriving DecidableEq

/-- The zone behind a percent sign; nothing if it is not said. -/
def Endpoint.zoneText (e : Endpoint) : String := if e.zone = 0 then "" else "%" ++ toString e.zone

/-- The address and the port with a colon between them; a version 6 address stands in brackets,
together with its zone. -/
def Endpoint.text (e : Endpoint) : String :=
  match e.ip with
  | .v4 _ => e.ip.text ++ ":" ++ toString e.port
  | .v6 _ => "[" ++ e.ip.text ++ e.zoneText ++ "]:" ++ toString e.port

end AdcFeed
