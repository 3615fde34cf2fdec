import AdcFeed.Net.Address
import AdcFeed.Number.Digits

/-!
Reading internet addresses. Each reader takes what it can from the front of a text and hands back
the rest; a text is an address if nothing is left over.
-/

namespace AdcFeed.IpAddress

/-- The value of a digit of a base of at most sixteen. -/
def baseDigit? (base : Nat) (c : Char) : Option Nat :=
  let value? :=
    if '0' ≤ c ∧ c ≤ '9' then some (c.toNat - '0'.toNat)
    else if 'a' ≤ c ∧ c ≤ 'f' then some (c.toNat - 'a'.toNat + 10)
    else if 'A' ≤ c ∧ c ≤ 'F' then some (c.toNat - 'A'.toNat + 10)
    else none
  value?.filter (· < base)

/-- The digits at the front of the text, as values, and the rest. -/
def digitsOf (base : Nat) : List Char → List Nat × List Char
  | [] => ([], [])
  | c :: cs =>
    match baseDigit? base c with
    | none => ([], c :: cs)
    | some d => (d :: (digitsOf base cs).1, (digitsOf base cs).2)

/-- Reads an octet: up to three decimal digits, no leading zero, at most 255. -/
def readOctet? (cs : List Char) : Option (UInt8 × List Char) :=
  let (digits, rest) := digitsOf 10 cs
  let n := ofDigits 10 digits
  if digits.isEmpty || 3 < digits.length || 255 < n then none
  else if digits.head? = some 0 && 1 < digits.length then none
  else some (UInt8.ofNat n, rest)

/-- Reads a group: up to four hexadecimal digits. -/
def readGroup? (cs : List Char) : Option (UInt16 × List Char) :=
  let (digits, rest) := digitsOf 16 cs
  if digits.isEmpty || 4 < digits.length then none
  else some (UInt16.ofNat (ofDigits 16 digits), rest)

/-- Reads a separator. -/
def readMark? (mark : Char) : List Char → Option (List Char)
  | [] => none
  | c :: cs => if c = mark then some cs else none

/-- Reads four octets with dots between them. -/
def readOctets? (cs : List Char) : Option (Vector UInt8 4 × List Char) := do
  let (a, cs) ← readOctet? cs
  let (b, cs) ← readOctet? (← readMark? '.' cs)
  let (c, cs) ← readOctet? (← readMark? '.' cs)
  let (d, cs) ← readOctet? (← readMark? '.' cs)
  return (#v[a, b, c, d], cs)

/-- A group from its high and its low octet. -/
def groupOf (high low : UInt8) : UInt16 := high.toUInt16 <<< 8 ||| low.toUInt16

/-- A run of groups: the groups, whether they end in an embedded version 4 address, and the rest of
the text. -/
structure GroupRun where
  groups : List UInt16 := []
  embedded : Bool := false
  rest : List Char

/--
Reads up to `limit` groups with colons between them. Where two or more may still come, four octets
with dots are taken as two groups and end the run. What does not read as a group is left in the
rest, together with the colon before it.
-/
def readGroups (first : Bool) (cs : List Char) : (limit : Nat) → GroupRun
  | 0 => { rest := cs }
  | limit + 1 =>
    let item := if first then some cs else readMark? ':' cs
    match if limit = 0 then none else item.bind readOctets? with
    | some (o, rest) =>
      { groups := [groupOf o[0] o[1], groupOf o[2] o[3]], embedded := true, rest }
    | none =>
      match item.bind readGroup? with
      | none => { rest := cs }
      | some (group, rest) =>
        let later := readGroups false rest limit
        { later with groups := group :: later.groups }

/-- Eight groups from the start and the end of a list with zeros left out between them. -/
def fillZeros (front back : List UInt16) : Vector UInt16 8 :=
  Vector.ofFn fun i =>
    if i.val < front.length then front.getD i 0
    else if 8 - back.length ≤ i.val then back.getD (i - (8 - back.length)) 0
    else 0

/-- Reads a version 6 address: eight groups, or fewer around two colons that stand for at least one
zero. -/
def readV6? (cs : List Char) : Option (Vector UInt16 8 × List Char) := do
  let front := readGroups true cs 8
  if front.groups.length = 8 then return (fillZeros front.groups [], front.rest)
  if front.embedded then none
  let back := readGroups true (← readMark? ':' (← readMark? ':' front.rest))
    (8 - (front.groups.length + 1))
  return (fillZeros front.groups back.groups, back.rest)

/-- Reads a text that is an address of either version and nothing else. -/
def read? (s : String) : Option IpAddress :=
  match (readOctets? s.toList).filter (·.2.isEmpty) with
  | some (octets, _) => some (.v4 octets)
  | none => ((readV6? s.toList).filter (·.2.isEmpty)).map fun r => .v6 r.1

end AdcFeed.IpAddress

namespace AdcFeed.Endpoint

/-- Reads a port with the colon before it, and nothing else. -/
def readPort? (cs : List Char) : Option UInt16 := do
  let (digits, rest) := IpAddress.digitsOf 10 (← IpAddress.readMark? ':' cs)
  let n := ofDigits 10 digits
  if digits.isEmpty || !rest.isEmpty || 65535 < n then none
  return UInt16.ofNat n

/-- Reads a zone with the percent sign before it. -/
def readZone? (cs : List Char) : Option (UInt32 × List Char) := do
  let (digits, rest) := IpAddress.digitsOf 10 (← IpAddress.readMark? '%' cs)
  let n := ofDigits 10 digits
  if digits.isEmpty || 0xFFFFFFFF < n then none
  return (UInt32.ofNat n, rest)

/-- Reads a text that is an address and a port and nothing else; a version 6 address stands in
brackets, and a zone may follow it there. -/
def read? (s : String) : Option Endpoint :=
  match IpAddress.readOctets? s.toList with
  | some (octets, rest) => (readPort? rest).map fun port => { ip := .v4 octets, port }
  | none => do
    let (groups, rest) ← IpAddress.readV6? (← IpAddress.readMark? '[' s.toList)
    let (zone, rest) := (readZone? rest).getD (0, rest)
    let port ← readPort? (← IpAddress.readMark? ']' rest)
    return { ip := .v6 groups, port, zone }

end AdcFeed.Endpoint
