import AdcFeed.Program.FieldPattern.Mode

/-!
Choices of characters, which a pattern has in brackets. A choice holds characters, ranges of them,
classes with a name and choices of its own, and operators that cut one choice out of another.
-/

namespace AdcFeed

/-- A choice that is being read. -/
structure OpenChoice where
  /-- The height of what stands left of the last operator. -/
  left : Option Nat := none
  /-- The heights of the members since then, the last one first. -/
  members : List Nat := []
  /-- Nothing but dashes was read so far; they stand for themselves. -/
  fresh : Bool := true

namespace OpenChoice

/-- The height of what was read. -/
def height (choice : OpenChoice) : Nat :=
  let right := nestedHeight choice.members
  choice.left.elim right fun left => max left right + 1

/-- The choice with one more member. -/
def add (choice : OpenChoice) (height : Nat) (fresh : Bool) : OpenChoice :=
  { choice with members := height :: choice.members, fresh }

/-- The choice behind an operator. -/
def operate (choice : OpenChoice) : OpenChoice :=
  { left := some choice.height, members := [], fresh := false }

end OpenChoice

/-- The names of the classes of ASCII characters. -/
def asciiClassNames : List String :=
  ["alnum", "alpha", "ascii", "blank", "cntrl", "digit", "graph", "lower", "print", "punct",
   "space", "upper", "word", "xdigit"]

/-- Reads the rest of an ASCII class between brackets and colons, behind the first bracket. Behind
a caret the class holds what is not in it. -/
def readAsciiClass? : List Char → Option (Bool × List Char)
  | ':' :: cs =>
    let negative := cs.head? = some '^'
    let cs := if negative then cs.drop 1 else cs
    let name := cs.takeWhile (· ≠ ':')
    match cs.drop name.length with
    | ':' :: ']' :: rest =>
      if String.ofList name ∈ asciiClassNames then some (negative, rest) else none
    | _ => none
  | _ => none

namespace PatternMode

/-- Whether a choice may hold what an element stands for. Among bytes it holds ASCII only. -/
def allowsMember (mode : PatternMode) : PatternElement → Bool
  | .character c => !mode.folds && (mode.unicode || c.toNat ≤ 0x7F)
  | .choice => true
  | .place => false

/-- Reads one member of a choice. -/
def readMember? (mode : PatternMode) : List Char → Option (PatternElement × List Char)
  | [] => none
  | c :: cs => do
    let (element, rest) ← if c = '\\' then mode.readEscape? cs else some (.character c, cs)
    if mode.allowsMember element then some (element, rest) else none

/-- Reads a member of a choice, or a range from one to another. -/
def readRange? (mode : PatternMode) (cs : List Char) : Option (List Char) := do
  let (low, rest) ← mode.readMember? cs
  match mode.skipSpace rest with
  | '-' :: rest =>
    if mode.peekSpace rest = some ']' || mode.peekSpace rest = some '-' then some ('-' :: rest)
    else
      match low, ← mode.readMember? (mode.skipSpace rest) with
      | .character low, (.character high, rest) => if low ≤ high then some rest else none
      | _, _ => none
  | rest => some rest

/-- Reads what only the start of a choice can hold, behind its bracket: a caret. -/
def readCaret? (mode : PatternMode) (cs : List Char) : Option (List Char) :=
  match mode.skipSpace cs with
  | '^' :: rest => if mode.unicode then some rest else none
  | rest => some rest

/-- Reads the rest of a choice inside others in at most so many parts, and gives its height. -/
def readChoice? (mode : PatternMode) (choice : OpenChoice) (outer : List OpenChoice)
    (cs : List Char) : (parts : Nat) → Option (Nat × List Char)
  | 0 => none
  | parts + 1 =>
    match mode.skipSpace cs with
    | [] => none
    | '[' :: cs =>
      match readAsciiClass? cs with
      | some (negative, rest) =>
        if mode.folds || (negative && !mode.unicode) then none
        else mode.readChoice? (choice.add 0 false) outer rest parts
      | none =>
        (mode.readCaret? cs).bind fun rest =>
          mode.readChoice? {} ({ choice with fresh := false } :: outer) rest parts
    | c :: cs =>
      if choice.fresh && (c = '-' || (c = ']' && choice.members.isEmpty)) then
        if mode.folds then none
        else mode.readChoice? (choice.add 0 (c = '-')) outer cs parts
      else if c = ']' then
        match outer with
        | [] => some (choice.height + 1, cs)
        | parent :: outer => mode.readChoice? (parent.add (choice.height + 1) false) outer cs parts
      else if (c = '&' || c = '-' || c = '~') && cs.head? = some c then
        mode.readChoice? choice.operate outer (cs.drop 1) parts
      else
        (mode.readRange? (c :: cs)).bind fun rest =>
          mode.readChoice? (choice.add 0 false) outer rest parts

end PatternMode

end AdcFeed
