import AdcFeed.Program.FieldPattern.Choice

/-!
The notation of the patterns that a log filter may hold the value of a field against. A pattern is
read from the left, one part at a time; what is read only tells whether the text is a pattern, and
how deep its parts are nested.

The braces and commas of a filter have a meaning of their own, so the notation has no counted
repetition.
-/

namespace AdcFeed

/-- A part of a pattern: its height, and whether it can be repeated. -/
structure PatternPart where
  height : Nat := 0
  repeatable : Bool := true

/-- What a group is inside of: the mode, the parts before the group, the last one first, and the
heights of the branches before them. -/
structure OpenGroup where
  mode : PatternMode
  parts : List PatternPart
  branches : List Nat

/-- Where a reader stands in a pattern: the mode in force, the parts of the branch that is being
read, the last one first, the heights of the branches before it, the open groups, and the names of
groups. -/
structure PatternState where
  mode : PatternMode := {}
  parts : List PatternPart := []
  branches : List Nat := []
  groups : List OpenGroup := []
  names : List (List Char) := []

/-- The height of the highest pattern. -/
def maxPatternHeight : Nat := 250

/-- Reads the name of a group up to the angle bracket behind it. -/
def readGroupName? (cs : List Char) : Option (List Char × List Char) :=
  let name := cs.takeWhile (· ≠ '>')
  match name, cs.drop name.length with
  | first :: more, _ :: rest =>
    if (first = '_' || isAlphabetic first)
        && more.all fun c => c ∈ ['_', '.', '[', ']'] || isAlphanumeric c then
      some (name, rest)
    else none
  | _, _ => none

namespace PatternState

/-- The height of the branch that is being read. -/
def branchHeight (s : PatternState) : Nat := nestedHeight (s.parts.map (·.height))

/-- The height of all branches. -/
def height (s : PatternState) : Nat := nestedHeight (s.branchHeight :: s.branches)

/-- The state behind one more part. -/
def add (s : PatternState) (part : PatternPart) : PatternState :=
  { s with parts := part :: s.parts }

/-- Opens a group with a mode of its own. -/
def openGroup (s : PatternState) (mode : PatternMode) : PatternState :=
  { s with
    mode
    parts := []
    branches := []
    groups := { mode := s.mode, parts := s.parts, branches := s.branches } :: s.groups }

/-- Closes the innermost group. -/
def closeGroup? (s : PatternState) : Option PatternState :=
  match s.groups with
  | [] => none
  | group :: groups =>
    some
      { s with
        mode := group.mode
        parts := { height := s.height + 1 } :: group.parts
        branches := group.branches
        groups }

/-- Reads what stands behind an opening parenthesis. -/
def readGroup? (s : PatternState) : List Char → Option (PatternState × List Char)
  | '?' :: cs =>
    let name? : Option (List Char) :=
      match cs with
      | 'P' :: '<' :: cs | '<' :: cs => some cs
      | _ => none
    match name? with
    | some cs => do
      let (name, cs) ← readGroupName? cs
      if name ∈ s.names then none
      return ({ s.openGroup s.mode with names := name :: s.names }, cs)
    | none => do
      let (mode, mark, cs) ← s.mode.readLetters? [] cs
      if mark = ')' then return (add { s with mode } { repeatable := false }, cs)
      else return (s.openGroup mode, cs)
  | cs => some (s.openGroup s.mode, cs)

/-- Repeats the last part. -/
def repeatLast? (s : PatternState) : Option PatternState :=
  match s.parts with
  | [] => none
  | part :: parts =>
    if part.repeatable then some { s with parts := { height := part.height + 1 } :: parts }
    else none

/-- Reads an element that stands for one character or for none. -/
def readElement? (s : PatternState) (element : PatternElement) : Option PatternState :=
  match element with
  | .character _ => if s.mode.folds then none else some (s.add {})
  | _ => some (s.add {})

/-- Reads the next part of a pattern, which starts with `c`. -/
def readPart? (s : PatternState) (c : Char) (cs : List Char) :
    Option (PatternState × List Char) :=
  if c = '(' then s.readGroup? (s.mode.skipSpace cs)
  else if c = ')' then s.closeGroup?.map fun s => (s, cs)
  else if c = '|' then
    some ({ s with parts := [], branches := s.branchHeight :: s.branches }, cs)
  else if c = '[' then do
    let (height, rest) ← s.mode.readChoice? {} [] (← s.mode.readCaret? cs) cs.length
    return (s.add { height }, rest)
  else if c = '?' || c = '*' || c = '+' then
    s.repeatLast?.map fun s => (s, if cs.head? = some '?' then cs.drop 1 else cs)
  else if c = '{' then none
  else if c = '\\' then do
    let (element, rest) ← s.mode.readEscape? cs
    return (← s.readElement? element, rest)
  else if c = '.' then
    if s.mode.unicode then (s.readElement? .choice).map fun s => (s, cs) else none
  else if c = '^' || c = '$' then (s.readElement? .place).map fun s => (s, cs)
  else (s.readElement? (.character c)).map fun s => (s, cs)

/-- Whether a pattern can end here. -/
def canEnd (s : PatternState) : Bool := s.groups.isEmpty && s.height ≤ maxPatternHeight

/-- Whether the rest of a pattern can be read to its end, in at most so many parts. -/
def readsAll (s : PatternState) (cs : List Char) : (parts : Nat) → Bool
  | 0 => cs.isEmpty && s.canEnd
  | parts + 1 =>
    match s.mode.skipSpace cs with
    | [] => s.canEnd
    | c :: cs =>
      match s.readPart? c cs with
      | none => false
      | some (s, rest) => s.readsAll rest parts

end PatternState

/-- Whether the text is a pattern. Every part holds at least one character. -/
def isPattern (cs : List Char) : Bool := ({} : PatternState).readsAll cs cs.length

end AdcFeed
