import AdcFeed.Text.Letters

/-!
How the characters of a pattern are meant, which a pattern itself may change on its way, and what
stands behind a backslash.

What would need a table of scripts is refused: classes of characters behind a backslash, the bounds
of words, and characters whose case does not matter, unless they are meant as bytes.
-/

namespace AdcFeed

/-- How the elements of a pattern are meant from some place on. -/
structure PatternMode where
  /-- Capitals and small letters are not told apart. -/
  caseless : Bool := false
  /-- Characters are those of every script, and not bytes. -/
  unicode : Bool := true
  /-- Space and remarks do not count. -/
  verbose : Bool := false
  deriving DecidableEq, Repr

/-- An element of a pattern that stands for one character or for none. -/
inductive PatternElement where
  | character (c : Char)
  /-- One of several characters. -/
  | choice
  /-- A place between characters. -/
  | place
  deriving DecidableEq

/-- The value of a hexadecimal digit. -/
def hexDigit? (c : Char) : Option Nat :=
  if c.isDigit then some (c.toNat - '0'.toNat)
  else if 'a' ≤ c ∧ c ≤ 'f' then some (c.toNat - 'a'.toNat + 10)
  else if 'A' ≤ c ∧ c ≤ 'F' then some (c.toNat - 'A'.toNat + 10)
  else none

/-- A text from the first character on that is neither space nor in a remark. A remark starts with
a number sign and ends with its line. -/
def skipRemarks : (inRemark : Bool) → List Char → List Char
  | _, [] => []
  | true, c :: cs => skipRemarks (c ≠ '\n') cs
  | false, c :: cs =>
    if isWhiteSpace c then skipRemarks false cs
    else if c = '#' then skipRemarks true cs
    else c :: cs

namespace PatternMode

/-- A text from the first character on that counts. -/
def skipSpace (mode : PatternMode) (cs : List Char) : List Char :=
  if mode.verbose then skipRemarks false cs else cs

/-- The character ahead that tells whether a dash stands for a range. In front of it space is
passed over, and one number sign, but not the remark that it starts; where nothing else is left, it
is the space itself. -/
def peekSpace (mode : PatternMode) (cs : List Char) : Option Char :=
  if mode.verbose then
    let rest := cs.dropWhile isWhiteSpace
    let rest := if rest.head? = some '#' then (rest.drop 1).dropWhile isWhiteSpace else rest
    rest.head?.or cs.head?
  else cs.head?

/-- Whether the other case of a character would have to be looked up among all scripts. -/
def folds (mode : PatternMode) : Bool := mode.caseless && mode.unicode

/-- Reads so many hexadecimal digits of a number behind the part read so far. -/
def readHex? (mode : PatternMode) (n : Nat) : (size : Nat) → List Char → Option (Nat × List Char)
  | 0, cs => some (n, cs)
  | size + 1, cs =>
    match mode.skipSpace cs with
    | [] => none
    | c :: cs => (hexDigit? c).bind fun d => mode.readHex? (n * 16 + d) size cs

/-- Reads a character written as a number of so many hexadecimal digits. Two digits are a byte where
characters are bytes, and no byte of a longer character can stand alone. -/
def readCode? (mode : PatternMode) (size : Nat) (cs : List Char) :
    Option (PatternElement × List Char) := do
  let (n, rest) ← mode.readHex? 0 size cs
  if !n.isValidChar || (!mode.unicode && size = 2 && 0x7F < n) then none
  return (.character (Char.ofNat n), rest)

/-- Reads what stands behind a backslash. -/
def readEscape? (mode : PatternMode) : List Char → Option (PatternElement × List Char)
  | [] => none
  | c :: cs =>
    if c = 'x' then mode.readCode? 2 cs
    else if c = 'u' then mode.readCode? 4 cs
    else if c = 'U' then mode.readCode? 8 cs
    else if c = 'd' || c = 's' || c = 'w' then
      if mode.unicode then none else some (.choice, cs)
    else if c = 'b' || c = 'B' || c = '<' || c = '>' then
      if mode.unicode then none else some (.place, cs)
    else if c = 'A' || c = 'z' then some (.place, cs)
    else if c = 'a' || c = 'f' || c = 't' || c = 'n' || c = 'r' || c = 'v' then
      some (.character (if c = 'a' then '\x07' else if c = 'f' then '\x0c' else if c = 't' then '\t'
        else if c = 'n' then '\n' else if c = 'r' then '\r' else '\x0b'), cs)
    else if c.isAlphanum || 0x7F < c.toNat then none
    else some (.character c, cs)

/-- Sets what a letter stands for, on or off. -/
def set? (mode : PatternMode) (on : Bool) (letter : Char) : Option PatternMode :=
  if letter = 'i' then some { mode with caseless := on }
  else if letter = 'u' then some { mode with unicode := on }
  else if letter = 'x' then some { mode with verbose := on }
  else if letter ∈ ['m', 's', 'U', 'R'] then some mode
  else none

/-- Reads letters that change the mode, each at most once, up to the colon of a group or to a
closing parenthesis. The letters behind a dash turn off. What was read so far is `seen`. -/
def readLetters? (mode : PatternMode) (seen : List Char) :
    List Char → Option (PatternMode × Char × List Char)
  | [] => none
  | c :: cs =>
    if c = ':' || c = ')' then
      if seen.head? = some '-' || (c = ')' && seen.isEmpty) then none else some (mode, c, cs)
    else if c ∈ seen then none
    else if c = '-' then mode.readLetters? (c :: seen) cs
    else
      match mode.set? (!seen.contains '-') c with
      | none => none
      | some mode => mode.readLetters? (c :: seen) cs

end PatternMode

/-- The height of what holds parts of these heights: a single part is not nested in anything. -/
def nestedHeight : List Nat → Nat
  | [] => 0
  | [height] => height
  | heights => heights.foldl max 0 + 1

end AdcFeed
