/-!
Texts for a terminal: words that are set off by control sequences, and what of a text is left when
every control sequence in it is taken out, from the whole text or from a stream. Main statements: a
text without control characters is left as it is, and so is a word of one that is set off.
-/

namespace AdcFeed

/-- A word set off from the text around it. The sequence behind it also ends one that the word
itself may have left open. -/
def emphasize (word : String) : String := "\x1b[1m" ++ word ++ "\x1b[0m"

/-- Where a reader stands in a text for a terminal. -/
inductive TerminalState where
  /-- Between control sequences. -/
  | text
  /-- Behind an escape character. -/
  | escape
  /-- Inside an escape sequence of more than one character. -/
  | longEscape
  /-- Inside a control sequence that takes parameters. -/
  | control
  /-- At the start of a device control string. -/
  | deviceStart
  /-- Among the parameters of a device control string. -/
  | deviceParameters
  /-- Behind the parameters of a device control string. -/
  | deviceIntermediates
  /-- Inside a string that a terminator ends. -/
  | string
  /-- Inside a command to the system behind the terminal, which a bell ends. -/
  | command
  deriving DecidableEq, Repr

/-- The control characters that lay out text. -/
def isLayout (c : Char) : Bool := c = '\t' || c = '\n' || c = '\x0c' || c = '\r'

/-- Whether the code point of the character lies in the range, both ends included. -/
def isBetween (low high : Nat) (c : Char) : Bool := low ≤ c.toNat && c.toNat ≤ high

/-- Whether one of the UTF-8 bytes of the character is the string terminator of eight bits. -/
def holdsTerminator (c : Char) : Bool := (String.utf8EncodeChar c).contains 0x9C

namespace TerminalState

/-- Whether a character belongs to the text. Layout does even inside a control sequence, but not
inside a string. -/
def shows (s : TerminalState) (c : Char) : Bool :=
  match s with
  | .text => isLayout c || (0x20 ≤ c.toNat && c.toNat ≠ 0x7F)
  | .escape | .longEscape | .control => isLayout c
  | _ => false

/-- Where the reader stands behind a character that does not belong to the text. -/
def next (s : TerminalState) (c : Char) : TerminalState :=
  if c = '\x1b' then .escape
  else if c = '\x18' || c = '\x1a' then .text
  else
    match s with
    | .text => .text
    | .escape =>
      if c = '[' then .control
      else if c = ']' then .command
      else if c = 'P' then .deviceStart
      else if c = 'X' || c = '^' || c = '_' then .string
      else if isBetween 0x20 0x2F c then .longEscape
      else if isBetween 0x30 0x7E c then .text
      else .escape
    | .longEscape => if isBetween 0x30 0x7E c then .text else .longEscape
    | .control => if isBetween 0x40 0x7E c then .text else .control
    | .deviceStart =>
      if isBetween 0x20 0x2F c then .deviceIntermediates
      else if isBetween 0x30 0x3F c then .deviceParameters
      else if isBetween 0x40 0x7E c then .string
      else .deviceStart
    | .deviceParameters =>
      if isBetween 0x20 0x2F c then .deviceIntermediates
      else if isBetween 0x3C 0x7E c then .string
      else .deviceParameters
    | .deviceIntermediates => if isBetween 0x30 0x7E c then .string else .deviceIntermediates
    | .string => if holdsTerminator c then .text else .string
    | .command => if c = '\x07' then .text else .command

/-- What belongs to the text of the characters read from here on. A character that does ends every
control sequence. -/
def shown (s : TerminalState) : List Char → List Char
  | [] => []
  | c :: cs => if s.shows c then c :: shown .text cs else shown (s.next c) cs

/-- What belongs to the text of a stream from here on. Layout does not end the control sequence that
it stands in: what follows is shown as text, but the next character that cannot be shown finds the
sequence open again, unless a character of several bytes has come between. Whether the last
character was shown is `showing`. -/
def streamed (s : TerminalState) (showing : Bool) : List Char → List Char
  | [] => []
  | c :: cs =>
    if (if showing then TerminalState.text else s).shows c then
      c :: streamed (if 0x7F < c.toNat then .text else s) true cs
    else streamed (s.next c) false cs

theorem shown_append {cs : List Char} (h : ∀ c ∈ cs, TerminalState.text.shows c = true)
    (ds : List Char) : shown .text (cs ++ ds) = cs ++ shown .text ds := by
  induction cs with
  | nil => rfl
  | cons c cs ih =>
    rw [List.cons_append, shown, if_pos (h c (List.mem_cons_self ..)),
      ih fun d hd => h d (List.mem_cons_of_mem _ hd), List.cons_append]

theorem shown_eq_self {cs : List Char} (h : ∀ c ∈ cs, TerminalState.text.shows c = true) :
    shown .text cs = cs := by
  simpa [shown] using shown_append h []

theorem streamed_eq_self {cs : List Char} (h : ∀ c ∈ cs, TerminalState.text.shows c = true)
    (showing : Bool) : streamed .text showing cs = cs := by
  induction cs generalizing showing with
  | nil => rfl
  | cons c cs ih =>
    have hc := h c (List.mem_cons_self ..)
    rw [streamed, ite_self, if_pos hc, ite_self, ih fun d hd => h d (List.mem_cons_of_mem _ hd)]

end TerminalState

/-- The text without control sequences and other control characters. -/
def visibleText (s : String) : String := String.ofList (TerminalState.text.shown s.toList)

/-- The text without control sequences and other control characters, as a stream shows it. -/
def streamedText (s : String) : String :=
  String.ofList (TerminalState.text.streamed false s.toList)

theorem visibleText_emphasize {word : String}
    (h : ∀ c ∈ word.toList, TerminalState.text.shows c = true) :
    visibleText (emphasize word) = word := by
  have start (cs : List Char) :
      TerminalState.text.shown ('\x1b' :: '[' :: '1' :: 'm' :: cs)
        = TerminalState.text.shown cs := by
    simp [TerminalState.shown, TerminalState.shows, TerminalState.next, isLayout, isBetween]
  have stop : TerminalState.text.shown ['\x1b', '[', '0', 'm'] = [] := by decide
  have split : (emphasize word).toList
      = '\x1b' :: '[' :: '1' :: 'm' :: (word.toList ++ ['\x1b', '[', '0', 'm']) := by
    simp [emphasize]
  rw [visibleText, split, start, TerminalState.shown_append h, stop, List.append_nil,
    String.ofList_toList]

end AdcFeed
