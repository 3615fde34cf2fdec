import AdcFeed.Text.Terminal

/-!
How a command line can fail to ask for a run.
-/

namespace AdcFeed

/-- Why no run follows from a command line. -/
inductive UsageError where
  /-- The help text was asked for; it may be written for a terminal. -/
  | help (text : String)
  /-- The version was asked for. -/
  | version (text : String)
  /-- An argument that is nowhere expected. -/
  | unknownArgument (argument : String)
  /-- Positional arguments are missing. -/
  | missingArguments (labels : List String)
  /-- A value that its parameter refuses. -/
  | invalidValue (label value reason : String)
  /-- An option without its value. -/
  | missingValue (label : String)
  /-- An option that was given twice. -/
  | repeatedOption (label : String)
  /-- A value for a flag that takes none. -/
  | unneededValue (flag value : String)
  /-- A value that is no text. -/
  | invalidUtf8
  deriving DecidableEq, Repr

namespace UsageError

/-- A text up to its first blank line, without a newline at its end. -/
def firstParagraph : List Char → List Char
  | [] => []
  | c :: cs =>
    if c = '\n' ∧ (cs = [] ∨ cs.head? = some '\n') then [] else c :: firstParagraph cs

/-- What is said of the failure, for a terminal. What the user typed is set off, but for the words
of a reason. -/
def statement : UsageError → String
  | .help text => text
  | .version text => text
  | .unknownArgument argument => "error: unexpected argument '" ++ emphasize argument ++ "' found"
  | .missingArguments labels =>
    "error: the following required arguments were not provided:"
      ++ String.join (labels.map fun label => "\n  " ++ emphasize label)
  | .invalidValue label value reason =>
    "error: invalid value '" ++ emphasize value ++ "' for '" ++ emphasize label ++ "': " ++ reason
  | .missingValue label =>
    "error: a value is required for '" ++ emphasize label ++ "' but none was supplied"
  | .repeatedOption label =>
    "error: the argument '" ++ emphasize label ++ "' cannot be used multiple times"
  | .unneededValue flag value =>
    "error: unexpected value '" ++ emphasize value ++ "' for '" ++ emphasize flag
      ++ "' found; no more were expected"
  | .invalidUtf8 => "error: invalid UTF-8 was detected in one or more arguments"

/-- Where to look for help after a failure, for a terminal. -/
def advice : String := "\n\nFor more information, try '" ++ emphasize "--help" ++ "'.\n"

/-- Whether the failure is an answer to a question rather than a fault. -/
def isAnswer : UsageError → Bool
  | .help _ | .version _ => true
  | _ => false

/-- All that is said, for a terminal: an answer, or a fault with the advice. -/
def fullText (e : UsageError) : String :=
  if e.isAnswer then e.statement else e.statement ++ advice

/-- What counts of a text that says it: an answer in full, a fault up to its first blank line. -/
def cut (e : UsageError) (text : String) : String :=
  if e.isAnswer then text else String.ofList (firstParagraph text.toList)

/-- The message. Control sequences are taken out of the whole before it is cut, so one that a reason
leaves open can reach into the advice. -/
def message (e : UsageError) : String := e.cut (visibleText e.fullText)

/-- The message as a program writes it to a stream. -/
def streamedMessage (e : UsageError) : String := e.cut (streamedText e.fullText)

/-- The exit code of a program whose command line failed so. -/
def exitCode (e : UsageError) : Nat := if e.isAnswer then 0 else 2

end UsageError

end AdcFeed
