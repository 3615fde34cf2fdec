import AdcFeed.CommandLine.Usage
import AdcFeed.Text.Lossy

/-!
Command lines made of positional arguments and long options with a value. Arguments are read from
left to right; each value is kept until something else starts, and only then checked, so the first
fault that shows is the one reported.
-/

namespace AdcFeed

/-- The values of the environment, as far as they are set. -/
abbrev Environment := List (String × Bytes)

/-- A place for one value: how messages name it, and how a value is put into what has been gathered,
or the reason why it cannot be. -/
structure Parameter (α : Type) where
  label : String
  store : α → String → Except String α

/-- A parameter that is given by name, or by an environment variable if it is not. -/
structure NamedParameter (α : Type) extends Parameter α where
  name : String
  envName : String

/-- What a command line may hold, and what it answers to questions. -/
structure CommandGrammar (α : Type) where
  positionals : List (Parameter α)
  options : List (NamedParameter α) := []
  help : Environment → String
  version : String

/-- A value that has been met and not yet checked. -/
inductive PendingValue (α : Type) where
  | none
  | positional (parameter : Parameter α) (value : Bytes)
  /-- An option; its value has maybe not been met. -/
  | option (parameter : NamedParameter α) (value : Option Bytes)

/-- A command line read up to some argument: what was gathered, the positional parameters still to
come, the names of the options given, the value not yet checked, and whether every further argument
is positional. -/
structure CommandState (α : Type) where
  gathered : α
  positionals : List (Parameter α)
  given : List String := []
  pending : PendingValue α := .none
  onlyPositionals : Bool := false

/-- Checks a value and puts it into what has been gathered. -/
def Parameter.accept {α : Type} (p : Parameter α) (gathered : α) (value : Bytes) :
    Except UsageError α :=
  match decodeText? value with
  | none => .error .invalidUtf8
  | some text =>
    match p.store gathered text with
    | .ok gathered => .ok gathered
    | .error reason => .error (.invalidValue p.label text reason)

namespace CommandState

variable {α : Type}

/-- Puts the value of an option into what has been gathered; a second value is refused unseen. -/
def acceptOption (s : CommandState α) (p : NamedParameter α) (value : Bytes) :
    Except UsageError (CommandState α) :=
  if p.name ∈ s.given then .error (.repeatedOption p.label)
  else
    (p.accept s.gathered value).map fun gathered =>
      { s with gathered, given := p.name :: s.given }

/-- Checks the value that is pending, if there is one. -/
def settle (s : CommandState α) : Except UsageError (CommandState α) :=
  match s.pending with
  | .none => .ok s
  | .positional p value =>
    (p.accept s.gathered value).map fun gathered => { s with gathered, pending := .none }
  | .option p none => .error (.missingValue p.label)
  | .option p (some value) => { s with pending := .none }.acceptOption p value

/-- Takes a positional argument, or the value of an option that waits for one. -/
def takeValue (s : CommandState α) (arg : Bytes) : Except UsageError (CommandState α) :=
  match s.onlyPositionals, s.pending with
  | false, .option p none => .ok { s with pending := .option p (some arg) }
  | _, _ =>
    match s.positionals with
    | [] => .error (.unknownArgument (lossyText arg))
    | p :: positionals => do
      let s ← s.settle
      return { s with positionals, pending := .positional p arg }

end CommandState

/-- The form of an argument that may start an option. -/
inductive ArgumentForm where
  /-- Two dashes alone. -/
  | separator
  /-- Two dashes and a name, maybe with a value after an equals sign. -/
  | long (name : Bytes) (value : Option Bytes)
  /-- One dash and at least one byte. -/
  | short (letters : Bytes)
  | plain
  deriving DecidableEq

/-- The byte of a dash. -/
def dash : UInt8 := 45

/-- The byte of an equals sign. -/
def equalsSign : UInt8 := 61

/-- The form of an argument. -/
def ArgumentForm.of (arg : Bytes) : ArgumentForm :=
  match arg with
  | [] => .plain
  | first :: rest =>
    if first ≠ dash then .plain
    else
      match rest with
      | [] => .plain
      | second :: name =>
        if second ≠ dash then .short rest
        else if name.isEmpty then .separator
        else
          match name.dropWhile (· ≠ equalsSign) with
          | [] => .long name none
          | _ :: value => .long (name.takeWhile (· ≠ equalsSign)) (some value)

namespace CommandGrammar

variable {α : Type} (g : CommandGrammar α)

/-- Takes an argument with two dashes. -/
def takeLong (env : Environment) (s : CommandState α) (name : Bytes) (value : Option Bytes) :
    Except UsageError (CommandState α) :=
  let flag (text : String) (answer : UsageError) : Except UsageError (CommandState α) :=
    match value with
    | some value => .error (.unneededValue ("--" ++ text) (lossyText value))
    | none => s.settle.bind fun _ => .error answer
  if name = encodeText "help" then flag "help" (.help (g.help env))
  else if name = encodeText "version" then flag "version" (.version g.version)
  else
    match g.options.find? fun p => encodeText p.name = name with
    | none => .error (.unknownArgument ("--" ++ lossyText name))
    | some p => do
      let s ← s.settle
      match value with
      | none => return { s with pending := .option p none }
      | some value => s.acceptOption p value

/-- The first character of letters after a dash, or all of them if they start with none. -/
def firstLetter (letters : Bytes) : String :=
  match letters with
  | [] => ""
  | first :: rest =>
    let size := characterSize first - 1
    (decodeText? (first :: rest.take size)).getD (lossyText letters)

/-- Takes an argument with one dash: its first letter decides. -/
def takeShort (env : Environment) (s : CommandState α) (letters : Bytes) :
    Except UsageError (CommandState α) :=
  let letter := firstLetter letters
  if letter = "h" then s.settle.bind fun _ => .error (.help (g.help env))
  else if letter = "V" then s.settle.bind fun _ => .error (.version g.version)
  else .error (.unknownArgument ("-" ++ letter))

/-- Takes the next argument. -/
def takeArgument (env : Environment) (s : CommandState α) (arg : Bytes) :
    Except UsageError (CommandState α) :=
  if s.onlyPositionals then s.takeValue arg
  else
    match ArgumentForm.of arg with
    | .separator => .ok { s with onlyPositionals := true }
    | .long name value => g.takeLong env s name value
    | .short letters => g.takeShort env s letters
    | .plain => s.takeValue arg

/-- Takes the variable of an option that was not given, if it is set. -/
def takeVariable (env : Environment) (s : CommandState α) (p : NamedParameter α) :
    Except UsageError (CommandState α) :=
  if p.name ∈ s.given then .ok s
  else
    match env.lookup p.envName with
    | none => .ok s
    | some value => (p.accept s.gathered value).map fun gathered => { s with gathered }

/-- Reads a whole command line, then the environment. -/
def read (env : Environment) (start : α) (args : List Bytes) : Except UsageError α := do
  let s ← args.foldlM (g.takeArgument env) { gathered := start, positionals := g.positionals }
  let s ← s.settle
  let s ← g.options.foldlM (takeVariable env) s
  return s.gathered

end CommandGrammar

end AdcFeed
