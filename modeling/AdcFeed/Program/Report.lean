import AdcFeed.CommandLine.Usage
import AdcFeed.Failure
import AdcFeed.Program.LogFilter
import AdcFeed.Text.Lossy
import AdcFeed.CommandLine.Grammar

/-!
What a program leaves behind when it ends.
-/

namespace AdcFeed

/-- The exit code of a program, what it wrote to its standard output, and the lines of its standard
error. -/
structure ProgramReport where
  exitCode : Nat := 0
  stdout : Bytes := []
  stderr : List String := []
  deriving DecidableEq

namespace ProgramReport

/-- The lines of a text. A newline ends a line, and a carriage return before it belongs to the end. -/
def linesOf (text : String) : List String :=
  let pieces := text.toList.splitOn '\n'
  let ended := pieces.dropLast.map fun line =>
    if line.getLast? = some '\r' then line.dropLast else line
  let rest := pieces.getLast?.filter fun line => !line.isEmpty
  (ended ++ rest.toList).map String.ofList

/-- A program whose command line asked for no run: it answers on its standard output or tells the
fault on its standard error. -/
def ofUsage (e : UsageError) : ProgramReport :=
  if e.isAnswer then { exitCode := e.exitCode, stdout := encodeText e.streamedMessage }
  else { exitCode := e.exitCode, stderr := linesOf e.streamedMessage }

/-- The lines that tell of a failure: what could not be done, and below it the causes, each behind
its number. -/
def failureLines (task : String) (failure : Failure) : List String :=
  ["Error: " ++ task, "", "Caused by:", "    0: " ++ failure.message,
    "    1: " ++ failure.cause.text]

/-- The log of a program, as its filter lets it through. -/
def logLines (filter : LogFilter) (events : List Event) : List String :=
  (events.filter filter.logs).map Event.targetLine

end ProgramReport

/-- The filter that the environment asks for; the standard one if it asks for none that can be
read. -/
def LogFilter.ofEnvironment (env : Environment) : LogFilter :=
  (((env.lookup "RUST_LOG").bind decodeText?).bind LogFilter.read?).getD .standard

end AdcFeed
