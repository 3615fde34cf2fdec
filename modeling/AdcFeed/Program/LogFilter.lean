import AdcFeed.Event
import AdcFeed.Number.Numeral
import AdcFeed.Program.FieldPattern
import AdcFeed.Text.Integer

/-!
Which events a program writes to its log. A filter is a list of directives with commas between
them; each names a level, or a part of the program, a span or a field, with or without a level for
it. The closest directive that concerns an event decides whether it is logged.
-/

namespace AdcFeed

/-- A field that a directive asks for: its name, and whether it must have a certain value. -/
structure LogField where
  name : String
  hasValue : Bool := false
  deriving DecidableEq, Repr

/-- Events of parts of the program whose name starts with `target`, that are told inside the span
and have the field, are logged up to the level with this rank. What is not given does not matter;
rank zero logs nothing. -/
structure LogDirective where
  target : Option String := none
  span : Option String := none
  field : Option LogField := none
  rank : Nat := Level.trace.rank
  deriving DecidableEq, Repr

/-- Reads a field, and behind an equals sign a value for it: a truth value, a number or a
pattern. -/
def LogField.read? (text : String) : Option LogField :=
  match text.toList.splitOn '=' with
  | name :: value :: _ =>
    if (Numeral.read? (String.ofList value)).isSome || isPattern value then
      some { name := String.ofList name, hasValue := true }
    else none
  | _ => some { name := text }

namespace LogDirective

/-- The rank that a word or a number stands for. -/
def readRank? (word : String) : Option Nat :=
  match IntegerRange.unsigned64.read word.toList with
  | .ok n => if n ≤ 5 then some n.toNat else none
  | .error _ =>
    match String.ofList (word.toList.map Char.toLower) with
    | "off" => some 0
    | "error" => some 1
    | "warn" => some 2
    | "info" => some 3
    | "debug" => some 4
    | "trace" => some 5
    | _ => none

/-- Whether a directive can start with the character. -/
def canStart (c : Char) : Bool := c = '-' || c = ':' || c = '_' || isAlphanumeric c

/-!
The parts of a directive are found in its text without the space around it, but cut out of the whole
text at the places found. Space behind the text thus belongs to the last part, and space before it
moves every part. The readers below take the whole text, the place of the next part and the rest of
the text without space from there on.
-/

/-- The part of so many bytes at a place; nothing if it would cut a character in two. -/
def cut? (whole : Bytes) (place size : Nat) : Option String :=
  decodeText? ((whole.drop place).take size)

/-- Reads the level behind an equals sign: every level if it is left out. -/
def readLevel? (d : LogDirective) (whole : Bytes) (place : Nat) : Option LogDirective := do
  let word ← decodeText? (whole.drop place)
  if word.isEmpty then return d
  return { d with rank := ← readRank? word }

/-- Reads what may stand behind the brackets of a span. -/
def readEnd? (d : LogDirective) (whole : Bytes) (place : Nat) : Bytes → Option LogDirective
  | [] => some d
  | b :: _ => if b = '='.toUInt8 then d.readLevel? whole (place + 1) else none

/-- Reads a field in braces, behind the first of them, and the bracket behind it. -/
def readField? (d : LogDirective) (whole : Bytes) (place : Nat) (rest : Bytes) :
    Option LogDirective := do
  let size := (rest.takeWhile (· ≠ '\x7d'.toUInt8)).length
  let word ← cut? whole place size
  if word.isEmpty then none
  let d := { d with field := some (← LogField.read? word) }
  match rest.drop size with
  | _ :: b :: rest =>
    if b = ']'.toUInt8 then d.readEnd? whole (place + size + 2) rest else none
  | _ => none

/-- Reads a span, behind its first bracket: its name and maybe a field. Beside a field the name may
be left out. -/
def readSpan? (d : LogDirective) (whole : Bytes) (place : Nat) (rest : Bytes) :
    Option LogDirective := do
  let size := (rest.takeWhile fun b => b ≠ ']'.toUInt8 ∧ b ≠ '\x7b'.toUInt8).length
  let name ← cut? whole place size
  match rest.drop size with
  | [] => none
  | b :: rest =>
    if b = ']'.toUInt8 then readEnd? { d with span := some name } whole (place + size + 1) rest
    else
      let span := if name.isEmpty then none else some name
      readField? { d with span } whole (place + size + 1) rest

/-- Reads a directive. -/
def read? (word : String) : Option LogDirective := do
  let whole := encodeText word
  let trimmed := trimSpace word.toList
  let rest := encodeText (String.ofList trimmed)
  let first ← trimmed.head?
  if first = '[' then ({} : LogDirective).readSpan? whole 1 (rest.drop 1)
  else if !canStart first then none
  else
    let size := (rest.takeWhile fun b => b ≠ '='.toUInt8 ∧ b ≠ '['.toUInt8).length
    match rest.drop size with
    | [] =>
      match readRank? word with
      | some rank => return { rank }
      | none => return { target := some word }
    | b :: rest =>
      let d : LogDirective := { target := some (← cut? whole 0 size) }
      if b = '['.toUInt8 then d.readSpan? whole (size + 1) rest
      else d.readLevel? whole (size + 1)

/-- Whether the directive concerns an event. Events are not told inside spans and carry nothing but
their words, so a span or a value rules them out. -/
def concerns (d : LogDirective) (e : Event) : Bool :=
  d.span.isNone && (d.field.all fun f => f.name = Event.fieldName && !f.hasValue)
    && (d.target.all fun t => t.toList.isPrefixOf e.target.toList)

/-- How closely the directive describes events: by the length of its target and then by a field. -/
def closeness (d : LogDirective) : Nat :=
  2 * (d.target.elim 0 fun t => t.length + 1) + (if d.field.isSome then 1 else 0)

end LogDirective

/-- A list of directives. -/
abbrev LogFilter := List LogDirective

namespace LogFilter

/-- The filter of a program that was given none. -/
def standard : LogFilter := [{ rank := Level.info.rank }]

/-- Reads a filter; one without any directive logs errors. -/
def read? (text : String) : Option LogFilter := do
  let words := (text.toList.splitOn ',').filter fun w => !w.isEmpty
  match ← words.mapM fun w => LogDirective.read? (String.ofList w) with
  | [] => return [{ rank := Level.error.rank }]
  | directives => return directives

/-- Whether an event is logged: the closest directive that concerns it decides, and of several
equally close ones the last. -/
def logs (filter : LogFilter) (e : Event) : Bool :=
  let closest :=
    (filter.filter (·.concerns e)).foldl
      (fun (best : Option LogDirective) d =>
        if best.all fun b => b.closeness ≤ d.closeness then some d else best) none
  closest.any fun d => e.level.rank ≤ d.rank

end LogFilter

end AdcFeed
