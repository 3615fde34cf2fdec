import AdcFeed.Text.Integer
import AdcFeed.Text.Printable

/-!
One value of the converter, the line that carries it, and lines read as readings. A line is taken
with its newline, with a carriage return and newline, or bare; whatever else it holds is a reading
or one of the faults below.
-/

namespace AdcFeed

/-! ## Readings written -/

/-- A single sampled converter value. -/
structure Reading where
  value : Int32
  deriving DecidableEq

/-- What starts every line that carries a reading. -/
def readingPrefix : String := "ADC: "

/-- The reading as people see it: the prefix, then the value in decimal. -/
def Reading.text (r : Reading) : String := readingPrefix ++ toString r.value.toInt

/-- The line that carries the reading, its newline included. -/
def Reading.line (r : Reading) : String := r.text ++ "\n"

/-- The bytes of the line. -/
def Reading.encode (r : Reading) : Bytes := encodeText r.line

/-! ## Lines read -/

/-- Why a line carries no reading. -/
inductive LineFault where
  /-- The bytes spell no text. -/
  | notUtf8
  /-- The text, its line end removed, does not start as a reading does. -/
  | missingPrefix (text : String)
  /-- The text after the prefix is no value. -/
  | invalidValue (text : String)
  /-- The line is longer than `limit`; `dropped` of its bytes were gone when this was seen. -/
  | tooLong (limit dropped : Nat)
  deriving DecidableEq, Repr

/-- The fault in words, the text it carries quoted. -/
def LineFault.message : LineFault → String
  | .notUtf8 => "line is not valid UTF-8"
  | .missingPrefix text => "missing \"ADC: \" prefix in line " ++ quote text
  | .invalidValue text => "invalid reading value " ++ quote text
  | .tooLong limit dropped =>
    "line exceeds " ++ toString limit ++ " bytes (" ++ toString dropped ++ " bytes dropped)"

/-- The text without its final newline and, only where that newline stood, the carriage return
before it. -/
def stripLineEnd (cs : List Char) : List Char :=
  match ['\n'].isSuffixOf? cs with
  | none => cs
  | some rest => (['\r'].isSuffixOf? rest).getD rest

/-- Reads a text without line end. -/
def Reading.ofText (cs : List Char) : Except LineFault Reading :=
  match readingPrefix.toList.isPrefixOf? cs with
  | none => .error (.missingPrefix (String.ofList cs))
  | some digits =>
    match IntegerRange.signed32.read digits with
    | .error _ => .error (.invalidValue (String.ofList digits))
    | .ok v => .ok ⟨Int32.ofInt v⟩

/-- Reads a line. -/
def Reading.ofLine (line : Bytes) : Except LineFault Reading :=
  match decodeText? line with
  | none => .error .notUtf8
  | some s => Reading.ofText (stripLineEnd s.toList)

end AdcFeed
