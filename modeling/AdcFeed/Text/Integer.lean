import AdcFeed.Text.Bytes

/-!
Decimal integers as people type them: an optional sign, then digits, read from the left and
refused at the first character that cannot belong to a number in range.
-/

namespace AdcFeed

/-- Why a text is not an integer of the wanted range. -/
inductive IntegerError where
  | empty
  | invalidDigit
  | tooLarge
  | tooSmall
  deriving DecidableEq, Repr

/-- The reason in words. -/
def IntegerError.message : IntegerError → String
  | .empty => "cannot parse integer from empty string"
  | .invalidDigit => "invalid digit found in string"
  | .tooLarge => "number too large to fit in target type"
  | .tooSmall => "number too small to fit in target type"

/-- The value of an ASCII digit. -/
def digitValue? (c : Char) : Option Nat :=
  if c.isDigit then some (c.toNat - '0'.toNat) else none

/--
Reads the digits after a value already read. The first fault from the left decides: a character
that is no digit is refused before the size of the number with it is looked at.
-/
def readDigits (limit : Nat) (outOfRange : IntegerError) (value : Nat) :
    List Char → Except IntegerError Nat
  | [] => .ok value
  | c :: cs =>
    match digitValue? c with
    | none => .error .invalidDigit
    | some d =>
      let next := value * 10 + d
      if limit < next then .error outOfRange else readDigits limit outOfRange next cs

/-- Reads a number without sign, of at least one digit. -/
def readMagnitude (limit : Nat) (outOfRange : IntegerError) (cs : List Char) :
    Except IntegerError Nat :=
  if cs.isEmpty then .error .invalidDigit else readDigits limit outOfRange 0 cs

/-- A range of integers that holds zero. -/
structure IntegerRange where
  least : Int
  greatest : Nat
  least_nonpos : least ≤ 0 := by decide

/--
Reads an integer of the range. A plus sign may lead any number, and a minus sign a number of a range
that goes below zero; a sign alone is no number.
-/
def IntegerRange.read (range : IntegerRange) : List Char → Except IntegerError Int
  | [] => .error .empty
  | c :: cs =>
    if c = '-' ∧ range.least < 0 then
      (readMagnitude range.least.natAbs .tooSmall cs).map fun n : Nat => -(n : Int)
    else
      (readMagnitude range.greatest .tooLarge (if c = '+' then cs else c :: cs)).map
        fun n : Nat => (n : Int)

/-- Signed words of 32 bits. -/
def IntegerRange.signed32 : IntegerRange := { least := -0x80000000, greatest := 0x7FFFFFFF }

/-- Signed words of 64 bits. -/
def IntegerRange.signed64 : IntegerRange :=
  { least := -0x8000000000000000, greatest := 0x7FFFFFFFFFFFFFFF }

/-- Unsigned words of 64 bits. -/
def IntegerRange.unsigned64 : IntegerRange := { least := 0, greatest := 0xFFFFFFFFFFFFFFFF }

end AdcFeed
