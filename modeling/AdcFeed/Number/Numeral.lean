import AdcFeed.Number.Binary64
import AdcFeed.Number.Digits
import AdcFeed.Text.Integer

/-!
Numbers as people type them: decimal digits with a point and a power of ten, or the words for what
is no finite number.
-/

namespace AdcFeed

/-- A number as typed. -/
inductive Numeral where
  /-- `digits` times ten to the power `exponent`, maybe with a minus sign. -/
  | decimal (negative : Bool) (digits : Nat) (exponent : Int)
  | infinite (negative : Bool)
  | notANumber
  deriving DecidableEq, Repr

namespace Numeral

/-- The values of the decimal digits at the front of a text, and the rest. -/
def takeDigits : List Char → List Nat × List Char
  | [] => ([], [])
  | c :: cs =>
    match digitValue? c with
    | none => ([], c :: cs)
    | some d => (d :: (takeDigits cs).1, (takeDigits cs).2)

/-- The power of ten that decimal digits spell. No digit counts behind a number from 65536 on: so
large a power decides alone, but for numbers with as many digits to balance it. -/
def ofExponentDigits (digits : List Nat) : Nat :=
  digits.foldl (fun n d => if n < 0x10000 then n * 10 + d else n) 0

/-- Splits off a sign; whether it is a minus sign, and the rest. -/
def takeSign : List Char → Bool × List Char
  | '-' :: cs => (true, cs)
  | '+' :: cs => (false, cs)
  | cs => (false, cs)

/-- Reads the power of ten that may end a number: nothing, or the letter E and a whole number. -/
def readExponent? : List Char → Option Int
  | [] => some 0
  | c :: cs =>
    if c = 'e' ∨ c = 'E' then
      let (negative, cs) := takeSign cs
      match takeDigits cs with
      | ([], _) => none
      | (digits, []) =>
        let e : Int := ofExponentDigits digits
        some (if negative then -e else e)
      | (_, _ :: _) => none
    else none

/-- Reads a number without sign: digits, maybe around a point, and a power of ten. -/
def readDecimal? (negative : Bool) (cs : List Char) : Option Numeral :=
  let (whole, rest) := takeDigits cs
  let (part, rest) :=
    match rest with
    | '.' :: rest => takeDigits rest
    | rest => ([], rest)
  if whole.isEmpty && part.isEmpty then none
  else
    (readExponent? rest).map fun e =>
      .decimal negative (ofDigits 10 (whole ++ part)) (e - (part.length : Int))

/-- Reads the words for what is no finite number, in any case. -/
def readWord? (negative : Bool) (cs : List Char) : Option Numeral :=
  let word := cs.map Char.toLower
  if word = "inf".toList ∨ word = "infinity".toList then some (.infinite negative)
  else if word = "nan".toList then some .notANumber
  else none

/-- Reads a text that is a number and nothing else. -/
def read? (s : String) : Option Numeral :=
  let (negative, cs) := takeSign s.toList
  (readDecimal? negative cs).or (readWord? negative cs)

/--
The magnitude nearest to `digits` times ten to the power `exponent`. Powers so large or so small
that the digits cannot matter are decided without being worked out.
-/
def magnitude? (digits : Nat) (exponent : Int) : Option Binary64 :=
  if digits = 0 then some .zero
  else if 400 < exponent then none
  else if exponent + (Nat.log2 digits : Int) + 401 < 0 then some .zero
  else Binary64.ofRatio? ({ num := digits : Ratio }.scaleTen exponent)

end Numeral

end AdcFeed
