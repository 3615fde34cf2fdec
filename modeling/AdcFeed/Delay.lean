import AdcFeed.Duration
import AdcFeed.Number.Numeral

/-!
Pauses as people type them: a number of milliseconds, fractions allowed.
-/

namespace AdcFeed

/-- Why a text is no pause. -/
inductive DelayError where
  | notANumber (text : String)
  | outOfRange (text : String)
  deriving DecidableEq

/-- The reason in words. -/
def DelayError.message : DelayError → String
  | .notANumber text => "'" ++ text ++ "' is not a number of milliseconds"
  | .outOfRange text =>
    "delay must be a non-negative, in-range number of milliseconds, got " ++ text

/-- Seconds that a span of time has too many of to be counted. -/
def secondsLimit : Nat := 1 <<< 64

/-- The span of so many seconds to the nearest nanosecond, a half to the even one. -/
def Duration.ofSeconds? (b : Binary64) : Option Duration :=
  let x := b.value
  if secondsLimit * x.den ≤ x.num then none
  else some ⟨{ num := x.num * perSecond, den := x.den : Ratio }.round⟩

/--
The pause that a number of milliseconds stands for. The number is rounded to double precision, and
so is its thousandth; only then is it taken to nanoseconds. A minus sign is accepted in front of
what rounds to zero.
-/
def Numeral.delay? : Numeral → Option Duration
  | .decimal negative digits exponent => do
    let seconds ← (← magnitude? digits exponent).divide? 1000
    if negative ∧ seconds.significand ≠ 0 then none
    Duration.ofSeconds? seconds
  | .infinite _ => none
  | .notANumber => none

/-- Reads a pause. -/
def Duration.readMillis (text : String) : Except DelayError Duration :=
  match Numeral.read? text with
  | none => .error (.notANumber text)
  | some n =>
    match n.delay? with
    | none => .error (.outOfRange text)
    | some d => .ok d

end AdcFeed
