/-!
Spans of time, counted in nanoseconds.
-/

namespace AdcFeed

/-- A span of time. -/
structure Duration where
  nanoseconds : Nat
  deriving DecidableEq, Repr

namespace Duration

/-- Nanoseconds in a second. -/
def perSecond : Nat := 1000000000

/-- So many milliseconds. -/
def ofMillis (n : Nat) : Duration := ⟨n * 1000000⟩

/-- The milliseconds that a pause of this length takes: part of one takes all of it. -/
def pauseMillis (d : Duration) : Nat := (d.nanoseconds + 999999) / 1000000

/-- The whole seconds. -/
def seconds (d : Duration) : Nat := d.nanoseconds / perSecond

/-- The nanoseconds beyond the whole seconds. -/
def subsecond (d : Duration) : Nat := d.nanoseconds % perSecond

/-- The last `places` decimal digits of a number as a fraction, without the zeros at its end; no
fraction at all if only zeros are left. -/
def fractionText (places n : Nat) : String :=
  let digits := Nat.toDigits 10 (Nat.pow 10 places + n % Nat.pow 10 places)
  match ((digits.drop 1).reverse.dropWhile (· == '0')).reverse with
  | [] => ""
  | ds => String.ofList ('.' :: ds)

/-- A number of nanoseconds in a unit of ten to the power `places` of them. -/
def inUnit (places : Nat) (unit : String) (n : Nat) : String :=
  toString (n / Nat.pow 10 places) ++ fractionText places n ++ unit

/-- The span in the largest unit that it fills at least once. -/
def text (d : Duration) : String :=
  let n := d.nanoseconds
  if perSecond ≤ n then inUnit 9 "s" n
  else if 1000000 ≤ n then inUnit 6 "ms" n
  else if 1000 ≤ n then inUnit 3 "µs" n
  else inUnit 0 "ns" n

end Duration

end AdcFeed
