import AdcFeed.Number.Ratio

/-!
The magnitudes that a double-precision number can have, as exact products of a whole number and a
power of two, and rounding to them.
-/

namespace AdcFeed

/-- The magnitude `significand` times two to the power `exponent`. -/
structure Binary64 where
  significand : Nat
  exponent : Int
  deriving DecidableEq, Repr

namespace Binary64

/-- The smallest exponent, that of the magnitudes nearest to zero. -/
def leastExponent : Int := -1074

/-- Zero. -/
def zero : Binary64 := ⟨0, leastExponent⟩

/-- The exact value. -/
def value (b : Binary64) : Ratio := { num := b.significand : Ratio }.scaleTwo b.exponent

/--
The magnitude nearest to a fraction; of two equally near ones the one with an even significand. The
significand has 53 binary digits, fewer only at the smallest exponent. What rounds to two to the
power 1024 or more is beyond all magnitudes.
-/
def ofRatio? (x : Ratio) : Option Binary64 :=
  if x.num = 0 then some zero
  else
    let exponent := max (x.log2 - 52) leastExponent
    let b : Binary64 := ⟨(x.scaleTwo (-exponent)).round, exponent⟩
    if 1 <<< 1024 ≤ b.value.num then none else some b

/-- The quotient by a whole number that is not zero, rounded. -/
def divide? (b : Binary64) (divisor : Nat) : Option Binary64 :=
  ofRatio? { num := b.value.num, den := b.value.den * divisor }

end Binary64

end AdcFeed
