/-!
Nonnegative fractions and the whole numbers nearest to them.
-/

namespace AdcFeed

/-- A nonnegative fraction, not always in lowest terms. -/
structure Ratio where
  num : Nat
  den : Nat := 1
  deriving DecidableEq, Repr

namespace Ratio

/-- The fraction times two to the power `e`. -/
def scaleTwo (x : Ratio) (e : Int) : Ratio :=
  { num := x.num <<< e.toNat, den := x.den <<< (-e).toNat }

/-- The fraction times ten to the power `e`. -/
def scaleTen (x : Ratio) (e : Int) : Ratio :=
  { num := x.num * Nat.pow 10 e.toNat, den := x.den * Nat.pow 10 (-e).toNat }

/-- The whole number nearest to the fraction; a half goes to the even neighbour. -/
def round (x : Ratio) : Nat :=
  let below := x.num / x.den
  let twice := 2 * (x.num % x.den)
  if twice < x.den then below
  else if x.den < twice then below + 1
  else below + below % 2

/-- The exponent of the largest power of two that is at most the fraction, which is not zero. -/
def log2 (x : Ratio) : Int :=
  let e := (Nat.log2 x.num : Int) - (Nat.log2 x.den : Int)
  let scaled := x.scaleTwo (-e)
  if scaled.num < scaled.den then e - 1 else e

end Ratio

end AdcFeed
