import AdcFeed.Sampler.Basic
import AdcFeed.Sampler.Words

/-!
Readings of a simulated converter, evenly spread over its codes and the same for every run with one
seed.
-/

namespace AdcFeed

/-- Number of codes of the simulated ten-bit converter; readings lie below it. -/
def codeCount : UInt64 := 1024

/--
The code that a word selects. The word is scaled to the codes by a widening multiplication: the
upper half of the product is the code, and a word whose lower half is past the middle is passed
over, which leaves equally many words to each code.
-/
def codeOfWord? (w : UInt32) : Option UInt32 :=
  let product := codeCount * w.toUInt64
  if product.toUInt32 ≤ 0x7FFFFFFF then some (product >>> 32).toUInt32 else none

/-- The code of the first word that selects one, among `tries` words from an index on, and the index
after that word. -/
def firstCode? (words : Nat → UInt32) : Nat → Nat → Option (UInt32 × Nat)
  | 0, _ => none
  | tries + 1, index =>
    match codeOfWord? (words index) with
    | some code => some (code, index + 1)
    | none => firstCode? words tries (index + 1)

/-- A sampler with a fixed seed: its key, and the index of the first word not yet looked at. -/
structure SeededSampler where
  key : WordKey
  index : Nat := 0
  deriving DecidableEq

/-- The sampler for a seed, before its first reading. -/
def SeededSampler.ofSeed (seed : UInt64) : SeededSampler := { key := .ofSeed seed }

/--
Takes the next code. The search ends after a whole period, when every word of the stream has been
looked at; a stream that selects no code at all would then give zeros.
-/
instance : Sampler SeededSampler where
  sample s :=
    match firstCode? s.key.word wordPeriod s.index with
    | some (code, index) => (⟨code.toInt32⟩, { s with index })
    | none => (⟨0⟩, s)

end AdcFeed
