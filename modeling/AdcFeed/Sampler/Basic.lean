import AdcFeed.Line

/-!
Sources of readings. A sampler gives one reading at a time and is another sampler afterwards.
-/

namespace AdcFeed

/-- Anything that can give one reading on demand, without end. -/
class Sampler (σ : Type) where
  /-- The reading given and the sampler left. -/
  sample : σ → Reading × σ

namespace Sampler

variable {σ : Type} [Sampler σ]

/-- The sampler left when `n` readings have been taken. -/
def after (s : σ) : Nat → σ
  | 0 => s
  | n + 1 => after (sample s).2 n

/-- The reading with index `n`, counted from zero. -/
def reading (s : σ) (n : Nat) : Reading := (sample (after s n)).1

/-- The next `n` readings. -/
def take (s : σ) : Nat → List Reading
  | 0 => []
  | n + 1 => (sample s).1 :: take (sample s).2 n

theorem after_add (s : σ) (m n : Nat) : after s (m + n) = after (after s m) n := by
  induction m generalizing s with
  | zero => simp [after]
  | succ m ih => rw [Nat.succ_add, after, ih, after]

end Sampler

/-- Gives the readings of a list in order and then its last one forever. -/
structure Replay where
  first : Reading
  later : List Reading := []
  deriving DecidableEq

instance : Sampler Replay where
  sample r :=
    match r.later with
    | [] => (r.first, r)
    | next :: later => (r.first, ⟨next, later⟩)

end AdcFeed
