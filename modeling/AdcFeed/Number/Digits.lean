/-!
Numbers written as digits of some base. Main statement: `ofDigits_eq`, that joining digits in pairs
gives the number that is read digit by digit.
-/

namespace AdcFeed

/-- Joins neighbouring digits, the lowest first, to digits of the squared base. -/
def joinPairs (base : Nat) : List Nat → List Nat
  | low :: high :: rest => (low + base * high) :: joinPairs base rest
  | rest => rest

/-- The number that digits spell, the lowest first. In each round digits are joined in pairs, so a
long number takes few multiplications of long numbers. -/
def ofLowDigits (base : Nat) : (rounds : Nat) → List Nat → Nat
  | 0, digits => digits.foldr (fun d n => d + base * n) 0
  | _ + 1, [] => 0
  | _ + 1, [digit] => digit
  | rounds + 1, digits => ofLowDigits (base * base) rounds (joinPairs base digits)

/-- The number that digits spell, the highest first. -/
def ofDigits (base : Nat) (digits : List Nat) : Nat :=
  ofLowDigits base (Nat.log2 digits.length + 1) digits.reverse

theorem foldr_joinPairs (base : Nat) (digits : List Nat) :
    (joinPairs base digits).foldr (fun d n => d + base * base * n) 0
      = digits.foldr (fun d n => d + base * n) 0 := by
  induction digits using joinPairs.induct with
  | case1 low high rest ih =>
    simp only [joinPairs, List.foldr_cons, ih]
    rw [Nat.mul_add, Nat.mul_assoc, Nat.add_assoc]
  | case2 rest h =>
    match rest with
    | [] => rfl
    | [_] => simp [joinPairs]
    | low :: high :: rest => exact absurd rfl (h low high rest)

theorem ofLowDigits_eq (base rounds : Nat) (digits : List Nat) :
    ofLowDigits base rounds digits = digits.foldr (fun d n => d + base * n) 0 := by
  induction rounds generalizing base digits with
  | zero => rfl
  | succ rounds ih =>
    match digits with
    | [] => rfl
    | [_] => simp [ofLowDigits]
    | low :: high :: rest => rw [ofLowDigits, ih, foldr_joinPairs] <;> simp

theorem ofDigits_eq (base : Nat) (digits : List Nat) :
    ofDigits base digits = digits.foldl (fun n d => n * base + d) 0 := by
  rw [ofDigits, ofLowDigits_eq, List.foldr_reverse]
  simp only [Nat.add_comm, Nat.mul_comm]

end AdcFeed
