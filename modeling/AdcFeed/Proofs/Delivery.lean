import AdcFeed.Source

/-!
A source one read at a time (`Reads`), and the bytes that it holds before its end (`Delivers`). Main
statements: a delivery is what the reads get one after the other (`reads_ofSteps`), each of them at
least one byte and no more than it has room for (`Reads.length_mem`), and until the end of the
stream they get all of its bytes (`Reads.delivers`, `flatten_ofSteps`).
-/

namespace AdcFeed

/-- What reads get one after the other, each with room for `size` bytes: chunks, and at last the end
of the stream or a failure. What does not fit into one read is left for the next. -/
inductive Reads (size : Nat) : List ReadStep → List Bytes → Option IoError → Prop
  | usedUp : Reads size [] [] none
  | ended (steps : List ReadStep) : Reads size (.arrive [] :: steps) [] none
  | failed (e : IoError) (steps : List ReadStep) : Reads size (.fail e :: steps) [] (some e)
  | pending {steps : List ReadStep} {chunks : List Bytes} {error : Option IoError}
      (later : Reads size steps chunks error) : Reads size (.pending :: steps) chunks error
  | whole {steps : List ReadStep} {bytes : Bytes} {chunks : List Bytes} {error : Option IoError}
      (hb : bytes ≠ []) (hl : bytes.length ≤ size) (later : Reads size steps chunks error) :
      Reads size (.arrive bytes :: steps) (bytes :: chunks) error
  | part {steps : List ReadStep} {bytes : Bytes} {chunks : List Bytes} {error : Option IoError}
      (hl : size < bytes.length)
      (later : Reads size (.arrive (bytes.drop size) :: steps) chunks error) :
      Reads size (.arrive bytes :: steps) (bytes.take size :: chunks) error

/-- The steps hold these bytes before their first end of the stream, and no failure. -/
inductive Delivers : List ReadStep → Bytes → Prop
  | usedUp : Delivers [] []
  | ended (steps : List ReadStep) : Delivers (.arrive [] :: steps) []
  | pending {steps : List ReadStep} {stream : Bytes} (later : Delivers steps stream) :
      Delivers (.pending :: steps) stream
  | arrive {steps : List ReadStep} {bytes stream : Bytes} (hb : bytes ≠ [])
      (later : Delivers steps stream) : Delivers (.arrive bytes :: steps) (bytes ++ stream)

variable {steps : List ReadStep} {chunks : List Bytes} {error : Option IoError} {size : Nat}

theorem Reads.length_mem (h : Reads size steps chunks error) (hs : 0 < size) :
    ∀ chunk ∈ chunks, 1 ≤ chunk.length ∧ chunk.length ≤ size := by
  induction h with
  | usedUp | ended | failed => simp
  | pending _ ih => exact ih
  | whole hb hl _ ih => exact List.forall_mem_cons.2 ⟨⟨List.length_pos_iff.2 hb, hl⟩, ih⟩
  | part hl _ ih =>
    refine List.forall_mem_cons.2 ⟨?_, ih⟩
    rw [List.length_take]
    omega

/-- Reads that come to the end of the stream have got all bytes before it. -/
theorem Reads.delivers (h : Reads size steps chunks none) : Delivers steps chunks.flatten := by
  generalize hn : (none : Option IoError) = error at h
  induction h with
  | usedUp => exact .usedUp
  | ended steps => exact .ended steps
  | failed => cases hn
  | pending _ ih => exact .pending (ih hn)
  | whole hb _ _ ih => exact .arrive hb (ih hn)
  | @part steps bytes chunks error hl later ih =>
    have hdrop : bytes.drop size ≠ [] := by
      rw [Ne, List.drop_eq_nil_iff]
      omega
    have hb : bytes ≠ [] := List.length_pos_iff.1 (by omega)
    -- the rest of the bytes is delivered by the same step, so the two pieces go back together
    have hd := ih hn
    rw [List.flatten_cons]
    generalize chunks.flatten = stream at hd
    generalize hbs : bytes.drop size = rest at hd hdrop
    cases hd with
    | ended => exact absurd rfl hdrop
    | arrive _ hlater =>
      rw [← List.append_assoc, ← hbs, List.take_append_drop]
      exact .arrive hb hlater

theorem pieces_nil (n : Nat) : pieces n [] = [] := by
  rw [pieces, if_pos (by rfl)]

theorem reads_pieces (n : Nat) (bytes : Bytes) (hb : bytes ≠ [])
    (later : Reads (n + 1) steps chunks error) :
    Reads (n + 1) (.arrive bytes :: steps) (pieces n bytes ++ chunks) error := by
  induction bytes using pieces.induct n with
  | case1 bytes h => exact absurd (List.isEmpty_iff.1 h) hb
  | case2 bytes h ih =>
    rw [pieces, if_neg h, List.cons_append]
    by_cases hl : bytes.length ≤ n + 1
    · rw [List.take_of_length_le hl, List.drop_of_length_le hl, pieces_nil, List.nil_append]
      exact .whole hb hl later
    · refine .part (by omega) (ih ?_)
      rw [Ne, List.drop_eq_nil_iff]
      exact hl

theorem reads_ofSteps (chunkSize : Nat) (steps : List ReadStep) :
    Reads (max chunkSize 1) steps (Delivery.ofSteps chunkSize steps).chunks
      (Delivery.ofSteps chunkSize steps).error := by
  have hsize : max chunkSize 1 = chunkSize - 1 + 1 := by omega
  induction steps with
  | nil => exact .usedUp
  | cons step steps ih =>
    cases step with
    | pending => exact .pending ih
    | fail e => exact .failed e steps
    | arrive bytes =>
      rw [Delivery.ofSteps]
      by_cases hb : bytes = []
      · subst hb
        exact .ended steps
      · rw [if_neg (by simpa using hb)]
        rw [hsize] at ih ⊢
        exact reads_pieces (chunkSize - 1) bytes hb ih

theorem flatten_pieces (n : Nat) (bytes : Bytes) : (pieces n bytes).flatten = bytes := by
  induction bytes using pieces.induct n with
  | case1 bytes h => rw [pieces, if_pos h, List.isEmpty_iff.1 h, List.flatten_nil]
  | case2 bytes h ih => rw [pieces, if_neg h, List.flatten_cons, ih, List.take_append_drop]

/-- However much a reader has room for, it gets the bytes before the end of the stream. -/
theorem flatten_ofSteps {stream : Bytes} (h : Delivers steps stream) (chunkSize : Nat) :
    (Delivery.ofSteps chunkSize steps).chunks.flatten = stream ∧
      (Delivery.ofSteps chunkSize steps).error = none := by
  induction h with
  | usedUp => exact ⟨rfl, rfl⟩
  | ended steps => exact ⟨rfl, rfl⟩
  | pending _ ih => exact ih
  | arrive hb _ ih =>
    rw [Delivery.ofSteps, if_neg (by simpa using hb)]
    exact ⟨by rw [List.flatten_append, flatten_pieces, ih.1], ih.2⟩

end AdcFeed
