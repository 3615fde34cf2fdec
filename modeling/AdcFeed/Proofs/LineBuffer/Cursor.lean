import AdcFeed.Proofs.LineBuffer.History
import Mathlib.Algebra.Ring.Nat

/-!
The count of searched bytes in a line buffer. `PlainBuffer` is a buffer without it, which looks for
the newline from the front of what it holds each time. Main statements: with the count or without,
every pull tells the same and leaves the same behind (`plain_next`); and with it each byte is
compared once, since a pull takes what it compares from the bytes to be searched (`compared_next`).
-/

namespace AdcFeed

/-- The first line of some bytes, its newline included, and the bytes after it. -/
def firstLine? : Bytes → Option (Bytes × Bytes)
  | [] => none
  | b :: bs =>
    if b = newline then some ([b], bs)
    else (firstLine? bs).map fun cut => (b :: cut.1, cut.2)

/-- What a pull tells: the line or the fault, if there is one, and the notes of the buffer. -/
def Pull.answer (pull : Pull) : Option (Except LineFault Bytes) × List BufferNote :=
  (pull.result, pull.notes)

/-- A line buffer that does not know which of its bytes were searched before. -/
structure PlainBuffer where
  cap : Nat
  held : Bytes := []
  skipping : Bool := false
  deriving DecidableEq

namespace PlainBuffer

/-- An empty buffer for lines of at most `cap` bytes; a cap of zero acts as one. -/
def empty (cap : Nat) : PlainBuffer := { cap := max cap 1 }

/-- Takes in a chunk as it was received. -/
def push (p : PlainBuffer) (chunk : Bytes) : PlainBuffer := { p with held := p.held ++ chunk }

/-- Takes the next line, searched for from the front; what is left of a line already reported is
thrown away first. -/
def next (p : PlainBuffer) : (Option (Except LineFault Bytes) × List BufferNote) × PlainBuffer :=
  match firstLine? p.held with
  | none =>
    if p.skipping then ((none, []), { p with held := [] })
    else if p.cap < p.held.length then
      ((some (.error (.tooLong p.cap p.held.length)), []), { p with held := [], skipping := true })
    else ((none, []), p)
  | some (line, later) =>
    if p.skipping then
      let ((result, notes), rest) := next { p with held := later, skipping := false }
      ((result, .skipped line.length :: notes), rest)
    else if p.cap < line.length then
      ((some (.error (.tooLong p.cap line.length)), []), { p with held := later })
    else ((some (.ok line), [.decoded line.length]), { p with held := later })
termination_by p.skipping.toNat
decreasing_by simp [*]

/-- Makes the calls one after the other; all that the pulls tell, in order, and the buffer left. -/
def history (p : PlainBuffer) :
    List LineBuffer.Call → List (Option (Except LineFault Bytes) × List BufferNote) × PlainBuffer
  | [] => ([], p)
  | .push chunk :: calls => (p.push chunk).history calls
  | .next :: calls => (p.next.1 :: (p.next.2.history calls).1, (p.next.2.history calls).2)

end PlainBuffer

/-! ## The first line -/

theorem firstLine?_of_not_mem {bs : Bytes} (h : newline ∉ bs) : firstLine? bs = none := by
  induction bs with
  | nil => rfl
  | cons b bs ih =>
    rw [List.mem_cons, not_or] at h
    rw [firstLine?, if_neg (Ne.symm h.1), ih h.2]
    rfl

theorem firstLine?_append_newline {body : Bytes} (h : newline ∉ body) (later : Bytes) :
    firstLine? (body ++ newline :: later) = some (body ++ [newline], later) := by
  induction body with
  | nil => rw [List.nil_append, firstLine?, if_pos rfl]; rfl
  | cons b body ih =>
    rw [List.mem_cons, not_or] at h
    rw [List.cons_append, firstLine?, if_neg (Ne.symm h.1), ih h.2]
    rfl

namespace LineBuffer

variable {b : LineBuffer} {body later : Bytes}

/-- The buffer without its count of searched bytes. -/
def plain (b : LineBuffer) : PlainBuffer := { cap := b.cap, held := b.held, skipping := b.skipping }

/-! ## Pulls with and without the count -/

theorem plain_nextWhole (hb : b.Sound) (hs : b.skipping = false) :
    b.plain.next = (b.nextWhole.answer, b.nextWhole.rest.plain) := by
  rw [PlainBuffer.next]
  rcases nextWhole_cases hb hs with
    ⟨hn, hl, he⟩ | ⟨hn, hl, he⟩ | ⟨body, later, hbody, hheld, ⟨hl, he⟩ | ⟨hl, he⟩⟩ <;> rw [he]
  · simp [plain, firstLine?_of_not_mem hn, hs, Nat.not_lt.2 hl, Pull.answer]
  · simp [plain, firstLine?_of_not_mem hn, hs, hl, Pull.answer]
  · simp [plain, hheld, firstLine?_append_newline hbody, hs, hl, Pull.answer]
  · simp [plain, hheld, firstLine?_append_newline hbody, hs, Nat.not_lt.2 hl, Pull.answer]

/-- A buffer that searches from the front each time tells and keeps what one with a count does. -/
theorem plain_next (hb : b.Sound) : b.plain.next = (b.next.answer, b.next.rest.plain) := by
  rcases next_cases hb with ⟨hs, he⟩ | ⟨hs, hn, he⟩ | ⟨hs, body, later, hbody, hheld, he⟩ <;>
    rw [he]
  · exact plain_nextWhole hb hs
  · rw [PlainBuffer.next]
    simp [plain, firstLine?_of_not_mem hn, hs, Pull.answer]
  · have hrest := plain_nextWhole
      (b := { b with held := later, scanned := 0, skipping := false }) (sound_of_scanned rfl) rfl
    rw [PlainBuffer.next]
    simp only [plain, hheld, firstLine?_append_newline hbody, hs, if_true] at hrest ⊢
    simp [hrest, Pull.answer]

theorem plain_history (hb : b.Sound) (calls : List Call) :
    b.plain.history calls =
      ((b.history calls).1.map Pull.answer, (b.history calls).2.plain) := by
  induction calls generalizing b with
  | nil => rfl
  | cons call calls ih =>
    cases call with
    | push chunk => exact ih (sound_push hb chunk)
    | next =>
      rw [PlainBuffer.history, plain_next hb, ih (sound_next hb), history, List.map_cons]

theorem cap_history (hb : b.Sound) (calls : List Call) : (b.history calls).2.cap = b.cap := by
  induction calls generalizing b with
  | nil => rfl
  | cons call calls ih =>
    cases call with
    | push chunk => exact ih (sound_push hb chunk)
    | next => exact (ih (sound_next hb)).trans (cap_next hb)

/-! ## The cost of the searches -/

/-- A search that finds a newline compares all that was not searched and does not stand after it. -/
theorem Sound.length_unscanned_eq (hb : b.Sound) (hheld : b.held = body ++ newline :: later) :
    b.unscanned.length = body.length + 1 - b.scanned + later.length := by
  have hle := hb.scanned_le_of_held hheld
  simp only [unscanned, hheld, List.length_drop, List.length_append, List.length_cons]
  omega

theorem compared_nextWhole (hb : b.Sound) (hs : b.skipping = false) :
    b.nextWhole.compared + b.nextWhole.rest.unscanned.length = b.unscanned.length := by
  rcases nextWhole_cases hb hs with
    ⟨-, -, he⟩ | ⟨-, -, he⟩ | ⟨body, later, -, hheld, ⟨-, he⟩ | ⟨-, he⟩⟩ <;> rw [he]
  · simp [unscanned]
  · simp [unscanned]
  · exact (hb.length_unscanned_eq hheld).symm
  · exact (hb.length_unscanned_eq hheld).symm

/-- What a pull compares is no longer to be searched after it, and nothing else is. -/
theorem compared_next (hb : b.Sound) :
    b.next.compared + b.next.rest.unscanned.length = b.unscanned.length := by
  rcases next_cases hb with ⟨hs, he⟩ | ⟨-, -, he⟩ | ⟨-, body, later, -, hheld, he⟩ <;> rw [he]
  · exact compared_nextWhole hb hs
  · simp [unscanned]
  · have hfirst := hb.length_unscanned_eq hheld
    have hrest := compared_nextWhole
      (b := { b with held := later, scanned := 0, skipping := false }) (sound_of_scanned rfl) rfl
    have hlater :
        ({ b with held := later, scanned := 0, skipping := false } : LineBuffer).unscanned =
          later := rfl
    rw [hlater] at hrest
    simp only
    omega

theorem length_unscanned_push (hb : b.Sound) (chunk : Bytes) :
    (b.push chunk).unscanned.length = b.unscanned.length + chunk.length := by
  have := hb.scanned_le
  simp only [unscanned, push, List.length_drop, List.length_append]
  omega

/-- Over a whole list of calls, what was compared and what is still to be searched are the bytes
that were to be searched at the start and those that were pushed. -/
theorem compared_history (hb : b.Sound) (calls : List Call) :
    ((b.history calls).1.map Pull.compared).sum + (b.history calls).2.unscanned.length =
      b.unscanned.length + (pushed calls).length := by
  induction calls generalizing b with
  | nil => simp [history, pushed]
  | cons call calls ih =>
    cases call with
    | push chunk =>
      have hpush := length_unscanned_push hb chunk
      have hlater := ih (sound_push hb chunk)
      simp only [history, pushed, List.length_append]
      omega
    | next =>
      have hnext := compared_next hb
      have hlater := ih (sound_next hb)
      simp only [history, pushed, List.map_cons, List.sum_cons]
      omega

/-- **The count of searched bytes saves work and changes nothing else.** Whatever is called on a new
buffer, the bytes counted are there, hold no newline and fit under the cap, and none are counted
while a line is skipped; every pull has told the same as in a buffer that searches from the front
each time, and what is held and whether a line is skipped are the same; and no more bytes have been
compared with the newline than were pushed, since each was compared once or is still to be. -/
theorem history_empty_plain (m : Nat) (calls : List Call) :
    let (pulls, final) := (empty m).history calls
    final.Sound ∧ final.cap = max m 1 ∧
      (PlainBuffer.empty m).history calls = (pulls.map Pull.answer, final.plain) ∧
      (pulls.map Pull.compared).sum ≤ (pushed calls).length ∧
      (pulls.map Pull.compared).sum + final.unscanned.length = (pushed calls).length := by
  have hsound := sound_empty m
  have hcompared := compared_history hsound calls
  have hempty : (empty m).unscanned.length = 0 := rfl
  rw [hempty, Nat.zero_add] at hcompared
  exact ⟨sound_history hsound calls, cap_history hsound calls, plain_history hsound calls,
    Nat.le_of_add_right_le (Nat.le_of_eq hcompared), hcompared⟩

end LineBuffer

end AdcFeed
