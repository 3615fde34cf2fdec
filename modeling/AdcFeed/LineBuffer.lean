import AdcFeed.Line
import AdcFeed.Lines

/-!
Lines put together from chunks that may end anywhere. Main statement: a pull that yields something
leaves fewer bytes behind, so pulling until nothing is left comes to an end.
-/

namespace AdcFeed

/-- The longest line, newline included, that is held or returned unless another cap is asked for. -/
def defaultLineCap : Nat := 4096

/--
Bytes received and not yet returned. `scanned` of them, at the front, are known to hold no newline.
While `skipping`, they belong to a line that was already reported as too long.
-/
structure LineBuffer where
  cap : Nat := defaultLineCap
  held : Bytes := []
  scanned : Nat := 0
  skipping : Bool := false
  deriving DecidableEq

/-- What a buffer tells about its work. -/
inductive BufferNote where
  /-- A line of so many bytes was returned. -/
  | decoded (size : Nat)
  /-- So many bytes at the end of an over-long line were thrown away. -/
  | skipped (size : Nat)
  deriving DecidableEq, Repr

/-- One attempt to take a line: what came of it, the buffer left, what the buffer tells, and how
many bytes were compared with the newline. -/
structure Pull where
  result : Option (Except LineFault Bytes)
  rest : LineBuffer
  notes : List BufferNote := []
  compared : Nat

namespace LineBuffer

/-- An empty buffer for lines of at most `cap` bytes; a cap of zero acts as one. -/
def empty (cap : Nat) : LineBuffer := { cap := max cap 1 }

/-- Takes in a chunk as it was received. -/
def push (b : LineBuffer) (chunk : Bytes) : LineBuffer := { b with held := b.held ++ chunk }

/-- Number of bytes received and not yet returned. -/
def pending (b : LineBuffer) : Nat := b.held.length

/-- The bytes not yet searched for a newline. -/
def unscanned (b : LineBuffer) : Bytes := b.held.drop b.scanned

/-- Compares bytes with the newline, one after the other, until it is found: its place, and how many
bytes were compared. `seen` bytes stand in front and were compared before. -/
def search (seen : Nat) : Bytes → Option Nat × Nat
  | [] => (none, seen)
  | b :: bs => if b = newline then (some seen, seen + 1) else search (seen + 1) bs

/-- Cuts after the first newline of the unscanned bytes, if there is one; and how many bytes the
search for it compared. -/
def cut (b : LineBuffer) : Option (Bytes × LineBuffer) × Nat :=
  let (place, compared) := search 0 b.unscanned
  let split (i : Nat) :=
    let size := b.scanned + i + 1
    (b.held.take size, { b with held := b.held.drop size, scanned := 0 })
  (place.map split, compared)

/-- A buffer without a newline keeps what it holds up to the cap; beyond it, the line is reported
and the rest of it will be skipped. -/
def keepPartial (b : LineBuffer) : Option (Except LineFault Bytes) × LineBuffer :=
  if b.skipping then (none, { b with held := [], scanned := 0 })
  else if b.cap < b.held.length then
    (some (.error (.tooLong b.cap b.held.length)),
      { b with held := [], scanned := 0, skipping := true })
  else (none, { b with scanned := b.held.length })

/-- Takes the next line of a buffer that skips nothing. -/
def nextWhole (b : LineBuffer) : Pull :=
  match b.cut with
  | (none, compared) => ⟨b.keepPartial.1, b.keepPartial.2, [], compared⟩
  | (some (line, rest), compared) =>
    if b.cap < line.length then
      ⟨some (.error (.tooLong b.cap line.length)), rest, [], compared⟩
    else ⟨some (.ok line), rest, [.decoded line.length], compared⟩

/-- Takes the next complete line, its newline included, or reports the next line over the cap;
nothing when no line is complete yet. -/
def next (b : LineBuffer) : Pull :=
  if b.skipping then
    match b.cut with
    | (none, compared) => ⟨b.keepPartial.1, b.keepPartial.2, [], compared⟩
    | (some (line, rest), compared) =>
      let pull := { rest with skipping := false }.nextWhole
      { pull with
        notes := .skipped line.length :: pull.notes
        compared := compared + pull.compared }
  else b.nextWhole

/-- The unterminated bytes at the end of the stream, if there are any; the remainder of a line
already reported is not returned. -/
def tail? (b : LineBuffer) : Option Bytes :=
  if b.held.isEmpty || b.skipping then none else some b.held

theorem cut_shrinks {b rest : LineBuffer} {line : Bytes} {compared : Nat}
    (h : b.cut = (some (line, rest), compared)) : rest.held.length < b.held.length := by
  have hheld : b.held ≠ [] := by
    intro hnil
    simp [cut, unscanned, hnil, search] at h
  have hpos := List.length_pos_iff.2 hheld
  simp only [cut, Prod.mk.injEq] at h
  obtain ⟨i, -, hsplit⟩ := Option.map_eq_some_iff.1 h.1
  simp only [Prod.mk.injEq] at hsplit
  rw [← hsplit.2, List.length_drop]
  omega

theorem nextWhole_shrinks {b : LineBuffer} {r : Except LineFault Bytes}
    (h : b.nextWhole.result = some r) : b.nextWhole.rest.held.length < b.held.length := by
  unfold nextWhole at h ⊢
  split
  · rename_i hc
    rw [hc] at h
    simp only [keepPartial] at h ⊢
    split
    · simp_all
    · split
      · simp only [List.length_nil]; omega
      · simp_all
  · rename_i hc
    have := cut_shrinks hc
    split <;> exact this

theorem next_shrinks {b : LineBuffer} {r : Except LineFault Bytes}
    (h : b.next.result = some r) : b.next.rest.held.length < b.held.length := by
  unfold next at h ⊢
  split
  · rename_i hs
    rw [if_pos hs] at h
    split
    · rename_i hc
      rw [hc] at h
      simp [keepPartial, hs] at h
    · rename_i rest _ hc
      rw [hc] at h
      have := cut_shrinks hc
      have := nextWhole_shrinks (b := { rest with skipping := false }) h
      simp only at this ⊢
      omega
  · rename_i hs
    rw [if_neg hs] at h
    exact nextWhole_shrinks h

/-- Pulls until a pull yields nothing; that last pull closes the list. -/
def drain (b : LineBuffer) : List Pull :=
  match _h : b.next.result with
  | none => [b.next]
  | some _ => b.next :: b.next.rest.drain
termination_by b.held.length
decreasing_by exact next_shrinks _h

/-- The buffer that pulling until nothing is left leaves behind. -/
def drained (b : LineBuffer) : LineBuffer :=
  match b.drain.getLast? with
  | none => b
  | some pull => pull.rest

theorem drain_of_none {b : LineBuffer} (h : b.next.result = none) : b.drain = [b.next] := by
  rw [drain]; split <;> simp_all

theorem drain_of_some {b : LineBuffer} {r : Except LineFault Bytes} (h : b.next.result = some r) :
    b.drain = b.next :: b.next.rest.drain := by
  rw [drain]; split <;> simp_all

theorem drain_ne_nil (b : LineBuffer) : b.drain ≠ [] := by
  rw [drain]; split <;> simp

theorem drained_of_none {b : LineBuffer} (h : b.next.result = none) :
    b.drained = b.next.rest := by
  rw [drained, drain_of_none h]; rfl

theorem drained_of_some {b : LineBuffer} {r : Except LineFault Bytes}
    (h : b.next.result = some r) : b.drained = b.next.rest.drained := by
  rw [drained, drained, drain_of_some h, List.getLast?_cons]
  cases hl : b.next.rest.drain.getLast? with
  | none => exact absurd (List.getLast?_eq_none_iff.1 hl) (drain_ne_nil _)
  | some pull => rfl

/-- One use of a buffer. -/
inductive Call where
  | push (chunk : Bytes)
  | next
  deriving DecidableEq

/-- The bytes that a list of calls pushes. -/
def pushed : List Call → Bytes
  | [] => []
  | .push chunk :: calls => chunk ++ pushed calls
  | .next :: calls => pushed calls

/-- Makes the calls one after the other; all pulls, in order, and the buffer left. -/
def history (b : LineBuffer) : List Call → List Pull × LineBuffer
  | [] => ([], b)
  | .push chunk :: calls => (b.push chunk).history calls
  | .next :: calls => (b.next :: (b.next.rest.history calls).1, (b.next.rest.history calls).2)

theorem history_append (b : LineBuffer) (xs ys : List Call) :
    b.history (xs ++ ys) =
      ((b.history xs).1 ++ ((b.history xs).2.history ys).1, ((b.history xs).2.history ys).2) := by
  induction xs generalizing b with
  | nil => simp [history]
  | cons x xs ih =>
    cases x with
    | push chunk => simp only [List.cons_append, history]; exact ih _
    | next => simp only [List.cons_append, history, ih]

theorem pushed_append (xs ys : List Call) : pushed (xs ++ ys) = pushed xs ++ pushed ys := by
  induction xs with
  | nil => rfl
  | cons x xs ih => cases x <;> simp [pushed, ih]

end LineBuffer

end AdcFeed
