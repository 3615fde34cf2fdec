import AdcFeed.LineBuffer
import AdcFeed.Proofs.CappedLines

/-!
One pull from a line buffer. `nextWhole_cases` and `next_cases` say all that a pull can do, and the
facts below read it off them: a pull keeps the buffer sound (`sound_next`), a pull that yields
nothing leaves little behind (`settled_next`), and whatever arrives later, a pull tells the first of
the lines ahead and no other (`advances_next`).
-/

namespace AdcFeed.LineBuffer

variable {b : LineBuffer} {body later : Bytes}

/-- What every use of a buffer keeps: the bytes counted as searched are there, hold no newline and
fit under the cap, and none are counted while a line is skipped. -/
structure Sound (b : LineBuffer) : Prop where
  scanned_le : b.scanned ≤ b.held.length
  newline_not_mem : newline ∉ b.held.take b.scanned
  scanned_le_cap : b.scanned ≤ b.cap
  scanned_of_skipping : b.skipping = true → b.scanned = 0

/-- What a pull that yields nothing leaves: part of a line within the cap, and none of a line that
is skipped. -/
structure Settled (b : LineBuffer) : Prop where
  newline_not_mem : newline ∉ b.held
  length_le : b.held.length ≤ b.cap
  held_of_skipping : b.skipping = true → b.held = []

/-- The stream whose lines a buffer has not told of yet, if `later` is all that is pushed from now
on. The line that is skipped is no longer part of it. -/
def ahead (b : LineBuffer) (later : Bytes) : Bytes :=
  if b.skipping then afterLine (b.held ++ later) else b.held ++ later

/-- The pull tells the first of the lines ahead, or nothing and leaves them as they are. -/
def Advances (b : LineBuffer) (later : Bytes) (pull : Pull) : Prop :=
  match pull.result with
  | none => pull.rest.ahead later = b.ahead later
  | some r =>
    ∃ line, Told b.cap line r ∧
      reportedLines b.cap (b.ahead later) = line :: reportedLines b.cap (pull.rest.ahead later) ∧
      keptRest b.cap (b.ahead later) = keptRest b.cap (pull.rest.ahead later)

theorem sound_of_scanned (h : b.scanned = 0) : b.Sound :=
  ⟨by omega, by simp [h], by omega, fun _ => h⟩

theorem sound_empty (cap : Nat) : (empty cap).Sound := sound_of_scanned rfl

theorem settled_empty (cap : Nat) : (empty cap).Settled :=
  ⟨by simp [empty], Nat.zero_le _, fun _ => rfl⟩

theorem sound_push (hb : b.Sound) (chunk : Bytes) : (b.push chunk).Sound where
  scanned_le := by
    simp only [push, List.length_append]
    exact Nat.le_add_right_of_le hb.scanned_le
  newline_not_mem := by
    simp only [push]
    rw [List.take_append_of_le_length hb.scanned_le]
    exact hb.newline_not_mem
  scanned_le_cap := hb.scanned_le_cap
  scanned_of_skipping := hb.scanned_of_skipping

theorem ahead_push (b : LineBuffer) (chunk later : Bytes) :
    (b.push chunk).ahead later = b.ahead (chunk ++ later) := by
  simp [ahead, push]

/-! ## The search and the cut -/

theorem search_of_not_mem {bs : Bytes} (h : newline ∉ bs) (seen : Nat) :
    search seen bs = (none, seen + bs.length) := by
  induction bs generalizing seen with
  | nil => rfl
  | cons b bs ih =>
    rw [List.mem_cons, not_or] at h
    rw [search, if_neg (Ne.symm h.1), ih h.2, List.length_cons, Nat.add_assoc, Nat.add_comm 1]

theorem search_append_newline {body : Bytes} (h : newline ∉ body) (later : Bytes) (seen : Nat) :
    search seen (body ++ newline :: later) =
      (some (seen + body.length), seen + body.length + 1) := by
  induction body generalizing seen with
  | nil => rw [List.nil_append, search, if_pos rfl]; rfl
  | cons b body ih =>
    rw [List.mem_cons, not_or] at h
    rw [List.cons_append, search, if_neg (Ne.symm h.1), ih h.2, List.length_cons, Nat.add_assoc,
      Nat.add_comm 1]

/-- What is known to hold no newline ends before the first one. -/
theorem Sound.scanned_le_of_held (hb : b.Sound) (hheld : b.held = body ++ newline :: later) :
    b.scanned ≤ body.length := by
  by_contra hlt
  apply hb.newline_not_mem
  rw [hheld, List.mem_take_iff_getElem]
  exact ⟨body.length, by simp; omega, by simp⟩

theorem cut_of_not_mem (hn : newline ∉ b.held) : b.cut = (none, b.unscanned.length) := by
  have hunscanned : newline ∉ b.unscanned := fun h => hn (List.mem_of_mem_drop h)
  rw [cut, search_of_not_mem hunscanned, Nat.zero_add]
  rfl

/-- The cut is after the first newline of all that is held, though only the end was searched. -/
theorem cut_of_held (hb : b.Sound) (hbody : newline ∉ body)
    (hheld : b.held = body ++ newline :: later) :
    b.cut = (some (body ++ [newline], { b with held := later, scanned := 0 }),
      body.length + 1 - b.scanned) := by
  have hle := hb.scanned_le_of_held hheld
  have hunscanned : b.unscanned = body.drop b.scanned ++ newline :: later := by
    rw [unscanned, hheld, List.drop_append_of_le_length hle]
  have hdrop : newline ∉ body.drop b.scanned := fun h => hbody (List.mem_of_mem_drop h)
  have hcompared : 0 + (body.drop b.scanned).length + 1 = body.length + 1 - b.scanned := by
    rw [List.length_drop]
    omega
  have hsize : b.scanned + (0 + (body.drop b.scanned).length) + 1 = (body ++ [newline]).length := by
    rw [List.length_drop, List.length_append, List.length_singleton]
    omega
  have hsplit : b.held = (body ++ [newline]) ++ later := by simp [hheld]
  rw [cut, hunscanned, search_append_newline hdrop, hcompared]
  simp only [Option.map_some, hsize]
  rw [hsplit, List.take_left, List.drop_left]

/-! ## What a pull can do -/

/-- A pull from a buffer that skips nothing keeps part of a line, reports it as too long, or takes a
line off the front. It compares the bytes that were not searched, up to the newline if there is
one. -/
theorem nextWhole_cases (hb : b.Sound) (hs : b.skipping = false) :
    (newline ∉ b.held ∧ b.held.length ≤ b.cap ∧
      b.nextWhole = ⟨none, { b with scanned := b.held.length }, [], b.unscanned.length⟩) ∨
    (newline ∉ b.held ∧ b.cap < b.held.length ∧
      b.nextWhole = ⟨some (.error (.tooLong b.cap b.held.length)),
        { b with held := [], scanned := 0, skipping := true }, [], b.unscanned.length⟩) ∨
    ∃ body later, newline ∉ body ∧ b.held = body ++ newline :: later ∧
      ((b.cap < body.length + 1 ∧
        b.nextWhole = ⟨some (.error (.tooLong b.cap (body.length + 1))),
          { b with held := later, scanned := 0 }, [], body.length + 1 - b.scanned⟩) ∨
      (body.length + 1 ≤ b.cap ∧
        b.nextWhole = ⟨some (.ok (body ++ [newline])), { b with held := later, scanned := 0 },
          [.decoded (body.length + 1)], body.length + 1 - b.scanned⟩)) := by
  unfold nextWhole
  by_cases hn : newline ∈ b.held
  · obtain ⟨body, later, hheld, hbody⟩ := List.eq_append_cons_of_mem hn
    refine Or.inr (Or.inr ⟨body, later, hbody, hheld, ?_⟩)
    rw [cut_of_held hb hbody hheld]
    by_cases hl : b.cap < body.length + 1
    · exact Or.inl ⟨hl, by simp [hl]⟩
    · exact Or.inr ⟨by omega, by simp [hl]⟩
  · rw [cut_of_not_mem hn]
    by_cases hl : b.cap < b.held.length
    · exact Or.inr (Or.inl ⟨hn, hl, by simp [keepPartial, hs, hl]⟩)
    · exact Or.inl ⟨hn, by omega, by simp [keepPartial, hs, hl]⟩

/-- While a line is skipped, a pull throws away what is held of it, and goes on after its newline as
soon as that is there. -/
theorem next_cases (hb : b.Sound) :
    (b.skipping = false ∧ b.next = b.nextWhole) ∨
    (b.skipping = true ∧ newline ∉ b.held ∧
      b.next = ⟨none, { b with held := [], scanned := 0 }, [], b.unscanned.length⟩) ∨
    (b.skipping = true ∧ ∃ body later, newline ∉ body ∧ b.held = body ++ newline :: later ∧
      b.next =
        let pull := nextWhole { b with held := later, scanned := 0, skipping := false }
        { pull with
          notes := .skipped (body.length + 1) :: pull.notes
          compared := body.length + 1 - b.scanned + pull.compared }) := by
  unfold next
  cases hs : b.skipping with
  | false => exact Or.inl ⟨rfl, rfl⟩
  | true =>
    by_cases hn : newline ∈ b.held
    · obtain ⟨body, later, hheld, hbody⟩ := List.eq_append_cons_of_mem hn
      refine Or.inr (Or.inr ⟨rfl, body, later, hbody, hheld, ?_⟩)
      rw [cut_of_held hb hbody hheld]
      simp
    · refine Or.inr (Or.inl ⟨rfl, hn, ?_⟩)
      rw [cut_of_not_mem hn]
      simp [keepPartial, hs]

/-! ## What a pull keeps -/

theorem cap_nextWhole (hb : b.Sound) (hs : b.skipping = false) :
    b.nextWhole.rest.cap = b.cap := by
  rcases nextWhole_cases hb hs with ⟨-, -, he⟩ | ⟨-, -, he⟩ | ⟨_, _, -, -, ⟨-, he⟩ | ⟨-, he⟩⟩ <;>
    rw [he]

theorem sound_nextWhole (hb : b.Sound) (hs : b.skipping = false) : b.nextWhole.rest.Sound := by
  rcases nextWhole_cases hb hs with ⟨hn, hl, he⟩ | ⟨-, -, he⟩ | ⟨_, _, -, -, ⟨-, he⟩ | ⟨-, he⟩⟩ <;>
    rw [he]
  · exact ⟨Nat.le_refl _, by simpa using hn, hl, fun h => by simp [hs] at h⟩
  · exact sound_of_scanned rfl
  · exact sound_of_scanned rfl
  · exact sound_of_scanned rfl

theorem settled_nextWhole (hb : b.Sound) (hs : b.skipping = false)
    (h : b.nextWhole.result = none) : b.nextWhole.rest.Settled := by
  rcases nextWhole_cases hb hs with ⟨hn, hl, he⟩ | ⟨-, -, he⟩ | ⟨_, _, -, -, ⟨-, he⟩ | ⟨-, he⟩⟩ <;>
    rw [he] at h ⊢
  · exact ⟨hn, hl, fun h => by simp [hs] at h⟩
  · simp at h
  · simp at h
  · simp at h

theorem advances_nextWhole (hb : b.Sound) (hs : b.skipping = false) (later : Bytes) :
    b.Advances later b.nextWhole := by
  have hahead : b.ahead later = b.held ++ later := by simp [ahead, hs]
  rcases nextWhole_cases hb hs with
    ⟨-, -, he⟩ | ⟨hn, hl, he⟩ | ⟨body, more, hbody, hheld, ⟨hl, he⟩ | ⟨hl, he⟩⟩ <;>
    rw [he]
  · simp [Advances, ahead, hs]
  · obtain ⟨line, hlen, hreported, hkept⟩ := exists_reportedLines_eq_cons b.cap hn hl later
    refine ⟨line, .overlong hl hlen, ?_, ?_⟩
    · rw [hahead, hreported]
      simp [ahead]
    · rw [hahead, hkept]
      simp [ahead]
  all_goals
    rw [hheld, List.append_assoc, List.cons_append] at hahead
    refine ⟨body ++ [newline], ?_, ?_, ?_⟩
  -- too long or not, the line goes off the front, and what is told of it depends on its size alone
  · exact .overlong hl (by simp)
  · rw [hahead, reportedLines_append_newline _ hbody]
    simp [ahead, hs]
  · rw [hahead, keptRest_append_newline _ hbody]
    simp [ahead, hs]
  · exact .whole (by simpa using hl)
  · rw [hahead, reportedLines_append_newline _ hbody]
    simp [ahead, hs]
  · rw [hahead, keptRest_append_newline _ hbody]
    simp [ahead, hs]

/-- What is left of a skipped line can be taken out of the buffer without any change to the lines
ahead. -/
theorem ahead_of_skipping {body more : Bytes} (hs : b.skipping = true) (hbody : newline ∉ body)
    (hheld : b.held = body ++ newline :: more) (later : Bytes) :
    ahead { b with held := more, scanned := 0, skipping := false } later = b.ahead later := by
  simp only [ahead, hs, hheld, if_true, Bool.false_eq_true, if_false, List.append_assoc,
    List.cons_append]
  rw [afterLine_append_newline hbody]

theorem cap_next (hb : b.Sound) : b.next.rest.cap = b.cap := by
  rcases next_cases hb with ⟨hs, he⟩ | ⟨-, -, he⟩ | ⟨-, body, more, -, -, he⟩ <;> rw [he]
  · exact cap_nextWhole hb hs
  · exact cap_nextWhole (sound_of_scanned rfl) rfl

theorem sound_next (hb : b.Sound) : b.next.rest.Sound := by
  rcases next_cases hb with ⟨hs, he⟩ | ⟨-, -, he⟩ | ⟨-, body, more, -, -, he⟩ <;> rw [he]
  · exact sound_nextWhole hb hs
  · exact sound_of_scanned rfl
  · exact sound_nextWhole (sound_of_scanned rfl) rfl

theorem settled_next (hb : b.Sound) (h : b.next.result = none) : b.next.rest.Settled := by
  rcases next_cases hb with ⟨hs, he⟩ | ⟨-, -, he⟩ | ⟨-, body, more, -, -, he⟩ <;> rw [he] at h ⊢
  · exact settled_nextWhole hb hs h
  · exact ⟨by simp, Nat.zero_le _, fun _ => rfl⟩
  · exact settled_nextWhole (sound_of_scanned rfl) rfl h

/-- Whatever arrives later, a pull tells the first of the lines ahead and no other. -/
theorem advances_next (hb : b.Sound) (later : Bytes) : b.Advances later b.next := by
  rcases next_cases hb with ⟨hs, he⟩ | ⟨hs, hn, he⟩ | ⟨hs, body, more, hbody, hheld, he⟩ <;> rw [he]
  · exact advances_nextWhole hb hs later
  · simp only [Advances, ahead, hs, if_true, List.nil_append]
    rw [afterLine_append_of_not_mem hn]
  · have := advances_nextWhole
      (b := { b with held := more, scanned := 0, skipping := false })
      (sound_of_scanned rfl) rfl later
    simpa only [Advances, ahead_of_skipping hs hbody hheld later] using this

end AdcFeed.LineBuffer
