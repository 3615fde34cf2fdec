import AdcFeed.Proofs.LineBuffer.Position
import Mathlib.Algebra.Ring.Nat

/-!
What becomes of the bytes that are pushed. An account is kept of every line that is told of: its
result, the bytes that notes count as thrown away after it, and the bytes that pulls threw away and
told nothing of (`LineAccount`, `LineBuffer.accounts`). A pull keeps the accounts balanced
(`Balanced.next`). Main statement: at every moment they cover what has left the buffer, line by line
and byte for byte (`pushed_accounted`). So what is told of an over-long line falls short of its
length by what pulls threw away of it while they looked for its newline in vain
(`told_clearedCalls_lt`).
-/

namespace AdcFeed

/-- The bytes that a result speaks for: those of the line, or those that were gone when it was seen
to be too long. -/
def resultSize : Except LineFault Bytes → Nat
  | .ok line => line.length
  | .error (.tooLong _ dropped) => dropped
  | .error _ => 0

/-- The bytes that a note counts as thrown away. -/
def BufferNote.thrownAway : BufferNote → Nat
  | .decoded _ => 0
  | .skipped size => size

/-- The bytes that the notes of a pull count as thrown away. -/
def Pull.noted (pull : Pull) : Nat := (pull.notes.map BufferNote.thrownAway).sum

/-- What became of the bytes of a line: its result, and how many were thrown away after it, with a
note and without one. -/
structure LineAccount where
  result : Except LineFault Bytes
  noted : Nat := 0
  unnoted : Nat := 0
  deriving DecidableEq

namespace LineAccount

/-- The account of a line when its result is told. -/
def ofResult (result : Except LineFault Bytes) : LineAccount := { result }

/-- All bytes of the account. -/
def total (a : LineAccount) : Nat := resultSize a.result + a.noted + a.unnoted

/-- The account is one of this line, and no byte of the line is missing or counted twice. -/
def Covers (cap : Nat) (line : Bytes) (a : LineAccount) : Prop :=
  Told cap line a.result ∧ a.total = line.length

/-- Bytes thrown away belong to the line that was told of last, whose account stands first. -/
def charge (noted unnoted : Nat) : List LineAccount → List LineAccount
  | [] => []
  | a :: accounts =>
    { a with noted := a.noted + noted, unnoted := a.unnoted + unnoted } :: accounts

/-- The accounts after a pull: what it throws away is entered, and then the line it tells of. -/
def enter (accounts : List LineAccount) (unnoted : Nat) (pull : Pull) : List LineAccount :=
  (pull.result.map ofResult).toList ++ charge pull.noted unnoted accounts

theorem charge_zero (accounts : List LineAccount) : charge 0 0 accounts = accounts := by
  cases accounts <;> rfl

theorem map_result_charge (noted unnoted : Nat) (accounts : List LineAccount) :
    (charge noted unnoted accounts).map result = accounts.map result := by
  cases accounts <;> rfl

theorem map_result_enter (accounts : List LineAccount) (unnoted : Nat) (pull : Pull) :
    (enter accounts unnoted pull).map result =
      pull.result.toList ++ accounts.map result := by
  rw [enter, List.map_append, map_result_charge]
  cases pull.result <;> rfl

variable {cap noted unnoted : Nat} {line more : Bytes} {a : LineAccount}

theorem covers_ofResult {r : Except LineFault Bytes} (h : Told cap line r)
    (hr : resultSize r = line.length) : Covers cap line (ofResult r) := ⟨h, hr⟩

/-- A line over the cap may go on after it was told of, and its account with it. -/
theorem Covers.append (h : a.Covers cap line) (hl : cap < line.length)
    (hmore : noted + unnoted = more.length) :
    Covers cap (line ++ more)
      { a with noted := a.noted + noted, unnoted := a.unnoted + unnoted } := by
  obtain ⟨htold, htotal⟩ := h
  refine ⟨?_, ?_⟩
  · cases a with
    | mk r _ _ =>
      cases htold with
      | whole h => omega
      | overlong h hd => exact .overlong h (by rw [List.length_append]; omega)
  · simp only [total, List.length_append] at htotal ⊢
    omega

end LineAccount

namespace LineBuffer

open LineAccount

/-- The bytes that the next pull throws away without a note: all that is held of a skipped line,
when its newline is not there. -/
def unnoted (b : LineBuffer) : Nat :=
  if b.skipping = true ∧ newline ∉ b.held then b.held.length else 0

/-- Accounts kept along a list of calls, that of the latest line first. -/
def accountsAfter (accounts : List LineAccount) (b : LineBuffer) : List Call → List LineAccount
  | [] => accounts
  | .push chunk :: calls => (b.push chunk).accountsAfter accounts calls
  | .next :: calls => b.next.rest.accountsAfter (enter accounts b.unnoted b.next) calls

/-- The accounts of the lines that a list of calls tells of, in order. -/
def accounts (b : LineBuffer) (calls : List Call) : List LineAccount :=
  (b.accountsAfter [] calls).reverse

/-- The accounts, that of the latest line first, cover what of the stream has left the buffer: whole
lines and, while a line is skipped, what has come of it. -/
def Balanced (b : LineBuffer) (stream : Bytes) (accounts : List LineAccount) : Prop :=
  ∃ gone, stream = gone ++ b.held ∧
    (match b.skipping with
    | true => b.cap < (cutLines gone).2.length
    | false => (cutLines gone).2 = []) ∧
    List.Forall₂ (Covers b.cap) (reportedLines b.cap gone).reverse accounts

variable {b : LineBuffer} {stream : Bytes} {as : List LineAccount}

theorem balanced_empty (cap : Nat) : (empty cap).Balanced [] [] := by
  refine ⟨[], rfl, rfl, ?_⟩
  rw [reportedLines_nil]
  exact .nil

theorem Balanced.push (h : b.Balanced stream as) (chunk : Bytes) :
    (b.push chunk).Balanced (stream ++ chunk) as := by
  obtain ⟨gone, rfl, hgone, hcovers⟩ := h
  exact ⟨gone, List.append_assoc _ _ _, hgone, hcovers⟩

/-! ## Pulls -/

section Steps

variable {body later more : Bytes} {r : Except LineFault Bytes} {noted unnoted : Nat}

theorem noted_nextWhole (hb : b.Sound) (hs : b.skipping = false) : b.nextWhole.noted = 0 := by
  rcases nextWhole_cases hb hs with ⟨-, -, he⟩ | ⟨-, -, he⟩ | ⟨_, _, -, -, ⟨-, he⟩ | ⟨-, he⟩⟩ <;>
    rw [he] <;> rfl

theorem reportedLines_append_of_ended {cap : Nat} {gone : Bytes} (hgone : (cutLines gone).2 = [])
    (bs : Bytes) :
    reportedLines cap (gone ++ bs) = reportedLines cap gone ++ reportedLines cap bs := by
  have hended : reportedLines cap gone = (cutLines gone).1 := by simp [reportedLines, hgone]
  rw [reportedLines_append, hgone, List.nil_append, hended]

/-- A line that is taken out whole gets an account of its own. -/
theorem Balanced.takeLine (h : b.Balanced stream as) (hs : b.skipping = false)
    (hbody : newline ∉ body) (hheld : b.held = body ++ newline :: later)
    (htold : Told b.cap (body ++ [newline]) r) (hsize : resultSize r = body.length + 1) :
    Balanced { b with held := later, scanned := 0 } stream (ofResult r :: as) := by
  obtain ⟨gone, rfl, hgone, hcovers⟩ := h
  rw [hs] at hgone
  refine ⟨gone ++ (body ++ [newline]), by simp [hheld], ?_, ?_⟩
  · rw [hs, ← List.append_assoc]
    exact rest_append_newline _
  · rw [reportedLines_append_of_ended hgone, reportedLines_append_newline b.cap hbody,
      reportedLines_nil, List.reverse_append]
    exact .cons (covers_ofResult htold (by simpa using hsize)) hcovers

/-- A line that is seen to be too long gets an account of its own, which is still open. -/
theorem Balanced.startSkip (h : b.Balanced stream as) (hs : b.skipping = false)
    (hn : newline ∉ b.held) (hl : b.cap < b.held.length) :
    Balanced { b with held := [], scanned := 0, skipping := true } stream
      (ofResult (.error (.tooLong b.cap b.held.length)) :: as) := by
  obtain ⟨gone, rfl, hgone, hcovers⟩ := h
  rw [hs] at hgone
  refine ⟨gone ++ b.held, (List.append_nil _).symm, ?_, ?_⟩
  · rw [rest_append_of_not_mem hn, hgone]
    exact hl
  · rw [reportedLines_append_of_ended hgone, reportedLines_of_not_mem b.cap hn, if_pos hl,
      List.reverse_append]
    exact .cons (covers_ofResult (.overlong hl (Nat.le_refl _)) rfl) hcovers

/-- What comes of a line that is skipped goes into the account of that line. -/
theorem forall₂_covers_charge {cap : Nat} {gone : Bytes} (hgone : cap < (cutLines gone).2.length)
    (hmore : reportedLines cap ((cutLines gone).2 ++ more) = [(cutLines gone).2 ++ more])
    (hsize : noted + unnoted = more.length)
    (h : List.Forall₂ (Covers cap) (reportedLines cap gone).reverse as) :
    List.Forall₂ (Covers cap) (reportedLines cap (gone ++ more)).reverse
      (charge noted unnoted as) := by
  rw [reportedLines, if_pos hgone, List.reverse_append] at h
  rw [reportedLines_append, hmore, List.reverse_append]
  cases h with
  | cons hfirst hlater => exact .cons (hfirst.append hgone hsize) hlater

/-- Bytes of a skipped line without its newline are cleared. -/
theorem Balanced.clear (h : b.Balanced stream as) (hs : b.skipping = true)
    (hn : newline ∉ b.held) :
    Balanced { b with held := [], scanned := 0 } stream (charge 0 b.held.length as) := by
  obtain ⟨gone, rfl, hgone, hcovers⟩ := h
  rw [hs] at hgone
  have hrest := newline_not_mem_rest gone
  have hlong : b.cap < ((cutLines gone).2 ++ b.held).length := by
    rw [List.length_append]
    exact Nat.lt_add_right _ hgone
  refine ⟨gone ++ b.held, (List.append_nil _).symm, ?_, ?_⟩
  · rw [hs, rest_append_of_not_mem hn]
    exact hlong
  · refine forall₂_covers_charge hgone ?_ (Nat.zero_add _) hcovers
    rw [reportedLines_of_not_mem b.cap (by simp [hrest, hn]), if_pos hlong]

/-- The end of a skipped line is thrown away with a note. -/
theorem Balanced.endSkip (h : b.Balanced stream as) (hs : b.skipping = true)
    (hbody : newline ∉ body) (hheld : b.held = body ++ newline :: later) :
    Balanced { b with held := later, scanned := 0, skipping := false } stream
      (charge (body.length + 1) 0 as) := by
  obtain ⟨gone, rfl, hgone, hcovers⟩ := h
  rw [hs] at hgone
  have hrest := newline_not_mem_rest gone
  refine ⟨gone ++ (body ++ [newline]), by simp [hheld], ?_, ?_⟩
  · rw [← List.append_assoc]
    exact rest_append_newline _
  · refine forall₂_covers_charge hgone ?_ (by simp) hcovers
    rw [← List.append_assoc, reportedLines_append_newline b.cap (by simp [hrest, hbody]),
      reportedLines_nil]

theorem Balanced.nextWhole (hb : b.Sound) (hs : b.skipping = false) (h : b.Balanced stream as) :
    b.nextWhole.rest.Balanced stream ((b.nextWhole.result.map ofResult).toList ++ as) := by
  rcases nextWhole_cases hb hs with
    ⟨-, -, he⟩ | ⟨hn, hl, he⟩ | ⟨body, later, hbody, hheld, ⟨hl, he⟩ | ⟨hl, he⟩⟩ <;> rw [he]
  · exact h
  · exact h.startSkip hs hn hl
  · exact h.takeLine hs hbody hheld (.overlong hl (by simp)) rfl
  · exact h.takeLine hs hbody hheld (.whole (by simpa using hl)) (by simp [resultSize])

/-- A pull enters all that it takes out of the buffer. -/
theorem Balanced.next (hb : b.Sound) (h : b.Balanced stream as) :
    b.next.rest.Balanced stream (enter as b.unnoted b.next) := by
  rcases next_cases hb with ⟨hs, he⟩ | ⟨hs, hn, he⟩ | ⟨hs, body, later, hbody, hheld, he⟩
  · rw [he, enter, noted_nextWhole hb hs, unnoted, if_neg (by simp [hs]), charge_zero]
    exact h.nextWhole hb hs
  · rw [he, unnoted, if_pos ⟨hs, hn⟩]
    exact h.clear hs hn
  · have hnoted := noted_nextWhole (b := { b with held := later, scanned := 0, skipping := false })
      (sound_of_scanned rfl) rfl
    have hunnoted : b.unnoted = 0 := by
      rw [unnoted, if_neg (by simp [hheld])]
    have hpull := (h.endSkip hs hbody hheld).nextWhole (sound_of_scanned rfl) rfl
    rw [he, hunnoted, enter]
    simp only [Pull.noted, List.map_cons, List.sum_cons, BufferNote.thrownAway] at hnoted ⊢
    rw [hnoted, Nat.add_zero]
    exact hpull

end Steps

/-! ## Many calls -/

theorem Balanced.accountsAfter (hb : b.Sound) (h : b.Balanced stream as) (calls : List Call) :
    (b.history calls).2.Balanced (stream ++ pushed calls) (b.accountsAfter as calls) := by
  induction calls generalizing b stream as with
  | nil =>
    rw [pushed, List.append_nil]
    exact h
  | cons call calls ih =>
    cases call with
    | push chunk =>
      rw [pushed, ← List.append_assoc]
      exact ih (sound_push hb chunk) (h.push chunk)
    | next => exact ih (sound_next hb) (h.next hb)

theorem results_accountsAfter (as : List LineAccount) (b : LineBuffer) (calls : List Call) :
    (b.accountsAfter as calls).reverse.map LineAccount.result =
      as.reverse.map LineAccount.result ++ results (b.history calls).1 := by
  induction calls generalizing b as with
  | nil => simp [LineBuffer.accountsAfter, history, results]
  | cons call calls ih =>
    cases call with
    | push chunk => exact ih as (b.push chunk)
    | next =>
      rw [LineBuffer.accountsAfter, ih, history, results_cons, ← List.append_assoc]
      congr 1
      rw [List.map_reverse, List.map_reverse, map_result_enter, List.reverse_append]
      cases b.next.result <;> rfl

/-- No note is told before the line that it is about. -/
theorem Balanced.sum_noted_enter (hb : b.Sound) (h : b.Balanced stream as) :
    ((enter as b.unnoted b.next).map LineAccount.noted).sum =
      (as.map LineAccount.noted).sum + b.next.noted := by
  have hnew : ∀ as, (enter as b.unnoted b.next).map LineAccount.noted =
      b.next.result.toList.map (fun _ => 0) ++
        (charge b.next.noted b.unnoted as).map LineAccount.noted := by
    intro as
    rw [enter, List.map_append]
    cases b.next.result <;> rfl
  have hcharge : ((charge b.next.noted b.unnoted as).map LineAccount.noted).sum =
      (as.map LineAccount.noted).sum + b.next.noted := by
    cases as with
    | cons a as =>
      simp only [charge, List.map_cons, List.sum_cons]
      omega
    | nil =>
      -- a line that is skipped has an account, so here none is skipped and nothing is noted
      obtain ⟨gone, -, hgone, hcovers⟩ := h
      cases hs : b.skipping with
      | true =>
        rw [hs] at hgone
        rw [reportedLines, if_pos hgone, List.reverse_append] at hcovers
        cases hcovers
      | false =>
        rcases next_cases hb with ⟨-, he⟩ | ⟨hs', -⟩ | ⟨hs', -⟩
        · rw [he, noted_nextWhole hb hs]
          rfl
        · simp [hs] at hs'
        · simp [hs] at hs'
  rw [hnew, List.sum_append, hcharge]
  cases b.next.result <;> simp

theorem Balanced.sum_noted (hb : b.Sound) (h : b.Balanced stream as) (calls : List Call) :
    ((b.accountsAfter as calls).map LineAccount.noted).sum =
      (as.map LineAccount.noted).sum + ((b.history calls).1.map Pull.noted).sum := by
  induction calls generalizing b stream as with
  | nil => rfl
  | cons call calls ih =>
    cases call with
    | push chunk => exact ih (sound_push hb chunk) (h.push chunk)
    | next =>
      rw [LineBuffer.accountsAfter, ih (sound_next hb) (h.next hb), h.sum_noted_enter hb, history,
        List.map_cons, List.sum_cons, Nat.add_assoc]

theorem sum_total_of_covers {cap : Nat} {lines : List Bytes}
    (h : List.Forall₂ (Covers cap) lines as) :
    (as.map total).sum = lines.flatten.length := by
  induction h with
  | nil => rfl
  | cons h _ ih =>
    rw [List.map_cons, List.sum_cons, ih, h.2, List.flatten_cons, List.length_append]

theorem sum_total (as : List LineAccount) :
    (as.map total).sum = ((as.map LineAccount.result).map resultSize).sum +
      (as.map LineAccount.noted).sum + (as.map LineAccount.unnoted).sum := by
  induction as with
  | nil => rfl
  | cons a as ih =>
    simp only [List.map_cons, List.sum_cons, ih, total]
    omega

theorem Balanced.sum_eq (h : b.Balanced stream as) :
    stream.length = ((as.map LineAccount.result).map resultSize).sum +
      (as.map LineAccount.noted).sum + (as.map LineAccount.unnoted).sum + b.pending := by
  obtain ⟨gone, rfl, hgone, hcovers⟩ := h
  have hwhole : (reportedLines b.cap gone).flatten = gone := by
    refine flatten_reportedLines b.cap ?_
    cases hs : b.skipping with
    | true => exact .inr (by simpa [hs] using hgone)
    | false => exact .inl (by simpa [hs] using hgone)
  have hsum := sum_total_of_covers hcovers
  rw [sum_total, List.length_flatten, List.map_reverse, List.sum_reverse, ← List.length_flatten,
    hwhole] at hsum
  rw [List.length_append, ← hsum]
  rfl

/-- **All bytes that are pushed can be accounted for, though not all are told of.** Whatever is
called, there is one account for each result, and the notes about thrown away bytes are in them.
What has left the buffer are the lines that the accounts cover, one for each: the bytes that its
result speaks for, those noted and those not noted make up the line, its newline included. So
results, notes, bytes without a note and bytes still held make up all that was pushed; and nothing
is held when the stream ends with a newline and a pull has yielded nothing. -/
theorem pushed_accounted (m : Nat) (calls : List Call) :
    let cap := max m 1
    let (pulls, final) := (empty m).history calls
    let accounts := (empty m).accounts calls
    accounts.map LineAccount.result = results pulls ∧
      (accounts.map LineAccount.noted).sum = (pulls.map Pull.noted).sum ∧
      (∃ gone, pushed calls = gone ++ final.held ∧
        List.Forall₂ (Covers cap) (reportedLines cap gone) accounts) ∧
      (pushed calls).length =
        ((results pulls).map resultSize).sum + (pulls.map Pull.noted).sum +
          (accounts.map LineAccount.unnoted).sum + final.pending ∧
      ∀ earlier, calls = earlier ++ [.next] →
        ((empty m).history earlier).2.next.result = none → [newline] <:+ pushed calls →
        final.pending = 0 := by
  intro cap
  have hsound := sound_empty m
  have hbalanced := (balanced_empty m).accountsAfter hsound calls
  have hcap : ((empty m).history calls).2.cap = cap := cap_history hsound calls
  have hresults : ((empty m).accounts calls).map LineAccount.result =
      results ((empty m).history calls).1 := results_accountsAfter [] (empty m) calls
  have hnoted : (((empty m).accounts calls).map LineAccount.noted).sum =
      (((empty m).history calls).1.map Pull.noted).sum := by
    rw [accounts, List.map_reverse, List.sum_reverse, (balanced_empty m).sum_noted hsound calls]
    exact Nat.zero_add _
  have hsum := hbalanced.sum_eq
  obtain ⟨gone, hgone, -, hcovers⟩ := hbalanced
  rw [hcap] at hcovers
  refine ⟨hresults, hnoted, ⟨gone, hgone, ?_⟩, ?_, ?_⟩
  · rw [accounts, ← List.forall₂_reverse_iff, List.reverse_reverse]
    exact hcovers
  · rw [← hresults, ← hnoted, accounts]
    simpa only [List.nil_append, List.map_reverse, List.sum_reverse] using hsum
  · rintro earlier rfl hnone hended
    rw [pushed_append_next] at hended
    obtain ⟨hsound, hsettled, -, hstands⟩ := standsIn_history_append_next hnone
    have hempty := hstands.eq_empty hsound hsettled (.inr hended)
    exact congrArg pending hempty

/-- Under a cap of four a line comes in three parts, each followed by a pull. -/
def clearedCalls : List Call :=
  [.push [65, 65, 65, 65, 65, 65], .next, .push [66, 66], .next, .push [67, newline], .next]

theorem pushed_accounted_clearedCalls :
    let (pulls, final) := (empty 4).history clearedCalls
    (empty 4).accounts clearedCalls = [⟨.error (.tooLong 4 6), 2, 2⟩] ∧
      (pushed clearedCalls).length =
        ((results pulls).map resultSize).sum + (pulls.map Pull.noted).sum + 2 ∧
      final.pending = 0 := by
  have haccounts : (empty 4).accounts clearedCalls = [⟨.error (.tooLong 4 6), 2, 2⟩] := by
    decide
  have hnone : ((empty 4).history clearedCalls.dropLast).2.next.result = none := by decide
  obtain ⟨-, -, -, hsum, hheld⟩ := pushed_accounted 4 clearedCalls
  have hpending := hheld clearedCalls.dropLast rfl hnone (by decide)
  rw [haccounts, hpending] at hsum
  exact ⟨haccounts, hsum, hpending⟩

/-- The only line of the stream is over the cap and its newline has come, but result and notes
together speak for fewer bytes than it has: the pull in between threw two away. -/
theorem told_clearedCalls_lt :
    let (pulls, final) := (empty 4).history clearedCalls
    cutLines (pushed clearedCalls) = ([pushed clearedCalls], []) ∧ final.held = [] ∧
      4 < (pushed clearedCalls).length ∧
      ((results pulls).map resultSize).sum + (pulls.map Pull.noted).sum <
        (pushed clearedCalls).length := by
  decide

end LineBuffer

end AdcFeed
