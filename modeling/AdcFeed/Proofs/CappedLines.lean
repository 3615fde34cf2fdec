import AdcFeed.Line
import AdcFeed.Lines
import Mathlib.Data.List.Forall2

/-!
What a stream comes to when its lines have a cap, said without chunks and buffers. `reportedLines`
are the lines that something is told of while the stream goes on, and `keptRest` is what is left for
its end. Main statement: once an unterminated line is over the cap, the bytes up to its newline
belong to that line and change nothing else (`exists_reportedLines_eq_cons`).
-/

namespace AdcFeed

/-- What is left of a stream after its first newline; nothing if it has none. -/
def afterLine : Bytes → Bytes
  | [] => []
  | b :: bs => if b = newline then bs else afterLine bs

/-- The lines of a stream that are told of under a cap as soon as they are seen: the terminated
ones, and the rest if it is over the cap. -/
def reportedLines (cap : Nat) (bs : Bytes) : List Bytes :=
  (cutLines bs).1 ++ if cap < (cutLines bs).2.length then [(cutLines bs).2] else []

/-- The unterminated rest of a stream, if there is one and it is within the cap. -/
def keptRest (cap : Nat) (bs : Bytes) : Option Bytes :=
  if (cutLines bs).2 = [] ∨ cap < (cutLines bs).2.length then none else some (cutLines bs).2

/-- What may be told of a line under a cap: the line itself if it is within the cap, otherwise that
it is too long, with any number of its bytes beyond the cap gone when this was seen. -/
inductive Told (cap : Nat) (line : Bytes) : Except LineFault Bytes → Prop
  | whole (h : line.length ≤ cap) : Told cap line (.ok line)
  | overlong {dropped : Nat} (h : cap < dropped) (hd : dropped ≤ line.length) :
      Told cap line (.error (.tooLong cap dropped))

/-! ## The first line -/

theorem afterLine_append_of_not_mem {as : Bytes} (h : newline ∉ as) (bs : Bytes) :
    afterLine (as ++ bs) = afterLine bs := by
  induction as with
  | nil => rfl
  | cons a as ih =>
    have ha : a ≠ newline := by
      rintro rfl
      exact h List.mem_cons_self
    have has : newline ∉ as := by
      intro hm
      exact h (List.mem_cons_of_mem _ hm)
    rw [List.cons_append, afterLine, if_neg ha]
    exact ih has

theorem afterLine_of_not_mem {bs : Bytes} (h : newline ∉ bs) : afterLine bs = [] := by
  have := afterLine_append_of_not_mem h []
  rwa [List.append_nil] at this

theorem afterLine_append_newline {body : Bytes} (h : newline ∉ body) (bs : Bytes) :
    afterLine (body ++ newline :: bs) = bs := by
  rw [afterLine_append_of_not_mem h, afterLine, if_pos rfl]

/-- A stream with a newline is its first line, then the rest. -/
theorem exists_eq_append_newline {bs : Bytes} (h : newline ∈ bs) :
    ∃ body, newline ∉ body ∧ bs = body ++ newline :: afterLine bs := by
  obtain ⟨body, later, rfl, hbody⟩ := List.eq_append_cons_of_mem h
  exact ⟨body, hbody, by rw [afterLine_append_newline hbody]⟩

theorem cutLines_append_newline {body : Bytes} (h : newline ∉ body) (bs : Bytes) :
    cutLines (body ++ newline :: bs) =
      ((body ++ [newline]) :: (cutLines bs).1, (cutLines bs).2) := by
  induction body with
  | nil => exact cutLines_newline bs
  | cons b body ih =>
    have hb : b ≠ newline := by
      rintro rfl
      exact h List.mem_cons_self
    have hbody : newline ∉ body := by
      intro hm
      exact h (List.mem_cons_of_mem _ hm)
    have hcut := ih hbody
    rw [List.cons_append, cutLines_cons_cons hb (congrArg Prod.fst hcut), hcut]
    rfl

/-! ## The rest after the last newline -/

theorem rest_append_of_not_mem {bs : Bytes} (h : newline ∉ bs) (as : Bytes) :
    (cutLines (as ++ bs)).2 = (cutLines as).2 ++ bs := by
  have hn : newline ∉ (cutLines as).2 ++ bs := by
    simpa [h] using newline_not_mem_rest as
  rw [cutLines_append, cutLines_of_not_mem hn]

theorem rest_append_newline (bs : Bytes) : (cutLines (bs ++ [newline])).2 = [] := by
  rw [cutLines_append, cutLines_append_newline (newline_not_mem_rest bs)]
  rfl

/-- Nothing is left after the last newline exactly if there is nothing at all or a newline ends
it. -/
theorem rest_eq_nil_iff (bs : Bytes) :
    (cutLines bs).2 = [] ↔ bs = [] ∨ [newline] <:+ bs := by
  constructor
  · intro h
    have hflatten := cutLines_flatten bs
    rw [h, List.append_nil] at hflatten
    rcases List.eq_nil_or_concat (cutLines bs).1 with hlines | ⟨lines, line, hlines⟩
    · exact .inl (by rw [← hflatten, hlines, List.flatten_nil])
    · have hmem : line ∈ (cutLines bs).1 := by simp [hlines]
      obtain ⟨body, -, rfl⟩ := mem_cutLines hmem
      refine .inr ⟨lines.flatten ++ body, ?_⟩
      rw [← hflatten, hlines]
      simp
  · rintro (rfl | ⟨body, rfl⟩)
    · rfl
    · exact rest_append_newline body

/-! ## Lines under a cap -/

section Cap

variable (cap : Nat)

theorem reportedLines_append_newline {body : Bytes} (h : newline ∉ body) (bs : Bytes) :
    reportedLines cap (body ++ newline :: bs) = (body ++ [newline]) :: reportedLines cap bs := by
  unfold reportedLines
  rw [cutLines_append_newline h, List.cons_append]

theorem keptRest_append_newline {body : Bytes} (h : newline ∉ body) (bs : Bytes) :
    keptRest cap (body ++ newline :: bs) = keptRest cap bs := by
  unfold keptRest
  rw [cutLines_append_newline h]

/-- The lines of a stream that goes on are those that ended before, and those of the rest with what
is new. -/
theorem reportedLines_append (as bs : Bytes) :
    reportedLines cap (as ++ bs) =
      (cutLines as).1 ++ reportedLines cap ((cutLines as).2 ++ bs) := by
  unfold reportedLines
  rw [cutLines_append, List.append_assoc]

/-- Nothing is missing from the lines told of when no rest within the cap is left. -/
theorem flatten_reportedLines {bs : Bytes}
    (h : (cutLines bs).2 = [] ∨ cap < (cutLines bs).2.length) :
    (reportedLines cap bs).flatten = bs := by
  have hflatten := cutLines_flatten bs
  rcases h with h | h
  · rw [h, List.append_nil] at hflatten
    simp [reportedLines, h, hflatten]
  · rw [reportedLines, if_pos h, List.flatten_append, List.flatten_singleton, hflatten]

theorem reportedLines_nil : reportedLines cap [] = [] := by
  simp [reportedLines, cutLines]

theorem keptRest_nil : keptRest cap [] = none := by
  simp [keptRest, cutLines]

theorem reportedLines_of_not_mem {bs : Bytes} (h : newline ∉ bs) :
    reportedLines cap bs = if cap < bs.length then [bs] else [] := by
  simp [reportedLines, cutLines_of_not_mem h]

theorem keptRest_of_not_mem {bs : Bytes} (h : newline ∉ bs) :
    keptRest cap bs = if bs = [] ∨ cap < bs.length then none else some bs := by
  rw [keptRest, cutLines_of_not_mem h]

/-- The line that `bs` begins is over the cap, so it is reported, and what comes after it is the
stream after the first newline still to come. -/
theorem exists_reportedLines_eq_cons {bs : Bytes} (h : newline ∉ bs) (hcap : cap < bs.length)
    (later : Bytes) :
    ∃ line, bs.length ≤ line.length ∧
      reportedLines cap (bs ++ later) = line :: reportedLines cap (afterLine later) ∧
      keptRest cap (bs ++ later) = keptRest cap (afterLine later) := by
  by_cases hl : newline ∈ later
  · obtain ⟨body, hbody, he⟩ := exists_eq_append_newline hl
    have hn : newline ∉ bs ++ body := by simp [h, hbody]
    refine ⟨bs ++ body ++ [newline], by simp, ?_, ?_⟩
    · rw [← reportedLines_append_newline cap hn (afterLine later), List.append_assoc, ← he]
    · rw [← keptRest_append_newline cap hn (afterLine later), List.append_assoc, ← he]
  · have hn : newline ∉ bs ++ later := by simp [h, hl]
    have hlong : cap < (bs ++ later).length := by rw [List.length_append]; omega
    refine ⟨bs ++ later, by simp, ?_, ?_⟩
    · rw [reportedLines_of_not_mem cap hn, if_pos hlong, afterLine_of_not_mem hl,
        reportedLines_nil]
    · rw [keptRest_of_not_mem cap hn, if_pos (Or.inr hlong), afterLine_of_not_mem hl, keptRest_nil]

end Cap

end AdcFeed
