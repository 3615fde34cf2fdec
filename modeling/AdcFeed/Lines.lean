import AdcFeed.Text.Bytes

/-!
A stream cut after every newline. Main statements: nothing is lost and every piece is a line
(`cutLines_flatten`, `mem_cutLines`, `newline_not_mem_rest`), and the cut of a longer stream goes on
from the rest of the shorter one (`cutLines_append`).
-/

namespace AdcFeed

/-- The byte that ends a line. -/
def newline : UInt8 := 10

/-- The lines of a stream, each with its newline, and the rest after the last newline. -/
def cutLines : Bytes → List Bytes × Bytes
  | [] => ([], [])
  | b :: bs =>
    match cutLines bs with
    | (lines, rest) =>
      if b = newline then ([b] :: lines, rest)
      else
        match lines with
        | [] => ([], b :: rest)
        | line :: lines => ((b :: line) :: lines, rest)

theorem cutLines_newline (bs : Bytes) :
    cutLines (newline :: bs) = ([newline] :: (cutLines bs).1, (cutLines bs).2) := by
  rw [cutLines]; simp

theorem cutLines_cons_nil {b : UInt8} {bs : Bytes} (hb : b ≠ newline)
    (h : (cutLines bs).1 = []) : cutLines (b :: bs) = ([], b :: (cutLines bs).2) := by
  rw [cutLines]; simp [hb, h]

theorem cutLines_cons_cons {b : UInt8} {bs line : Bytes} {lines : List Bytes} (hb : b ≠ newline)
    (h : (cutLines bs).1 = line :: lines) :
    cutLines (b :: bs) = ((b :: line) :: lines, (cutLines bs).2) := by
  rw [cutLines]; simp [hb, h]

theorem cutLines_flatten (bs : Bytes) : (cutLines bs).1.flatten ++ (cutLines bs).2 = bs := by
  induction bs with
  | nil => rfl
  | cons b bs ih =>
    by_cases hb : b = newline
    · subst hb; rw [cutLines_newline]; simp [ih]
    · cases h : (cutLines bs).1 with
      | nil => rw [cutLines_cons_nil hb h]; rw [h] at ih; simpa using ih
      | cons line lines => rw [cutLines_cons_cons hb h]; rw [h] at ih; simpa using ih

theorem newline_not_mem_rest (bs : Bytes) : newline ∉ (cutLines bs).2 := by
  induction bs with
  | nil => simp [cutLines]
  | cons b bs ih =>
    by_cases hb : b = newline
    · subst hb; rw [cutLines_newline]; exact ih
    · cases h : (cutLines bs).1 with
      | nil => rw [cutLines_cons_nil hb h]; simp [Ne.symm hb, ih]
      | cons line lines => rw [cutLines_cons_cons hb h]; exact ih

theorem mem_cutLines {bs line : Bytes} (h : line ∈ (cutLines bs).1) :
    ∃ body, newline ∉ body ∧ line = body ++ [newline] := by
  induction bs generalizing line with
  | nil => simp [cutLines] at h
  | cons b bs ih =>
    by_cases hb : b = newline
    · subst hb
      rw [cutLines_newline] at h
      rcases List.mem_cons.1 h with rfl | h
      · exact ⟨[], by simp, rfl⟩
      · exact ih h
    · cases hc : (cutLines bs).1 with
      | nil => rw [cutLines_cons_nil hb hc] at h; simp at h
      | cons first lines =>
        rw [cutLines_cons_cons hb hc] at h
        rcases List.mem_cons.1 h with rfl | h
        · obtain ⟨body, hn, rfl⟩ := ih (hc ▸ List.mem_cons_self)
          exact ⟨b :: body, by simp [Ne.symm hb, hn], rfl⟩
        · exact ih (hc ▸ List.mem_cons_of_mem _ h)

/-- Without a newline everything is rest. -/
theorem cutLines_of_not_mem {bs : Bytes} (h : newline ∉ bs) : cutLines bs = ([], bs) := by
  induction bs with
  | nil => rfl
  | cons b bs ih =>
    have hb : b ≠ newline := fun e => h (e ▸ List.mem_cons_self)
    have hs := ih fun m => h (List.mem_cons_of_mem _ m)
    rw [cutLines_cons_nil hb (by rw [hs]), hs]

theorem cutLines_append (as bs : Bytes) :
    cutLines (as ++ bs) =
      ((cutLines as).1 ++ (cutLines ((cutLines as).2 ++ bs)).1,
        (cutLines ((cutLines as).2 ++ bs)).2) := by
  induction as with
  | nil => simp [cutLines]
  | cons a as ih =>
    by_cases ha : a = newline
    · subst ha
      rw [List.cons_append, cutLines_newline, cutLines_newline, ih]
      simp
    · cases h : (cutLines as).1 with
      | nil =>
        have hn : newline ∉ a :: as := by
          have hf := cutLines_flatten as
          rw [h] at hf
          rw [← hf]
          simpa [Ne.symm ha] using newline_not_mem_rest as
        rw [cutLines_of_not_mem hn]
        simp
      | cons line lines =>
        have happ : (cutLines (as ++ bs)).1 =
            line :: (lines ++ (cutLines ((cutLines as).2 ++ bs)).1) := by rw [ih, h]; rfl
        rw [List.cons_append, cutLines_cons_cons ha h, cutLines_cons_cons ha happ, ih]
        rfl

end AdcFeed
