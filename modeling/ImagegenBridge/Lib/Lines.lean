import Mathlib.Data.List.Basic

/-!
# Lines of a stream

A stream is cut at a terminator into complete lines and an unfinished rest. Cutting can
stop anywhere and resume with the rest.
-/

namespace Lines

variable {α : Type} [DecidableEq α] {terminator : α}

/-- The complete lines of a stream that comes after an unfinished one, and what follows
the last of them. -/
def cut (terminator : α) : List α → List α → List (List α) × List α
  | unfinished, [] => ([], unfinished)
  | unfinished, a :: stream =>
    if a = terminator then
      (unfinished :: (cut terminator [] stream).1, (cut terminator [] stream).2)
    else cut terminator (unfinished ++ [a]) stream

theorem cut_append (unfinished first later : List α) :
    cut terminator unfinished (first ++ later) =
      ((cut terminator unfinished first).1 ++
          (cut terminator (cut terminator unfinished first).2 later).1,
        (cut terminator (cut terminator unfinished first).2 later).2) := by
  induction first generalizing unfinished with
  | nil => rfl
  | cons a first ih =>
    by_cases ends : a = terminator
    · simp only [List.cons_append, cut, ends, if_true, ih []]
    · simp only [List.cons_append, cut, ends, if_false, ih]

theorem cut_free {unfinished stream : List α} (free : terminator ∉ stream) :
    cut terminator unfinished stream = ([], unfinished ++ stream) := by
  induction stream generalizing unfinished with
  | nil => simp [cut]
  | cons a stream ih =>
    simp only [List.mem_cons, not_or] at free
    simp only [cut, Ne.symm free.1, if_false]
    rw [ih free.2, List.append_assoc]
    rfl

theorem rest_free {unfinished : List α} (free : terminator ∉ unfinished) (stream : List α) :
    terminator ∉ (cut terminator unfinished stream).2 := by
  induction stream generalizing unfinished with
  | nil => exact free
  | cons a stream ih =>
    by_cases ends : a = terminator
    · simp only [cut, ends, if_true]
      exact ih List.not_mem_nil
    · simp only [cut, ends, if_false]
      apply ih
      simp only [List.mem_append, List.mem_singleton, not_or]
      exact ⟨free, Ne.symm ends⟩

/-- Cutting resumes with the unfinished line. -/
theorem cut_resume {unfinished : List α} (free : terminator ∉ unfinished) (stream : List α) :
    cut terminator [] (unfinished ++ stream) = cut terminator unfinished stream := by
  rw [cut_append, cut_free free, List.nil_append, List.nil_append]

theorem rest_length (unfinished stream : List α) :
    (cut terminator unfinished stream).2.length ≤ unfinished.length + stream.length := by
  induction stream generalizing unfinished with
  | nil => exact Nat.le_refl _
  | cons a stream ih =>
    by_cases ends : a = terminator
    · have later := ih []
      simp only [cut, ends, if_true, List.length_cons, List.length_nil] at later ⊢
      omega
    · have later := ih (unfinished ++ [a])
      simp only [cut, ends, if_false, List.length_append, List.length_cons, List.length_nil]
        at later ⊢
      omega

/-- A complete line and its terminator are part of the stream. -/
theorem line_length {unfinished stream line : List α}
    (complete : line ∈ (cut terminator unfinished stream).1) :
    line.length + 1 ≤ unfinished.length + stream.length := by
  induction stream generalizing unfinished with
  | nil => cases complete
  | cons a stream ih =>
    by_cases ends : a = terminator
    · simp only [cut, ends, if_true, List.mem_cons] at complete
      rcases complete with rfl | later
      · simp only [List.length_cons]
        omega
      · have fits := ih later
        simp only [List.length_cons, List.length_nil] at fits ⊢
        omega
    · simp only [cut, ends, if_false] at complete
      have fits := ih complete
      simp only [List.length_append, List.length_cons, List.length_nil] at fits ⊢
      omega

end Lines
