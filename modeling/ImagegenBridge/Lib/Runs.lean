import ImagegenBridge.Lib.Program

/-!
# Runs as results

A monitor that remembers every exchange, and relies on nothing: what a program keeps under it is
a statement about its runs, put together by the rules of sequence.
-/

namespace Program

variable {I : Interface} {α ε : Type}

abbrev recorder (I : Interface) : Monitor I where
  State := List (Exchange I)
  next s op answer := s ++ [⟨op, answer⟩]

abbrev anyRun (I : Interface) : Contract (recorder I) := ⟨fun _ _ => True, fun _ _ _ => True⟩

theorem after_recorded (s trace : List (Exchange I)) : (recorder I).after s trace = s ++ trace := by
  induction trace generalizing s with
  | nil => exact (List.append_nil s).symm
  | cons exchange trace ih =>
    rw [Monitor.after, ih, List.append_assoc]
    rfl

/-- What is recorded while a program runs is a run of it. -/
theorem keeps_recorded (p : Program I α) (s : List (Exchange I)) :
    p.Keeps (anyRun I) s fun a t => ∃ trace, t = s ++ trace ∧ Follows p trace (.done a) := by
  induction p generalizing s with
  | done result => exact ⟨[], (List.append_nil s).symm, .here _⟩
  | await op next ih =>
    refine ⟨trivial, fun answer _ => (ih answer (s ++ [⟨op, answer⟩])).mono ?_⟩
    rintro a t ⟨trace, rfl, run⟩
    exact ⟨⟨op, answer⟩ :: trace, by simp, .answered run⟩

theorem tries_recorded (x : ExceptT ε (Program I) α) (s : List (Exchange I)) :
    Tries (anyRun I) x s
      (fun a t => ∃ trace, t = s ++ trace ∧ Follows x.run trace (.done (.ok a)))
      (fun e t => ∃ trace, t = s ++ trace ∧ Follows x.run trace (.done (.error e))) := by
  refine (keeps_recorded x.run s).mono fun result t recorded => ?_
  cases result <;> exact recorded

/-- What a program keeps under the recorder holds of its runs. -/
theorem Keeps.recorded {p : Program I α} {post : α → List (Exchange I) → Prop}
    (kept : p.Keeps (anyRun I) [] post) {trace : List (Exchange I)} {a : α}
    (run : Follows p trace (.done a)) : post a trace := by
  have ended := kept.follows run (expectsAll_free (fun _ _ _ => trivial) _ _)
  rw [after_recorded] at ended
  exact ended

end Program
