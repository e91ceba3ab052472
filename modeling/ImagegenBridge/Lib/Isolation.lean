import Mathlib.Data.List.Basic

/-!
# Isolation of domains

Several domains act on one state and each has its own view of it. An action is
confined to a domain when it answers by that domain's view and leaves the views of the
others. When all actions are confined, a domain cannot tell a run from the run of its
own actions.
-/

namespace Isolation

variable {D A O P S V : Type}

/-- What an action of one domain does. The states of a run meet an invariant. -/
structure Confined (valid : S → Prop) (view : D → S → V) (d : D) (act : S → O × S) : Prop where
  stays : ∀ {s}, valid s → valid (act s).2
  answers : ∀ {s t}, valid s → valid t → view d s = view d t → (act s).1 = (act t).1
  own : ∀ {s t}, valid s → valid t → view d s = view d t → view d (act s).2 = view d (act t).2
  others : ∀ {e s}, valid s → e ≠ d → view e (act s).2 = view e s

variable {valid : S → Prop} {view : D → S → V} {d : D}

theorem confined_read {read : S → O}
    (same : ∀ {s t}, valid s → valid t → view d s = view d t → read s = read t) :
    Confined valid view d fun s => (read s, s) where
  stays := id
  answers := same
  own _ _ views := views
  others _ _ := rfl

theorem confined_answer (answer : O) : Confined valid view d fun s => (answer, s) :=
  confined_read fun _ _ _ => rfl

/-- One action after another that may depend on its answer. -/
theorem Confined.bind {first : S → O × S} {next : O → S → P × S} (leads : Confined valid view d first)
    (follows : ∀ o, Confined valid view d (next o)) :
    Confined valid view d fun s => next (first s).1 (first s).2 where
  stays ok := (follows _).stays (leads.stays ok)
  answers left right views := by
    rw [leads.answers left right views]
    exact (follows _).answers (leads.stays left) (leads.stays right) (leads.own left right views)
  own left right views := by
    rw [leads.answers left right views]
    exact (follows _).own (leads.stays left) (leads.stays right) (leads.own left right views)
  others ok apart := ((follows _).others (leads.stays ok) apart).trans (leads.others ok apart)

theorem Confined.map {act : S → O × S} (confined : Confined valid view d act) (f : O → P) :
    Confined valid view d fun s => (f (act s).1, (act s).2) :=
  confined.bind fun o => confined_answer (f o)

/-- An action that is confined whatever it reads of its own view. -/
theorem confined_by {act : S → O × S} {R : Type} (read : S → R)
    (same : ∀ {s t}, valid s → valid t → view d s = view d t → read s = read t)
    (each : ∀ s, valid s → ∃ chosen, Confined valid view d chosen ∧
      ∀ t, valid t → read t = read s → act t = chosen t) : Confined valid view d act where
  stays := by
    intro s ok
    obtain ⟨chosen, confined, agrees⟩ := each s ok
    rw [agrees s ok rfl]
    exact confined.stays ok
  answers := by
    intro s t left right views
    obtain ⟨chosen, confined, agrees⟩ := each s left
    rw [agrees s left rfl, agrees t right (same left right views).symm]
    exact confined.answers left right views
  own := by
    intro s t left right views
    obtain ⟨chosen, confined, agrees⟩ := each s left
    rw [agrees s left rfl, agrees t right (same left right views).symm]
    exact confined.own left right views
  others := by
    intro e s ok apart
    obtain ⟨chosen, confined, agrees⟩ := each s ok
    rw [agrees s ok rfl]
    exact confined.others ok apart

/-! ## Runs -/

/-- The answers of a sequence of actions, with the state they leave. -/
def run (act : D → A → S → O × S) : List (D × A) → S → List (D × O) × S
  | [], s => ([], s)
  | (d, a) :: later, s =>
    let rest := run act later (act d a s).2
    ((d, (act d a s).1) :: rest.1, rest.2)

/-- The entries of one domain. -/
def only [DecidableEq D] (d : D) {B : Type} (entries : List (D × B)) : List (D × B) :=
  entries.filter (·.1 = d)

section

variable {act : D → A → S → O × S} {actions : List (D × A)} {s t : S}

/-- The actions of the others leave a domain's view. -/
theorem run_frame (confined : ∀ d a, Confined valid view d (act d a)) (ok : valid s)
    (apart : ∀ entry ∈ actions, entry.1 ≠ d) : view d (run act actions s).2 = view d s := by
  induction actions generalizing s with
  | nil => rfl
  | cons entry later ih =>
    obtain ⟨e, a⟩ := entry
    have first : e ≠ d := apart _ (List.mem_cons_self ..)
    have rest := ih ((confined e a).stays ok) fun entry member =>
      apart entry (List.mem_cons_of_mem _ member)
    exact rest.trans ((confined e a).others ok first.symm)

variable [DecidableEq D]

theorem only_own {B : Type} {b : B} {entries : List (D × B)} :
    only d ((d, b) :: entries) = (d, b) :: only d entries := by
  simp [only]

theorem only_other {B : Type} {e : D} {b : B} {entries : List (D × B)} (apart : e ≠ d) :
    only d ((e, b) :: entries) = only d entries := by
  simp [only, apart]

/-- Without the actions of the others a domain gets the same answers and the same view,
from every state with its view. -/
theorem run_purge (confined : ∀ d a, Confined valid view d (act d a)) (left : valid s)
    (right : valid t) (same : view d s = view d t) :
    only d (run act actions s).1 = (run act (only d actions) t).1 ∧
      view d (run act actions s).2 = view d (run act (only d actions) t).2 := by
  induction actions generalizing s t with
  | nil => exact ⟨rfl, same⟩
  | cons entry later ih =>
    obtain ⟨e, a⟩ := entry
    have reached := (confined e a).stays left
    by_cases own : e = d
    · subst own
      obtain ⟨answers, views⟩ := ih reached ((confined e a).stays right)
        ((confined e a).own left right same)
      have answer := (confined e a).answers left right same
      simp only [only_own, run, answer, answers]
      exact ⟨trivial, views⟩
    · have still := ((confined e a).others left (Ne.symm own)).trans same
      obtain ⟨answers, views⟩ := ih reached right still
      simp only [only_other own, run, answers]
      exact ⟨trivial, views⟩

/-- A domain alone gets the same answers from every state with its view. -/
theorem run_own (confined : ∀ d a, Confined valid view d (act d a)) (left : valid s)
    (right : valid t) (same : view d s = view d t) (own : only d actions = actions) :
    (run act actions s).1 = (run act actions t).1 := by
  have first : only d (run act actions s).1 = (run act (only d actions) s).1 :=
    (run_purge confined left left rfl).1
  have second : only d (run act actions s).1 = (run act (only d actions) t).1 :=
    (run_purge confined left right same).1
  rw [own] at first second
  exact first.symm.trans second

end

end Isolation
