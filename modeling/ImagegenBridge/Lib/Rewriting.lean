import Mathlib.Order.Defs.Unbundled

/-!
# Sequences of rewrites

A stage rewrites one state or refuses it, and a run is a list of stages in order.
What a stage establishes holds at the end of a run when no later stage disturbs
it; a value that only one stage of a run rewrites passes through that stage alone.
A journal of a value is a chain of records from where it starts to where it ends.
-/

namespace Rewriting

variable {ι σ ε : Type}

def run (stage : ι → σ → Except ε σ) : List ι → σ → Except ε σ
  | [], s => .ok s
  | i :: rest, s => stage i s >>= run stage rest

section Stages

variable {stage : ι → σ → Except ε σ} {stages : List ι} {s s' : σ}

theorem run_cons {i : ι} : run stage (i :: stages) s = .ok s' ↔
    ∃ mid, stage i s = .ok mid ∧ run stage stages mid = .ok s' := by
  simp only [run]
  cases stage i s with
  | error e => simp [bind, Except.bind]
  | ok mid => simp [bind, Except.bind]

/-- A state that every stage leaves alone is the result of its own run. -/
theorem run_fixed (fixed : ∀ i ∈ stages, stage i s = .ok s) : run stage stages s = .ok s := by
  induction stages with
  | nil => rfl
  | cons i rest ih =>
    rw [run_cons]
    refine ⟨s, fixed i (by simp), ih ?_⟩
    intro j present
    exact fixed j (by simp [present])

/-- What every stage relates, the run relates. -/
theorem run_relates {R : σ → σ → Prop} (refl : ∀ s, R s s)
    (trans : ∀ s t u, R s t → R t u → R s u)
    (each : ∀ i ∈ stages, ∀ s s', stage i s = .ok s' → R s s')
    (ok : run stage stages s = .ok s') : R s s' := by
  induction stages generalizing s with
  | nil =>
    cases ok
    exact refl _
  | cons i rest ih =>
    obtain ⟨mid, first, later⟩ := run_cons.mp ok
    apply trans s mid s' (each i (by simp) s mid first)
    apply ih _ later
    intro j present
    exact each j (by simp [present])

/-- Each stage's own result holds at the end, when the later stages keep it. -/
theorem run_establishes {holds : ι → σ → Prop} {disturbs : ι → ι → Prop}
    (own : ∀ i ∈ stages, ∀ s s', stage i s = .ok s' → holds i s')
    (kept : ∀ j ∈ stages, ∀ i s s', ¬disturbs j i → stage j s = .ok s' → holds i s → holds i s')
    (ordered : stages.Pairwise fun i j => ¬disturbs j i) (ok : run stage stages s = .ok s') :
    ∀ i ∈ stages, holds i s' := by
  induction stages generalizing s with
  | nil => simp
  | cons i rest ih =>
    obtain ⟨mid, first, later⟩ := run_cons.mp ok
    obtain ⟨undisturbed, ordered⟩ := List.pairwise_cons.mp ordered
    intro j present
    obtain rfl | present := List.mem_cons.mp present
    · apply run_relates (R := fun s s' => holds j s → holds j s') _ _ _ later
        (own j (by simp) s mid first)
      · exact fun s held => held
      · exact fun s t u toMid toEnd held => toEnd (toMid held)
      · intro k among s s' taken held
        exact kept k (by simp [among]) j s s' (undisturbed k among) taken held
    · apply ih _ _ ordered later j present
      · intro k among
        exact own k (by simp [among])
      · intro k among
        exact kept k (by simp [among])

variable {same : ι → σ → σ → Prop}

/-- A value that no stage of the run is about is what it was. -/
theorem run_untouched (equal : ∀ i, Equivalence (same i))
    (others : ∀ j ∈ stages, ∀ i s s', j ≠ i → stage j s = .ok s' → same i s s') {i : ι}
    (absent : i ∉ stages) (ok : run stage stages s = .ok s') : same i s s' := by
  apply run_relates (R := same i) (equal i).refl _ _ ok
  · intro s t u
    exact (equal i).trans
  · intro j present s s' taken
    apply others j present i s s' _ taken
    rintro rfl
    exact absent present

/-- A value that one stage is about is rewritten there and nowhere else. -/
theorem run_passes (equal : ∀ i, Equivalence (same i))
    (others : ∀ j ∈ stages, ∀ i s s', j ≠ i → stage j s = .ok s' → same i s s')
    (once : stages.Nodup) {i : ι} (present : i ∈ stages) (ok : run stage stages s = .ok s') :
    ∃ t t', same i s t ∧ stage i t = .ok t' ∧ same i t' s' := by
  induction stages generalizing s with
  | nil => simp at present
  | cons j rest ih =>
    obtain ⟨mid, first, later⟩ := run_cons.mp ok
    obtain ⟨absent, once⟩ := List.nodup_cons.mp once
    have rest_others : ∀ k ∈ rest, ∀ i s s', k ≠ i → stage k s = .ok s' → same i s s' := by
      intro k among
      exact others k (by simp [among])
    by_cases here : i = j
    · subst here
      exact ⟨s, mid, (equal i).refl s, first, run_untouched equal rest_others absent later⟩
    · have among : i ∈ rest := by simpa [here] using present
      obtain ⟨t, t', before, taken, after⟩ := ih rest_others once among later
      have moved : same i s mid :=
        others j (by simp) i s mid (fun back => here back.symm) first
      exact ⟨t, t', (equal i).trans moved before, taken, after⟩

end Stages

/-! ## Journals -/

variable {ν β : Type} {origin goal : ν → β}

/-- Records that lead from one value to another, each from where the last one ended. -/
def Linked (origin goal : ν → β) : β → List ν → β → Prop
  | a, [], b => a = b
  | a, note :: notes, b => origin note = a ∧ Linked origin goal (goal note) notes b

theorem Linked.append {a b c : β} {notes more : List ν} (first : Linked origin goal a notes b)
    (second : Linked origin goal b more c) : Linked origin goal a (notes ++ more) c := by
  induction notes generalizing a with
  | nil =>
    have same : a = b := first
    subst same
    exact second
  | cons note notes ih => exact ⟨first.1, ih first.2⟩

theorem linked_single {note : ν} : Linked origin goal (origin note) [note] (goal note) :=
  ⟨rfl, rfl⟩

end Rewriting
