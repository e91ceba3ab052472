import Mathlib.Data.List.Basic

/-!
# Parties that move one at a time

A list of parties, one of which moves while the others stay as they are.
-/

namespace Interleaving

variable {α : Type}

/-- One party of the list has moved. -/
def Moved (parties : List α) (x x' : α) (parties' : List α) : Prop :=
  ∃ before after, parties = before ++ x :: after ∧ parties' = before ++ x' :: after

variable {parties parties' : List α} {x x' y : α}

theorem Moved.alone : Moved [x] x x' [x'] := ⟨[], [], rfl, rfl⟩

theorem Moved.first {rest : List α} : Moved (x :: rest) x x' (x' :: rest) := ⟨[], rest, rfl, rfl⟩

theorem Moved.later (moved : Moved parties x x' parties') :
    Moved (y :: parties) x x' (y :: parties') := by
  obtain ⟨before, after, rfl, rfl⟩ := moved
  exact ⟨y :: before, after, rfl, rfl⟩

theorem Moved.mem (moved : Moved parties x x' parties') : x ∈ parties := by
  obtain ⟨before, after, rfl, rfl⟩ := moved
  exact List.mem_append_right _ List.mem_cons_self

theorem Moved.mem_new (moved : Moved parties x x' parties') : x' ∈ parties' := by
  obtain ⟨before, after, rfl, rfl⟩ := moved
  exact List.mem_append_right _ List.mem_cons_self

theorem Moved.new_or_old (moved : Moved parties x x' parties') (among : y ∈ parties') :
    y = x' ∨ y ∈ parties := by
  obtain ⟨before, after, rfl, rfl⟩ := moved
  rcases List.mem_append.mp among with first | rest
  · exact .inr (List.mem_append_left _ first)
  · rcases List.mem_cons.mp rest with same | last
    · exact .inl same
    · exact .inr (List.mem_append_right _ (List.mem_cons_of_mem _ last))

theorem Moved.old_or_stays (moved : Moved parties x x' parties') (among : y ∈ parties) :
    y = x ∨ y ∈ parties' := by
  obtain ⟨before, after, rfl, rfl⟩ := moved
  rcases List.mem_append.mp among with first | rest
  · exact .inr (List.mem_append_left _ first)
  · rcases List.mem_cons.mp rest with same | last
    · exact .inl same
    · exact .inr (List.mem_append_right _ (List.mem_cons_of_mem _ last))

/-- What holds of the new party and of every old one. -/
theorem Moved.forall_mem {P : α → Prop} (moved : Moved parties x x' parties')
    (old : ∀ y ∈ parties, P y) (new : P x') : ∀ y ∈ parties', P y := by
  intro y among
  rcases moved.new_or_old among with rfl | before
  · exact new
  · exact old y before

theorem Moved.countP (moved : Moved parties x x' parties') (p : α → Bool) :
    parties'.countP p + (p x).toNat = parties.countP p + (p x').toNat := by
  obtain ⟨before, after, rfl, rfl⟩ := moved
  rw [List.countP_append, List.countP_append, List.countP_cons, List.countP_cons]
  cases p x <;> cases p x' <;> simp <;> omega

theorem toNat_le_countP (p : α → Bool) (among : x ∈ parties) : (p x).toNat ≤ parties.countP p := by
  by_cases holds : p x = true
  · rw [holds]
    exact List.countP_pos_iff.mpr ⟨x, among, holds⟩
  · simp [holds]

end Interleaving
