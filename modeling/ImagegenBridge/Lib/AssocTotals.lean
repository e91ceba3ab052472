import Mathlib.Algebra.Order.Ring.Nat
import Mathlib.Data.List.AList

/-!
# Totals over association lists

A weight on values gives a finite map a total. Erasing a key subtracts its
weight, inserting one adds it, so an accounting invariant follows the map's own
operations.
-/

namespace AssocTotals

universe u v

variable {K : Type u} {V : Type v} [DecidableEq K]

/-- The sum of one weight over all entries. -/
def total (weight : V → Nat) (m : AList fun _ : K => V) : Nat :=
  (m.entries.map fun entry => weight entry.2).sum

/-- The number of entries. -/
def size (m : AList fun _ : K => V) : Nat := m.entries.length

variable {weight : V → Nat} {m : AList fun _ : K => V} {k j : K} {v w : V}

/-- A present key splits the map's entries around it. -/
theorem entries_split (h : m.lookup k = some v) : ∃ before after,
    m.entries = before ++ ⟨k, v⟩ :: after ∧ (m.erase k).entries = before ++ after := by
  have present : k ∈ m.entries.keys := by
    rw [← List.dlookup_isSome]
    exact Option.isSome_of_eq_some h
  obtain ⟨value, before, after, _, split, erased⟩ := List.exists_of_kerase present
  have member : (⟨k, value⟩ : Sigma fun _ : K => V) ∈ m.entries := by
    rw [split]
    exact List.mem_append_right before (List.mem_cons_self ..)
  have found : m.lookup k = some value := List.mem_dlookup m.nodupKeys member
  rw [h] at found
  cases found
  exact ⟨before, after, split, erased⟩

/-- Erasing a present key takes exactly its weight out of the total. -/
theorem total_erase (weight : V → Nat) (h : m.lookup k = some v) :
    total weight m = weight v + total weight (m.erase k) := by
  obtain ⟨before, after, split, erased⟩ := entries_split h
  simp only [total, split, erased, List.map_append, List.map_cons, List.sum_append, List.sum_cons]
  omega

theorem size_erase (h : m.lookup k = some v) : size m = size (m.erase k) + 1 := by
  obtain ⟨before, after, split, erased⟩ := entries_split h
  simp only [size, split, erased, List.length_append, List.length_cons]
  omega

theorem erase_absent (h : m.lookup k = none) : m.erase k = m := by
  apply AList.ext
  exact List.kerase_of_notMem_keys (AList.lookup_eq_none.mp h)

/-- Inserting at an absent key adds its weight. -/
theorem total_insert_absent (h : m.lookup k = none) :
    total weight (m.insert k v) = weight v + total weight m := by
  have absent : k ∉ m := AList.lookup_eq_none.mp h
  simp only [total, AList.entries_insert_of_notMem absent, List.map_cons, List.sum_cons]

theorem size_insert_absent (h : m.lookup k = none) : size (m.insert k v) = size m + 1 := by
  have absent : k ∉ m := AList.lookup_eq_none.mp h
  simp only [size, AList.entries_insert_of_notMem absent, List.length_cons]

/-- Inserting always forgets what the key held before. -/
theorem total_insert : total weight (m.insert k v) = weight v + total weight (m.erase k) := by
  simp only [total, AList.entries_insert, List.map_cons, List.sum_cons]
  rfl

theorem size_insert_present (h : m.lookup k = some w) : size (m.insert k v) = size m := by
  have erased := size_erase h
  simp only [size, AList.entries_insert, List.length_cons] at erased ⊢
  exact erased.symm

/-- Rewriting a value without changing its weight leaves the total as it was. -/
theorem total_insert_same (h : m.lookup k = some w) (same : weight v = weight w) :
    total weight (m.insert k v) = total weight m := by
  rw [total_insert, same, ← total_erase weight h]

theorem mem_entries (h : (⟨k, v⟩ : Sigma fun _ : K => V) ∈ m.entries) : m.lookup k = some v :=
  List.mem_dlookup m.nodupKeys h

/-- What is found after an insertion is the new value or an old one. -/
theorem lookup_insert_cases {k' : K} (h : (m.insert k v).lookup k' = some w) :
    (k' = k ∧ w = v) ∨ (k' ≠ k ∧ m.lookup k' = some w) := by
  by_cases own : k' = k
  · subst own
    rw [AList.lookup_insert] at h
    cases h
    exact Or.inl ⟨rfl, rfl⟩
  · rw [AList.lookup_insert_ne own] at h
    exact Or.inr ⟨own, h⟩

theorem lookup_erase_cases {k' : K} (h : (m.erase k).lookup k' = some w) :
    k' ≠ k ∧ m.lookup k' = some w := by
  by_cases own : k' = k
  · subst own
    rw [AList.lookup_erase] at h
    cases h
  · rw [AList.lookup_erase_ne own] at h
    exact ⟨own, h⟩

theorem size_erase_le : size (m.erase k) ≤ size m := by
  cases h : m.lookup k with
  | none => rw [erase_absent h]
  | some v => rw [size_erase h]; exact Nat.le_succ _

end AssocTotals
