import ImagegenBridge.Lib.Table

/-!
# The longest prefix within bounds

A list keeps its first rows as long as their number and the sum of their costs stay within two
bounds. The first row that does not fit ends the prefix, whatever comes after it.
-/

namespace Table

variable {ρ κ : Type}

/-- The rows stay within a count and a budget. -/
def Within (cost : ρ → Nat) (count budget : Nat) (rows : List ρ) : Prop :=
  rows.length ≤ count ∧ total cost rows ≤ budget

/-- The longest of the prefixes with a property: all of these are its own prefixes. -/
structure LongestPrefix (P : List ρ → Prop) (rows kept : List ρ) : Prop where
  first : kept <+: rows
  good : P kept
  longest : ∀ other, other <+: rows → P other → other <+: kept

/-- The first rows that fit. -/
def affordable (cost : ρ → Nat) : Nat → Nat → List ρ → List ρ
  | _, _, [] => []
  | 0, _, _ :: _ => []
  | count + 1, budget, row :: rest =>
    if cost row ≤ budget then row :: affordable cost count (budget - cost row) rest else []

variable {cost : ρ → Nat} {key : ρ → κ} {count budget : Nat} {rows kept : List ρ} {row : ρ}

theorem total_cons (cost : ρ → Nat) (row : ρ) (rows : List ρ) :
    total cost (row :: rows) = cost row + total cost rows := by
  simp [total]

theorem within_nil : Within cost count budget [] := ⟨Nat.zero_le _, Nat.zero_le _⟩

theorem within_cons : Within cost count budget (row :: rows) ↔
    0 < count ∧ cost row ≤ budget ∧ Within cost (count - 1) (budget - cost row) rows := by
  unfold Within
  rw [List.length_cons, total_cons]
  omega

theorem affordable_longest (cost : ρ → Nat) (count budget : Nat) (rows : List ρ) :
    LongestPrefix (Within cost count budget) rows (affordable cost count budget rows) := by
  induction rows generalizing count budget with
  | nil =>
    have none : affordable cost count budget [] = [] := by cases count <;> rfl
    rw [none]
    exact ⟨List.prefix_rfl, within_nil, fun _ first _ => first⟩
  | cons row rest ih =>
    -- a prefix of the list is empty or begins with its first row
    have starts : ∀ other, other <+: row :: rest → other = [] ∨
        ∃ tail, other = row :: tail ∧ tail <+: rest := by
      intro other first
      cases other with
      | nil => exact .inl rfl
      | cons head tail =>
        obtain ⟨rfl, later⟩ := List.cons_prefix_cons.mp first
        exact .inr ⟨tail, rfl, later⟩
    by_cases fits : 0 < count ∧ cost row ≤ budget
    · obtain ⟨more, enough⟩ := fits
      obtain ⟨left, rfl⟩ : ∃ left, count = left + 1 := ⟨count - 1, by omega⟩
      obtain ⟨first, good, longest⟩ := ih left (budget - cost row)
      rw [affordable, if_pos enough]
      refine ⟨List.cons_prefix_cons.mpr ⟨rfl, first⟩, ?_, ?_⟩
      · exact within_cons.mpr ⟨more, enough, good⟩
      · intro other begins within
        obtain rfl | ⟨tail, rfl, later⟩ := starts other begins
        · exact List.nil_prefix
        · exact List.cons_prefix_cons.mpr ⟨rfl, longest tail later (within_cons.mp within).2.2⟩
    · have none : affordable cost count budget (row :: rest) = [] := by
        cases count with
        | zero => rfl
        | succ left => exact if_neg fun enough => fits ⟨Nat.succ_pos _, enough⟩
      rw [none]
      refine ⟨List.nil_prefix, within_nil, ?_⟩
      intro other begins within
      obtain rfl | ⟨tail, rfl, _⟩ := starts other begins
      · exact List.prefix_rfl
      · obtain ⟨more, enough, _⟩ := within_cons.mp within
        exact absurd ⟨more, enough⟩ fits

theorem LongestPrefix.unique {P : List ρ → Prop} {kept' : List ρ} (one : LongestPrefix P rows kept)
    (other : LongestPrefix P rows kept') : kept = kept' := by
  have within := other.longest kept one.first one.good
  exact within.eq_of_length_le (one.longest kept' other.first other.good).length_le

/-- Rows that fit are kept. -/
theorem affordable_within (within : Within cost count budget rows) :
    affordable cost count budget rows = rows :=
  (affordable_longest cost count budget rows).unique ⟨List.prefix_rfl, within, fun _ first _ => first⟩

/-- Without the rows from some place on the ones before it are left. -/
theorem filter_undropped [BEq κ] [LawfulBEq κ] (keyed : Keyed key rows) (n : Nat) :
    rows.filter (fun row => !((rows.drop n).map key).contains (key row)) = rows.take n := by
  have apart : ∀ row ∈ rows.take n, ∀ other ∈ rows.drop n, key row ≠ key other := by
    unfold Keyed at keyed
    rw [← List.take_append_drop n rows, List.map_append, List.nodup_append] at keyed
    intro row before other after
    exact keyed.2.2 _ (List.mem_map_of_mem before) _ (List.mem_map_of_mem after)
  have parts : rows.filter (fun row => !((rows.drop n).map key).contains (key row)) =
      (rows.take n ++ rows.drop n).filter
        (fun row => !((rows.drop n).map key).contains (key row)) := by
    rw [List.take_append_drop]
  rw [parts, List.filter_append, List.filter_eq_self.mpr, List.filter_eq_nil_iff.mpr,
    List.append_nil]
  · intro row after kept
    rw [Bool.not_eq_true', List.contains_eq_mem, decide_eq_false_iff_not] at kept
    exact kept (List.mem_map_of_mem after)
  · intro row before
    rw [Bool.not_eq_true', List.contains_eq_mem, decide_eq_false_iff_not, List.mem_map]
    rintro ⟨other, after, same⟩
    exact apart row before other after same.symm

end Table
