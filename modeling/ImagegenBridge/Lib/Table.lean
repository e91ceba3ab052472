import Mathlib.Algebra.Order.BigOperators.Group.List
import Mathlib.Algebra.Order.Monoid.Unbundled.Basic
import Mathlib.Algebra.Order.Ring.Nat
import Mathlib.Data.List.Nodup
import Mathlib.Data.Set.Image

/-!
# Tables that statements change

A table lists its rows. One statement rewrites the rows it selects, adds one row, or
keeps some of the rows. What may happen to a row, which rows may be added and which may
go are the parameters; what they say of single rows then holds of the whole table.
-/

namespace Table

variable {ρ κ : Type}

/-- `UPDATE .. SET .. WHERE ..`. -/
def update (chosen : ρ → Bool) (set : ρ → ρ) (rows : List ρ) : List ρ :=
  rows.map fun row => if chosen row then set row else row

/-- The number of rows an update reports. -/
def changed (chosen : ρ → Bool) (rows : List ρ) : Nat := rows.countP chosen

/-- What one statement does to a table. -/
inductive Change (moves : ρ → ρ → Prop) (adds removes : ρ → Prop) (rows : List ρ) :
    List ρ → Prop
  | updated (set : ρ → ρ) (legal : ∀ row ∈ rows, moves row (set row)) :
      Change moves adds removes rows (rows.map set)
  | inserted {row : ρ} (legal : adds row) : Change moves adds removes rows (rows ++ [row])
  | deleted (kept : ρ → Bool) (legal : ∀ row ∈ rows, kept row = false → removes row) :
      Change moves adds removes rows (rows.filter kept)

/-- No two rows have one key. -/
def Keyed (key : ρ → κ) (rows : List ρ) : Prop := (rows.map key).Nodup

instance [DecidableEq κ] (key : ρ → κ) (rows : List ρ) : Decidable (Keyed key rows) :=
  inferInstanceAs (Decidable (rows.map key).Nodup)

variable {moves : ρ → ρ → Prop} {adds removes : ρ → Prop} {rows rows' : List ρ} {row row' : ρ}
  {key : ρ → κ} {chosen : ρ → Bool} {set : ρ → ρ}

theorem Change.update (legal : ∀ row ∈ rows, chosen row = true → moves row (set row))
    (idle : ∀ row ∈ rows, moves row row) :
    Change moves adds removes rows (Table.update chosen set rows) := by
  refine .updated _ fun row member => ?_
  by_cases chooses : chosen row = true
  · rw [if_pos chooses]
    exact legal row member chooses
  · rw [if_neg chooses]
    exact idle row member

theorem Change.unchanged (idle : ∀ row ∈ rows, moves row row) :
    Change moves adds removes rows rows := by
  have same : Change moves adds removes rows (rows.map id) := .updated id idle
  rwa [List.map_id] at same

theorem mem_update : row' ∈ update chosen set rows ↔
    (row' ∈ rows ∧ chosen row' = false) ∨ ∃ row ∈ rows, chosen row = true ∧ row' = set row := by
  unfold update
  rw [List.mem_map]
  constructor
  · rintro ⟨row, member, rfl⟩
    by_cases chooses : chosen row = true
    · rw [if_pos chooses]
      exact Or.inr ⟨row, member, chooses, rfl⟩
    · rw [if_neg chooses]
      exact Or.inl ⟨member, by simpa using chooses⟩
  · rintro (⟨member, skipped⟩ | ⟨row, member, chooses, rfl⟩)
    · exact ⟨row', member, by simp [skipped]⟩
    · exact ⟨row, member, by simp [chooses]⟩

/-- The rows of one key. -/
theorem Keyed.same (keyed : Keyed key rows) (left : row ∈ rows) (right : row' ∈ rows)
    (same : key row = key row') : row = row' :=
  List.inj_on_of_nodup_map keyed left right same

/-- A selection that only a key's row can meet selects one row at most. -/
theorem Keyed.changed_le_one (keyed : Keyed key rows) {k : κ}
    (only : ∀ row ∈ rows, chosen row = true → key row = k) : changed chosen rows ≤ 1 := by
  unfold changed
  induction rows with
  | nil => exact Nat.zero_le _
  | cons first rest ih =>
    have parts := List.nodup_cons.mp keyed
    by_cases chooses : chosen first = true
    · rw [List.countP_cons_of_pos chooses]
      have none : rest.countP chosen = 0 := by
        rw [List.countP_eq_zero]
        intro row member selected
        have same := (only row (List.mem_cons_of_mem _ member) selected).trans
          (only first (List.mem_cons_self ..) chooses).symm
        exact parts.1 (same ▸ List.mem_map_of_mem member)
      omega
    · rw [List.countP_cons_of_neg chooses]
      exact ih parts.2 fun row member => only row (List.mem_cons_of_mem _ member)

theorem Keyed.changed_eq_one (keyed : Keyed key rows) {k : κ}
    (only : ∀ row ∈ rows, chosen row = true → key row = k) (member : row ∈ rows)
    (chooses : chosen row = true) : changed chosen rows = 1 := by
  have most := keyed.changed_le_one only
  have some : 0 < changed chosen rows := List.countP_pos_iff.mpr ⟨row, member, chooses⟩
  omega

/-- Every row of the new table comes from an old one or was added. -/
theorem Change.origin (change : Change moves adds removes rows rows')
    (idle : ∀ row ∈ rows, moves row row) (member : row' ∈ rows') :
    (∃ row ∈ rows, moves row row') ∨ adds row' := by
  cases change with
  | updated set legal =>
    obtain ⟨row, old, rfl⟩ := List.mem_map.mp member
    exact Or.inl ⟨row, old, legal row old⟩
  | @inserted row legal =>
    obtain old | new := List.mem_append.mp member
    · exact Or.inl ⟨row', old, idle row' old⟩
    · cases List.mem_singleton.mp new
      exact Or.inr legal
  | deleted kept legal =>
    have old := List.mem_of_mem_filter member
    exact Or.inl ⟨row', old, idle row' old⟩

theorem Change.keyed (change : Change moves adds removes rows rows') (keyed : Keyed key rows)
    (keeps : ∀ row row', moves row row' → key row' = key row)
    (fresh : ∀ row, adds row → ∀ other ∈ rows, key other ≠ key row) : Keyed key rows' := by
  unfold Keyed
  cases change with
  | updated set legal =>
    have same : (rows.map set).map key = rows.map key := by
      rw [List.map_map]
      exact List.map_congr_left fun row member => keeps row (set row) (legal row member)
    rw [same]
    exact keyed
  | @inserted row legal =>
    rw [List.map_append, List.map_singleton]
    refine List.nodup_append.mpr ⟨keyed, List.nodup_singleton _, ?_⟩
    intro k old k' new same
    obtain ⟨other, member, rfl⟩ := List.mem_map.mp old
    cases List.mem_singleton.mp new
    exact fresh row legal other member same
  | deleted kept legal => exact (List.filter_sublist.map key).nodup keyed

/-- The row of a key goes on as the row of that key. -/
theorem Change.traces (change : Change moves adds removes rows rows') (keyed : Keyed key rows)
    (idle : ∀ row ∈ rows, moves row row) (keeps : ∀ row row', moves row row' → key row' = key row)
    (fresh : ∀ row, adds row → ∀ other ∈ rows, key other ≠ key row) (old : row ∈ rows)
    (new : row' ∈ rows') (same : key row' = key row) : moves row row' := by
  obtain ⟨origin, member, moved⟩ | added := change.origin idle new
  · have own : origin = row := keyed.same member old ((keeps _ _ moved).symm.trans same)
    exact own ▸ moved
  · exact absurd same.symm (fresh row' added row old)

/-! ## Parts -/

/-- The rows of one part of a table. -/
def part (inside : ρ → Prop) (rows : List ρ) : Set ρ := {row | row ∈ rows ∧ inside row}

section

variable {inside : ρ → Prop}

/-- Tables with one part list its selected rows in some order each. -/
theorem filter_perm (distinct : rows.Nodup) (distinct' : rows'.Nodup)
    (same : part inside rows = part inside rows') (only : ∀ row, chosen row = true → inside row) :
    (rows.filter chosen).Perm (rows'.filter chosen) := by
  apply (List.perm_ext_iff_of_nodup (distinct.filter _) (distinct'.filter _)).mpr
  intro row
  rw [List.mem_filter, List.mem_filter]
  have member := Set.ext_iff.mp same row
  constructor
  · rintro ⟨present, chooses⟩
    exact ⟨(member.mp ⟨present, only row chooses⟩).1, chooses⟩
  · rintro ⟨present, chooses⟩
    exact ⟨(member.mpr ⟨present, only row chooses⟩).1, chooses⟩

theorem changed_part (distinct : rows.Nodup) (distinct' : rows'.Nodup)
    (same : part inside rows = part inside rows') (only : ∀ row, chosen row = true → inside row) :
    changed chosen rows = changed chosen rows' := by
  unfold changed
  rw [List.countP_eq_length_filter, List.countP_eq_length_filter]
  exact (filter_perm distinct distinct' same only).length_eq

/-- A selection that only a key's row can meet finds that row. -/
theorem Keyed.find_iff (keyed : Keyed key rows) {k : κ}
    (one : ∀ row, chosen row = true → key row = k) :
    rows.find? chosen = some row ↔ row ∈ rows ∧ chosen row = true := by
  constructor
  · intro found
    exact ⟨List.mem_of_find?_eq_some found, List.find?_some found⟩
  · rintro ⟨present, chooses⟩
    cases found : rows.find? chosen with
    | none => exact absurd chooses (List.find?_eq_none.mp found row present)
    | some other =>
      have also := List.mem_of_find?_eq_some found
      rw [keyed.same also present ((one other (List.find?_some found)).trans (one row chooses).symm)]

theorem Keyed.find_part (keyed : Keyed key rows) (keyed' : Keyed key rows') {k : κ}
    (same : part inside rows = part inside rows') (only : ∀ row, chosen row = true → inside row)
    (one : ∀ row, chosen row = true → key row = k) :
    rows.find? chosen = rows'.find? chosen := by
  apply Option.ext
  intro row
  have member := Set.ext_iff.mp same row
  rw [keyed.find_iff one, keyed'.find_iff one]
  constructor
  · rintro ⟨present, chooses⟩
    exact ⟨(member.mp ⟨present, only row chooses⟩).1, chooses⟩
  · rintro ⟨present, chooses⟩
    exact ⟨(member.mpr ⟨present, only row chooses⟩).1, chooses⟩

/-- A part changes by its own rows. -/
theorem part_update (keeps : ∀ row, chosen row = true → (inside (set row) ↔ inside row)) :
    part inside (update chosen set rows) =
      (fun row => if chosen row then set row else row) '' part inside rows := by
  ext row'
  constructor
  · rintro ⟨member, within⟩
    obtain ⟨row, present, rfl⟩ := List.mem_map.mp member
    refine ⟨row, ⟨present, ?_⟩, rfl⟩
    by_cases chooses : chosen row = true
    · rw [if_pos chooses] at within
      exact (keeps row chooses).mp within
    · rwa [if_neg chooses] at within
  · rintro ⟨row, ⟨present, within⟩, rfl⟩
    refine ⟨List.mem_map_of_mem present, ?_⟩
    by_cases chooses : chosen row = true
    · simp only [if_pos chooses]
      exact (keeps row chooses).mpr within
    · simpa only [if_neg chooses] using within

/-- A statement on other rows leaves a part. -/
theorem part_untouched (keeps : ∀ row, chosen row = true → (inside (set row) ↔ inside row))
    (outside : ∀ row, chosen row = true → ¬inside row) :
    part inside (update chosen set rows) = part inside rows := by
  rw [part_update keeps]
  have still : ∀ row ∈ part inside rows, (if chosen row then set row else row) = row :=
    fun row ⟨_, within⟩ => if_neg fun chooses => outside row chooses within
  rw [Set.image_congr still, Set.image_id']

theorem Keyed.update (keyed : Keyed key rows)
    (keeps : ∀ row, chosen row = true → key (set row) = key row) :
    Keyed key (update chosen set rows) := by
  unfold Keyed Table.update
  have same : ∀ row ∈ rows, (key ∘ fun row => if chosen row then set row else row) row = key row := by
    intro row _
    by_cases chooses : chosen row = true
    · simp only [Function.comp, if_pos chooses]
      exact keeps row chooses
    · simp only [Function.comp, if_neg chooses]
  rw [List.map_map, List.map_congr_left same]
  exact keyed

end

/-! ## Totals -/

/-- The sum of one weight over all rows. -/
def total (weight : ρ → Nat) (rows : List ρ) : Nat := (rows.map weight).sum

variable {weight weight' : ρ → Nat}

theorem total_append (weight : ρ → Nat) (rows rows' : List ρ) :
    total weight (rows ++ rows') = total weight rows + total weight rows' := by
  simp [total]

end Table
