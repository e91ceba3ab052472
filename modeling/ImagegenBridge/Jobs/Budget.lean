import ImagegenBridge.Jobs.Lifecycle

/-!
# The byte budget of the store

A job is charged a reserve until it is over, and no terminal record is larger than the
reserve. So only a submission makes the store larger, and it is checked.
-/

namespace ImagegenBridge.Jobs

open Table Text
open Transition (Run Unrestricted)

variable {codec : Codec} {s t : StoreState} {event : StoreEvent} {row row' : JobRow}
  {results errors : String → Prop}

/-- The result and the error of a row fit the reserve. -/
def Reserved (row : JobRow) : Prop :=
  optionalLen row.response + optionalLen row.error ≤ activeResultReserveBytes

/-- A job that is not over has stored neither a result nor an error. -/
theorem Sane.unfinished (sane : Sane row) (active : row.status.terminal = false) :
    row.response = none ∧ row.error = none := by
  constructor
  · by_contra stored
    rw [sane.result stored] at active
    cases active
  · by_contra stored
    rw [sane.failure stored] at active
    cases active

theorem interruption_reserved {error : String} (sane : Sane row) (running : row.status = .running)
    (short : len error ≤ activeResultReserveBytes) :
    optionalLen row.response + optionalLen (some error) ≤ activeResultReserveBytes := by
  rw [(sane.unfinished (by rw [running]; rfl)).1]
  simpa [optionalLen] using short

theorem RowStep.reserved (step : RowStep results errors row row') (sane : Sane row)
    (reserved : Reserved row) : Reserved row' := by
  cases step with
  | finished status response error now running terminal result bounded resulting failing => exact bounded
  | interrupted now error running short failing =>
    have fits := interruption_reserved sane running short
    exact fits
  | idle | claimed | progressed | cancelled | cancelNoted | history => exact reserved

/-- A row is never charged more than its record, the reserve and the overhead. -/
theorem logicalBytes_le_reserved (reserved : Reserved row) :
    row.logicalBytes ≤ row.recordBytes + (activeResultReserveBytes + rowOverheadBytes) := by
  unfold JobRow.logicalBytes
  unfold Reserved at reserved
  split <;> omega

theorem total_logicalBytes_le {rows : List JobRow} (reserved : ∀ row ∈ rows, Reserved row) :
    logicalBytes rows ≤ total JobRow.recordBytes rows
      + rows.length * (activeResultReserveBytes + rowOverheadBytes) := by
  unfold logicalBytes total
  induction rows with
  | nil => exact Nat.zero_le _
  | cons first rest ih =>
    have head := logicalBytes_le_reserved (reserved first (List.mem_cons_self ..))
    have tail := ih fun row member => reserved row (List.mem_cons_of_mem _ member)
    simp only [List.map_cons, List.sum_cons, List.length_cons, Nat.succ_mul]
    omega

/-- What SQLite can hold is far below the saturation of the sums. -/
theorem hosted_representable {rows : List JobRow} (hosted : WithinLimits rows)
    (reserved : ∀ row ∈ rows, Reserved row) : logicalBytes rows ≤ i64Max := by
  obtain ⟨count, bytes⟩ := hosted
  have bound := total_logicalBytes_le reserved
  have charged := Nat.mul_le_mul_right (activeResultReserveBytes + rowOverheadBytes) count
  have small : 2 ^ 48 + 2 * 10 ^ 13 * (activeResultReserveBytes + rowOverheadBytes) ≤ i64Max := by
    decide +kernel
  exact Nat.le_trans bound (Nat.le_trans (Nat.add_le_add bytes charged) small)

theorem logicalNewJobBytes_ok {bytes : Nat} (queued : row.status.terminal = false)
    (ok : logicalNewJobBytes row = .ok bytes) : bytes = row.logicalBytes := by
  have charged : row.logicalBytes = row.recordBytes + activeResultReserveBytes + rowOverheadBytes := by
    simp [JobRow.logicalBytes, queued]
  unfold logicalNewJobBytes at ok
  dsimp only at ok
  split at ok
  · rename_i fits
    have same := Except.ok.inj ok
    have unsaturated : i64Max < Idempotency.usizeMax := by decide
    omega
  · cases ok

/-- Every submission is checked against one budget. -/
def Charges (budget : Nat) (_ : StoreState) (event : StoreEvent) : Prop :=
  ∀ scope id request now maxPending maxDatabaseBytes,
    event = .created scope id request now maxPending maxDatabaseBytes → maxDatabaseBytes = budget

/-- An affordable row keeps the budget. -/
theorem Admits.affordable {budget : Nat} (admits : Admits codec s event row)
    (charges : Charges budget s event) (reserved : ∀ other ∈ s.rows, Reserved other) :
    logicalBytes s.rows + row.logicalBytes ≤ budget := by
  obtain ⟨scope, id, request, now, maxPending, maxDatabaseBytes, newBytes, own, rfl, checks, room⟩ :=
    admits.submission
  cases charges _ _ _ _ _ _ own
  have bytes : newBytes = (newJob codec scope id request now).logicalBytes := by
    obtain ⟨_, _, rest⟩ := Outcome.bind_ok.mp checks
    obtain ⟨_, _, rest⟩ := Outcome.bind_ok.mp rest
    obtain ⟨time, stored, charged⟩ := Outcome.bind_ok.mp rest
    cases (toI64_ok stored).1
    exact logicalNewJobBytes_ok rfl charged
  have affordable := room.affordable
  rw [bytes] at affordable
  have representable : logicalBytes (s.rows ++ [newJob codec scope id request now]) ≤ i64Max := by
    refine hosted_representable admits.hosted fun other member => ?_
    rcases List.mem_append.mp member with old | new
    · exact reserved other old
    · cases List.mem_singleton.mp new
      exact Nat.zero_le _
  rw [logicalBytes, total_append] at representable
  have single : total JobRow.logicalBytes [newJob codec scope id request now]
      = (newJob codec scope id request now).logicalBytes := by simp [total]
  rw [single] at representable
  unfold logicalBytes at affordable ⊢
  omega

section Ends

variable {now budget : Nat}

end Ends

end ImagegenBridge.Jobs
