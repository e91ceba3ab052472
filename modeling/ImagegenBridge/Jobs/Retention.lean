import ImagegenBridge.Jobs.Listing
import ImagegenBridge.Jobs.StoreSteps
import ImagegenBridge.Lib.LongestPrefix

/-!
# What retention keeps

Retention first deletes the finished jobs that completed before a cutoff, then those that the
count and the byte bound do not reach. What stays of the finished jobs is the longest run of the
newest ones within both bounds.
-/

namespace ImagegenBridge.Jobs

open Table

variable {now retentionSecs maxRetained maxRetainedBytes deleted : Nat} {rows kept : List JobRow}
  {row : JobRow}

/-- A job that completed at the cutoff or before it. -/
def JobRow.expired (cutoff : Nat) (row : JobRow) : Bool :=
  decide (∃ completed ∈ row.completed, completed ≤ cutoff)

/-- The finished jobs that are no favorites, newest first. -/
def newestPrunable (rows : List JobRow) : List JobRow :=
  (rows.filter JobRow.prunable).insertionSort newerFirst

/-- Those of them that have not expired. -/
def unexpired (cutoff : Nat) (rows : List JobRow) : List JobRow :=
  newestPrunable (rows.filter fun row => !row.expired cutoff)

/-- Retention at a cutoff left these rows. -/
structure Retained (cutoff maxRetained maxRetainedBytes : Nat) (rows kept : List JobRow) : Prop where
  /-- No row changes its place or what it holds. -/
  unchanged : kept.Sublist rows
  deletes : ∀ row ∈ rows, row ∉ kept → row.status.terminal = true ∧ row.favorite = false
  longest : LongestPrefix (Within JobRow.retainedBytes maxRetained maxRetainedBytes)
    (unexpired cutoff rows) (newestPrunable kept)

/-- What one call does: without an error the rows are those it may keep, and at the same time
there is nothing more to delete. -/
def Prunes (now retentionSecs maxRetained maxRetainedBytes : Nat) (rows : List JobRow) :
    Outcome Nat × List JobRow → Prop
  | (.error _, left) => left = rows ∧ (i64Max < now - retentionSecs ∨
      i64Max < total JobRow.retainedBytes (unexpired (now - retentionSecs) rows))
  | (.ok deleted, kept) => deleted + kept.length = rows.length ∧
      Retained (now - retentionSecs) maxRetained maxRetainedBytes rows kept ∧
      prune now retentionSecs maxRetained maxRetainedBytes kept = (.ok 0, kept)

/-! ## The second statement -/

theorem retainedBytes_pos (row : JobRow) : 0 < row.retainedBytes := by
  unfold JobRow.retainedBytes rowOverheadBytes
  omega

theorem length_le_bytes (rows : List JobRow) : rows.length ≤ total JobRow.retainedBytes rows := by
  induction rows with
  | nil => exact Nat.zero_le _
  | cons row rest ih =>
    have some := retainedBytes_pos row
    rw [total_cons, List.length_cons]
    omega

/-- Past a bound every row is beyond it. -/
theorem excess_past {maximum maximumBytes ordinal cumulative : Nat}
    (past : maximum ≤ ordinal ∨ maximumBytes < cumulative) :
    excess maximum maximumBytes ordinal cumulative rows = rows.map JobRow.id := by
  induction rows generalizing ordinal cumulative with
  | nil => rfl
  | cons row rest ih =>
    unfold excess
    dsimp only
    rw [if_pos (by omega), ih (by omega), List.map_cons]

/-- The rows beyond the bounds are those after the affordable ones. -/
theorem excess_drop {maximum maximumBytes ordinal cumulative : Nat} (counted : ordinal ≤ maximum)
    (paid : cumulative ≤ maximumBytes) :
    excess maximum maximumBytes ordinal cumulative rows =
      (rows.drop (affordable JobRow.retainedBytes (maximum - ordinal) (maximumBytes - cumulative)
        rows).length).map JobRow.id := by
  induction rows generalizing ordinal cumulative with
  | nil => cases maximum - ordinal <;> rfl
  | cons row rest ih =>
    by_cases fits : ordinal + 1 ≤ maximum ∧ cumulative + row.retainedBytes ≤ maximumBytes
    · obtain ⟨more, enough⟩ := fits
      have step : maximum - ordinal = (maximum - (ordinal + 1)) + 1 := by omega
      have rest_budget : maximumBytes - cumulative - row.retainedBytes =
        maximumBytes - (cumulative + row.retainedBytes) := by omega
      unfold excess
      dsimp only
      rw [if_neg (by omega), ih more enough, step, affordable, if_pos (by omega), rest_budget,
        List.length_cons, List.drop_succ_cons]
    · have none : affordable JobRow.retainedBytes (maximum - ordinal) (maximumBytes - cumulative)
          (row :: rest) = [] := by
        cases left : maximum - ordinal with
        | zero => rfl
        | succ left => exact if_neg (by omega)
      unfold excess
      dsimp only
      rw [if_pos (by omega), excess_past (by omega), none]
      rfl

theorem keyed_filter (keyed : Keyed JobRow.id rows) (chosen : JobRow → Bool) :
    Keyed JobRow.id (rows.filter chosen) := (List.filter_sublist.map JobRow.id).nodup keyed

theorem keyed_newest (keyed : Keyed JobRow.id rows) : Keyed JobRow.id (newestPrunable rows) := by
  have perm := (List.perm_insertionSort newerFirst (rows.filter JobRow.prunable)).map JobRow.id
  exact perm.nodup_iff.mpr (keyed_filter keyed JobRow.prunable)

/-- The second statement keeps the affordable rows. -/
theorem filter_excess (keyed : Keyed JobRow.id rows) (maximum maximumBytes : Nat) :
    (newestPrunable rows).filter
        (fun row => !(excess maximum maximumBytes 0 0 (newestPrunable rows)).contains row.id) =
      affordable JobRow.retainedBytes maximum maximumBytes (newestPrunable rows) := by
  rw [excess_drop (Nat.zero_le _) (Nat.zero_le _), filter_undropped (keyed_newest keyed)]
  exact (List.prefix_iff_eq_take.mp (affordable_longest ..).first).symm

theorem newest_filter (keyed : Keyed JobRow.id rows) (chosen : JobRow → Bool) :
    newestPrunable (rows.filter chosen) = (newestPrunable rows).filter chosen := by
  unfold newestPrunable
  rw [List.filter_comm, sort_filter (keyed_filter keyed JobRow.prunable)]

/-! ## One call -/

/-- What the first statement leaves. -/
def current (cutoff : Nat) (rows : List JobRow) : List JobRow :=
  rows.filter fun row => !(row.prunable && row.expired cutoff)

/-- What the second one leaves of that. -/
def survivors (maximum maximumBytes : Nat) (rows : List JobRow) : List JobRow :=
  rows.filter fun row =>
    !(excess maximum maximumBytes 0 0 (newestPrunable rows)).contains row.id

theorem prune_eq (now retentionSecs maxRetained maxRetainedBytes : Nat) (rows : List JobRow) :
    prune now retentionSecs maxRetained maxRetainedBytes rows =
      if i64Max < now - retentionSecs then
        (.error (jobError "job timestamp is out of range"), rows)
      else if i64Max < total JobRow.retainedBytes
          (newestPrunable (current (now - retentionSecs) rows)) then
        (.error (jobError "could not prune durable jobs"), rows)
      else
        (.ok (rows.length - (survivors (min maxRetained i64Max) (min maxRetainedBytes i64Max)
            (current (now - retentionSecs) rows)).length),
          survivors (min maxRetained i64Max) (min maxRetainedBytes i64Max)
            (current (now - retentionSecs) rows)) := by
  unfold prune checked toI64
  by_cases late : i64Max < now - retentionSecs
  · rw [if_neg (by omega), if_pos late]
  · rw [if_pos (by omega), if_neg late]
    rfl

theorem newest_current (cutoff : Nat) (rows : List JobRow) :
    newestPrunable (current cutoff rows) = unexpired cutoff rows := by
  unfold unexpired newestPrunable current
  rw [List.filter_filter, List.filter_filter]
  congr 1
  refine List.filter_congr fun row _ => ?_
  cases row.prunable <;> simp

/-- Rows whose bytes fit into an `i64` meet the bounds as they were given. -/
theorem within_bounds (fits : total JobRow.retainedBytes rows ≤ i64Max) :
    Within JobRow.retainedBytes (min maxRetained i64Max) (min maxRetainedBytes i64Max) rows ↔
      Within JobRow.retainedBytes maxRetained maxRetainedBytes rows := by
  have short := length_le_bytes rows
  unfold Within
  omega

theorem newest_survivors (keyed : Keyed JobRow.id rows) (maximum maximumBytes : Nat) :
    newestPrunable (survivors maximum maximumBytes rows) =
      affordable JobRow.retainedBytes maximum maximumBytes (newestPrunable rows) := by
  unfold survivors
  rw [newest_filter keyed, filter_excess keyed]

/-- A longest prefix for the bounds the statement is given is one for the bounds of the call. -/
theorem longest_bounds {newest : List JobRow} (fits : total JobRow.retainedBytes rows ≤ i64Max)
    (longest : LongestPrefix (Within JobRow.retainedBytes (min maxRetained i64Max)
      (min maxRetainedBytes i64Max)) rows newest) :
    LongestPrefix (Within JobRow.retainedBytes maxRetained maxRetainedBytes) rows newest := by
  have small : ∀ other, other <+: rows → total JobRow.retainedBytes other ≤ i64Max := by
    rintro other ⟨later, rfl⟩
    rw [total_append] at fits
    omega
  refine ⟨longest.first, (within_bounds (small newest longest.first)).mp longest.good, ?_⟩
  intro other first within
  exact longest.longest other first ((within_bounds (small other first)).mpr within)

theorem survivors_retained (keyed : Keyed JobRow.id rows) {cutoff : Nat}
    (fits : total JobRow.retainedBytes (unexpired cutoff rows) ≤ i64Max) :
    Retained cutoff maxRetained maxRetainedBytes rows
      (survivors (min maxRetained i64Max) (min maxRetainedBytes i64Max) (current cutoff rows)) := by
  have left : Keyed JobRow.id (current cutoff rows) := keyed_filter keyed _
  refine ⟨List.filter_sublist.trans List.filter_sublist, ?_, ?_⟩
  · intro row present gone
    have prunable : row.prunable = true := by
      by_cases stays : row ∈ current cutoff rows
      · -- the second statement chose it by the identity of a prunable row
        have chosen : row.id ∈ excess (min maxRetained i64Max) (min maxRetainedBytes i64Max) 0 0
            (newestPrunable (current cutoff rows)) := by
          by_contra unchosen
          refine gone (List.mem_filter.mpr ⟨stays, ?_⟩)
          rw [Bool.not_eq_true', List.contains_eq_mem, decide_eq_false unchosen]
        obtain ⟨other, among, same⟩ := mem_excess chosen
        obtain ⟨kept, prunable⟩ := List.mem_filter.mp ((List.mem_insertionSort _).mp among)
        exact left.same kept stays same ▸ prunable
      · by_contra active
        refine stays (List.mem_filter.mpr ⟨present, ?_⟩)
        rw [Bool.not_eq_true] at active
        rw [active]
        rfl
    simpa [JobRow.prunable] using prunable
  · apply longest_bounds fits
    rw [newest_survivors left, newest_current]
    exact affordable_longest ..

/-- A call deletes nothing from rows that already are within the bounds. -/
theorem prune_nothing (early : now - retentionSecs ≤ i64Max)
    (fits : total JobRow.retainedBytes (newestPrunable rows) ≤ i64Max)
    (recent : ∀ row ∈ newestPrunable rows, row.expired (now - retentionSecs) = false)
    (within : Within JobRow.retainedBytes maxRetained maxRetainedBytes (newestPrunable rows)) :
    prune now retentionSecs maxRetained maxRetainedBytes rows = (.ok 0, rows) := by
  have same : current (now - retentionSecs) rows = rows := by
    refine List.filter_eq_self.mpr fun row present => ?_
    cases prunable : row.prunable with
    | false => rfl
    | true =>
      have among : row ∈ newestPrunable rows :=
        (List.mem_insertionSort _).mpr (List.mem_filter.mpr ⟨present, prunable⟩)
      rw [recent row among]
      rfl
  have all : survivors (min maxRetained i64Max) (min maxRetainedBytes i64Max) rows = rows := by
    have none : excess (min maxRetained i64Max) (min maxRetainedBytes i64Max) 0 0
        (newestPrunable rows) = [] := by
      rw [excess_drop (Nat.zero_le _) (Nat.zero_le _), Nat.sub_zero, Nat.sub_zero,
        affordable_within ((within_bounds fits).mpr within), List.drop_length]
      rfl
    refine List.filter_eq_self.mpr fun row _ => ?_
    rw [none]
    rfl
  rw [prune_eq, if_neg (by omega), same, if_neg (by omega), all, Nat.sub_self]

/-- Retention keeps the longest run of the newest unexpired jobs that is within both bounds,
touches nothing else, and has nothing left to do. The identity of a row is its primary key. -/
theorem prune_keeps_newest (now retentionSecs maxRetained maxRetainedBytes : Nat)
    (rows : List JobRow) (keyed : Keyed JobRow.id rows) :
    Prunes now retentionSecs maxRetained maxRetainedBytes rows
      (prune now retentionSecs maxRetained maxRetainedBytes rows) := by
  rw [prune_eq]
  split
  · rename_i late
    exact ⟨rfl, .inl late⟩
  · rename_i early
    split
    · rename_i large
      rw [newest_current] at large
      exact ⟨rfl, .inr large⟩
    · rename_i fits
      rw [newest_current, Nat.not_lt] at fits
      have retained : Retained (now - retentionSecs) maxRetained maxRetainedBytes rows _ :=
        survivors_retained keyed fits
      refine ⟨Nat.sub_add_cancel retained.unchanged.length_le, retained, ?_⟩
      have among : ∀ row ∈ newestPrunable (survivors (min maxRetained i64Max)
          (min maxRetainedBytes i64Max) (current (now - retentionSecs) rows)),
          row ∈ unexpired (now - retentionSecs) rows := retained.longest.first.subset
      have lighter := (retained.longest.first.sublist.map JobRow.retainedBytes).sum_le_sum
        fun _ _ => Nat.zero_le _
      apply prune_nothing (by omega)
      · exact Nat.le_trans lighter fits
      · intro row kept
        have old := List.mem_filter.mp ((List.mem_insertionSort _).mp (among row kept))
        simpa using (List.mem_filter.mp old.1).2
      · exact retained.longest.good

/-- A finished job of 133 bytes or a few more. -/
def finishedRow (id : String) (created completed : Nat) (favorite : Bool) : JobRow where
  id := id
  authScope := "o"
  status := .succeeded
  created := created
  updated := completed
  started := some created
  completed := some completed
  request := "r"
  promptSearch := "p"
  submissionKeyHash := none
  requestFingerprint := none
  progressStage := none
  partialImages := 0
  response := some "s"
  error := none
  cancelRequested := false
  favorite := favorite
  deleted := none

/-- Of two jobs with one time the greater identity is kept; the favorite, which expired, stays. -/
theorem tied_jobs_pruned :
    prune 50 20 1 1000 [finishedRow "a" 10 40 false, finishedRow "b" 10 35 false,
        finishedRow "c" 5 9 true] =
      (.ok 1, [finishedRow "b" 10 35 false, finishedRow "c" 5 9 true]) ∧
    Prunes 50 20 1 1000 [finishedRow "a" 10 40 false, finishedRow "b" 10 35 false,
        finishedRow "c" 5 9 true]
      (prune 50 20 1 1000 [finishedRow "a" 10 40 false, finishedRow "b" 10 35 false,
        finishedRow "c" 5 9 true]) :=
  ⟨by rfl, prune_keeps_newest 50 20 1 1000 _ (by decide)⟩

end ImagegenBridge.Jobs
