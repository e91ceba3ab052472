import ImagegenBridge.Jobs.Store
import ImagegenBridge.Lib.Transition

/-!
# What the store's statements do to a row

The methods of the store run in any order. One that fails inside SQLite changes
nothing and is no step. Submitted identities are UUIDs of version 7, which are never
used twice.
-/

namespace ImagegenBridge.Jobs

open Table Text
open Transition (Run Unrestricted)

/-- The table, the identities that were ever submitted, and the history updates that
have read their job. -/
structure StoreState where
  rows : List JobRow
  used : List String
  updates : List HistoryUpdate

def StoreState.empty : StoreState := ⟨[], [], []⟩

inductive StoreEvent where
  | created (scope id : String) (request : ImageRequest) (now maxPending maxDatabaseBytes : Nat)
  | claimed (scope id : String) (now : Nat)
  | progressed (scope id stage : String) (partialImages now : Nat)
  | succeeded (scope id : String) (response : ImageResponse) (now : Nat)
  | failed (scope id : String) (status : ImageJobStatus) (error : SuggestedError) (now : Nat)
  | cancelRequested (scope id : String) (now : Nat)
  | recovered (now : Nat)
  | historyRead (request : HistoryUpdate)
  | historyWritten (request : HistoryUpdate)
  | pruned (now retentionSecs maxRetained maxRetainedBytes : Nat)

/-- SQLite's documented limits: a database of at most 281 terabytes holds no more than
about `2e13` rows. -/
def WithinLimits (rows : List JobRow) : Prop :=
  rows.length ≤ 2 * 10 ^ 13 ∧ total JobRow.recordBytes rows ≤ 2 ^ 48

inductive Step (codec : Codec) : StoreState → StoreEvent → StoreState → Prop
  | created {s : StoreState} (scope id : String) (request : ImageRequest)
      (now maxPending maxDatabaseBytes : Nat) (fresh : id ∉ s.used)
      (hosted : ∀ other, (create codec scope id request now maxPending maxDatabaseBytes s.rows).1
        = .ok (.created other) →
          WithinLimits (create codec scope id request now maxPending maxDatabaseBytes s.rows).2) :
      Step codec s (.created scope id request now maxPending maxDatabaseBytes)
        { s with
          rows := (create codec scope id request now maxPending maxDatabaseBytes s.rows).2
          used := id :: s.used }
  | claimed {s : StoreState} (scope id : String) (now : Nat) :
      Step codec s (.claimed scope id now) { s with rows := (claim scope id now s.rows).2 }
  | progressed {s : StoreState} (scope id stage : String) (partialImages now : Nat)
      (fits : partialImages < 2 ^ 32) :
      Step codec s (.progressed scope id stage partialImages now)
        { s with rows := (progress scope id stage partialImages now s.rows).2 }
  | succeeded {s : StoreState} (scope id : String) (response : ImageResponse) (now : Nat) :
      Step codec s (.succeeded scope id response now)
        { s with rows := (succeed codec scope id response now s.rows).2 }
  | failed {s : StoreState} (scope id : String) (status : ImageJobStatus) (error : SuggestedError)
      (now : Nat) :
      Step codec s (.failed scope id status error now)
        { s with rows := (fail scope id status error now s.rows).2 }
  | cancelRequested {s : StoreState} (scope id : String) (now : Nat) :
      Step codec s (.cancelRequested scope id now)
        { s with rows := (requestCancel scope id now s.rows).2 }
  | recovered {s : StoreState} (now : Nat) :
      Step codec s (.recovered now) { s with rows := (recoverInterrupted now s.rows).2 }
  | historyRead {s : StoreState} {request update : HistoryUpdate}
      (read : readHistory codec request s.rows = .ok update) :
      Step codec s (.historyRead request) { s with updates := update :: s.updates }
  | historyWritten {s : StoreState} {request : HistoryUpdate} (pending : request ∈ s.updates) :
      Step codec s (.historyWritten request)
        { s with
          rows := (writeHistory request s.rows).2
          updates := s.updates.erase request }
  | pruned {s : StoreState} (now retentionSecs maxRetained maxRetainedBytes : Nat) :
      Step codec s (.pruned now retentionSecs maxRetained maxRetainedBytes)
        { s with rows := (prune now retentionSecs maxRetained maxRetainedBytes s.rows).2 }

/-- The texts a statement may store as a result. -/
def Results (codec : Codec) (event : StoreEvent) (text : String) : Prop :=
  ∃ scope id response now,
    event = .succeeded scope id response now ∧ text = codec.encodeResponse response

/-- The texts a statement may store as an error. -/
def Errors (event : StoreEvent) (text : String) : Prop :=
  (∃ scope id status error now, event = .failed scope id status error now ∧
    text = boundedError error) ∨
  ∃ now, event = .recovered now ∧ text = interruption.encode

/-- What one statement may do to a row. -/
inductive RowStep (results errors : String → Prop) : JobRow → JobRow → Prop
  | idle (row : JobRow) : RowStep results errors row row
  | claimed {row : JobRow} (now : Nat) (queued : row.status = .queued) :
      RowStep results errors row (row.start now)
  | progressed {row : JobRow} (stage : String) (partialImages now : Nat)
      (running : row.status = .running) (short : len stage ≤ 64)
      (fits : partialImages < 2 ^ 32) :
      RowStep results errors row { row with progressStage := some stage, partialImages, updated := now }
  | finished {row : JobRow} (status : ImageJobStatus) (response error : Option String) (now : Nat)
      (running : row.status = .running) (terminal : status.terminal = true)
      (result : response ≠ none → status = .succeeded)
      (bounded : optionalLen response + optionalLen error ≤ activeResultReserveBytes)
      (resulting : ∀ text, response = some text → results text)
      (failing : ∀ text, error = some text → errors text) :
      RowStep results errors row { row with
        status, updated := now, completed := some now, progressStage := some "completed",
        response, error }
  | cancelled {row : JobRow} (now : Nat) (queued : row.status = .queued) :
      RowStep results errors row { row with
        status := .cancelled, cancelRequested := true, updated := now, completed := some now,
        progressStage := some "completed" }
  | cancelNoted {row : JobRow} (now : Nat) (running : row.status = .running) :
      RowStep results errors row { row with cancelRequested := true, updated := now }
  | interrupted {row : JobRow} (now : Nat) (error : String) (running : row.status = .running)
      (short : len error ≤ activeResultReserveBytes) (failing : errors error) :
      RowStep results errors row { row with
        status := .interrupted, updated := now, completed := some now, error := some error }
  | history {row : JobRow} (favorite : Bool) (deleted : Option Nat) (now : Nat)
      (ended : deleted ≠ row.deleted → row.status.terminal = true) :
      RowStep results errors row { row with favorite, deleted, updated := now }

/-- The columns no statement rewrites. -/
structure SameJob (row row' : JobRow) : Prop where
  id : row'.id = row.id
  authScope : row'.authScope = row.authScope
  created : row'.created = row.created
  request : row'.request = row.request
  promptSearch : row'.promptSearch = row.promptSearch
  submissionKeyHash : row'.submissionKeyHash = row.submissionKeyHash
  requestFingerprint : row'.requestFingerprint = row.requestFingerprint

variable {results errors : String → Prop}

theorem RowStep.sameJob {row row' : JobRow} (step : RowStep results errors row row') :
    SameJob row row' := by
  cases step <;> exact ⟨rfl, rfl, rfl, rfl, rfl, rfl, rfl⟩

theorem RowStep.id {row row' : JobRow} (step : RowStep results errors row row') :
    row'.id = row.id :=
  step.sameJob.id

theorem SameJob.recordBytes {row row' : JobRow} (same : SameJob row row') :
    row'.recordBytes = row.recordBytes := by
  simp [JobRow.recordBytes, same.id, same.authScope, same.request, same.promptSearch,
    same.submissionKeyHash, same.requestFingerprint]

/-! ## One lemma for each method -/

section Methods

variable {codec : Codec} {scope id : String} {now : Nat} {rows : List JobRow}

theorem checked_cases {α β : Type} {check : Outcome α} {run : α → Outcome β × List JobRow}
    {motive : Outcome β × List JobRow → Prop} (refused : ∀ e, check = .error e → motive (.error e, rows))
    (passed : ∀ a, check = .ok a → motive (run a)) : motive (checked check rows run) := by
  unfold checked
  cases outcome : check with
  | error e => exact refused e outcome
  | ok a => exact passed a outcome

@[simp] theorem isJob_iff {row : JobRow} :
    row.isJob scope id = true ↔ row.id = id ∧ row.authScope = scope := by
  simp [JobRow.isJob]

@[simp] theorem claimable_iff {row : JobRow} : row.claimable scope id = true ↔
    (row.id = id ∧ row.authScope = scope) ∧ row.status = .queued ∧ row.cancelRequested = false := by
  simp [JobRow.claimable, and_assoc]

@[simp] theorem runningJob_iff {row : JobRow} : row.runningJob scope id = true ↔
    (row.id = id ∧ row.authScope = scope) ∧ row.status = .running := by
  simp [JobRow.runningJob]

variable {adds removes : JobRow → Prop}

theorem unchanged : Change (RowStep results errors) adds removes rows rows :=
  .unchanged fun row _ => .idle row

theorem changes {chosen : JobRow → Bool} {set : JobRow → JobRow}
    (legal : ∀ row ∈ rows, chosen row = true → RowStep results errors row (set row)) :
    Change (RowStep results errors) adds removes rows (update chosen set rows) :=
  .update legal fun row _ => .idle row

theorem claim_change : Change (RowStep results errors) adds removes rows (claim scope id now rows).2 := by
  unfold claim
  refine checked_cases (motive := fun answer => Change (RowStep results errors) adds removes rows answer.2)
    (fun _ _ => unchanged) fun _ _ => changes fun row _ chooses => ?_
  exact .claimed _ (claimable_iff.mp chooses).2.1

theorem validStage_short {stage : String} (valid : validStage stage = true) : len stage ≤ 64 := by
  simp only [validStage, Bool.and_eq_true, decide_eq_true_eq] at valid
  exact valid.1.2

theorem progress_change {stage : String} {partialImages : Nat} (fits : partialImages < 2 ^ 32) :
    Change (RowStep results errors) adds removes rows
      (progress scope id stage partialImages now rows).2 := by
  unfold progress
  refine checked_cases (motive := fun answer => Change (RowStep results errors) adds removes rows answer.2)
    (fun _ _ => unchanged) fun time passed => changes fun row _ chooses => ?_
  obtain ⟨_, _, rest⟩ := Outcome.bind_ok.mp passed
  obtain ⟨_, stageChecked, _⟩ := Outcome.bind_ok.mp rest
  have valid : validStage stage = true := by simpa using (Outcome.failIf_ok ..).mp stageChecked
  exact .progressed _ _ _ (runningJob_iff.mp chooses).2 (validStage_short valid) fits

theorem finish_change {status : ImageJobStatus} {response error : Option String}
    (terminal : status.terminal = true) (result : response ≠ none → status = .succeeded)
    (bounded : optionalLen response + optionalLen error ≤ activeResultReserveBytes)
    (resulting : ∀ text, response = some text → results text)
    (failing : ∀ text, error = some text → errors text) :
    Change (RowStep results errors) adds removes rows
      (finish scope id status response error now rows).2 := by
  unfold finish
  refine checked_cases (motive := fun answer => Change (RowStep results errors) adds removes rows answer.2)
    (fun _ _ => unchanged) fun time _ => changes fun row _ chooses => ?_
  exact .finished _ _ _ _ (runningJob_iff.mp chooses).2 terminal result bounded resulting failing

theorem succeed_change {response : ImageResponse}
    (resulting : results (codec.encodeResponse response)) :
    Change (RowStep results errors) adds removes rows (succeed codec scope id response now rows).2 := by
  unfold succeed
  dsimp only
  split
  · exact unchanged
  · rename_i fits
    refine finish_change rfl (fun _ => rfl) (by simpa [optionalLen] using fits) ?_ nofun
    intro text own
    exact Option.some.inj own ▸ resulting

theorem quote_short {text : String} (short : text.length ≤ 500) : len (quote text) ≤ 10000 :=
  Nat.le_trans (len_quote_le short) (by decide)

theorem suggestions_short {code : ErrorCode} (only : (defaultSuggestions code).length = 1)
    (short : ∀ part ∈ defaultSuggestions code, part.length ≤ 500) :
    len (bracket "[" "]" ((defaultSuggestions code).map quote)) ≤ 10000 := by
  have opening : len "[" ≤ 1 := Nat.le_of_eq (len_spelled rfl)
  have closing : len "]" ≤ 1 := Nat.le_of_eq (len_spelled rfl)
  have parts : ∀ part ∈ (defaultSuggestions code).map quote, len part ≤ 6002 := by
    intro part member
    obtain ⟨text, present, rfl⟩ := List.mem_map.mp member
    exact len_quote_le (short text present)
  have bound := len_bracket_le opening closing parts
  rw [List.length_map, only] at bound
  omega

theorem oversizedError_short : len oversizedError.encode ≤ activeResultReserveBytes := by
  have suggestions := @suggestions_short .internal rfl (List.forall_mem_singleton.mpr (by
    rw [String.length_append]
    exact Nat.le_trans (Nat.add_le_add (@length_spelled _ _ 250 rfl rfl)
      (@length_spelled _ _ 250 rfl rfl)) (Nat.le_refl 500)))
  have retryable : len "false" ≤ 10000 := Nat.le_trans (len_le _) (Nat.le_of_ble_eq_true rfl)
  have encoded : oversizedError.encode = objectText [("code", quote "internal"),
      ("message", quote "durable job failed with oversized error metadata"),
      ("retryable", "false"),
      ("suggestions", bracket "[" "]" ((defaultSuggestions .internal).map quote))] := rfl
  rw [encoded]
  refine Nat.le_trans (@len_objectText_le _ 10000 ?_) (by decide)
  simp only [List.forall_mem_cons]
  exact ⟨⟨length_spelled rfl rfl, quote_short (length_spelled rfl rfl)⟩,
    ⟨length_spelled rfl rfl, quote_short (length_spelled rfl rfl)⟩,
    ⟨length_spelled rfl rfl, retryable⟩, ⟨length_spelled rfl rfl, suggestions⟩,
    List.forall_mem_nil _⟩

theorem interruption_short : len interruption.encode ≤ activeResultReserveBytes := by
  have suggestions := @suggestions_short .cancelled rfl
    (List.forall_mem_singleton.mpr (length_spelled rfl rfl))
  have recovery : len (quote "inspect_history_before_retrying") ≤ 482 :=
    len_quote_le (@length_spelled _ _ 40 rfl rfl)
  have details : len (mapText [("recovery", quote "inspect_history_before_retrying")]) ≤ 10000 :=
    Nat.le_trans (@len_objectText_le [("recovery", quote "inspect_history_before_retrying")] 482
      (List.forall_mem_singleton.mpr ⟨length_spelled rfl rfl, recovery⟩)) (by decide)
  have retryable : len "false" ≤ 10000 := Nat.le_trans (len_le _) (Nat.le_of_ble_eq_true rfl)
  have encoded : interruption.encode = objectText [("code", quote "cancelled"),
      ("message", quote "bridge stopped while provider completion was uncertain"),
      ("retryable", "false"),
      ("details", mapText [("recovery", quote "inspect_history_before_retrying")]),
      ("suggestions", bracket "[" "]" ((defaultSuggestions .cancelled).map quote))] := rfl
  rw [encoded]
  refine Nat.le_trans (@len_objectText_le _ 10000 ?_) (by decide)
  simp only [List.forall_mem_cons]
  exact ⟨⟨length_spelled rfl rfl, quote_short (length_spelled rfl rfl)⟩,
    ⟨length_spelled rfl rfl, quote_short (length_spelled rfl rfl)⟩,
    ⟨length_spelled rfl rfl, retryable⟩, ⟨length_spelled rfl rfl, details⟩,
    ⟨length_spelled rfl rfl, suggestions⟩, List.forall_mem_nil _⟩

theorem boundedError_short (error : SuggestedError) :
    len (boundedError error) ≤ activeResultReserveBytes := by
  unfold boundedError
  split
  · exact oversizedError_short
  · rename_i fits
    exact Nat.le_of_not_gt fits

theorem failureStatus_terminal {status : ImageJobStatus} (failure : failureStatus status = true) :
    status.terminal = true := by
  cases status <;> first | rfl | cases failure

theorem fail_change {status : ImageJobStatus} {error : SuggestedError}
    (failing : errors (boundedError error)) :
    Change (RowStep results errors) adds removes rows (fail scope id status error now rows).2 := by
  unfold fail
  split
  · exact unchanged
  · rename_i failure
    refine finish_change (failureStatus_terminal (by simpa using failure)) (by simp) ?_ nofun ?_
    · simpa [optionalLen] using boundedError_short error
    · intro text own
      exact Option.some.inj own ▸ failing

theorem recoverInterrupted_change (failing : errors interruption.encode) :
    Change (RowStep results errors) adds removes rows (recoverInterrupted now rows).2 := by
  unfold recoverInterrupted
  refine checked_cases (motive := fun answer => Change (RowStep results errors) adds removes rows answer.2)
    (fun _ _ => unchanged) fun time _ => changes fun row _ chooses => ?_
  exact .interrupted _ _ (by simpa using chooses) interruption_short failing

/-- The row a job's statement reads is the only one it selects. -/
theorem Keyed.isJob (keyed : Keyed JobRow.id rows) {found row : JobRow}
    (read : rows.find? (fun row => row.isJob scope id) = some found) (member : row ∈ rows)
    (chooses : row.isJob scope id = true) : row = found := by
  have foundJob := List.find?_some read
  rw [isJob_iff] at foundJob chooses
  exact keyed.same member (List.mem_of_find?_eq_some read) (chooses.1.trans foundJob.1.symm)

theorem requestCancel_change (keyed : Keyed JobRow.id rows) :
    Change (RowStep results errors) adds removes rows (requestCancel scope id now rows).2 := by
  unfold requestCancel
  refine checked_cases (motive := fun answer => Change (RowStep results errors) adds removes rows answer.2)
    (fun _ _ => unchanged) fun time _ => ?_
  dsimp only
  cases read : rows.find? (fun row => row.isJob scope id) with
  | none => exact unchanged
  | some found =>
    cases status : found.status with
    | queued =>
      simp only [Option.map_some, status]
      exact changes fun row member chooses =>
        .cancelled _ (Keyed.isJob keyed read member chooses ▸ status)
    | running =>
      simp only [Option.map_some, status]
      exact changes fun row member chooses =>
        .cancelNoted _ (Keyed.isJob keyed read member chooses ▸ status)
    | succeeded | failed | cancelled | interrupted =>
      simp only [Option.map_some, status]
      exact unchanged

theorem writeHistory_change {request : HistoryUpdate}
    (ended : request.deleted ≠ none → ∀ row ∈ rows, row.id = request.id →
      row.status.terminal = true) :
    Change (RowStep results errors) adds removes rows (writeHistory request rows).2 := by
  unfold writeHistory
  refine changes fun row member chooses => .history _ _ _ fun differs => ?_
  rw [isJob_iff] at chooses
  refine ended ?_ row member chooses.1
  intro keeps
  rw [keeps] at differs
  exact differs rfl

/-- Only rows of the list are beyond its bounds. -/
theorem mem_excess {maximum maximumBytes ordinal cumulative : Nat} {gone : String}
    (member : gone ∈ excess maximum maximumBytes ordinal cumulative rows) :
    ∃ row ∈ rows, row.id = gone := by
  induction rows generalizing ordinal cumulative with
  | nil => cases member
  | cons first rest ih =>
    have later : gone ∈ excess maximum maximumBytes (ordinal + 1)
        (cumulative + first.retainedBytes) rest → ∃ row ∈ first :: rest, row.id = gone := by
      intro member
      obtain ⟨row, present, own⟩ := ih member
      exact ⟨row, List.mem_cons_of_mem _ present, own⟩
    unfold excess at member
    dsimp only at member
    split at member
    · obtain rfl | member := List.mem_cons.mp member
      · exact ⟨first, List.mem_cons_self .., rfl⟩
      · exact later member
    · exact later member

/-- Retention removes terminal rows that are no favorites. -/
theorem prune_change (keyed : Keyed JobRow.id rows)
    {retentionSecs maxRetained maxRetainedBytes : Nat} :
    Change (RowStep results errors) adds (fun row => row.prunable = true) rows
      (prune now retentionSecs maxRetained maxRetainedBytes rows).2 := by
  unfold prune
  refine checked_cases (motive := fun answer => Change (RowStep results errors) adds _ rows answer.2)
    (fun _ _ => unchanged) fun cutoff _ => ?_
  dsimp only
  split
  · exact unchanged
  · dsimp only
    rw [List.filter_filter]
    refine .deleted _ fun row member goes => ?_
    simp only [Bool.and_eq_false_iff, Bool.not_eq_false', List.contains_eq_mem] at goes
    rcases goes with gone | expires
    · obtain ⟨other, present, same⟩ := mem_excess (of_decide_eq_true gone)
      rw [List.mem_insertionSort, List.mem_filter, List.mem_filter] at present
      exact keyed.same present.1.1 member same ▸ present.2
    · simp only [Bool.and_eq_true] at expires
      exact expires.1

section Submission

variable {request : ImageRequest} {maxPending maxDatabaseBytes newBytes : Nat} {row : JobRow}

/-- What an insertion has passed. -/
structure Room (row : JobRow) (newBytes maxPending maxDatabaseBytes : Nat) (rows : List JobRow) :
    Prop where
  unsubmitted : findSubmission row.authScope row.submissionKeyHash rows = none
  pending : rows.countP (fun other => other.status = .queued) < min maxPending i64Max
  representable : logicalBytes rows ≤ i64Max
  affordable : min (logicalBytes rows + newBytes) i64Max ≤ min maxDatabaseBytes i64Max
  fresh : ∀ other ∈ rows, other.id ≠ row.id

theorem createTransaction_cases (row : JobRow) (newBytes maxPending maxDatabaseBytes : Nat)
    (rows : List JobRow) :
    ((createTransaction row newBytes maxPending maxDatabaseBytes rows).2 = rows ∧
      ∀ other, (createTransaction row newBytes maxPending maxDatabaseBytes rows).1
        ≠ .ok (.created other)) ∨
    (Room row newBytes maxPending maxDatabaseBytes rows ∧
      createTransaction row newBytes maxPending maxDatabaseBytes rows
        = (.ok (.created row.id), rows ++ [row])) := by
  unfold createTransaction
  cases found : findSubmission row.authScope row.submissionKeyHash rows with
  | some existing =>
    refine Or.inl ⟨rfl, fun other => ?_⟩
    dsimp only
    split
    · simp
    · split <;> simp
  | none =>
    dsimp only
    by_cases full : rows.countP (fun other => other.status = .queued) ≥ min maxPending i64Max
    · rw [if_pos full]
      exact Or.inl ⟨rfl, by simp⟩
    rw [if_neg full]
    by_cases overflow : logicalBytes rows > i64Max
    · rw [if_pos overflow]
      exact Or.inl ⟨rfl, by simp⟩
    rw [if_neg overflow]
    by_cases expensive : min (logicalBytes rows + newBytes) i64Max > min maxDatabaseBytes i64Max
    · rw [if_pos expensive]
      exact Or.inl ⟨rfl, by simp⟩
    rw [if_neg expensive]
    unfold insertRow
    by_cases taken : rows.any (fun other => other.id = row.id) = true
    · rw [taken]
      exact Or.inl ⟨rfl, by simp⟩
    · have free : ∀ other ∈ rows, other.id ≠ row.id := by simpa using taken
      refine Or.inr ⟨⟨found, Nat.lt_of_not_ge full, Nat.le_of_not_gt overflow,
        Nat.le_of_not_gt expensive, free⟩, ?_⟩
      simp [taken, found]

theorem create_cases (codec : Codec) (scope id : String) (request : ImageRequest)
    (now maxPending maxDatabaseBytes : Nat) (rows : List JobRow) :
    ((create codec scope id request now maxPending maxDatabaseBytes rows).2 = rows ∧
      ∀ other, (create codec scope id request now maxPending maxDatabaseBytes rows).1
        ≠ .ok (.created other)) ∨
    (∃ newBytes, checkSubmission codec scope id request now = .ok newBytes ∧
      Room (newJob codec scope id request now) newBytes maxPending maxDatabaseBytes rows ∧
      create codec scope id request now maxPending maxDatabaseBytes rows
        = (.ok (.created id), rows ++ [newJob codec scope id request now])) := by
  unfold create checked
  cases check : checkSubmission codec scope id request now with
  | error e => exact Or.inl ⟨rfl, by simp⟩
  | ok newBytes =>
    rcases createTransaction_cases (newJob codec scope id request now) newBytes maxPending
      maxDatabaseBytes rows with unchanged | ⟨room, inserted⟩
    · exact Or.inl unchanged
    · exact Or.inr ⟨newBytes, rfl, room, inserted⟩

/-- A submission that passes its checks and finds room is inserted. -/
theorem create_room (checks : checkSubmission codec scope id request now = .ok newBytes)
    (room : Room (newJob codec scope id request now) newBytes maxPending maxDatabaseBytes rows) :
    create codec scope id request now maxPending maxDatabaseBytes rows
      = (.ok (.created id), rows ++ [newJob codec scope id request now]) := by
  have free : (rows.any fun other => decide (other.id = id)) = false := by
    have fresh : ∀ other ∈ rows, other.id ≠ id := room.fresh
    simpa using fresh
  unfold create checked
  rw [checks]
  dsimp only
  unfold createTransaction
  rw [room.unsubmitted]
  dsimp only
  rw [if_neg (Nat.not_le.mpr room.pending), if_neg (Nat.not_lt.mpr room.representable),
    if_neg (Nat.not_lt.mpr room.affordable), insertRow, room.unsubmitted]
  have named : (newJob codec scope id request now).id = id := rfl
  simp [named, free]

end Submission

/-- A row a submission adds, with all the submission has checked. -/
structure Admits (codec : Codec) (s : StoreState) (event : StoreEvent) (row : JobRow) : Prop where
  submission : ∃ scope id request now maxPending maxDatabaseBytes newBytes,
    event = .created scope id request now maxPending maxDatabaseBytes ∧
    row = newJob codec scope id request now ∧
    checkSubmission codec scope id request now = .ok newBytes ∧
    Room row newBytes maxPending maxDatabaseBytes s.rows
  fresh : row.id ∉ s.used
  hosted : WithinLimits (s.rows ++ [row])

end Methods

end ImagegenBridge.Jobs
