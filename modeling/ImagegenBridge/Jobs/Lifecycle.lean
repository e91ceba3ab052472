import ImagegenBridge.Jobs.StoreSteps

/-!
# The lifecycle of a job

A row satisfies in every status what its columns promise, and a history update that
has read a terminal job finds it terminal or gone when it writes.
-/

namespace ImagegenBridge.Jobs

open Table Text
open Transition (Run Unrestricted)

variable {codec : Codec} {s t : StoreState} {event : StoreEvent} {row row' : JobRow}
  {results errors : String → Prop}

/-- The moves of the state machine, and standing still. -/
inductive Advances : ImageJobStatus → ImageJobStatus → Prop
  | stays (status : ImageJobStatus) : Advances status status
  | starts : Advances .queued .running
  | cancels : Advances .queued .cancelled
  | ends {status : ImageJobStatus} (terminal : status.terminal = true) : Advances .running status

/-- The columns that a terminal job keeps. -/
structure SameEnd (row row' : JobRow) : Prop where
  status : row'.status = row.status
  completed : row'.completed = row.completed
  response : row'.response = row.response
  error : row'.error = row.error

/-- What the columns of a row say of its status. -/
structure Sane (row : JobRow) : Prop where
  completed : row.completed.isSome = row.status.terminal
  result : row.response ≠ none → row.status = .succeeded
  failure : row.error ≠ none → row.status.terminal = true
  deleted : row.deleted ≠ none → row.status.terminal = true
  uncancelled : row.status = .queued → row.cancelRequested = false
  stage : ∀ stage, row.progressStage = some stage → len stage ≤ 64
  counted : row.partialImages < 2 ^ 32
  scope : validateAuthScope row.authScope = .ok ()

theorem RowStep.advances (step : RowStep results errors row row') : Advances row.status row'.status := by
  cases step with
  | idle => exact .stays _
  | claimed now queued =>
    rw [queued]
    exact .starts
  | progressed stage partialImages now running short fits => exact .stays _
  | finished status response error now running terminal result bounded resulting failing =>
    rw [running]
    exact .ends terminal
  | cancelled now queued =>
    rw [queued]
    exact .cancels
  | cancelNoted now running => exact .stays _
  | interrupted now error running short failing =>
    rw [running]
    exact .ends rfl
  | history favorite deleted now ended => exact .stays _

theorem RowStep.sameEnd (step : RowStep results errors row row') (terminal : row.status.terminal = true) :
    SameEnd row row' := by
  cases step with
  | idle => exact ⟨rfl, rfl, rfl, rfl⟩
  | claimed now queued => simp [queued, ImageJobStatus.terminal] at terminal
  | progressed stage partialImages now running short fits =>
    simp [running, ImageJobStatus.terminal] at terminal
  | finished status response error now running _ result bounded resulting failing =>
    simp [running, ImageJobStatus.terminal] at terminal
  | cancelled now queued => simp [queued, ImageJobStatus.terminal] at terminal
  | cancelNoted now running => exact ⟨rfl, rfl, rfl, rfl⟩
  | interrupted now error running short failing => simp [running, ImageJobStatus.terminal] at terminal
  | history favorite deleted now ended => exact ⟨rfl, rfl, rfl, rfl⟩

theorem RowStep.sane (step : RowStep results errors row row') (sane : Sane row) : Sane row' := by
  have starting : len "starting" ≤ 64 := by decide
  have ended : len "completed" ≤ 64 := by decide
  have active : row.status.terminal = false → row.response = none := by
    intro active
    by_contra stored
    rw [sane.result stored] at active
    cases active
  cases step with
  | idle => exact sane
  | claimed now queued =>
    have quiet : row.status.terminal = false := by rw [queued]; rfl
    refine ⟨?_, fun stored => absurd (active quiet) stored, ?_, ?_, nofun, ?_, sane.counted, sane.scope⟩
    · exact sane.completed.trans quiet
    · intro stored
      exact absurd (sane.failure stored) (by simp [quiet])
    · intro hidden
      exact absurd (sane.deleted hidden) (by simp [quiet])
    · intro stage own
      cases own
      exact starting
  | progressed stage partialImages now running short fits =>
    refine ⟨sane.completed, sane.result, sane.failure, sane.deleted, sane.uncancelled, ?_,
      fits, sane.scope⟩
    intro stage own
    cases own
    exact short
  | finished status response error now running terminal result bounded resulting failing =>
    refine ⟨terminal.symm, result, fun _ => terminal, fun _ => terminal, ?_, ?_, sane.counted, sane.scope⟩
    · intro queued
      dsimp only at queued
      rw [queued] at terminal
      cases terminal
    · intro stage own
      cases own
      exact ended
  | cancelled now queued =>
    have quiet : row.status.terminal = false := by rw [queued]; rfl
    refine ⟨rfl, fun stored => absurd (active quiet) stored, fun _ => rfl, fun _ => rfl, nofun, ?_,
      sane.counted, sane.scope⟩
    intro stage own
    cases own
    exact ended
  | cancelNoted now running =>
    refine ⟨sane.completed, sane.result, sane.failure, sane.deleted, ?_, sane.stage,
      sane.counted, sane.scope⟩
    intro queued
    dsimp only at queued
    rw [running] at queued
    cases queued
  | interrupted now error running short failing =>
    have quiet : row.status.terminal = false := by rw [running]; rfl
    exact ⟨rfl, fun stored => absurd (active quiet) stored, fun _ => rfl, fun _ => rfl, nofun,
      sane.stage, sane.counted, sane.scope⟩
  | history favorite deleted now ended =>
    refine ⟨sane.completed, sane.result, sane.failure, ?_, sane.uncancelled, sane.stage,
      sane.counted, sane.scope⟩
    intro hidden
    by_cases same : deleted = row.deleted
    · exact sane.deleted (same ▸ hidden)
    · exact ended same

theorem newJob_sane {scope id : String} {request : ImageRequest} {now newBytes : Nat}
    (checks : checkSubmission codec scope id request now = .ok newBytes) :
    Sane (newJob codec scope id request now) where
  completed := rfl
  result := fun stored => absurd rfl stored
  failure := fun stored => absurd rfl stored
  deleted := fun stored => absurd rfl stored
  uncancelled := fun _ => rfl
  stage := nofun
  counted := by
    dsimp only [newJob]
    decide
  scope := by
    obtain ⟨_, valid, _⟩ := Outcome.bind_ok.mp checks
    exact valid

/-- What holds of the whole store: identities are keys, every row is sane, and what a
pending deletion has read is over. -/
structure Orderly (s : StoreState) : Prop where
  keyed : Keyed JobRow.id s.rows
  known : ∀ row ∈ s.rows, row.id ∈ s.used
  sane : ∀ row ∈ s.rows, Sane row
  ended : ∀ update ∈ s.updates, update.deleted ≠ none → update.id ∈ s.used ∧
    ∀ row ∈ s.rows, row.id = update.id → row.status.terminal = true

theorem empty_orderly : Orderly .empty where
  keyed := List.nodup_nil
  known := fun _ impossible => nomatch impossible
  sane := fun _ impossible => nomatch impossible
  ended := fun _ impossible => nomatch impossible

theorem Admits.sane (admits : Admits codec s event row) : Sane row := by
  obtain ⟨_, _, _, _, _, _, _, _, rfl, checks, _⟩ := admits.submission
  exact newJob_sane checks

/-- Every step is one statement on the table, within the bounds of its row steps. -/
theorem step_change (orderly : Orderly s) (step : Step codec s event t) :
    Change (RowStep (Results codec event) (Errors event)) (Admits codec s event)
      (fun row => row.prunable = true) s.rows t.rows := by
  cases step with
  | created scope id request now maxPending maxDatabaseBytes fresh hosted =>
    obtain ⟨same, _⟩ | ⟨newBytes, checks, room, inserted⟩ :=
      create_cases codec scope id request now maxPending maxDatabaseBytes s.rows
    · dsimp only
      rw [same]
      exact unchanged
    · have fits := hosted id (by rw [inserted])
      dsimp only
      rw [inserted] at fits ⊢
      exact .inserted ⟨⟨scope, id, request, now, maxPending, maxDatabaseBytes, newBytes, rfl, rfl,
        checks, room⟩, fresh, fits⟩
  | claimed scope id now => exact claim_change
  | progressed scope id stage partialImages now fits => exact progress_change fits
  | succeeded scope id response now => exact succeed_change ⟨scope, id, response, now, rfl, rfl⟩
  | failed scope id status error now =>
    exact fail_change (Or.inl ⟨scope, id, status, error, now, rfl, rfl⟩)
  | cancelRequested scope id now => exact requestCancel_change orderly.keyed
  | recovered now => exact recoverInterrupted_change (Or.inr ⟨now, rfl, rfl⟩)
  | historyRead read => exact unchanged
  | @historyWritten request pending =>
    exact writeHistory_change fun deletes row member own =>
      (orderly.ended request pending deletes).2 row member own
  | pruned now retentionSecs maxRetained maxRetainedBytes => exact prune_change orderly.keyed

theorem step_used (step : Step codec s event t) : ∀ id ∈ s.used, id ∈ t.used := by
  intro id member
  cases step <;> first | exact member | exact List.mem_cons_of_mem _ member

theorem Admits.used (admits : Admits codec s event row) (step : Step codec s event t) :
    row.id ∈ t.used := by
  obtain ⟨_, _, _, _, _, _, _, rfl, rfl, _⟩ := admits.submission
  cases step with
  | created => exact List.mem_cons_self ..

/-- What `get` returns is the row of the job. -/
theorem get_status {scope id : String} {rows : List JobRow} {job : ImageJob}
    (read : get codec scope id rows = .ok job) :
    ∃ row ∈ rows, row.isJob scope id = true ∧ job.id = row.id ∧ job.status = row.status := by
  unfold get at read
  obtain ⟨_, _, read⟩ := Outcome.bind_ok.mp read
  split at read
  · cases read
  · rename_i row found
    obtain ⟨_, _, read⟩ := Outcome.bind_ok.mp read
    obtain ⟨_, _, read⟩ := Outcome.bind_ok.mp read
    obtain ⟨_, _, read⟩ := Outcome.bind_ok.mp read
    obtain ⟨_, _, read⟩ := Outcome.bind_ok.mp read
    cases read
    have chosen := List.find?_some found
    exact ⟨row, List.mem_of_find?_eq_some found, by simpa using chosen, rfl, rfl⟩

/-- A deletion from history has read a terminal job. -/
theorem readHistory_over {request update : HistoryUpdate} {rows : List JobRow}
    (read : readHistory codec request rows = .ok update) (deletes : update.deleted ≠ none) :
    ∃ row ∈ rows, row.id = update.id ∧ row.status.terminal = true := by
  unfold readHistory at read
  obtain ⟨_, _, read⟩ := Outcome.bind_ok.mp read
  obtain ⟨_, _, read⟩ := Outcome.bind_ok.mp read
  obtain ⟨existing, found, read⟩ := Outcome.bind_ok.mp read
  obtain ⟨_, permitted, read⟩ := Outcome.bind_ok.mp read
  obtain ⟨now, _, read⟩ := Outcome.bind_ok.mp read
  cases read
  obtain ⟨row, member, chosen, _, status⟩ := get_status found
  have allowed := (Outcome.failIf_ok ..).mp permitted
  refine ⟨row, member, (isJob_iff.mp chosen).1, ?_⟩
  rw [← status]
  by_contra active
  exact allowed ⟨deletes, by simpa using active⟩

/-- A terminal row stays terminal. -/
theorem Advances.terminal {status status' : ImageJobStatus} (advances : Advances status status')
    (ended : status.terminal = true) : status'.terminal = true := by
  cases advances with
  | stays => exact ended
  | starts => cases ended
  | cancels => cases ended
  | ends terminal => exact terminal

theorem step_orderly (orderly : Orderly s) (step : Step codec s event t) : Orderly t := by
  have change := step_change orderly step
  have idle : ∀ row ∈ s.rows, RowStep (Results codec event) (Errors event) row row := fun row _ => .idle row
  have fresh : ∀ row, Admits codec s event row → ∀ other ∈ s.rows, other.id ≠ row.id :=
    fun row admits other member same => admits.fresh (same ▸ orderly.known other member)
  refine ⟨change.keyed orderly.keyed (fun _ _ => RowStep.id) fresh, ?_, ?_, ?_⟩
  · intro row' member
    obtain ⟨row, old, moved⟩ | admits := change.origin idle member
    · rw [moved.id]
      exact step_used step _ (orderly.known row old)
    · exact admits.used step
  · intro row' member
    obtain ⟨row, old, moved⟩ | admits := change.origin idle member
    · exact moved.sane (orderly.sane row old)
    · exact admits.sane
  · -- An update that was pending keeps its promise; one that reads now finds its job terminal.
    have kept : ∀ update ∈ s.updates, update.deleted ≠ none → update.id ∈ t.used ∧
        ∀ row ∈ t.rows, row.id = update.id → row.status.terminal = true := by
      intro update pending deletes
      obtain ⟨used, ended⟩ := orderly.ended update pending deletes
      refine ⟨step_used step _ used, fun row' member own => ?_⟩
      obtain ⟨row, old, moved⟩ | admits := change.origin idle member
      · exact moved.advances.terminal (ended row old (moved.id.symm.trans own))
      · exact absurd (own ▸ used) admits.fresh
    cases step with
    | @historyRead request update read =>
      intro other pending deletes
      obtain rfl | before := List.mem_cons.mp pending
      · obtain ⟨row, member, own, terminal⟩ := readHistory_over read deletes
        refine ⟨own ▸ orderly.known row member, fun row' present same => ?_⟩
        exact orderly.keyed.same present member (same.trans own.symm) ▸ terminal
      · exact kept other before deletes
    | @historyWritten request pending =>
      exact fun update member => kept update (List.mem_of_mem_erase member)
    | created | claimed | progressed | succeeded | failed | cancelRequested | recovered | pruned =>
      exact kept

theorem run_orderly {condition : StoreState → StoreEvent → Prop}
    (run : Run (Step codec) condition .empty s) : Orderly s :=
  run.invariant empty_orderly fun _ _ _ _ orderly step _ => step_orderly orderly step

section Runs

variable {scope id : String} {now : Nat}

/-- The row of a job goes on as the row of that job. -/
theorem step_traces (orderly : Orderly s) (step : Step codec s event t) (old : row ∈ s.rows)
    (new : row' ∈ t.rows) (same : row'.id = row.id) :
    RowStep (Results codec event) (Errors event) row row' :=
  (step_change orderly step).traces orderly.keyed (fun row _ => .idle row) (fun _ _ => RowStep.id)
    (fun _ admits other member own => admits.fresh (own ▸ orderly.known other member)) old new same

/-- Whatever row an identity that was submitted has now, it satisfies a predicate. -/
def Holding (id : String) (good : JobRow → Prop) (s : StoreState) : Prop :=
  id ∈ s.used ∧ ∀ row ∈ s.rows, row.id = id → good row

theorem Orderly.holding {good : JobRow → Prop} (orderly : Orderly s) (member : row ∈ s.rows)
    (holds : good row) : Holding row.id good s :=
  ⟨orderly.known row member, fun _ present own => orderly.keyed.same present member own ▸ holds⟩

/-- What every step of a row keeps holds of a job for the rest of its life. -/
theorem run_holding {condition : StoreState → StoreEvent → Prop} {good : JobRow → Prop}
    (kept : ∀ results errors row row', RowStep results errors row row' → good row → good row')
    (orderly : Orderly s) (holding : Holding id good s) (later : Run (Step codec) condition s t) :
    Holding id good t := by
  have both : Orderly t ∧ Holding id good t := by
    induction later with
    | start => exact ⟨orderly, holding⟩
    | next between step _ ih =>
      obtain ⟨before, used, holds⟩ := ih
      refine ⟨step_orderly before step, step_used step _ used, fun row' new own => ?_⟩
      rcases (step_change before step).origin (fun row _ => .idle row) new with
        ⟨row, member, moved⟩ | admits
      · exact kept _ _ row row' moved (holds row member (moved.id.symm.trans own))
      · exact absurd (own ▸ used) admits.fresh
  exact both.2

theorem RowStep.leaves_queue (step : RowStep results errors row row')
    (started : row.status ≠ .queued) : row'.status ≠ .queued := by
  intro queued
  have advances := step.advances
  rw [queued] at advances
  generalize row.status = status at advances started
  cases advances with
  | stays => exact started rfl
  | ends terminal => cases terminal

/-- A job that is over has kept its end. -/
theorem RowStep.keepsEnd {old : JobRow} (step : RowStep results errors row row')
    (kept : old.status.terminal = true ∧ SameEnd old row) :
    old.status.terminal = true ∧ SameEnd old row' := by
  obtain ⟨terminal, before⟩ := kept
  have after := step.sameEnd (by rw [before.status]; exact terminal)
  exact ⟨terminal, after.status.trans before.status, after.completed.trans before.completed,
    after.response.trans before.response, after.error.trans before.error⟩

theorem RowStep.keepsJob {old : JobRow} (step : RowStep results errors row row')
    (kept : SameJob old row) : SameJob old row' := by
  have after := step.sameJob
  exact ⟨after.id.trans kept.id, after.authScope.trans kept.authScope,
    after.created.trans kept.created, after.request.trans kept.request,
    after.promptSearch.trans kept.promptSearch,
    after.submissionKeyHash.trans kept.submissionKeyHash,
    after.requestFingerprint.trans kept.requestFingerprint⟩

/-- As long as a job exists it is the job that was submitted. -/
theorem run_sameJob {condition : StoreState → StoreEvent → Prop} (orderly : Orderly s)
    (later : Run (Step codec) condition s t) (old : row ∈ s.rows) (new : row' ∈ t.rows)
    (own : row'.id = row.id) : SameJob row row' := by
  have start : Holding row.id (SameJob row) s :=
    orderly.holding old ⟨rfl, rfl, rfl, rfl, rfl, rfl, rfl⟩
  exact (run_holding (fun _ _ _ _ step => step.keepsJob) orderly start later).2 row' new own

theorem toI64_ok {value stored : Nat} (ok : toI64 value = .ok stored) :
    stored = value ∧ value ≤ i64Max := by
  unfold toI64 at ok
  split at ok
  · cases ok
    exact ⟨rfl, by assumption⟩
  · cases ok

/-- A claim that was won has started a queued job. -/
theorem claim_ok {rows : List JobRow} (won : (claim scope id now rows).1 = .ok true) :
    (∃ row ∈ rows, row.claimable scope id = true) ∧
      (claim scope id now rows).2 = update (·.claimable scope id) (JobRow.start now) rows := by
  unfold claim checked at won ⊢
  cases check : (do validateAuthScope scope; toI64 now : Outcome Nat) with
  | error e =>
    rw [check] at won
    cases won
  | ok time =>
    rw [check] at won
    obtain ⟨_, _, representable⟩ := Outcome.bind_ok.mp check
    cases (toI64_ok representable).1
    simp only [Except.ok.injEq, beq_iff_eq, changed] at won
    exact ⟨List.countP_pos_iff.mp (Nat.lt_of_lt_of_eq Nat.one_pos won.symm), rfl⟩

theorem claim_claims (orderly : Orderly s) (won : (claim scope id now s.rows).1 = .ok true)
    (step : Step codec s (.claimed scope id now) t) :
    Holding id (fun row => row.status ≠ .queued) t := by
  obtain ⟨⟨row, member, chosen⟩, after⟩ := claim_ok won
  have own := (claimable_iff.mp chosen).1.1
  cases step with
  | claimed =>
    refine ⟨own ▸ orderly.known row member, fun row' new same => ?_⟩
    dsimp only at new
    rw [after, mem_update] at new
    obtain ⟨old, skipped⟩ | ⟨old, _, _, rfl⟩ := new
    · -- The claimed row is the only one with its identity.
      rw [orderly.keyed.same old member (same.trans own.symm), chosen] at skipped
      cases skipped
    · exact nofun

/-- The status moves along the state machine; a terminal job keeps its end; a claim of a
job is won once. The columns agree with the status in every state, also when a history
update writes long after it has read. -/
theorem job_lifecycle (run : Run (Step codec) Unrestricted .empty s) :
    (∀ row ∈ s.rows, (row.completed.isSome = row.status.terminal) ∧
      (row.response ≠ none → row.status = .succeeded) ∧
      (row.deleted ≠ none → row.status.terminal = true)) ∧
    (∀ event t, Step codec s event t → ∀ row ∈ s.rows, ∀ row' ∈ t.rows, row'.id = row.id →
      Advances row.status row'.status) ∧
    (∀ t, Run (Step codec) Unrestricted s t → ∀ row ∈ s.rows, ∀ row' ∈ t.rows, row'.id = row.id →
      row.status.terminal = true → SameEnd row row') ∧
    ∀ scope id now t, Step codec s (.claimed scope id now) t →
      (claim scope id now s.rows).1 = .ok true → ∀ u, Run (Step codec) Unrestricted t u →
        ∀ scope' now', (claim scope' id now' u.rows).1 ≠ .ok true := by
  have orderly := run_orderly run
  refine ⟨fun row member => ?_, fun event t step row old row' new same => ?_, ?_, ?_⟩
  · have sane := orderly.sane row member
    exact ⟨sane.completed, sane.result, sane.deleted⟩
  · exact (step_traces orderly step old new same).advances
  · intro t later row old row' new same terminal
    have start : Holding row.id (fun row' => row.status.terminal = true ∧ SameEnd row row') s :=
      orderly.holding old ⟨terminal, rfl, rfl, rfl, rfl⟩
    have ended := run_holding (fun _ _ _ _ step => step.keepsEnd) orderly start later
    exact (ended.2 row' new same).2
  · intro scope id now t step won u later scope' now' again
    have claimed := run_holding (fun _ _ _ _ step => step.leaves_queue) (step_orderly orderly step)
      (claim_claims orderly won step) later
    obtain ⟨⟨row, member, chosen⟩, _⟩ := claim_ok again
    obtain ⟨⟨own, _⟩, queued, _⟩ := claimable_iff.mp chosen
    exact claimed.2 row member own queued

/-- A keyed request waits in an otherwise empty store. -/
def kiteQueued : StoreState := ⟨[kiteRow "job-1" 10], ["job-1"], []⟩

theorem kite_hosted : WithinLimits [kiteRow "job-1" 10] := by
  have bytes : total JobRow.recordBytes [kiteRow "job-1" 10] = len "job-1" + 749 := by
    simp [total, kite_recordBytes]
  refine ⟨by simp, ?_⟩
  rw [bytes]
  decide

theorem kite_created : create kiteCodec "operator" "job-1" keyedKite 10 1 (2 ^ 20) []
    = (.ok (.created "job-1"), [kiteRow "job-1" 10]) := by
  have checks : checkSubmission kiteCodec "operator" "job-1" keyedKite 10 = _ :=
    kite_checks (by decide) (by decide)
  have inserted : create kiteCodec "operator" "job-1" keyedKite 10 1 (2 ^ 20) [] = _ :=
    create_room checks ⟨rfl, by decide, by decide, by decide, by simp⟩
  rwa [kite_newJob] at inserted

theorem submits_kite : Step kiteCodec .empty
    (.created "operator" "job-1" keyedKite 10 1 (2 ^ 20)) kiteQueued := by
  have created : Step kiteCodec .empty (.created "operator" "job-1" keyedKite 10 1 (2 ^ 20)) _ :=
    .created "operator" "job-1" keyedKite 10 1 (2 ^ 20) (by simp [StoreState.empty]) (by
      intro _ _
      rw [StoreState.empty, kite_created]
      exact kite_hosted)
  dsimp only [StoreState.empty] at created
  rw [kite_created] at created
  exact created

theorem reaches_kiteQueued : Run (Step kiteCodec) Unrestricted .empty kiteQueued :=
  Run.start.then submits_kite

/-- The waiting job is claimed once. -/
theorem queued_kite_lives : (∀ row ∈ kiteQueued.rows, (row.completed.isSome = row.status.terminal) ∧
      (row.response ≠ none → row.status = .succeeded) ∧
      (row.deleted ≠ none → row.status.terminal = true)) ∧
    ∀ t u, Step kiteCodec kiteQueued (.claimed "operator" "job-1" 11) t →
      Run (Step kiteCodec) Unrestricted t u →
        ∀ scope now, (claim scope "job-1" now u.rows).1 ≠ .ok true := by
  obtain ⟨columns, _, _, once⟩ := job_lifecycle reaches_kiteQueued
  exact ⟨columns, fun t u step later scope now => once _ _ _ t step (by rfl) u later _ _⟩

end Runs

end ImagegenBridge.Jobs
