import ImagegenBridge.Jobs.Workers
import ImagegenBridge.Runtime.IdempotencyAccounting

/-!
# Cancelling a job

A cancellation commits in the store and then looks up the active map; a worker
registers in the map and then reads the store. Whichever comes second sees the other.
-/

namespace ImagegenBridge.Jobs

open Table Text
open Transition (Run Unrestricted)

variable {codec : Codec} {limits : RequestLimits} {settings : JobSettings}
  {s s' t u origin : JobManager} {event : ManagerEvent} {left : StoreState}
  {recoveredAt prunedAt : Nat} {row row' : JobRow} {scope id : String}

namespace WorkerStage

/-- The stages after the provider call was given a token. -/
def called (token : Nat) : WorkerStage → Bool
  | .executing own | .returned own _ | .removed own _ => own == token
  | .succeeding _ | .failing .. | .settled => true
  | _ => false

end WorkerStage

/-- What every step of a row keeps holds of a job after every step of the manager. -/
theorem managerRun_holding {condition : JobManager → ManagerEvent → Prop} {good : JobRow → Prop}
    (kept : ∀ results errors row row', RowStep results errors row row' → good row → good row')
    (managed : Managed s) (holding : Holding id good s.store)
    (later : Run (ManagerStep codec limits settings) condition s t) : Holding id good t.store :=
  run_holding kept managed.orderly holding (managerRun_store later)

theorem managerStep_holding {good : JobRow → Prop}
    (kept : ∀ results errors row row', RowStep results errors row row' → good row → good row')
    (managed : Managed s) (holding : Holding id good s.store)
    (step : ManagerStep codec limits settings s event t) : Holding id good t.store :=
  managerRun_holding kept managed holding (Run.start.then step)

/-- A job that was started is not queued again, and a job whose call was made has no
worker that would make it again. -/
structure Traced (s : JobManager) : Prop where
  started : ∀ w ∈ s.workers, w.stage.unclaimed = false →
    Holding w.id (fun row => row.status ≠ .queued) s.store
  called : ∀ call ∈ s.calls, Holding call.id (fun row => row.status ≠ .queued) s.store
  past : ∀ call ∈ s.calls, ∀ w ∈ s.workers, w.id = call.id → w.stage.called call.token = true
  alone : ∀ call ∈ s.calls, call.id ∉ s.submissions.filterMap Submission.inserted

/-- A call was made before, or its worker has just read the stored job. -/
theorem call_origin (step : ManagerStep codec limits settings s event t) {call : RuntimeCall}
    (member : call ∈ t.calls) : call ∈ s.calls ∨ ∃ w ∈ s.workers, ∃ token,
      event = .read w ∧ w.stage = .registered token ∧ call = ⟨w.scope, w.id, token⟩ := by
  cases step with
  | read held stage read =>
    obtain rfl | before := List.mem_cons.mp member
    · exact Or.inr ⟨_, held_mem held, _, rfl, stage, rfl⟩
    · exact Or.inl before
  | submitted | inserted | scheduled | abandoned | proceeded | ended | claimed | registered
  | progressed | removed | succeeded | failed | retained | pruned | retentionFailed
  | cancelRequested | cancelRead | cancelSignalled | cancelAbandoned | historyRead
  | historyWritten | shutdownBegun | shutdownDrained | drainTimedOut => exact Or.inl member

/-- An inserting submission was one before, or its identity was never used. -/
theorem inserted_origin (step : ManagerStep codec limits settings s event t)
    (member : id ∈ t.submissions.filterMap Submission.inserted) :
    id ∈ s.submissions.filterMap Submission.inserted ∨ id ∉ s.store.used := by
  have fewer : ∀ {submission : Submission} {others : List Submission},
      s.submissions.Perm (submission :: others) →
        id ∈ others.filterMap Submission.inserted →
          id ∈ s.submissions.filterMap Submission.inserted := by
    intro submission others held among
    exact (pending_ids held).mem_iff.mpr (List.mem_append_right _ among)
  cases step with
  | submitted scope request accepting healthy valid => exact Or.inl member
  | @inserted submission others answer unused now held asking fresh answered hosted =>
    cases answer with
    | created other =>
      cases create_created answered
      obtain rfl | among := List.mem_cons.mp member
      · exact Or.inr fresh
      · exact Or.inl (fewer held among)
    | replay other | conflict | full => exact Or.inl (fewer held member)
  | scheduled held answered read => exact Or.inl (fewer held member)
  | abandoned held => exact Or.inl (fewer held member)
  | proceeded | ended | claimed | registered | read | progressed | removed | succeeded | failed
  | retained | pruned | retentionFailed | cancelRequested | cancelRead | cancelSignalled
  | cancelAbandoned | historyRead | historyWritten | shutdownBegun | shutdownDrained
  | drainTimedOut => exact Or.inl member

/-- A worker that has made its call does not make it again. -/
theorem Moves.called {w w' : Worker} (moves : Moves settings s event w w') {token : Nat}
    (before : w.stage.called token = true) : w'.stage.called token = true := by
  have never : ∀ {stage : WorkerStage}, w.stage = stage → stage.called token = false →
      w'.stage.called token = true := by
    intro stage own uncalled
    rw [own, uncalled] at before
    cases before
  cases moves with
  | @proceeded w stage proceeds =>
    rw [Worker.moveTo_stage]
    generalize w.stage = earlier at proceeds before
    cases proceeds with
    | permitted | unread => cases before
    | returned result => exact before
    | @decided own result => cases result <;> rfl
    | unstored error => rfl
  | claimed now permitted won => exact never permitted rfl
  | registered stage => exact never stage rfl
  | read stage => exact never stage rfl
  | removed stage =>
    rw [stage] at before
    exact before
  | stored writing => rfl

theorem Moves.started {w w' : Worker} (moves : Moves settings s event w w')
    (after : w'.stage.unclaimed = false) :
    w.stage.unclaimed = false ∨ ∃ now, event = .claimed w now ∧
      (claim w.scope w.id now s.store.rows).1 = .ok true := by
  have engaged : ∀ {stage : WorkerStage}, w.stage = stage → stage.unclaimed = false →
      w.stage.unclaimed = false := fun own engaged => own ▸ engaged
  cases moves with
  | proceeded proceeds =>
    refine Or.inl (Bool.eq_false_iff.mpr fun unclaimed => ?_)
    rw [Worker.moveTo_stage, proceeds.unclaimed unclaimed] at after
    cases after
  | claimed now permitted won => exact Or.inr ⟨now, rfl, won⟩
  | registered stage => exact Or.inl (engaged stage rfl)
  | read stage => exact Or.inl (engaged stage rfl)
  | removed stage => exact Or.inl (engaged stage rfl)
  | stored writing =>
    obtain ⟨response, stage⟩ | ⟨status, error, stage⟩ := writing
    · exact Or.inl (engaged stage rfl)
    · exact Or.inl (engaged stage rfl)

theorem step_traced (managed : Managed s) (traced : Traced s)
    (step : ManagerStep codec limits settings s event t) : Traced t := by
  have leaves : ∀ {id : String}, Holding id (fun row => row.status ≠ .queued) s.store →
      Holding id (fun row => row.status ≠ .queued) t.store :=
    fun holding => managerStep_holding (fun _ _ _ _ step => step.leaves_queue) managed holding step
  have called : ∀ call ∈ t.calls, Holding call.id (fun row => row.status ≠ .queued) s.store := by
    intro call member
    obtain before | ⟨w, held, token, rfl, stage, rfl⟩ := call_origin step member
    · exact traced.called call before
    · exact traced.started w held (by rw [stage]; rfl)
  refine ⟨?_, fun call member => leaves (called call member), ?_, ?_⟩
  · intro w' member unclaimed
    obtain old | ⟨waiting, _⟩ | ⟨w, old, moves⟩ := worker_origin step member
    · exact leaves (traced.started w' old unclaimed)
    · rw [waiting] at unclaimed
      cases unclaimed
    · rw [moves.id]
      obtain before | ⟨now, rfl, won⟩ := moves.started unclaimed
      · exact leaves (traced.started w old before)
      · cases step with
        | claimed _ held stage answered =>
          have statement : Step codec s.store (.claimed w.scope w.id now) _ := .claimed _ _ now
          exact claim_claims managed.orderly won statement
  · intro call member w' present same
    obtain before | ⟨w, _, token, rfl, stage, rfl⟩ := call_origin step member
    · obtain old | ⟨_, pending⟩ | ⟨w, old, moves⟩ := worker_origin step present
      · exact traced.past call before w' old same
      · exact absurd (same ▸ pending) (traced.alone call before)
      · exact moves.called (traced.past call before w old (moves.id.symm.trans same))
    · -- The worker that has just called is the only one of its job.
      cases step with
      | read held own read =>
        obtain rfl | ⟨other, _⟩ := mem_moved held present
        · cases stage.symm.trans own
          simp [WorkerStage.called]
        · exact absurd same (managed.distinct held w' other)
  · intro call member pending
    obtain before | unused := inserted_origin step pending
    · obtain old | ⟨w, held, token, rfl, stage, rfl⟩ := call_origin step member
      · exact traced.alone call old before
      · have scheduled : w.id ∈ s.workers.map Worker.id := List.mem_map_of_mem held
        exact (List.nodup_append.mp managed.unique).2.2 w.id scheduled w.id before rfl
    · exact unused (called call member).1

/-! ## What the commit leaves in the store -/

theorem RowStep.stays_cancelled {results errors : String → Prop}
    (step : RowStep results errors row row') (cancelled : row.status = .cancelled) :
    row'.status = .cancelled := by
  have terminal : row.status.terminal = true := by rw [cancelled]; rfl
  exact (step.sameEnd terminal).status.trans cancelled

theorem RowStep.stays_requested {results errors : String → Prop}
    (step : RowStep results errors row row') (requested : row.cancelRequested = true) :
    row'.cancelRequested = true := by
  cases step with
  | cancelled | cancelNoted => rfl
  | idle | claimed | progressed | finished | interrupted | history => exact requested

/-- A committed cancellation ends a queued job and is noted on a running one. -/
theorem requestCancel_commits {store : StoreState} {now : Nat} (orderly : Orderly store)
    (answered : (requestCancel scope id now store.rows).1 = .ok ()) (member : row ∈ store.rows)
    (own : row.isJob scope id = true) :
    ∀ row' ∈ (requestCancel scope id now store.rows).2, row'.id = id →
      (row.status = .queued → row'.status = .cancelled) ∧
      (row.status = .running → row'.cancelRequested = true) := by
  have found : store.rows.find? (fun row => row.isJob scope id) = some row := by
    cases read : store.rows.find? (fun row => row.isJob scope id) with
    | none =>
      have missing := List.find?_eq_none.mp read row member
      exact absurd own missing
    | some other => exact congrArg some (Keyed.isJob orderly.keyed read member own).symm
  have chosen : ∀ row' ∈ store.rows, row'.id = id → row' = row := fun row' old same =>
    orderly.keyed.same old member (same.trans (isJob_iff.mp own).1.symm)
  unfold requestCancel checked at answered ⊢
  split at answered
  · cases answered
  intro row' new same
  dsimp only at new
  rw [found, Option.map_some] at new
  cases status : row.status with
  | queued =>
    rw [status] at new
    obtain ⟨old, skipped⟩ | ⟨_, _, _, rfl⟩ := mem_update.mp new
    · rw [chosen row' old same, own] at skipped
      cases skipped
    · exact ⟨fun _ => rfl, nofun⟩
  | running =>
    rw [status] at new
    obtain ⟨old, skipped⟩ | ⟨_, _, _, rfl⟩ := mem_update.mp new
    · rw [chosen row' old same, own] at skipped
      cases skipped
    · exact ⟨nofun, fun _ => rfl⟩
  | succeeded | failed | cancelled | interrupted => exact ⟨nofun, nofun⟩

theorem get_cancelRequested {rows : List JobRow} {job : ImageJob}
    (read : get codec scope id rows = .ok job) :
    ∃ row ∈ rows, row.id = id ∧ job.cancelRequested = row.cancelRequested := by
  unfold get at read
  obtain ⟨_, _, read⟩ := Outcome.bind_ok.mp read
  split at read
  · cases read
  · rename_i row found
    obtain ⟨_, _, read⟩ := Outcome.bind_ok.mp read
    obtain ⟨_, _, read⟩ := Outcome.bind_ok.mp read
    obtain ⟨_, _, read⟩ := Outcome.bind_ok.mp read
    obtain ⟨_, _, read⟩ := Outcome.bind_ok.mp read
    cases read
    have chosen := List.find?_some found
    exact ⟨row, List.mem_of_find?_eq_some found, (of_decide_eq_true chosen).1, rfl⟩

theorem cancelled_stays {token : Nat} (cancelled : token ∈ s.cancelled)
    (step : ManagerStep codec limits settings s event t) : token ∈ t.cancelled := by
  cases step with
  | read held stage read =>
    dsimp only
    split
    · exact List.mem_cons_of_mem _ cancelled
    · exact cancelled
  | cancelSignalled held confirmed => exact List.mem_append_right _ cancelled
  | drainTimedOut shutdown => exact List.mem_append_right _ cancelled
  | submitted | inserted | scheduled | abandoned | proceeded | ended | claimed | registered
  | progressed | removed | succeeded | failed | retained | pruned | retentionFailed
  | cancelRequested | cancelRead | cancelAbandoned | historyRead | historyWritten
  | shutdownBegun | shutdownDrained => exact cancelled

/-! ## A job cancelled in the queue -/

/-- A job is over, and no worker of it has claimed or called. -/
structure NeverRun (id : String) (s : JobManager) : Prop where
  cancelled : Holding id (fun row => row.status = .cancelled) s.store
  unclaimed : ∀ w ∈ s.workers, w.id = id → w.stage.unclaimed = true
  uncalled : ∀ call ∈ s.calls, call.id ≠ id

theorem step_neverRun (managed : Managed s) (never : NeverRun id s)
    (step : ManagerStep codec limits settings s event t) : NeverRun id t := by
  refine ⟨managerStep_holding (fun _ _ _ _ step => step.stays_cancelled) managed never.cancelled
    step, fun w' member own => ?_, fun call member own => ?_⟩
  · by_contra claimed
    have started : w'.stage.unclaimed = false := by simpa using claimed
    obtain old | ⟨waiting, _⟩ | ⟨w, old, moves⟩ := worker_origin step member
    · exact claimed (never.unclaimed w' old own)
    · rw [waiting] at started
      cases started
    · have same := moves.id.symm.trans own
      obtain before | ⟨now, rfl, won⟩ := moves.started started
      · rw [never.unclaimed w old same] at before
        cases before
      · obtain ⟨⟨row, present, chosen⟩, _⟩ := claim_ok won
        obtain ⟨⟨rowId, _⟩, queued, _⟩ := claimable_iff.mp chosen
        have ended := never.cancelled.2 row present (rowId.trans same)
        rw [ended] at queued
        cases queued
  · obtain old | ⟨w, held, token, rfl, stage, rfl⟩ := call_origin step member
    · exact never.uncalled call old own
    · have waits := never.unclaimed w held own
      rw [stage] at waits
      cases waits

/-! ## A token in the active map -/

namespace WorkerStage

/-- The stages after the registration, with one token until the call. -/
def bound (token : Nat) : WorkerStage → Bool
  | .waiting | .permitted | .claimed => false
  | .registered own => own == token
  | _ => true

end WorkerStage

/-- The token of a job is cancelled, and no call of the job gets another. -/
structure Signalled (id : String) (token : Nat) (s : JobManager) : Prop where
  used : id ∈ s.store.used
  alone : id ∉ s.submissions.filterMap Submission.inserted
  workers : ∀ w ∈ s.workers, w.id = id → w.stage.bound token = true
  calls : ∀ call ∈ s.calls, call.id = id → call.token = token
  cancelled : token ∈ s.cancelled

theorem Moves.bound {w w' : Worker} (moves : Moves settings s event w w') {token : Nat}
    (before : w.stage.bound token = true) : w'.stage.bound token = true := by
  have never : ∀ {stage : WorkerStage}, w.stage = stage → stage.bound token = false →
      w'.stage.bound token = true := by
    intro stage own unbound
    rw [own, unbound] at before
    cases before
  cases moves with
  | @proceeded w stage proceeds =>
    rw [Worker.moveTo_stage]
    generalize w.stage = earlier at proceeds before
    cases proceeds with
    | permitted => cases before
    | unread | returned | unstored => rfl
    | @decided own result => cases result <;> rfl
  | claimed now permitted won => exact never permitted rfl
  | registered stage => exact never stage rfl
  | read | removed | stored => rfl

theorem step_used_ids (step : ManagerStep codec limits settings s event t)
    (used : id ∈ s.store.used) : id ∈ t.store.used := by
  obtain same | ⟨statement, taken⟩ := managerStep_store step
  · rwa [same]
  · exact step_used taken id used

theorem step_signalled {token : Nat} (signalled : Signalled id token s)
    (step : ManagerStep codec limits settings s event t) : Signalled id token t := by
  refine ⟨step_used_ids step signalled.used, fun pending => ?_, fun w' member own => ?_,
    fun call member own => ?_, cancelled_stays signalled.cancelled step⟩
  · obtain before | unused := inserted_origin step pending
    · exact signalled.alone before
    · exact unused signalled.used
  · obtain old | ⟨_, pending⟩ | ⟨w, old, moves⟩ := worker_origin step member
    · exact signalled.workers w' old own
    · exact absurd (own ▸ pending) signalled.alone
    · exact moves.bound (signalled.workers w old (moves.id.symm.trans own))
  · obtain old | ⟨w, held, token', rfl, stage, rfl⟩ := call_origin step member
    · exact signalled.calls call old own
    · have bound := signalled.workers w held own
      rw [stage] at bound
      simpa [WorkerStage.bound] using bound

/-- A look-up that finds the job signals the token its call has or will have. -/
theorem lookup_signals (managed : Managed s) (tracked : Tracked s.workers s.active)
    (traced : Traced s) {call : CancelCall} (found : call.key ∈ s.active)
    (step : ManagerStep codec limits settings s (.cancelSignalled call) t) :
    ∃ token, Signalled call.id token t := by
  obtain ⟨token, listed⟩ := Option.isSome_iff_exists.mp (AList.lookup_isSome.mpr found)
  obtain ⟨w, member, own, active⟩ := tracked.held call.key token listed
  have id : w.id = call.id := (Prod.mk.inj own).2
  have scheduled : call.id ∈ s.workers.map Worker.id := id ▸ List.mem_map_of_mem member
  have unique := List.nodup_append.mp managed.unique
  have only : ∀ w' ∈ s.workers, w'.id = call.id → w' = w := fun w' present same =>
    List.inj_on_of_nodup_map unique.1 present member (same.trans id.symm)
  cases step with
  | cancelSignalled held confirmed =>
    refine ⟨token, managed.known _ (List.mem_append_left _ scheduled), ?_, ?_, ?_, ?_⟩
    · exact fun pending => unique.2.2 call.id scheduled call.id pending rfl
    · intro w' present same
      rw [only w' present same]
      cases stage : w.stage <;> simp_all [WorkerStage.activeToken, WorkerStage.bound]
    · intro made among same
      have called := traced.past made among w member (id.trans same.symm)
      cases stage : w.stage <;> simp_all [WorkerStage.activeToken, WorkerStage.called]
    · simp [listed]

/-! ## Runs -/

/-- What holds in every reachable state of a manager. -/
structure Reached (s : JobManager) : Prop where
  managed : Managed s
  tracked : Tracked s.workers s.active
  traced : Traced s

theorem step_reached (reached : Reached s) (step : ManagerStep codec limits settings s event t) :
    Reached t :=
  ⟨step_managed reached.managed step, step_tracked reached.managed reached.tracked step,
    step_traced reached.managed reached.traced step⟩

theorem run_reached (reached : Reached s)
    (run : Run (ManagerStep codec limits settings) Unrestricted s t) : Reached t :=
  run.invariant reached fun _ _ _ _ reached step _ => step_reached reached step

theorem opened_reached (opened : Opened settings origin) : Reached origin := by
  obtain ⟨_, _, active, _, calls, _⟩ := opened.idle
  have waiting : ∀ w ∈ origin.workers, w.stage = .waiting := by
    intro w member
    rw [opened.workers] at member
    obtain ⟨job, _, rfl⟩ := List.mem_map.mp member
    rfl
  refine ⟨opened.managed, ⟨?_, ?_⟩, ⟨?_, ?_, ?_, ?_⟩⟩
  · intro w member token own
    rw [waiting w member] at own
    cases own
  · intro key token found
    rw [active, AList.lookup_empty] at found
    cases found
  · intro w member started
    rw [waiting w member] at started
    cases started
  all_goals
    intro call member
    rw [calls] at member
    cases member

section Commit

variable {now : Nat}

theorem run_neverRun (reached : Reached s) (never : NeverRun id s)
    (run : Run (ManagerStep codec limits settings) Unrestricted s t) : NeverRun id t := by
  apply run.invariant never
  intro s event t before never step _
  exact step_neverRun (run_reached reached before).managed never step

theorem run_signalled {token : Nat} (signalled : Signalled id token s)
    (run : Run (ManagerStep codec limits settings) Unrestricted s t) : Signalled id token t :=
  run.invariant signalled fun _ _ _ _ signalled step _ => step_signalled signalled step

/-- Calls of the job that are made from now on get a cancelled token. -/
def LateCancelled (id : String) (calls : List RuntimeCall) (s : JobManager) : Prop :=
  ∀ call ∈ s.calls, call.id = id → call ∉ calls → call.token ∈ s.cancelled

/-- A worker that reads the job after the commit finds it. -/
theorem step_lateCancelled {calls : List RuntimeCall}
    (requested : Holding id (fun row => row.cancelRequested = true) s.store)
    (late : LateCancelled id calls s) (step : ManagerStep codec limits settings s event t) :
    LateCancelled id calls t := by
  intro call member own fresh
  obtain old | ⟨w, _, token, rfl, stage, rfl⟩ := call_origin step member
  · exact cancelled_stays (late call old own fresh) step
  · cases step with
    | read held registered read =>
      cases stage.symm.trans registered
      obtain ⟨row, present, rowId, reads⟩ := get_cancelRequested read
      rw [requested.2 row present (rowId.trans own)] at reads
      rw [reads]
      exact List.mem_cons_self ..

theorem run_lateCancelled {calls : List RuntimeCall} (reached : Reached s)
    (requested : Holding id (fun row => row.cancelRequested = true) s.store)
    (late : LateCancelled id calls s)
    (run : Run (ManagerStep codec limits settings) Unrestricted s t) : LateCancelled id calls t := by
  apply run.invariant late
  intro s event t before late step _
  exact step_lateCancelled (managerRun_holding (fun _ _ _ _ step => step.stays_requested)
    reached.managed requested before) late step

/-- A cancellation that commits while its job is queued ends it: the job is never claimed
and never called. One that commits while the job runs reaches the token of its provider
call if the worker reads the job after the commit, or if a look-up in the active map
still finds it. -/
theorem cancellations_arrive (earlier : Run (Step codec) Unrestricted .empty left)
    (opened : openManager settings recoveredAt prunedAt left = .ok origin)
    (run : Run (ManagerStep codec limits settings) Unrestricted origin s)
    (commit : ManagerStep codec limits settings s (.cancelRequested scope id now) s')
    (member : row ∈ s.store.rows) (own : row.isJob scope id = true) :
    (row.status = .queued → ∀ t, Run (ManagerStep codec limits settings) Unrestricted s' t →
      (∀ row' ∈ t.store.rows, row'.id = id → row'.status = .cancelled) ∧
      (∀ w ∈ t.workers, w.id = id → w.stage.unclaimed = true) ∧ ∀ call ∈ t.calls, call.id ≠ id) ∧
    (row.status = .running → ∀ t, Run (ManagerStep codec limits settings) Unrestricted s' t →
      ∀ call ∈ t.calls, call.id = id → call ∉ s.calls → call.token ∈ t.cancelled) ∧
    ∀ u cancel u' t, Run (ManagerStep codec limits settings) Unrestricted s' u →
      cancel.key = (scope, id) → cancel.key ∈ u.active →
      ManagerStep codec limits settings u (.cancelSignalled cancel) u' →
      Run (ManagerStep codec limits settings) Unrestricted u' t →
      ∀ call ∈ t.calls, call.id = id → call.token ∈ t.cancelled := by
  have reached := run_reached (opened_reached (openManager_opened earlier opened)) run
  have after := step_reached reached commit
  have rowId := (isJob_iff.mp own).1
  have known : id ∈ s.store.used := rowId ▸ reached.managed.orderly.known row member
  refine ⟨fun queued t later => ?_, fun running t later => ?_, ?_⟩
  · have never : NeverRun id s' := by
      have started : Holding id (fun row => row.status ≠ .queued) s.store → False :=
        fun holding => holding.2 row member rowId queued
      cases commit with
      | cancelRequested _ _ _ answered =>
        refine ⟨⟨known, fun row' new same => ?_⟩, fun w present same => ?_, fun call made same => ?_⟩
        · exact (requestCancel_commits reached.managed.orderly answered member own row' new same).1
            queued
        · by_contra claimed
          exact started (same ▸ reached.traced.started w present (by simpa using claimed))
        · exact started (same ▸ reached.traced.called call made)
    have ended := run_neverRun after never later
    exact ⟨ended.cancelled.2, ended.unclaimed, ended.uncalled⟩
  · have requested : Holding id (fun row => row.cancelRequested = true) s'.store := by
      cases commit with
      | cancelRequested _ _ _ answered =>
        refine ⟨known, fun row' new same => ?_⟩
        exact (requestCancel_commits reached.managed.orderly answered member own row' new same).2
          running
    have start : LateCancelled id s.calls s' := by
      cases commit with
      | cancelRequested _ _ _ answered => exact fun call made _ fresh => absurd made fresh
    exact run_lateCancelled after requested start later
  · intro u cancel u' t before key found signal later call made same
    have there := run_reached after before
    obtain ⟨token, signalled⟩ :=
      lookup_signals there.managed there.tracked there.traced found signal
    rw [(Prod.mk.inj key).2] at signalled
    have final := run_signalled signalled later
    rw [final.calls call made same]
    exact final.cancelled

end Commit

/-! ## A look-up that comes too late -/

/-- The row of the running request after the commit. -/
def requestedRow : JobRow := { startedRow with cancelRequested := true, updated := 31 }

theorem cancels_started : requestCancel "operator" "job-1" 31 [startedRow]
    = (.ok (), [requestedRow]) := by
  rfl

/-- The manager whose worker is in the provider call, after the commit. -/
def kiteRequested : JobManager :=
  { kiteExecuting with
    store := ⟨[requestedRow], ["job-1"], []⟩
    cancels := [⟨"operator", "job-1", false⟩] }

theorem kite_requested : ManagerStep kiteCodec .default narrow kiteExecuting
    (.cancelRequested "operator" "job-1" 31) kiteRequested := by
  have answered : (requestCancel "operator" "job-1" 31 [startedRow]).1 = .ok () :=
    congrArg Prod.fst cancels_started
  have step : ManagerStep kiteCodec .default narrow kiteExecuting
      (.cancelRequested "operator" "job-1" 31) _ := .cancelRequested _ _ _ answered
  exact step

def confirmedCancel : CancelCall := ⟨"operator", "job-1", true⟩

theorem requested_reads :
    ∃ job, get kiteCodec "operator" "job-1" [requestedRow] = .ok job ∧
      job.cancelRequested = true :=
  reads_kite rfl rfl rfl rfl (by decide)

/-- The call ends and leaves the map between the commit and the look-up: the cancellation
returns, and the token was never cancelled. -/
theorem late_lookup_misses : openManager narrow 20 20 kiteQueued = .ok kiteManager ∧
    ∃ s s' t, Run (ManagerStep kiteCodec .default narrow) Unrestricted kiteManager s ∧
      ManagerStep kiteCodec .default narrow s (.cancelRequested "operator" "job-1" 31) s' ∧
      (∃ row ∈ s.store.rows, row.isJob "operator" "job-1" = true ∧ row.status = .running) ∧
      ("operator", "job-1") ∈ s.active ∧
      Run (ManagerStep kiteCodec .default narrow) Unrestricted s' t ∧
      t.cancels = [] ∧ t.active.keys = [] ∧
      ∃ call ∈ t.calls, call.id = "job-1" ∧ call.token ∉ t.cancelled := by
  obtain ⟨job, read, _⟩ := requested_reads
  have returned : ManagerStep kiteCodec .default narrow kiteRequested
      (.proceeded (kiteWorker (.executing 0)) (.returned 0 (.ok Idempotency.plainResponse))) _ :=
    .proceeded _ (.refl _) (.returned _)
  have removed : ManagerStep kiteCodec .default narrow
      { kiteRequested with workers := [kiteWorker (.returned 0 (.ok Idempotency.plainResponse))] }
      (.removed (kiteWorker (.returned 0 (.ok Idempotency.plainResponse)))) _ :=
    .removed (.refl _) rfl
  have confirmed : ManagerStep kiteCodec .default narrow
      { kiteRequested with
        workers := [kiteWorker (.removed 0 (.ok Idempotency.plainResponse))]
        active := kiteRequested.active.erase ("operator", "job-1") }
      (.cancelRead ⟨"operator", "job-1", false⟩) _ := .cancelRead (.refl _) rfl read
  have signalled : ManagerStep kiteCodec .default narrow
      { kiteRequested with
        workers := [kiteWorker (.removed 0 (.ok Idempotency.plainResponse))]
        active := kiteRequested.active.erase ("operator", "job-1")
        cancels := [confirmedCancel] }
      (.cancelSignalled confirmedCancel) _ := .cancelSignalled (.refl _) rfl
  have run := (((Run.start.then returned).then removed).then confirmed).then signalled
  refine ⟨opens_kite, kiteExecuting, kiteRequested, _, reaches_kiteExecuting, kite_requested,
    ⟨startedRow, List.mem_singleton_self _, rfl, rfl⟩, by decide, run, rfl, by decide, ?_⟩
  exact ⟨_, List.mem_singleton_self _, rfl, by decide⟩

/-- A look-up while the call runs cancels its token. -/
theorem running_kite_cancelled : ∃ t, Run (ManagerStep kiteCodec .default narrow) Unrestricted
      kiteRequested t ∧ t.cancels = [] ∧ ∃ call ∈ t.calls, call.token ∈ t.cancelled := by
  obtain ⟨job, read, _⟩ := requested_reads
  have confirmed : ManagerStep kiteCodec .default narrow kiteRequested
      (.cancelRead ⟨"operator", "job-1", false⟩) { kiteRequested with cancels := [confirmedCancel] } :=
    .cancelRead (.refl _) rfl read
  have signalled : ManagerStep kiteCodec .default narrow
      { kiteRequested with cancels := [confirmedCancel] } (.cancelSignalled confirmedCancel) _ :=
    .cancelSignalled (.refl _) rfl
  have before := Run.start.then confirmed
  obtain ⟨_, _, arrives⟩ := cancellations_arrive reaches_kiteQueued opens_kite
    reaches_kiteExecuting kite_requested (List.mem_singleton_self startedRow) rfl
  refine ⟨_, before.then signalled, rfl, ⟨"operator", "job-1", 0⟩, List.mem_singleton_self _, ?_⟩
  exact arrives _ confirmedCancel _ _ before rfl (by decide) signalled .start _
    (List.mem_singleton_self _) rfl

end ImagegenBridge.Jobs
