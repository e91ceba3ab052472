import ImagegenBridge.Jobs.Scheduling
import ImagegenBridge.Jobs.Workers
import ImagegenBridge.Runtime.IdempotencyAccounting

/-!
# Shutting down

A shutdown cancels its token and waits until the active map is empty. The map covers
a worker from its registration to its removal, not from its claim to its durable write.
-/

namespace ImagegenBridge.Jobs

open Table Text
open Transition (Run Unrestricted)

variable {codec : Codec} {limits : RequestLimits} {settings : JobSettings}
  {s t origin : JobManager} {event : ManagerEvent} {left : StoreState}
  {recoveredAt prunedAt : Nat} {row row' : JobRow}

/-- One of the workers has claimed a job and has not stored its end. -/
abbrev Engaged : List Worker → JobRow → Prop := Attended WorkerStage.engaged

/-- A job is running. -/
def Running (s : JobManager) (scope id : String) : Prop :=
  ∃ row ∈ s.store.rows, row.isJob scope id = true ∧ row.status = .running

/-- No worker of a queued job stands between its permit and its claim when the shutdown
begins, and none takes a permit after; the map is found empty while no worker stands
between its claim and its registration, or between its removal and its durable write;
and no worker ends with its job unwritten. -/
def DrainsAll (s : JobManager) : ManagerEvent → Prop
  | .shutdownBegun => ∀ w ∈ s.workers, w.stage = .permitted → ¬Queued s w.scope w.id
  | .proceeded w .permitted => s.shutdown = true → ¬Queued s w.scope w.id
  | .shutdownDrained => ∀ w ∈ s.workers, w.stage.engaged = true → w.stage.activeToken ≠ none
  | .ended w => w.stage.engaged = true → ¬Running s w.scope w.id
  | _ => True

/-- Every running job has a worker that will store its end. -/
def Worked (s : JobManager) : Prop :=
  ∀ row ∈ s.store.rows, row.status = .running → Engaged s.workers row

theorem Proceeds.engaged {stage stage' : WorkerStage} (proceeds : Proceeds settings s stage stage')
    (before : stage.engaged = true) : stage'.engaged = true := by
  cases proceeds with
  | permitted room => cases before
  | unread | returned | unstored => rfl
  | @decided token result => cases result <;> rfl

theorem won_queued {w : Worker} {now : Nat}
    (won : (claim w.scope w.id now s.store.rows).1 = .ok true) : Queued s w.scope w.id := by
  obtain ⟨⟨row, member, chosen⟩, _⟩ := claim_ok won
  obtain ⟨own, queued, _⟩ := claimable_iff.mp chosen
  exact ⟨row, member, isJob_iff.mpr own, queued⟩

/-- Only a claim engages a worker. -/
theorem Proceeds.engages {stage stage' : WorkerStage} (proceeds : Proceeds settings s stage stage')
    (after : stage'.engaged = true) : stage.engaged = true := by
  cases proceeds with
  | permitted room => cases after
  | unread | returned | decided | unstored => rfl

theorem RanBefore.engaged {rows : List JobRow} {workers : List Worker}
    (ran : RanBefore rows row') (worked : ∀ row ∈ rows, row.status = .running → Engaged workers row) :
    Engaged workers row' := by
  obtain ⟨row, old, running, same⟩ := ran
  have engaged := worked row old running
  simpa only [Attended, same.id, same.authScope] using engaged

theorem step_worked (managed : Managed s) (worked : Worked s)
    (step : ManagerStep codec limits settings s event t) (drains : DrainsAll s event) :
    Worked t := by
  intro row new running
  have other : ∀ {w : Worker} {stage : WorkerStage}, w.stage = stage → stage.engaged = false →
      w.stage.engaged = true → w.key ≠ (row.authScope, row.id) := by
    intro w stage own idle engaged
    rw [own, idle] at engaged
    cases engaged
  cases step with
  | @scheduled submission others answer job held answered read =>
    have engaged := worked row new running
    dsimp only
    cases submission.inserted with
    | none => exact engaged
    | some id => exact engaged.added
  | inserted id now held asking fresh answered hosted => exact (create_ran new running).engaged worked
  | proceeded stage held proceeds => exact (worked row new running).moved held proceeds.engaged
  | ended held ends =>
    refine (worked row new running).kept held fun engaged own => ?_
    obtain ⟨scope, id⟩ := Prod.mk.inj own
    exact drains engaged ⟨row, new, isJob_iff.mpr ⟨id.symm, scope.symm⟩, running⟩
  | @claimed w others won now held stage answered =>
    obtain ran | ⟨rfl, own⟩ := claim_ran managed.orderly answered new running
    · have kept := (ran.engaged worked).kept held (other stage rfl)
      cases won with
      | true => exact kept.added
      | false => exact kept
    · exact ⟨w.moveTo .claimed, List.mem_cons_self .., own.symm, rfl⟩
  | registered held stage => exact (worked row new running).moved held fun _ => rfl
  | read held stage read => exact (worked row new running).moved held fun _ => rfl
  | progressed stage partialImages now held executing fits =>
    exact (progress_ran new running).engaged worked
  | removed held stage => exact (worked row new running).moved held fun _ => rfl
  | succeeded now held stage stored =>
    obtain ⟨ran, differs⟩ := succeed_ran stored new running
    exact ((ran.engaged worked).kept held fun _ own => differs own.symm).added
  | failed now held stage stored =>
    obtain ⟨ran, differs⟩ := fail_ran stored new running
    exact ((ran.engaged worked).kept held fun _ own => differs own.symm).added
  | retained held stage => exact (worked row new running).kept held (other stage rfl)
  | pruned now answered => exact worked row (prune_subset row new) running
  | cancelRequested scope id now answered => exact (requestCancel_ran new running).engaged worked
  | historyWritten pending => exact (writeHistory_ran new running).engaged worked
  | submitted | abandoned | retentionFailed | cancelRead | cancelSignalled | cancelAbandoned
  | historyRead | shutdownBegun | shutdownDrained | drainTimedOut => exact worked row new running

/-- Once a worker's job has left the queue, it does not come back. -/
theorem unqueued_stays (managed : Managed s) (step : ManagerStep codec limits settings s event t)
    {w : Worker} (member : w ∈ t.workers) (unqueued : ¬Queued s w.scope w.id) :
    ¬Queued t w.scope w.id := by
  rintro ⟨row', new, chosen, queued⟩
  obtain ⟨id, scope⟩ := isJob_iff.mp chosen
  obtain ⟨row, old, before, sameId, sameScope⟩ | inserting := queued_origin managed step new queued
  · exact unqueued ⟨row, old, isJob_iff.mpr ⟨sameId.symm.trans id, sameScope.symm.trans scope⟩,
      before⟩
  · have unique := (step_managed managed step).unique
    have scheduled : w.id ∈ t.workers.map Worker.id := List.mem_map_of_mem member
    have pending := inserting.known
    rw [id] at pending
    exact (List.nodup_append.mp unique).2.2 w.id scheduled w.id pending rfl

/-- After the shutdown has begun, a worker that has its permit has lost its job. -/
def Stopped (s : JobManager) : Prop :=
  s.shutdown = true → ∀ w ∈ s.workers, w.stage = .permitted → ¬Queued s w.scope w.id

/-- After the shutdown has returned in time, no worker is at work. -/
structure Drained (s : JobManager) : Prop where
  begun : s.drained = true → s.shutdown = true
  idle : s.drained = true → ∀ w ∈ s.workers, w.stage.engaged = false

theorem shutdown_origin (step : ManagerStep codec limits settings s event t)
    (begun : t.shutdown = true) : s.shutdown = true ∨ event = .shutdownBegun := by
  cases step <;> first | exact Or.inl begun | exact Or.inr rfl

theorem step_stopped (managed : Managed s) (stopped : Stopped s)
    (step : ManagerStep codec limits settings s event t) (drains : DrainsAll s event) :
    Stopped t := by
  intro begun w member permitted
  apply unqueued_stays managed step member
  obtain before | rfl := shutdown_origin step begun
  · obtain old | waiting | ⟨w', old, moves⟩ := worker_origin step member
    · exact stopped before w old permitted
    · rw [waiting.1] at permitted
      cases permitted
    · cases moves with
      | @proceeded _ stage proceeds =>
        have own : stage = .permitted := permitted
        subst own
        exact drains before
      | claimed | registered | read | removed | stored => cases permitted
  · cases step with
    | shutdownBegun => exact drains w member permitted

theorem drained_origin (step : ManagerStep codec limits settings s event t)
    (drained : t.drained = true) : s.drained = true ∨ event = .shutdownDrained := by
  cases step <;> first | exact Or.inl drained | exact Or.inr rfl

/-- An empty map has no token of a worker. -/
theorem Tracked.empty {workers : List Worker} {active : AList fun _ : String × String => Nat}
    (tracked : Tracked workers active) (empty : active.keys = []) {w : Worker}
    (member : w ∈ workers) : w.stage.activeToken = none := by
  cases own : w.stage.activeToken with
  | none => rfl
  | some token =>
    have present : w.key ∈ active.keys := by
      rw [← AList.mem_keys, ← AList.lookup_isSome, tracked.listed w member token own]
      rfl
    rw [empty] at present
    cases present

theorem step_drained (tracked : Tracked s.workers s.active) (stopped : Stopped s)
    (drained : Drained s) (step : ManagerStep codec limits settings s event t)
    (drains : DrainsAll s event) : Drained t := by
  have shutdown : s.shutdown = true → t.shutdown = true := by
    intro begun
    cases step <;> first | exact begun | rfl
  constructor
  · intro returned
    obtain before | rfl := drained_origin step returned
    · exact shutdown (drained.begun before)
    · cases step with
      | shutdownDrained begun empty => exact begun
  · intro returned w member
    by_contra working
    have engaged : w.stage.engaged = true := by simpa using working
    obtain before | rfl := drained_origin step returned
    · have idle : ∀ w' ∈ s.workers, w'.stage.engaged = true → False := by
        intro w' old engaged
        rw [drained.idle before w' old] at engaged
        cases engaged
      obtain old | waiting | ⟨w', old, moves⟩ := worker_origin step member
      · exact idle w old engaged
      · rw [waiting.1] at engaged
        cases engaged
      · have busy : ∀ {stage : WorkerStage}, w'.stage = stage → stage.engaged = true → False :=
          fun own engaged => idle w' old (own ▸ engaged)
        cases moves with
        | proceeded proceeds => exact idle w' old (proceeds.engages engaged)
        | claimed now permitted won =>
          exact stopped (drained.begun before) w' old permitted (won_queued won)
        | registered stage => exact busy stage rfl
        | read stage => exact busy stage rfl
        | removed stage => exact busy stage rfl
        | stored writing => cases engaged
    · cases step with
      | shutdownDrained begun empty =>
        exact drains w member engaged (tracked.empty empty member)

/-- What holds along every run whose shutdown drains all workers. -/
structure Quiet (s : JobManager) : Prop where
  managed : Managed s
  tracked : Tracked s.workers s.active
  worked : Worked s
  stopped : Stopped s
  drained : Drained s

theorem opened_quiet (opened : Opened settings origin) : Quiet origin := by
  obtain ⟨shutdown, drained, active, _⟩ := opened.idle
  have waiting : ∀ w ∈ origin.workers, w.stage = .waiting := by
    intro w member
    rw [opened.workers] at member
    obtain ⟨job, _, rfl⟩ := List.mem_map.mp member
    rfl
  refine ⟨opened.managed, ⟨?_, ?_⟩, ?_, ?_, ⟨?_, ?_⟩⟩
  · intro w member token own
    rw [waiting w member] at own
    cases own
  · intro key token found
    rw [active, AList.lookup_empty] at found
    cases found
  · exact fun row member running => absurd running (opened.interrupted row member)
  · intro own
    rw [shutdown] at own
    cases own
  · intro own
    rw [drained] at own
    cases own
  · intro own
    rw [drained] at own
    cases own

theorem run_quiet (opened : Opened settings origin)
    (run : Run (ManagerStep codec limits settings) DrainsAll origin s) : Quiet s := by
  apply run.invariant (opened_quiet opened)
  intro s event t _ quiet step drains
  exact ⟨step_managed quiet.managed step, step_tracked quiet.managed quiet.tracked step,
    step_worked quiet.managed quiet.worked step drains,
    step_stopped quiet.managed quiet.stopped step drains,
    step_drained quiet.tracked quiet.stopped quiet.drained step drains⟩

/-- Over every run whose shutdown finds no worker in a gap, no queued job is claimed after
the shutdown has begun, and no job is running once it has returned: every provider call
that has finished is written. -/
theorem shutdown_loses_nothing (earlier : Run (Step codec) Unrestricted .empty left)
    (opened : openManager settings recoveredAt prunedAt left = .ok origin)
    (run : Run (ManagerStep codec limits settings) DrainsAll origin s) :
    (s.shutdown = true → ∀ w now t, ManagerStep codec limits settings s (.claimed w now) t →
      (claim w.scope w.id now s.store.rows).1 ≠ .ok true) ∧
    (s.drained = true → (∀ row ∈ s.store.rows, row.status ≠ .running) ∧
      ∀ w ∈ s.workers, w.stage.engaged = false) := by
  have quiet := run_quiet (openManager_opened earlier opened) run
  constructor
  · intro shutdown w now t step won
    cases step with
    | claimed _ held stage answered =>
      exact quiet.stopped shutdown w (held_mem held) stage (won_queued won)
  · intro drained
    refine ⟨fun row member running => ?_, quiet.drained.idle drained⟩
    obtain ⟨w, present, _, engaged⟩ := quiet.worked row member running
    rw [quiet.drained.idle drained w present] at engaged
    cases engaged

/-- A manager without work shuts down: nothing runs. -/
theorem idle_shutdown : ∃ s, Run (ManagerStep kiteCodec .default narrow) DrainsAll kiteManager s ∧
    s.drained = true ∧ ∀ row ∈ s.store.rows, row.status ≠ .running := by
  have begun : Run (ManagerStep kiteCodec .default narrow) DrainsAll kiteManager
      { kiteManager with shutdown := true } := by
    apply Run.start.next .shutdownBegun
    intro w member
    cases List.mem_singleton.mp member
    exact nofun
  have drained : Run (ManagerStep kiteCodec .default narrow) DrainsAll kiteManager
      { kiteManager with shutdown := true, drained := true } := by
    apply begun.next (.shutdownDrained rfl rfl)
    intro w member
    cases List.mem_singleton.mp member
    exact nofun
  exact ⟨_, drained, rfl, ((shutdown_loses_nothing reaches_kiteQueued opens_kite drained).2 rfl).1⟩

/-- The worker of `kiteManager` takes its permit and claims after the shutdown has begun. -/
theorem claims_after_shutdown : ∃ s w now t,
    Run (ManagerStep kiteCodec .default narrow) Unrestricted kiteManager s ∧ s.shutdown = true ∧
    ManagerStep kiteCodec .default narrow s (.claimed w now) t ∧
    (claim w.scope w.id now s.store.rows).1 = .ok true := by
  have won : (claim "operator" "job-1" 30 [kiteRow "job-1" 10]).1 = .ok true :=
    congrArg Prod.fst claims_kite
  have begun : Run (ManagerStep kiteCodec .default narrow) Unrestricted kiteManager
      { kiteManager with shutdown := true } := Run.start.then .shutdownBegun
  have permitted : ManagerStep kiteCodec .default narrow { kiteManager with shutdown := true }
      (.proceeded (kiteWorker .waiting) .permitted) { kitePermitted with shutdown := true } :=
    .proceeded .permitted (.refl [kiteWorker .waiting]) (.permitted (by decide))
  have claimed : ManagerStep kiteCodec .default narrow { kitePermitted with shutdown := true }
      (.claimed (kiteWorker .permitted) 30) _ := .claimed 30 (.refl _) rfl won
  exact ⟨_, _, _, _, begun.then permitted, rfl, claimed, won⟩

/-- The provider call has finished and the worker is out of the map: the shutdown returns,
and the job is running with nothing written. -/
theorem result_unwritten : ∃ s, Run (ManagerStep kiteCodec .default narrow) Unrestricted kiteManager s ∧
    s.drained = true ∧ (∃ w ∈ s.workers, w.stage = .removed 0 (.ok Idempotency.plainResponse)) ∧
    ∃ row ∈ s.store.rows, row.status = .running ∧ row.response = none := by
  have returned : ManagerStep kiteCodec .default narrow kiteExecuting
      (.proceeded (kiteWorker (.executing 0)) (.returned 0 (.ok Idempotency.plainResponse))) _ :=
    .proceeded _ (.refl _) (.returned _)
  have removed : ManagerStep kiteCodec .default narrow
      { kiteExecuting with workers := [kiteWorker (.returned 0 (.ok Idempotency.plainResponse))] }
      (.removed (kiteWorker (.returned 0 (.ok Idempotency.plainResponse)))) _ :=
    .removed (.refl _) rfl
  have run := ((reaches_kiteExecuting.then returned).then removed).then .shutdownBegun
  have empty : (kiteExecuting.active.erase ("operator", "job-1")).keys = [] := by decide
  exact ⟨_, run.then (.shutdownDrained rfl empty), rfl, ⟨_, List.mem_cons_self .., rfl⟩,
    startedRow, List.mem_singleton_self _, rfl, rfl⟩

/-- A shutdown neither stops every claim nor waits for every result. -/
theorem shutdown_loses_work : openManager narrow 20 20 kiteQueued = .ok kiteManager ∧
    (∃ s w now t, Run (ManagerStep kiteCodec .default narrow) Unrestricted kiteManager s ∧
      s.shutdown = true ∧ ManagerStep kiteCodec .default narrow s (.claimed w now) t ∧
      (claim w.scope w.id now s.store.rows).1 = .ok true) ∧
    ∃ s, Run (ManagerStep kiteCodec .default narrow) Unrestricted kiteManager s ∧
      s.drained = true ∧ ∃ row ∈ s.store.rows, row.status = .running := by
  obtain ⟨s, run, drained, _, row, member, running, _⟩ := result_unwritten
  exact ⟨opens_kite, claims_after_shutdown, s, run, drained, row, member, running⟩

end ImagegenBridge.Jobs
