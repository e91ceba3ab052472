import ImagegenBridge.Jobs.ManagerSteps

/-!
# Workers, the active map and the store

The active map holds the token of every worker between its registration and its
removal. A running job has a worker that has claimed it and has not stored its end.
-/

namespace ImagegenBridge.Jobs

open Table Text
open Transition (Run Unrestricted)

variable {codec : Codec} {limits : RequestLimits} {settings : JobSettings}
  {s t origin : JobManager} {event : ManagerEvent} {store store' : StoreState}
  {row row' : JobRow} {w : Worker} {others : List Worker}

/-- No other worker has the job of a worker. -/
theorem Managed.distinct (managed : Managed s) (held : s.workers.Perm (w :: others)) :
    ∀ other ∈ others, other.id ≠ w.id := by
  have unique : (w.id :: others.map Worker.id).Nodup :=
    (held.map Worker.id).nodup_iff.mp (List.nodup_append.mp managed.unique).1
  intro other member same
  exact (List.nodup_cons.mp unique).1 (same ▸ List.mem_map_of_mem member)

theorem Managed.distinct_key (managed : Managed s) (held : s.workers.Perm (w :: others)) :
    ∀ other ∈ others, other.key ≠ w.key :=
  fun other member same => managed.distinct held other member (Prod.mk.inj same).2

theorem mem_moved {stage : WorkerStage} {workers : List Worker} (held : workers.Perm (w :: others))
    {worker : Worker} (member : worker ∈ w.moveTo stage :: others) :
    worker = w.moveTo stage ∨ worker ∈ others ∧ worker ∈ workers := by
  obtain own | other := List.mem_cons.mp member
  · exact Or.inl own
  · exact Or.inr ⟨other, held.mem_iff.mpr (List.mem_cons_of_mem _ other)⟩

theorem held_mem {workers : List Worker} (held : workers.Perm (w :: others)) : w ∈ workers :=
  held.mem_iff.mpr (List.mem_cons_self ..)

theorem other_mem {workers : List Worker} (held : workers.Perm (w :: others)) {worker : Worker}
    (member : worker ∈ others) : worker ∈ workers :=
  held.mem_iff.mpr (List.mem_cons_of_mem _ member)

/-! ## Moves of a worker -/

/-- How one worker moves. -/
inductive Moves (settings : JobSettings) (s : JobManager) :
    ManagerEvent → Worker → Worker → Prop
  | proceeded {w : Worker} {stage : WorkerStage} (proceeds : Proceeds settings s w.stage stage) :
      Moves settings s (.proceeded w stage) w (w.moveTo stage)
  | claimed {w : Worker} (now : Nat) (permitted : w.stage = .permitted)
      (won : (claim w.scope w.id now s.store.rows).1 = .ok true) :
      Moves settings s (.claimed w now) w (w.moveTo .claimed)
  | registered {w : Worker} (stage : w.stage = .claimed) :
      Moves settings s (.registered w) w (w.moveTo (.registered s.tokens))
  | read {w : Worker} {token : Nat} (stage : w.stage = .registered token) :
      Moves settings s (.read w) w (w.moveTo (.executing token))
  | removed {w : Worker} {token : Nat} {result : Execution}
      (stage : w.stage = .returned token result) :
      Moves settings s (.removed w) w (w.moveTo (.removed token result))
  | stored {event : ManagerEvent} {w : Worker}
      (writing : (∃ response, w.stage = .succeeding response) ∨
        ∃ status error, w.stage = .failing status error) :
      Moves settings s event w (w.moveTo .settled)

/-- A worker was there, was just scheduled, or has moved. -/
theorem worker_origin (step : ManagerStep codec limits settings s event t) {w' : Worker}
    (member : w' ∈ t.workers) : w' ∈ s.workers ∨
      (w'.stage = .waiting ∧ w'.id ∈ s.submissions.filterMap Submission.inserted) ∨
      ∃ w ∈ s.workers, Moves settings s event w w' := by
  have moved : ∀ {w : Worker} {others : List Worker} {stage : WorkerStage},
      s.workers.Perm (w :: others) → w' ∈ w.moveTo stage :: others →
        Moves settings s event w (w.moveTo stage) → w' ∈ s.workers ∨
          (w'.stage = .waiting ∧ w'.id ∈ s.submissions.filterMap Submission.inserted) ∨
          ∃ w ∈ s.workers, Moves settings s event w w' := by
    intro w others stage held member moves
    obtain rfl | ⟨_, before⟩ := mem_moved held member
    · exact Or.inr (Or.inr ⟨w, held_mem held, moves⟩)
    · exact Or.inl before
  cases step with
  | @scheduled submission others answer job held answered read =>
    dsimp only at member
    cases inserted : submission.inserted with
    | none =>
      rw [inserted] at member
      exact Or.inl member
    | some id =>
      rw [inserted] at member
      obtain rfl | before := List.mem_cons.mp member
      · have present : submission ∈ s.submissions := held.mem_iff.mpr (List.mem_cons_self ..)
        exact Or.inr (Or.inl ⟨rfl, List.mem_filterMap.mpr ⟨submission, present, inserted⟩⟩)
      · exact Or.inl before
  | proceeded stage held proceeds => exact moved held member (.proceeded proceeds)
  | ended held ends => exact Or.inl (other_mem held member)
  | @claimed w others won now held stage answered =>
    cases won with
    | true => exact moved held member (.claimed now stage answered)
    | false => exact Or.inl (other_mem held member)
  | registered held stage => exact moved held member (.registered stage)
  | read held stage read => exact moved held member (.read stage)
  | removed held stage => exact moved held member (.removed stage)
  | succeeded now held stage stored => exact moved held member (.stored (Or.inl ⟨_, stage⟩))
  | failed now held stage stored => exact moved held member (.stored (Or.inr ⟨_, _, stage⟩))
  | retained held stage => exact Or.inl (other_mem held member)
  | submitted | inserted | abandoned | progressed | pruned | retentionFailed | cancelRequested
  | cancelRead | cancelSignalled | cancelAbandoned | historyRead | historyWritten
  | shutdownBegun | shutdownDrained | drainTimedOut => exact Or.inl member

theorem Moves.id {w w' : Worker} (moves : Moves settings s event w w') : w'.id = w.id := by
  cases moves <;> rfl

/-! ## The active map -/

/-- The active map lists the tokens of the registered workers, and no others. -/
structure Tracked (workers : List Worker) (active : AList fun _ : String × String => Nat) :
    Prop where
  listed : ∀ w ∈ workers, ∀ token, w.stage.activeToken = some token →
    active.lookup w.key = some token
  held : ∀ key token, active.lookup key = some token →
    ∃ w ∈ workers, w.key = key ∧ w.stage.activeToken = some token

section Tracking

variable {workers : List Worker} {active : AList fun _ : String × String => Nat}

theorem Tracked.moved (tracked : Tracked workers active) (held : workers.Perm (w :: others))
    {stage : WorkerStage} (same : stage.activeToken = w.stage.activeToken) :
    Tracked (w.moveTo stage :: others) active := by
  constructor
  · intro worker member token active
    obtain rfl | ⟨_, before⟩ := mem_moved held member
    · exact tracked.listed w (held_mem held) token (same.symm.trans active)
    · exact tracked.listed worker before token active
  · intro key token found
    obtain ⟨worker, member, own, active⟩ := tracked.held key token found
    obtain rfl | other := List.mem_cons.mp (held.mem_iff.mp member)
    · exact ⟨worker.moveTo stage, List.mem_cons_self .., own, same.trans active⟩
    · exact ⟨worker, List.mem_cons_of_mem _ other, own, active⟩

theorem Tracked.dropped (tracked : Tracked workers active) (held : workers.Perm (w :: others))
    (inactive : w.stage.activeToken = none) : Tracked others active := by
  constructor
  · exact fun worker member => tracked.listed worker (other_mem held member)
  · intro key token found
    obtain ⟨worker, member, own, active⟩ := tracked.held key token found
    obtain rfl | other := List.mem_cons.mp (held.mem_iff.mp member)
    · rw [inactive] at active
      cases active
    · exact ⟨worker, other, own, active⟩

theorem Tracked.added (tracked : Tracked workers active) (inactive : w.stage.activeToken = none) :
    Tracked (w :: workers) active := by
  constructor
  · intro worker member token active
    obtain rfl | before := List.mem_cons.mp member
    · rw [inactive] at active
      cases active
    · exact tracked.listed worker before token active
  · intro key token found
    obtain ⟨worker, member, own⟩ := tracked.held key token found
    exact ⟨worker, List.mem_cons_of_mem _ member, own⟩

theorem Tracked.inserted (tracked : Tracked workers active) (held : workers.Perm (w :: others))
    (distinct : ∀ other ∈ others, other.key ≠ w.key) {token : Nat} :
    Tracked (w.moveTo (.registered token) :: others) (active.insert w.key token) := by
  constructor
  · intro worker member token' own
    obtain rfl | ⟨other, before⟩ := mem_moved held member
    · cases own
      exact AList.lookup_insert ..
    · rw [AList.lookup_insert_ne (distinct worker other)]
      exact tracked.listed worker before token' own
  · intro key token' found
    by_cases same : key = w.key
    · rw [same, AList.lookup_insert] at found
      cases found
      exact ⟨w.moveTo (.registered token), List.mem_cons_self .., same.symm, rfl⟩
    · rw [AList.lookup_insert_ne same] at found
      obtain ⟨worker, member, own, active⟩ := tracked.held key token' found
      obtain rfl | other := List.mem_cons.mp (held.mem_iff.mp member)
      · exact absurd own.symm same
      · exact ⟨worker, List.mem_cons_of_mem _ other, own, active⟩

theorem Tracked.erased (tracked : Tracked workers active) (held : workers.Perm (w :: others))
    (distinct : ∀ other ∈ others, other.key ≠ w.key) {stage : WorkerStage}
    (inactive : stage.activeToken = none) :
    Tracked (w.moveTo stage :: others) (active.erase w.key) := by
  constructor
  · intro worker member token own
    obtain rfl | ⟨other, before⟩ := mem_moved held member
    · rw [Worker.moveTo_stage, inactive] at own
      cases own
    · rw [AList.lookup_erase_ne (distinct worker other)]
      exact tracked.listed worker before token own
  · intro key token found
    have other : key ≠ w.key := by
      intro same
      rw [same, AList.lookup_erase] at found
      cases found
    rw [AList.lookup_erase_ne other] at found
    obtain ⟨worker, member, own, active⟩ := tracked.held key token found
    obtain rfl | rest := List.mem_cons.mp (held.mem_iff.mp member)
    · exact absurd own.symm other
    · exact ⟨worker, List.mem_cons_of_mem _ rest, own, active⟩

end Tracking

theorem Proceeds.activeToken {stage stage' : WorkerStage}
    (proceeds : Proceeds settings s stage stage') : stage'.activeToken = stage.activeToken := by
  cases proceeds with
  | permitted | unread | returned | unstored => rfl
  | @decided token result => cases result <;> rfl

theorem Ends.inactive {stage : WorkerStage} (ends : Ends s stage) : stage.activeToken = none := by
  cases ends <;> rfl

theorem step_tracked (managed : Managed s) (tracked : Tracked s.workers s.active)
    (step : ManagerStep codec limits settings s event t) : Tracked t.workers t.active := by
  cases step with
  | @scheduled submission others answer job held answered read =>
    dsimp only
    cases submission.inserted with
    | none => exact tracked
    | some id => exact tracked.added rfl
  | proceeded stage held proceeds => exact tracked.moved held proceeds.activeToken
  | ended held ends => exact tracked.dropped held ends.inactive
  | @claimed w others won now held stage answered =>
    cases won with
    | true => exact tracked.moved held (by rw [stage]; rfl)
    | false => exact tracked.dropped held (by rw [stage]; rfl)
  | registered held stage => exact tracked.inserted held (managed.distinct_key held)
  | read held stage read => exact tracked.moved held (by rw [stage]; rfl)
  | removed held stage => exact tracked.erased held (managed.distinct_key held) rfl
  | succeeded now held stage stored => exact tracked.moved held (by rw [stage]; rfl)
  | failed now held stage stored => exact tracked.moved held (by rw [stage]; rfl)
  | retained held stage => exact tracked.dropped held (by rw [stage]; rfl)
  | submitted | inserted | abandoned | progressed | pruned | retentionFailed | cancelRequested
  | cancelRead | cancelSignalled | cancelAbandoned | historyRead | historyWritten
  | shutdownBegun | shutdownDrained | drainTimedOut => exact tracked

/-! ## Running jobs -/

section Running

variable {chosen : JobRow → Bool} {set : JobRow → JobRow} {rows : List JobRow} {scope id : String}
  {now : Nat}

/-- A job that runs has run before. -/
def RanBefore (rows : List JobRow) (row' : JobRow) : Prop :=
  ∃ row ∈ rows, row.status = .running ∧ SameJob row row'

theorem SameJob.refl (row : JobRow) : SameJob row row := ⟨rfl, rfl, rfl, rfl, rfl, rfl, rfl⟩

/-- An update that starts nothing. -/
theorem update_ran (new : row' ∈ update chosen set rows) (running : row'.status = .running)
    (job : ∀ row, SameJob row (set row))
    (sets : ∀ row, (set row).status = .running → row.status = .running) : RanBefore rows row' := by
  obtain ⟨old, _⟩ | ⟨row, old, chooses, rfl⟩ := mem_update.mp new
  · exact ⟨row', old, running, .refl _⟩
  · exact ⟨row, old, sets row running, job row⟩

theorem progress_ran {stage : String} {partialImages : Nat}
    (new : row' ∈ (progress scope id stage partialImages now rows).2)
    (running : row'.status = .running) : RanBefore rows row' := by
  unfold progress checked at new
  split at new
  · exact ⟨row', new, running, .refl _⟩
  · exact update_ran new running (fun _ => ⟨rfl, rfl, rfl, rfl, rfl, rfl, rfl⟩) fun _ own => own

theorem requestCancel_ran (new : row' ∈ (requestCancel scope id now rows).2)
    (running : row'.status = .running) : RanBefore rows row' := by
  unfold requestCancel checked at new
  split at new
  · exact ⟨row', new, running, .refl _⟩
  dsimp only at new
  split at new
  · exact ⟨row', new, running, .refl _⟩
  · exact update_ran new running (fun _ => ⟨rfl, rfl, rfl, rfl, rfl, rfl, rfl⟩) fun _ => nofun
  · exact update_ran new running (fun _ => ⟨rfl, rfl, rfl, rfl, rfl, rfl, rfl⟩) fun _ own => own
  · exact ⟨row', new, running, .refl _⟩

theorem writeHistory_ran {request : HistoryUpdate} (new : row' ∈ (writeHistory request rows).2)
    (running : row'.status = .running) : RanBefore rows row' :=
  update_ran new running (fun _ => ⟨rfl, rfl, rfl, rfl, rfl, rfl, rfl⟩) fun _ own => own

/-- A final statement that is answered ends the job it selects. -/
theorem finish_ran {status : ImageJobStatus} {response error : Option String}
    (terminal : status.terminal = true)
    (answered : (finish scope id status response error now rows).1 = .ok ())
    (new : row' ∈ (finish scope id status response error now rows).2)
    (running : row'.status = .running) :
    RanBefore rows row' ∧ (row'.authScope, row'.id) ≠ (scope, id) := by
  unfold finish checked at answered new
  split at new
  · rename_i e failed
    rw [failed] at answered
    cases answered
  obtain ⟨old, skipped⟩ | ⟨row, old, chooses, rfl⟩ := mem_update.mp new
  · refine ⟨⟨row', old, running, .refl _⟩, fun own => ?_⟩
    obtain ⟨rfl, rfl⟩ := Prod.mk.inj own
    have chosen : row'.runningJob row'.authScope row'.id = true :=
      runningJob_iff.mpr ⟨⟨rfl, rfl⟩, running⟩
    rw [chosen] at skipped
    cases skipped
  · dsimp only at running
    rw [running] at terminal
    cases terminal

theorem succeed_ran {response : ImageResponse}
    (answered : (succeed codec scope id response now rows).1 = .ok ())
    (new : row' ∈ (succeed codec scope id response now rows).2)
    (running : row'.status = .running) :
    RanBefore rows row' ∧ (row'.authScope, row'.id) ≠ (scope, id) := by
  unfold succeed at answered new
  dsimp only at answered new
  split at new
  · rename_i large
    rw [if_pos large] at answered
    cases answered
  · rename_i fits
    rw [if_neg fits] at answered
    exact finish_ran rfl answered new running

theorem fail_ran {status : ImageJobStatus} {error : SuggestedError}
    (answered : (fail scope id status error now rows).1 = .ok ())
    (new : row' ∈ (fail scope id status error now rows).2) (running : row'.status = .running) :
    RanBefore rows row' ∧ (row'.authScope, row'.id) ≠ (scope, id) := by
  unfold fail at answered new
  split at new
  · rename_i invalid
    rw [if_pos invalid] at answered
    cases answered
  · rename_i valid
    rw [if_neg valid] at answered
    exact finish_ran (failureStatus_terminal (by simpa using valid)) answered new running

/-- A job that runs after a claim ran before, or the claim was won and is of this job. -/
theorem claim_ran (orderly : Orderly store) {won : Bool}
    (answered : (claim scope id now store.rows).1 = .ok won)
    (new : row' ∈ (claim scope id now store.rows).2) (running : row'.status = .running) :
    RanBefore store.rows row' ∨ won = true ∧ (row'.authScope, row'.id) = (scope, id) := by
  unfold claim checked at answered new
  split at new
  · exact Or.inl ⟨row', new, running, .refl _⟩
  rename_i time passed
  obtain ⟨old, _⟩ | ⟨row, old, chooses, rfl⟩ := mem_update.mp new
  · exact Or.inl ⟨row', old, running, .refl _⟩
  · obtain ⟨⟨rfl, rfl⟩, _⟩ := claimable_iff.mp chooses
    have one : changed (·.claimable row.authScope row.id) store.rows = 1 :=
      orderly.keyed.changed_eq_one (fun other _ chosen => (claimable_iff.mp chosen).1.1) old
        chooses
    rw [passed] at answered
    dsimp only at answered
    rw [one] at answered
    exact Or.inr ⟨(Except.ok.inj answered).symm, rfl⟩

theorem create_ran {request : ImageRequest} {maxPending maxDatabaseBytes : Nat}
    (new : row' ∈ (create codec scope id request now maxPending maxDatabaseBytes rows).2)
    (running : row'.status = .running) : RanBefore rows row' := by
  obtain ⟨same, _⟩ | ⟨newBytes, _, _, inserted⟩ :=
    create_cases codec scope id request now maxPending maxDatabaseBytes rows
  · exact ⟨row', same ▸ new, running, .refl _⟩
  · rw [inserted] at new
    obtain old | added := List.mem_append.mp new
    · exact ⟨row', old, running, .refl _⟩
    · cases List.mem_singleton.mp added
      cases running

end Running

/-! ## One job at work -/

/-- The row of the claimed request. -/
def startedRow : JobRow := (kiteRow "job-1" 10).start 30

/-- The manager whose worker has won its claim. -/
def kiteClaimed : JobManager :=
  { kiteManager with
    store := ⟨[startedRow], ["job-1"], []⟩
    workers := [kiteWorker .claimed] }

/-- The manager whose worker is in the provider call. -/
def kiteExecuting : JobManager :=
  { kiteManager with
    store := ⟨[startedRow], ["job-1"], []⟩
    workers := [kiteWorker (.executing 0)]
    active := (∅ : AList fun _ : String × String => Nat).insert ("operator", "job-1") 0
    tokens := 1
    calls := [⟨"operator", "job-1", 0⟩] }

theorem claims_kite : claim "operator" "job-1" 30 [kiteRow "job-1" 10] = (.ok true, [startedRow]) := by
  rfl

/-- The stored request is read back. -/
theorem reads_kite {row : JobRow} (own : row.isJob "operator" "job-1" = true)
    (request : row.request = kiteText) (response : row.response = none)
    (error : row.error = none) (counted : row.partialImages < 2 ^ 32) :
    ∃ job, get kiteCodec "operator" "job-1" [row] = .ok job ∧
      job.cancelRequested = row.cancelRequested := by
  have scope : validateAuthScope "operator" = .ok () := by rfl
  have found : [row].find? (fun row => row.id = "job-1" ∧ row.authScope = "operator")
      = some row := by
    simpa using isJob_iff.mp own
  have decodes : decoded "stored job request is invalid" (kiteCodec.decodeRequest row.request)
      = .ok kite := by
    simp [request, kiteCodec, decoded]
  have count : ¬row.partialImages ≥ 2 ^ 32 := Nat.not_le.mpr counted
  unfold get
  rw [scope, found]
  refine ⟨_, Outcome.bind_ok.mpr ⟨(), rfl, Outcome.bind_ok.mpr ⟨(),
    (Outcome.failIf_ok ..).mpr count, Outcome.bind_ok.mpr ⟨_, decodes, Outcome.bind_ok.mpr
      ⟨none, by rw [response]; rfl, Outcome.bind_ok.mpr ⟨none, by rw [error]; rfl, rfl⟩⟩⟩⟩⟩, rfl⟩

/-- The worker has its permit. -/
def kitePermitted : JobManager := { kiteManager with workers := [kiteWorker .permitted] }

/-- The worker has registered. -/
def kiteRegistered : JobManager :=
  { kiteExecuting with workers := [kiteWorker (.registered 0)], calls := [] }

theorem kite_permitted : ManagerStep kiteCodec .default narrow kiteManager
    (.proceeded (kiteWorker .waiting) .permitted) kitePermitted :=
  .proceeded .permitted (.refl [kiteWorker .waiting]) (.permitted (by decide))

theorem kite_claimed : ManagerStep kiteCodec .default narrow kitePermitted
    (.claimed (kiteWorker .permitted) 30) kiteClaimed := by
  have won : (claim "operator" "job-1" 30 [kiteRow "job-1" 10]).1 = .ok true :=
    congrArg Prod.fst claims_kite
  have step : ManagerStep kiteCodec .default narrow kitePermitted
      (.claimed (kiteWorker .permitted) 30) _ := .claimed 30 (.refl _) rfl won
  exact step

theorem kite_registered : ManagerStep kiteCodec .default narrow kiteClaimed
    (.registered (kiteWorker .claimed)) kiteRegistered :=
  .registered (.refl _) rfl

theorem kite_executes : ManagerStep kiteCodec .default narrow kiteRegistered
    (.read (kiteWorker (.registered 0))) kiteExecuting := by
  have reads : ∃ job, get kiteCodec "operator" "job-1" [startedRow] = .ok job ∧
      job.cancelRequested = false := reads_kite rfl rfl rfl rfl (by decide)
  obtain ⟨job, read, uncancelled⟩ := reads
  have step : ManagerStep kiteCodec .default narrow kiteRegistered
      (.read (kiteWorker (.registered 0))) _ := .read (.refl _) rfl read
  rw [uncancelled] at step
  exact step

theorem reaches_kiteExecuting : Run (ManagerStep kiteCodec .default narrow) Unrestricted kiteManager
    kiteExecuting :=
  ((((Run.start.then kite_permitted).then kite_claimed).then kite_registered).then kite_executes)

end ImagegenBridge.Jobs
