import ImagegenBridge.Jobs.ManagerSteps

/-!
# Queued jobs and their workers

A job that is queued waits for its worker to claim it. A manager schedules the oldest
queued jobs when it opens, and one job for each submission that reads back what its
transaction has inserted.
-/

namespace ImagegenBridge.Jobs

open Table Text
open Transition (Run Unrestricted)

variable {codec : Codec} {limits : RequestLimits} {settings : JobSettings}
  {s t origin : JobManager} {event : ManagerEvent} {left store : StoreState}
  {recoveredAt prunedAt : Nat} {row row' : JobRow}

/-- One of the workers is going to claim a job. -/
abbrev Scheduled : List Worker → JobRow → Prop := Attended WorkerStage.unclaimed

/-- One of the submissions has inserted a job and has not returned. -/
def Submitting (submissions : List Submission) (row : JobRow) : Prop :=
  ∃ submission ∈ submissions, submission.scope = row.authScope ∧ submission.inserted = some row.id

/-- Every queued job has a worker, up to submissions that have not returned. -/
def Resumed (s : JobManager) : Prop :=
  ∀ row ∈ s.store.rows, row.status = .queued →
    Scheduled s.workers row ∨ Submitting s.submissions row

/-- A job is queued. -/
def Queued (s : JobManager) (scope id : String) : Prop :=
  ∃ row ∈ s.store.rows, row.isJob scope id = true ∧ row.status = .queued

/-- No submission or worker ends before a job that is queued and that only it would
schedule or claim. -/
def KeepsQueue (s : JobManager) : ManagerEvent → Prop
  | .abandoned submission =>
    ∀ id, submission.inserted = some id → ¬Queued s submission.scope id
  | .ended w => w.stage.unclaimed = true → ¬Queued s w.scope w.id
  | _ => True

/-! ## The lists of tasks -/

section Tasks

variable {submissions rest : List Submission} {submission : Submission}

theorem Submitting.kept (submitting : Submitting submissions row)
    (held : submissions.Perm (submission :: rest))
    (other : submission.scope = row.authScope → submission.inserted ≠ some row.id) :
    Submitting rest row := by
  obtain ⟨found, member, scope, inserted⟩ := submitting
  obtain rfl | member := List.mem_cons.mp (held.mem_iff.mp member)
  · exact absurd inserted (other scope)
  · exact ⟨found, member, scope, inserted⟩

theorem Submitting.grown (submitting : Submitting rest row) : Submitting (submission :: rest) row := by
  obtain ⟨found, member, own⟩ := submitting
  exact ⟨found, List.mem_cons_of_mem _ member, own⟩

theorem Submitting.known (submitting : Submitting s.submissions row) :
    row.id ∈ s.submissions.filterMap Submission.inserted := by
  obtain ⟨submission, member, _, inserted⟩ := submitting
  exact List.mem_filterMap.mpr ⟨submission, member, inserted⟩

end Tasks

/-- A claim that is answered takes a queued job. -/
theorem claim_takes (orderly : Orderly store) {scope id : String} {now : Nat} {won : Bool}
    (answered : (claim scope id now store.rows).1 = .ok won) (member : row ∈ store.rows)
    (own : row.isJob scope id = true) (queued : row.status = .queued) :
    won = true ∧ ∀ row' ∈ (claim scope id now store.rows).2, row'.id = row.id →
      row'.status ≠ .queued := by
  have claimable : row.claimable scope id = true :=
    claimable_iff.mpr ⟨isJob_iff.mp own, queued, (orderly.sane row member).uncancelled queued⟩
  have one : changed (·.claimable scope id) store.rows = 1 :=
    orderly.keyed.changed_eq_one (fun other _ chosen => (claimable_iff.mp chosen).1.1) member
      claimable
  unfold claim checked at answered ⊢
  cases check : (do validateAuthScope scope; toI64 now : Outcome Nat) with
  | error e =>
    rw [check] at answered
    cases answered
  | ok time =>
    rw [check] at answered
    dsimp only at answered ⊢
    rw [one] at answered
    refine ⟨(Except.ok.inj answered).symm, fun row' new same => ?_⟩
    obtain ⟨old, skipped⟩ | ⟨_, _, _, rfl⟩ := mem_update.mp new
    · rw [orderly.keyed.same old member same, claimable] at skipped
      cases skipped
    · exact nofun

theorem Advances.queued {status : ImageJobStatus} (advances : Advances status .queued) :
    status = .queued := by
  cases advances with
  | stays => rfl
  | ends terminal => cases terminal

/-- A queued job was queued before, or its submission has just inserted it. -/
theorem queued_origin (managed : Managed s) (step : ManagerStep codec limits settings s event t)
    (new : row' ∈ t.store.rows) (queued : row'.status = .queued) :
    (∃ row ∈ s.store.rows, row.status = .queued ∧ row'.id = row.id ∧
      row'.authScope = row.authScope) ∨ Submitting t.submissions row' := by
  have grown : (∃ row ∈ s.store.rows, row.status = .queued ∧ row'.id = row.id ∧
      row'.authScope = row.authScope) ∨ row'.id ∉ s.store.used := by
    obtain same | ⟨statement, taken⟩ := managerStep_store step
    · rw [same] at new
      exact Or.inl ⟨row', new, queued, rfl, rfl⟩
    · rcases (step_change managed.orderly taken).origin (fun row _ => .idle row) new with
        ⟨row, old, moved⟩ | admits
      · have advances := moved.advances
        rw [queued] at advances
        exact Or.inl ⟨row, old, advances.queued, moved.id, moved.sameJob.authScope⟩
      · exact Or.inr admits.fresh
  rcases grown with before | fresh
  · exact Or.inl before
  have known := (step_managed managed step).orderly.known row' new
  cases step with
  | @inserted submission others answer id now held asking unused answered hosted =>
    dsimp only at new
    rcases create_cases codec submission.scope id submission.request now settings.maxPending
      settings.maxDatabaseBytes s.store.rows with ⟨same, _⟩ | ⟨newBytes, _, _, created⟩
    · rw [same] at new
      exact absurd (managed.orderly.known row' new) fresh
    · rw [created] at answered new
      cases answered
      rcases List.mem_append.mp new with old | added
      · exact absurd (managed.orderly.known row' old) fresh
      · cases List.mem_singleton.mp added
        exact Or.inr ⟨_, List.mem_cons_self .., rfl, rfl⟩
  | submitted | scheduled | abandoned | proceeded | ended | claimed | registered | read
  | progressed | removed | succeeded | failed | retained | pruned | retentionFailed
  | cancelRequested | cancelRead | cancelSignalled | cancelAbandoned | historyRead
  | historyWritten | shutdownBegun | shutdownDrained | drainTimedOut => exact absurd known fresh

/-- What schedules or claims a job goes on to do so, as long as the job is queued. -/
theorem attendance_kept (managed : Managed s)
    (step : ManagerStep codec limits settings s event t) (keeps : KeepsQueue s event)
    (old : row ∈ s.store.rows) (queued : row.status = .queued)
    (attended : Scheduled s.workers row ∨ Submitting s.submissions row)
    (still : ∃ row' ∈ t.store.rows, row'.id = row.id ∧ row'.status = .queued) :
    Scheduled t.workers row ∨ Submitting t.submissions row := by
  have stays : ∀ {w : Worker} {others : List Worker} (stage : WorkerStage),
      s.workers.Perm (w :: others) → (w.stage.unclaimed = true → stage.unclaimed = true) →
        Scheduled (w.moveTo stage :: others) row ∨ Submitting s.submissions row :=
    fun stage held stays => attended.imp_left fun scheduled => scheduled.moved held stays
  have engaged : ∀ {w : Worker} {stage stage' : WorkerStage}, w.stage = stage →
      stage.unclaimed = false → w.stage.unclaimed = true → stage'.unclaimed = true := by
    intro w stage stage' own engaged unclaimed
    rw [own, engaged] at unclaimed
    cases unclaimed
  cases step with
  | submitted scope request accepting healthy valid => exact attended.imp_right Submitting.grown
  | inserted id now held asking fresh answered hosted =>
    refine attended.imp_right fun submitting => Submitting.grown (submitting.kept held ?_)
    intro _
    simp [Submission.inserted, asking]
  | @scheduled submission others answer job held answered read =>
    rcases attended with scheduled | submitting
    · apply Or.inl
      cases inserted : submission.inserted with
      | none => exact scheduled
      | some id =>
        exact scheduled.added
    · by_cases own : submission.scope = row.authScope ∧ submission.inserted = some row.id
      · apply Or.inl
        rw [own.2]
        exact ⟨_, List.mem_cons_self .., by rw [← own.1]; rfl, rfl⟩
      · exact Or.inr (submitting.kept held fun scope inserted => own ⟨scope, inserted⟩)
  | abandoned held =>
    refine attended.imp_right fun submitting => submitting.kept held fun scope inserted => ?_
    exact keeps row.id inserted ⟨row, old, isJob_iff.mpr ⟨rfl, scope.symm⟩, queued⟩
  | proceeded stage held proceeds => exact stays stage held proceeds.unclaimed
  | ended held ends =>
    refine attended.imp_left fun scheduled => scheduled.kept held fun unclaimed own => ?_
    obtain ⟨scope, id⟩ := Prod.mk.inj own
    exact keeps unclaimed ⟨row, old, isJob_iff.mpr ⟨id.symm, scope.symm⟩, queued⟩
  | @claimed w others won now held stage answered =>
    -- A claim of this job would have taken it from the queue.
    have other : w.key ≠ (row.authScope, row.id) := by
      intro own
      obtain ⟨scope, id⟩ := Prod.mk.inj own
      obtain ⟨_, taken⟩ := claim_takes managed.orderly answered old
        (isJob_iff.mpr ⟨id.symm, scope.symm⟩) queued
      obtain ⟨row', new, same, queues⟩ := still
      exact taken row' new same queues
    refine attended.imp_left fun scheduled => ?_
    have kept := scheduled.kept held fun _ => other
    cases won with
    | true => exact kept.added
    | false => exact kept
  | registered held stage => exact stays _ held (engaged stage rfl)
  | read held stage read => exact stays _ held (engaged stage rfl)
  | removed held stage => exact stays _ held (engaged stage rfl)
  | succeeded now held stage stored => exact stays _ held (engaged stage rfl)
  | failed now held stage stored => exact stays _ held (engaged stage rfl)
  | retained held stage =>
    refine attended.imp_left fun scheduled => scheduled.kept held fun unclaimed => ?_
    rw [stage] at unclaimed
    cases unclaimed
  | progressed | pruned | retentionFailed | cancelRequested | cancelRead | cancelSignalled
  | cancelAbandoned | historyRead | historyWritten | shutdownBegun | shutdownDrained
  | drainTimedOut => exact attended

theorem step_resumed (managed : Managed s) (resumed : Resumed s)
    (step : ManagerStep codec limits settings s event t) (keeps : KeepsQueue s event) :
    Resumed t := by
  intro row' new queued
  obtain ⟨row, old, before, id, scope⟩ | submitting := queued_origin managed step new queued
  · have attended := attendance_kept managed step keeps old before (resumed row old before)
      ⟨row', new, id, queued⟩
    simpa only [Attended, Submitting, id, scope] using attended
  · exact Or.inr submitting

/-- A step that drops what a queued job has leaves it without a worker. -/
theorem resumed_keeps (managed : Managed s) (step : ManagerStep codec limits settings s event t)
    (resumed : Resumed t) : KeepsQueue s event := by
  cases step with
  | @abandoned submission others held =>
    rintro id inserted ⟨row, old, chosen, queued⟩
    have unique := ((pending_ids held).append_left (s.workers.map Worker.id)).nodup_iff.mp
      managed.unique
    obtain ⟨rfl, _⟩ := isJob_iff.mp chosen
    rw [inserted, Option.toList_some, List.singleton_append] at unique
    obtain ⟨fresh, _⟩ := List.nodup_cons.mp (List.perm_middle.nodup_iff.mp unique)
    obtain scheduled | submitting := resumed row old queued
    · exact fresh (List.mem_append_left _ scheduled.known)
    · exact fresh (List.mem_append_right _ submitting.known)
  | @ended w others held ends =>
    rintro _ ⟨row, old, chosen, queued⟩
    have unique := ((held.map Worker.id).append_right
      (s.submissions.filterMap Submission.inserted)).nodup_iff.mp managed.unique
    obtain ⟨fresh, _⟩ := List.nodup_cons.mp unique
    obtain ⟨own, _⟩ := isJob_iff.mp chosen
    rw [← own] at fresh
    obtain scheduled | submitting := resumed row old queued
    · exact fresh (List.mem_append_left _ scheduled.known)
    · exact fresh (List.mem_append_right _ submitting.known)
  | submitted | inserted | scheduled | proceeded | claimed | registered | read | progressed
  | removed | succeeded | failed | retained | pruned | retentionFailed | cancelRequested
  | cancelRead | cancelSignalled | cancelAbandoned | historyRead | historyWritten
  | shutdownBegun | shutdownDrained | drainTimedOut => exact trivial

/-! ## Opening -/

theorem length_queuedIdentities_le (limit : Nat) (rows : List JobRow) :
    (queuedIdentities limit rows).length ≤ min limit i64Max := by
  unfold queuedIdentities
  rw [List.length_map, List.length_take]
  exact Nat.min_le_left ..

/-- Below the limit all queued jobs are listed. -/
theorem queuedIdentities_complete {limit : Nat} {rows : List JobRow}
    (few : (queuedRows rows).length ≤ min limit i64Max) (member : row ∈ rows)
    (queued : row.status = .queued) : (row.authScope, row.id) ∈ queuedIdentities limit rows := by
  have sorted : ((queuedRows rows).insertionSort olderFirst).length ≤ min limit i64Max := by
    rwa [List.length_insertionSort]
  have present : row ∈ (queuedRows rows).insertionSort olderFirst := by
    rw [List.mem_insertionSort]
    exact List.mem_filter.mpr ⟨member, decide_eq_true queued⟩
  unfold queuedRows at sorted present
  unfold queuedIdentities
  rw [List.take_of_length_le sorted]
  exact List.mem_map_of_mem (f := fun row => (row.authScope, row.id)) present

theorem opened_resumed (opened : Opened settings origin) : Resumed origin ↔
    (queuedRows origin.store.rows).length ≤ min settings.maxPending i64Max := by
  obtain ⟨_, _, _, _, _, submissions, _⟩ := opened.idle
  constructor
  · intro resumed
    have listed : (queuedRows origin.store.rows).map JobRow.id ⊆
        (queuedIdentities settings.maxPending origin.store.rows).map Prod.snd := by
      intro id member
      obtain ⟨row, queued, rfl⟩ := List.mem_map.mp member
      obtain ⟨old, status⟩ := List.mem_filter.mp queued
      obtain ⟨w, present, own, _⟩ | ⟨_, none, _⟩ := resumed row old (of_decide_eq_true status)
      · rw [opened.workers] at present
        obtain ⟨job, among, rfl⟩ := List.mem_map.mp present
        exact (Prod.mk.inj own).2 ▸ List.mem_map_of_mem among
      · rw [submissions] at none
        cases none
    have unique : ((queuedRows origin.store.rows).map JobRow.id).Nodup :=
      opened.managed.orderly.keyed.sublist (List.filter_sublist.map _)
    have fewer := (unique.subperm listed).length_le
    rw [List.length_map, List.length_map] at fewer
    exact Nat.le_trans fewer (length_queuedIdentities_le ..)
  · intro few row member queued
    refine Or.inl ⟨⟨row.authScope, row.id, .waiting⟩, ?_, rfl, rfl⟩
    rw [opened.workers]
    exact List.mem_map.mpr ⟨_, queuedIdentities_complete few member queued, rfl⟩

/-- Recovery leaves the queue. -/
theorem recoverInterrupted_queued (now : Nat) (rows : List JobRow) :
    queuedRows (recoverInterrupted now rows).2 = queuedRows rows := by
  unfold recoverInterrupted checked
  split
  · rfl
  · dsimp only
    induction rows with
    | nil => rfl
    | cons first rest ih =>
      unfold update queuedRows at ih ⊢
      rw [List.map_cons, List.filter_cons, List.filter_cons, ih]
      cases status : first.status <;> simp [status]

theorem kept_excess {rows retained : List JobRow} {maximum maximumBytes : Nat}
    (keyed : Keyed JobRow.id rows) (member : row ∈ rows) (kept : row.prunable = false)
    (within : ∀ other ∈ retained, other ∈ rows ∧ other.prunable = true) :
    row.id ∉ excess maximum maximumBytes 0 0 retained := by
  intro gone
  obtain ⟨other, among, same⟩ := mem_excess gone
  obtain ⟨present, prunable⟩ := within other among
  rw [keyed.same present member same, kept] at prunable
  cases prunable

/-- Retention leaves the queue. -/
theorem prune_queued {now retentionSecs maxRetained maxRetainedBytes : Nat} {rows : List JobRow}
    (keyed : Keyed JobRow.id rows) :
    queuedRows (prune now retentionSecs maxRetained maxRetainedBytes rows).2 = queuedRows rows := by
  unfold prune checked
  split
  · rfl
  · dsimp only
    split
    · rfl
    · dsimp only [queuedRows]
      rw [List.filter_filter, List.filter_filter]
      refine List.filter_congr fun row member => ?_
      cases queued : decide (row.status = .queued) with
      | false => rfl
      | true =>
        have kept : row.prunable = false := by
          simp [JobRow.prunable, of_decide_eq_true queued, ImageJobStatus.terminal]
        rw [List.contains_eq_mem, decide_eq_false (kept_excess keyed member kept ?_)]
        · simp [kept]
        · intro other among
          rw [List.mem_insertionSort, List.mem_filter, List.mem_filter] at among
          exact ⟨among.1.1, among.2⟩

/-- An opening leaves the queue. -/
theorem openManager_queued (earlier : Run (Step codec) Unrestricted .empty left)
    (opened : openManager settings recoveredAt prunedAt left = .ok origin) :
    queuedRows origin.store.rows = queuedRows left.rows := by
  have recovered := recoverInterrupted_queued recoveredAt left.rows
  have keyed : Keyed JobRow.id (recoverInterrupted recoveredAt left.rows).2 := by
    have step : Step codec left (.recovered recoveredAt)
      { left with rows := (recoverInterrupted recoveredAt left.rows).2 } := .recovered recoveredAt
    exact (step_orderly (run_orderly earlier) step).keyed
  unfold openManager at opened
  split at opened
  · cases opened
  rename_i interrupted rows recovers
  rw [recovers] at recovered keyed
  have pruned : queuedRows (prune prunedAt settings.retentionSecs settings.maxRetained
    settings.maxRetainedBytes rows).2 = queuedRows rows := prune_queued keyed
  split at opened
  · cases opened
  rename_i deleted kept prunes
  rw [prunes] at pruned
  cases opened
  exact pruned.trans recovered

/-- Every queued job has a worker after the opening exactly if the queue that was left
fits the limit of this process. It stays so over every run that drops no submission and
no worker of a queued job, and over no other. -/
theorem queued_jobs_resume (earlier : Run (Step codec) Unrestricted .empty left)
    (opened : openManager settings recoveredAt prunedAt left = .ok origin) :
    (Resumed origin ↔ (queuedRows left.rows).length ≤ min settings.maxPending i64Max) ∧
    ((queuedRows left.rows).length ≤ min settings.maxPending i64Max →
      ∀ s, Run (ManagerStep codec limits settings) KeepsQueue origin s → Resumed s) ∧
    ∀ s event t, Run (ManagerStep codec limits settings) Unrestricted origin s → Resumed s →
      ManagerStep codec limits settings s event t → (Resumed t ↔ KeepsQueue s event) := by
  have start := openManager_opened earlier opened
  have managed : ∀ {condition s}, Run (ManagerStep codec limits settings) condition origin s →
      Managed s :=
    fun run => run.invariant start.managed fun _ _ _ _ managed step _ => step_managed managed step
  have first : Resumed origin ↔
      (queuedRows left.rows).length ≤ min settings.maxPending i64Max := by
    rw [← openManager_queued earlier opened]
    exact opened_resumed start
  refine ⟨first, fun few s run => ?_, fun s event t run resumed step => ⟨?_, ?_⟩⟩
  · apply run.invariant (first.mpr few)
    intro s event t run resumed step keeps
    exact step_resumed (managed run) resumed step keeps
  · exact resumed_keeps (managed run) step
  · exact step_resumed (managed run) resumed step

/-! ## Two jobs and a queue of one -/

/-- The row of the request without a key. -/
def unkeyedRow : JobRow :=
  { kiteRow "job-2" 11 with submissionKeyHash := none, requestFingerprint := none }

/-- Two jobs wait, as a process with room for both has left them. -/
def twoQueued : StoreState := ⟨[kiteRow "job-1" 10, unkeyedRow], ["job-2", "job-1"], []⟩

theorem unkeyed_newJob : newJob kiteCodec "operator" "job-2" kite 11 = unkeyedRow := by
  have persisted : persistedRequest kite = kite := rfl
  have key : kite.idempotencyKey = none := rfl
  have lower : kiteCodec.toLowercase kite.prompt = "a red kite" := lowercase_spelled rfl rfl
  simp only [newJob, unkeyedRow, kiteRow, persisted, key, lower, Option.map_none]
  simp [kiteCodec]

theorem recordBytes_unkeyed {row : JobRow} {a b c d : Nat} (identity : len row.id = a)
    (owner : len row.authScope = b) (request : len row.request = c)
    (prompt : len row.promptSearch = d) (key : row.submissionKeyHash = none)
    (fingerprint : row.requestFingerprint = none) : row.recordBytes = a + b + c + d := by
  rw [JobRow.recordBytes, identity, owner, request, prompt, key, fingerprint]
  rfl

theorem unkeyed_recordBytes : unkeyedRow.recordBytes = 626 :=
  (recordBytes_unkeyed (len_spelled rfl) (len_spelled rfl) len_kiteText (len_spelled rfl) rfl
    rfl).trans rfl

theorem unkeyed_checks : checkSubmission kiteCodec "operator" "job-2" kite 11 = .ok 262898 := by
  have unsaturated : 262898 ≤ Idempotency.usizeMax ∧ 262898 ≤ i64Max := by decide
  have bytes : logicalNewJobBytes (newJob kiteCodec "operator" "job-2" kite 11) = .ok 262898 := by
    have sum : 626 + activeResultReserveBytes + rowOverheadBytes = 262898 := by decide
    rw [unkeyed_newJob, logicalNewJobBytes, unkeyed_recordBytes, sum,
      Nat.min_eq_left unsaturated.1, if_pos unsaturated.2]
  have scope : validateAuthScope "operator" = .ok () := by rfl
  exact Outcome.bind_ok.mpr ⟨(), scope, Outcome.bind_ok.mpr ⟨(), rfl,
    Outcome.bind_ok.mpr ⟨11, rfl, bytes⟩⟩⟩

theorem submits_second : Step kiteCodec kiteQueued
    (.created "operator" "job-2" kite 11 2 (2 ^ 30)) twoQueued := by
  have charged : logicalBytes [kiteRow "job-1" 10] = 263026 := by
    have short : len "job-1" = 5 := len_spelled rfl
    have active : (kiteRow "job-1" 10).status.terminal = false := rfl
    have single : ∀ row : JobRow, logicalBytes [row] = row.logicalBytes := fun row => by
      simp [logicalBytes, total]
    rw [single, JobRow.logicalBytes, kite_recordBytes, short, active]
    rfl
  have room : Room unkeyedRow 262898 2 (2 ^ 30) [kiteRow "job-1" 10] := by
    refine ⟨rfl, by decide, ?_, ?_, ?_⟩
    · rw [charged]
      decide
    · rw [charged]
      decide
    · intro other member
      cases List.mem_singleton.mp member
      decide
  rw [← unkeyed_newJob] at room
  have inserted := create_room unkeyed_checks room
  rw [unkeyed_newJob] at inserted
  have hosted : WithinLimits [kiteRow "job-1" 10, unkeyedRow] := by
    have identity : len "job-1" = 5 := len_spelled rfl
    have first : (kiteRow "job-1" 10).recordBytes = 754 := by rw [kite_recordBytes, identity]
    have bytes : total JobRow.recordBytes [kiteRow "job-1" 10, unkeyedRow] = 1380 := by
      rw [total, List.map_cons, first, List.map_cons, unkeyed_recordBytes]
      rfl
    refine ⟨by simp, ?_⟩
    rw [bytes]
    decide
  have rows : (create kiteCodec "operator" "job-2" kite 11 2 (2 ^ 30) kiteQueued.rows).2
      = [kiteRow "job-1" 10, unkeyedRow] := congrArg Prod.snd inserted
  have created : Step kiteCodec kiteQueued (.created "operator" "job-2" kite 11 2 (2 ^ 30)) _ :=
    .created "operator" "job-2" kite 11 2 (2 ^ 30) (by decide) fun other chosen => by
      rw [rows]
      exact hosted
  rwa [rows] at created

theorem reaches_twoQueued : Run (Step kiteCodec) Unrestricted .empty twoQueued :=
  reaches_kiteQueued.then submits_second

/-- The manager of the narrow process: one job has a worker. -/
def narrowManager : JobManager := { kiteManager with store := twoQueued }

theorem opens_narrow : openManager narrow 20 20 twoQueued = .ok narrowManager := by
  rfl

/-- The second job is left without a worker. -/
theorem second_job_stranded : ∃ left origin,
    Run (Step kiteCodec) Unrestricted .empty left ∧
    openManager narrow 20 20 left = .ok origin ∧
    ∃ row ∈ origin.store.rows, row.status = .queued ∧ origin.submissions = [] ∧
      ∀ w ∈ origin.workers, w.key ≠ (row.authScope, row.id) := by
  refine ⟨twoQueued, narrowManager, reaches_twoQueued, opens_narrow, unkeyedRow,
    List.mem_cons_of_mem _ (List.mem_singleton_self _), rfl, rfl, ?_⟩
  intro w member
  cases List.mem_singleton.mp member
  decide +kernel

/-- The settings and the manager of a process with room for two. -/
def wide : JobSettings := { narrow with maxPending := 2 }

def wideManager : JobManager :=
  { narrowManager with
    workers := [kiteWorker .waiting, ⟨"operator", "job-2", .waiting⟩] }

theorem opens_wide : openManager wide 20 20 twoQueued = .ok wideManager := by
  rfl

/-- With room for two both jobs have a worker, and keep it. -/
theorem both_jobs_resume : Resumed wideManager ∧
    ∀ s, Run (ManagerStep kiteCodec .default wide) KeepsQueue wideManager s → Resumed s := by
  have resumes : _ ∧ (_ → ∀ s, Run (ManagerStep kiteCodec .default wide) KeepsQueue wideManager s →
      Resumed s) ∧ _ := queued_jobs_resume reaches_twoQueued opens_wide
  obtain ⟨first, always, _⟩ := resumes
  have few : (queuedRows twoQueued.rows).length ≤ min wide.maxPending i64Max := by decide +kernel
  exact ⟨first.mpr few, always few⟩

end ImagegenBridge.Jobs
