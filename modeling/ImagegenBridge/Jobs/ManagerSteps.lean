import ImagegenBridge.Jobs.Manager
import Mathlib.Data.List.Perm.Subperm

/-!
# What the manager's steps do to the store and to the workers

A run of the manager is a run of its store. A job has one worker at most, or one
submission that is about to schedule it.
-/

namespace ImagegenBridge.Jobs

open Table Text
open Transition (Run Unrestricted)

variable {codec : Codec} {limits : RequestLimits} {settings : JobSettings}
  {s t origin : JobManager} {event : ManagerEvent} {left : StoreState}
  {recoveredAt prunedAt : Nat} {condition : JobManager → ManagerEvent → Prop}

/-- A step of the manager is a statement on its store, or leaves it. -/
theorem managerStep_store (step : ManagerStep codec limits settings s event t) :
    t.store = s.store ∨ ∃ statement, Step codec s.store statement t.store := by
  cases step with
  | submitted | scheduled | abandoned | proceeded | ended | registered | read | removed | retained
  | retentionFailed | cancelRead | cancelSignalled | cancelAbandoned | shutdownBegun
  | shutdownDrained | drainTimedOut => exact Or.inl rfl
  | inserted id now held asking fresh answered hosted =>
    refine Or.inr ⟨_, .created _ id _ now _ _ fresh fun other chosen => ?_⟩
    rw [answered] at chosen
    exact hosted other (Except.ok.inj chosen)
  | claimed now held stage answered => exact Or.inr ⟨_, .claimed _ _ now⟩
  | progressed stage partialImages now held executing fits =>
    exact Or.inr ⟨_, .progressed _ _ stage partialImages now fits⟩
  | succeeded now held stage stored => exact Or.inr ⟨_, .succeeded _ _ _ now⟩
  | failed now held stage stored => exact Or.inr ⟨_, .failed _ _ _ _ now⟩
  | pruned now answered => exact Or.inr ⟨_, .pruned now _ _ _⟩
  | cancelRequested scope id now answered => exact Or.inr ⟨_, .cancelRequested scope id now⟩
  | historyRead read => exact Or.inr ⟨_, .historyRead read⟩
  | historyWritten pending => exact Or.inr ⟨_, .historyWritten pending⟩

theorem managerRun_store (run : Run (ManagerStep codec limits settings) condition s t) :
    Run (Step codec) Unrestricted s.store t.store := by
  induction run with
  | start => exact .start
  | next _ step _ ih =>
    obtain same | ⟨statement, taken⟩ := managerStep_store step
    · exact same ▸ ih
    · exact ih.then taken

/-! ## Identities -/

/-- The jobs that have a worker, and those that are about to have one. -/
def JobManager.identities (s : JobManager) : List String :=
  s.workers.map Worker.id ++ s.submissions.filterMap Submission.inserted

/-- A job has one worker or one inserting submission. -/
structure Managed (s : JobManager) : Prop where
  orderly : Orderly s.store
  unique : s.identities.Nodup
  known : ∀ id ∈ s.identities, id ∈ s.store.used

theorem moved_ids {w : Worker} {workers others : List Worker} (held : workers.Perm (w :: others))
    (stage : WorkerStage) : ((w.moveTo stage :: others).map Worker.id).Perm (workers.map Worker.id) :=
  (held.map Worker.id).symm

theorem others_ids {w : Worker} {workers others : List Worker}
    (held : workers.Perm (w :: others)) :
    (others.map Worker.id).Subperm (workers.map Worker.id) :=
  (List.sublist_cons_self ..).subperm.trans (held.map Worker.id).symm.subperm

/-- A transaction that creates a job creates the one it was called for. -/
theorem create_created {scope id other : String} {request : ImageRequest}
    {now maxPending maxDatabaseBytes : Nat} {rows : List JobRow}
    (created : (create codec scope id request now maxPending maxDatabaseBytes rows).1
      = .ok (.created other)) : other = id := by
  obtain ⟨_, never⟩ | ⟨newBytes, _, _, inserted⟩ :=
    create_cases codec scope id request now maxPending maxDatabaseBytes rows
  · exact absurd created (never other)
  · rw [inserted] at created
    cases created
    rfl

theorem pending_ids {submission : Submission} {submissions others : List Submission}
    (held : submissions.Perm (submission :: others)) :
    (submissions.filterMap Submission.inserted).Perm
      (submission.inserted.toList ++ others.filterMap Submission.inserted) := by
  refine (held.filterMap _).trans ?_
  cases inserted : submission.inserted <;> simp [inserted]

/-- Identities stay, and a transaction may add one that was never used. -/
theorem managerStep_identities (step : ManagerStep codec limits settings s event t) :
    t.identities.Subperm s.identities ∨ ∃ id, id ∉ s.store.used ∧ id ∈ t.store.used ∧
      t.identities.Subperm (id :: s.identities) := by
  have fewer : ∀ {submission : Submission} {others : List Submission},
      s.submissions.Perm (submission :: others) →
        (s.workers.map Worker.id ++ others.filterMap Submission.inserted).Subperm s.identities := by
    intro submission others held
    have part := (List.sublist_append_right submission.inserted.toList
      (others.filterMap Submission.inserted)).subperm
    exact List.Subperm.append (.refl _) (part.trans (pending_ids held).symm.subperm)
  have workers : ∀ {workers : List Worker},
      (workers.map Worker.id).Subperm (s.workers.map Worker.id) →
        (workers.map Worker.id ++ s.submissions.filterMap Submission.inserted).Subperm
          s.identities :=
    fun fewer => List.Subperm.append fewer (.refl _)
  cases step with
  | submitted scope request accepting healthy valid =>
    refine Or.inl (List.Subperm.append (.refl _) ?_)
    exact List.Subperm.refl _
  | @inserted submission others answer id now held asking fresh answered hosted =>
    cases answer with
    | created other =>
      cases create_created answered
      refine Or.inr ⟨id, fresh, List.mem_cons_self .., ?_⟩
      exact List.perm_middle.subperm.trans ((List.subperm_cons id).mpr (fewer held))
    | replay other | conflict | full =>
      have same := fewer held
      exact Or.inl same
  | @scheduled submission others answer job held answered read =>
    cases inserted : submission.inserted with
    | none =>
      apply Or.inl
      simpa [JobManager.identities, inserted] using fewer held
    | some id =>
      have before := (pending_ids held).append_left (s.workers.map Worker.id)
      rw [inserted] at before
      refine Or.inl (List.Perm.subperm ?_)
      simpa [JobManager.identities, inserted] using
        (before.trans List.perm_middle).symm
  | abandoned held => exact Or.inl (fewer held)
  | proceeded stage held proceeds => exact Or.inl (workers (moved_ids held stage).subperm)
  | ended held ends => exact Or.inl (workers (others_ids held))
  | @claimed w others won now held stage answered =>
    cases won with
    | true => exact Or.inl (workers (moved_ids held _).subperm)
    | false => exact Or.inl (workers (others_ids held))
  | registered held stage => exact Or.inl (workers (moved_ids held _).subperm)
  | read held stage read => exact Or.inl (workers (moved_ids held _).subperm)
  | removed held stage => exact Or.inl (workers (moved_ids held _).subperm)
  | succeeded now held stage stored => exact Or.inl (workers (moved_ids held _).subperm)
  | failed now held stage stored => exact Or.inl (workers (moved_ids held _).subperm)
  | retained held stage => exact Or.inl (workers (others_ids held))
  | progressed | pruned | retentionFailed | cancelRequested | cancelRead | cancelSignalled
  | cancelAbandoned | historyRead | historyWritten | shutdownBegun | shutdownDrained
  | drainTimedOut => exact Or.inl (.refl _)

theorem nodup_of_subperm {ids ids' : List String} (fewer : ids.Subperm ids') (unique : ids'.Nodup) :
    ids.Nodup := by
  obtain ⟨part, perm, sublist⟩ := fewer
  exact perm.nodup_iff.mp (unique.sublist sublist)

theorem step_managed (managed : Managed s) (step : ManagerStep codec limits settings s event t) :
    Managed t := by
  have used : ∀ id ∈ s.store.used, id ∈ t.store.used := by
    obtain same | ⟨statement, taken⟩ := managerStep_store step
    · rw [same]
      exact fun _ member => member
    · exact step_used taken
  have orderly : Orderly t.store := by
    obtain same | ⟨statement, taken⟩ := managerStep_store step
    · exact same ▸ managed.orderly
    · exact step_orderly managed.orderly taken
  obtain fewer | ⟨id, fresh, stored, fewer⟩ := managerStep_identities step
  · exact ⟨orderly, nodup_of_subperm fewer managed.unique, fun id member =>
      used id (managed.known id (fewer.subset member))⟩
  · have unknown : id ∉ s.identities := fun member => fresh (managed.known id member)
    refine ⟨orderly, nodup_of_subperm fewer (List.nodup_cons.mpr ⟨unknown, managed.unique⟩), ?_⟩
    intro other member
    obtain rfl | before := List.mem_cons.mp (fewer.subset member)
    · exact stored
    · exact used other (managed.known other before)

/-! ## Workers of a job -/

/-- A job has a worker in some phase. -/
def Attended (phase : WorkerStage → Bool) (workers : List Worker) (row : JobRow) : Prop :=
  ∃ w ∈ workers, w.key = (row.authScope, row.id) ∧ phase w.stage = true

section Attendance

variable {phase : WorkerStage → Bool} {workers others : List Worker} {w : Worker} {row : JobRow}

theorem Attended.moved (attended : Attended phase workers row) (held : workers.Perm (w :: others))
    {stage : WorkerStage} (stays : phase w.stage = true → phase stage = true) :
    Attended phase (w.moveTo stage :: others) row := by
  obtain ⟨other, member, own, inPhase⟩ := attended
  obtain rfl | member := List.mem_cons.mp (held.mem_iff.mp member)
  · exact ⟨other.moveTo stage, List.mem_cons_self .., own, stays inPhase⟩
  · exact ⟨other, List.mem_cons_of_mem _ member, own, inPhase⟩

theorem Attended.kept (attended : Attended phase workers row) (held : workers.Perm (w :: others))
    (other : phase w.stage = true → w.key ≠ (row.authScope, row.id)) :
    Attended phase others row := by
  obtain ⟨worker, member, own, inPhase⟩ := attended
  obtain rfl | member := List.mem_cons.mp (held.mem_iff.mp member)
  · exact absurd own (other inPhase)
  · exact ⟨worker, member, own, inPhase⟩

theorem Attended.added (attended : Attended phase workers row) :
    Attended phase (w :: workers) row := by
  obtain ⟨worker, member, own⟩ := attended
  exact ⟨worker, List.mem_cons_of_mem _ member, own⟩

theorem Attended.known (attended : Attended phase workers row) :
    row.id ∈ workers.map Worker.id := by
  obtain ⟨w, member, own, _⟩ := attended
  exact (Prod.mk.inj own).2 ▸ List.mem_map_of_mem member

end Attendance

theorem Proceeds.unclaimed {stage stage' : WorkerStage} (proceeds : Proceeds settings s stage stage')
    (before : stage.unclaimed = true) : stage'.unclaimed = true := by
  cases proceeds with
  | permitted room => rfl
  | unread | returned | decided | unstored => cases before

/-! ## Opening -/

/-- The rows waiting in the queue. -/
def queuedRows (rows : List JobRow) : List JobRow := rows.filter fun row => row.status = .queued

/-- What holds of a manager that was just opened. -/
structure Opened (settings : JobSettings) (origin : JobManager) : Prop where
  managed : Managed origin
  interrupted : ∀ row ∈ origin.store.rows, row.status ≠ .running
  workers : origin.workers = (queuedIdentities settings.maxPending origin.store.rows).map
    fun job => ⟨job.1, job.2, .waiting⟩
  idle : origin.shutdown = false ∧ origin.drained = false ∧ origin.active = ∅ ∧
    origin.cancelled = [] ∧ origin.calls = [] ∧ origin.submissions = [] ∧ origin.cancels = []

theorem queuedIdentities_ids (limit : Nat) (rows : List JobRow) :
    ((queuedIdentities limit rows).map Prod.snd).Subperm ((queuedRows rows).map JobRow.id) := by
  have taken : ((queuedIdentities limit rows).map Prod.snd).Sublist
      (((queuedRows rows).insertionSort olderFirst).map JobRow.id) := by
    unfold queuedIdentities
    rw [List.map_map]
    exact (List.take_sublist ..).map JobRow.id
  exact taken.subperm.trans ((List.perm_insertionSort olderFirst _).map JobRow.id).subperm

theorem recoverInterrupted_ok {now count : Nat} {rows recovered : List JobRow}
    (done : recoverInterrupted now rows = (.ok count, recovered)) :
    ∀ row ∈ recovered, row.status ≠ .running := by
  unfold recoverInterrupted checked at done
  split at done
  · cases done
  · cases done
    intro row member
    obtain ⟨_, skipped⟩ | ⟨_, _, _, rfl⟩ := mem_update.mp member
    · simpa using skipped
    · exact nofun

/-- Retention only removes rows. -/
theorem prune_subset {now retentionSecs maxRetained maxRetainedBytes : Nat} {rows : List JobRow} :
    ∀ row ∈ (prune now retentionSecs maxRetained maxRetainedBytes rows).2, row ∈ rows := by
  unfold prune checked
  split
  · exact fun _ member => member
  · dsimp only
    split
    · exact fun _ member => member
    · intro row member
      exact List.mem_of_mem_filter (List.mem_of_mem_filter member)

theorem openManager_opened (earlier : Run (Step codec) Unrestricted .empty left)
    (opened : openManager settings recoveredAt prunedAt left = .ok origin) :
    Opened settings origin := by
  have orderly := run_orderly earlier
  unfold openManager at opened
  split at opened
  · cases opened
  rename_i interrupted recovered recovers
  split at opened
  · cases opened
  rename_i deleted rows prunes
  cases opened
  have recovering : Step codec left (.recovered recoveredAt)
      { left with rows := (recoverInterrupted recoveredAt left.rows).2 } := .recovered recoveredAt
  rw [recovers] at recovering
  have pruning : Step codec { left with rows := recovered }
      (.pruned prunedAt settings.retentionSecs settings.maxRetained settings.maxRetainedBytes)
      { left with rows := (prune prunedAt settings.retentionSecs settings.maxRetained
        settings.maxRetainedBytes recovered).2 } := .pruned prunedAt _ _ _
  rw [prunes] at pruning
  have kept := step_orderly (step_orderly orderly recovering) pruning
  have fewer := queuedIdentities_ids settings.maxPending rows
  have ids : ∀ id ∈ (queuedRows rows).map JobRow.id, id ∈ left.used := by
    intro id member
    obtain ⟨row, queued, rfl⟩ := List.mem_map.mp member
    exact kept.known row (List.mem_of_mem_filter queued)
  have same : ((queuedIdentities settings.maxPending rows).map fun job =>
      (⟨job.1, job.2, .waiting⟩ : Worker)).map Worker.id
        = (queuedIdentities settings.maxPending rows).map Prod.snd := by
    rw [List.map_map]
    rfl
  refine ⟨⟨⟨kept.keyed, kept.known, kept.sane, nofun⟩, ?_, ?_⟩, ?_, rfl, rfl, rfl, rfl, rfl, rfl,
    rfl, rfl⟩
  · rw [JobManager.identities, same, List.filterMap_nil, List.append_nil]
    exact nodup_of_subperm fewer (kept.keyed.sublist (List.filter_sublist.map _))
  · rw [JobManager.identities, same, List.filterMap_nil, List.append_nil]
    exact fun id member => ids id (fewer.subset member)
  · intro row member
    have before : row ∈ recovered := by
      have kept : row ∈ (prune prunedAt settings.retentionSecs settings.maxRetained
          settings.maxRetainedBytes recovered).2 := by
        rw [prunes]
        exact member
      exact prune_subset row kept
    exact recoverInterrupted_ok recovers row before

/-! ## A manager of one job -/

/-- The settings of a process with room for one waiting job. -/
def narrow : JobSettings := ⟨1, 4, 604800, 10000, 2 ^ 28, 2 ^ 30⟩

def kiteWorker (stage : WorkerStage) : Worker := ⟨"operator", "job-1", stage⟩

def kiteManager : JobManager where
  store := kiteQueued
  retentionHealthy := true
  shutdown := false
  drained := false
  active := ∅
  tokens := 0
  cancelled := []
  calls := []
  submissions := []
  workers := [kiteWorker .waiting]
  cancels := []

theorem opens_kite : openManager narrow 20 20 kiteQueued = .ok kiteManager := by
  rfl

end ImagegenBridge.Jobs
