import ImagegenBridge.Jobs.Lifecycle
import ImagegenBridge.Core.Validation
import Mathlib.Data.List.AList

/-!
# The job manager, `crates/server/src/jobs.rs`

Submissions, workers, cancellations, retention and shutdown interleave between their
awaits. A call that ends on an error or is dropped ends where it is. A statement that
fails inside SQLite changes nothing.
-/

namespace ImagegenBridge.Jobs

open Table Text
open Transition (Run Unrestricted)

/-- Durable asynchronous generation job storage and execution bounds. -/
structure JobSettings where
  maxPending : Nat
  maxRunning : Nat
  retentionSecs : Nat
  maxRetained : Nat
  maxRetainedBytes : Nat
  maxDatabaseBytes : Nat

/-- What the runtime made of a job. -/
abbrev Execution := Except SuggestedError ImageResponse

/-- How far a worker is in `run`. -/
inductive WorkerStage where
  /-- At the select over a permit and the shutdown. -/
  | waiting
  /-- Has its permit and is about to claim. -/
  | permitted
  /-- Has won its claim. -/
  | claimed
  /-- Is in the active map and is about to read the stored job. -/
  | registered (token : Nat)
  | executing (token : Nat)
  | returned (token : Nat) (result : Execution)
  /-- Is out of the active map. -/
  | removed (token : Nat) (result : Execution)
  | succeeding (response : ImageResponse)
  | failing (status : ImageJobStatus) (error : SuggestedError)
  /-- Has stored how the job ended. -/
  | settled

/-- A spawned `run` that has not ended. -/
structure Worker where
  scope : String
  id : String
  stage : WorkerStage

namespace WorkerStage

/-- The permit is dropped after the removal from the active map. -/
def holdsPermit : WorkerStage → Bool
  | .permitted | .claimed | .registered _ | .executing _ | .returned .. | .removed .. => true
  | .waiting | .succeeding _ | .failing .. | .settled => false

/-- The stages before the claim. -/
def unclaimed : WorkerStage → Bool
  | .waiting | .permitted => true
  | _ => false

/-- The stages between the claim and the end of the durable write. -/
def engaged : WorkerStage → Bool
  | .waiting | .permitted | .settled => false
  | _ => true

/-- The token that stands in the active map. -/
def activeToken : WorkerStage → Option Nat
  | .registered token | .executing token | .returned token _ => some token
  | _ => none

end WorkerStage

namespace Worker

def key (w : Worker) : String × String := (w.scope, w.id)

/-- The worker at another stage. -/
def moveTo (stage : WorkerStage) (w : Worker) : Worker := { w with stage }

@[simp] theorem moveTo_scope (stage : WorkerStage) (w : Worker) : (w.moveTo stage).scope = w.scope := rfl
@[simp] theorem moveTo_id (stage : WorkerStage) (w : Worker) : (w.moveTo stage).id = w.id := rfl
@[simp] theorem moveTo_key (stage : WorkerStage) (w : Worker) : (w.moveTo stage).key = w.key := rfl
@[simp] theorem moveTo_stage (stage : WorkerStage) (w : Worker) : (w.moveTo stage).stage = stage := rfl

end Worker

/-- A `submit` that has passed its checks; `answer` is what its transaction chose. -/
structure Submission where
  scope : String
  request : ImageRequest
  answer : Option CreateOutcome

/-- The job a submission has inserted and not yet scheduled. -/
def Submission.inserted (submission : Submission) : Option String :=
  match submission.answer with
  | some (.created id) => some id
  | _ => none

/-- A `cancel` that has committed, and whether it has read the job back. -/
structure CancelCall where
  scope : String
  id : String
  confirmed : Bool

def CancelCall.key (call : CancelCall) : String × String := (call.scope, call.id)

/-- A provider call: the job and the cancellation token it was given. -/
structure RuntimeCall where
  scope : String
  id : String
  token : Nat

def RuntimeCall.key (call : RuntimeCall) : String × String := (call.scope, call.id)

/-- Owns the bounded durable queue and its active cancellation handles. `tokens` counts
the cancellation tokens made, `cancelled` are those cancelled, `calls` the calls the
runtime was given, and `drained` says that a shutdown has returned in time. -/
structure JobManager where
  store : StoreState
  retentionHealthy : Bool
  shutdown : Bool
  drained : Bool
  active : AList fun _ : String × String => Nat
  tokens : Nat
  cancelled : List Nat
  calls : List RuntimeCall
  submissions : List Submission
  workers : List Worker
  cancels : List CancelCall

namespace JobManager

/-- The manager with other rows. -/
def withRows (rows : List JobRow) (s : JobManager) : JobManager :=
  { s with store := { s.store with rows } }

/-- Permits in use. -/
def permits (s : JobManager) : Nat := s.workers.countP fun w => w.stage.holdsPermit

end JobManager

/-- Opens the durable queue, conservatively recovers active work, and resumes queued
jobs. History updates of an earlier process are gone. -/
def openManager (settings : JobSettings) (recoveredAt prunedAt : Nat) (left : StoreState) :
    Outcome JobManager :=
  match recoverInterrupted recoveredAt left.rows with
  | (.error e, _) => .error e
  | (.ok _, recovered) =>
    match prune prunedAt settings.retentionSecs settings.maxRetained settings.maxRetainedBytes
        recovered with
    | (.error e, _) => .error e
    | (.ok _, rows) => .ok {
        store := { left with rows, updates := [] }
        retentionHealthy := true
        shutdown := false
        drained := false
        active := ∅
        tokens := 0
        cancelled := []
        calls := []
        submissions := []
        workers := (queuedIdentities settings.maxPending rows).map fun job =>
          ⟨job.1, job.2, .waiting⟩
        cancels := [] }

/-- `submit` stores every request for artifact delivery. -/
def durableRequest (request : ImageRequest) : ImageRequest :=
  { request with output := { request.output with responseFormat := .artifact } }

/-- The durable write that a finished execution is followed by. -/
def settlement (shutdown cancelled : Bool) : Execution → WorkerStage
  | .ok response => .succeeding response
  | .error error =>
    let status := if shutdown then .interrupted else if cancelled then .cancelled else .failed
    .failing status error

/-- Moves of a worker that touch nothing else. -/
inductive Proceeds (settings : JobSettings) (s : JobManager) : WorkerStage → WorkerStage → Prop
  | permitted (room : s.permits < settings.maxRunning) : Proceeds settings s .waiting .permitted
  | unread {token : Nat} (error : BridgeError) :
      Proceeds settings s (.registered token) (.returned token (.error (.ofError error)))
  | returned {token : Nat} (result : Execution) :
      Proceeds settings s (.executing token) (.returned token result)
  | decided {token : Nat} {result : Execution} :
      Proceeds settings s (.removed token result)
        (settlement s.shutdown (s.cancelled.contains token) result)
  | unstored {response : ImageResponse} (error : BridgeError) :
      Proceeds settings s (.succeeding response) (.failing .failed (.ofError error))

/-- Where a worker ends without a statement. -/
inductive Ends (s : JobManager) : WorkerStage → Prop
  | stopped (shutdown : s.shutdown = true) : Ends s .waiting
  | unclaimed : Ends s .permitted
  | unstored {status : ImageJobStatus} {error : SuggestedError} : Ends s (.failing status error)

inductive ManagerEvent where
  | submitted (scope : String) (request : ImageRequest)
  | inserted (submission : Submission) (id : String) (now : Nat)
  | scheduled (submission : Submission)
  | abandoned (submission : Submission)
  | proceeded (worker : Worker) (stage : WorkerStage)
  | ended (worker : Worker)
  | claimed (worker : Worker) (now : Nat)
  | registered (worker : Worker)
  | read (worker : Worker)
  | progressed (worker : Worker) (stage : String) (partialImages now : Nat)
  | removed (worker : Worker)
  | succeeded (worker : Worker) (now : Nat)
  | failed (worker : Worker) (now : Nat)
  | retained (worker : Worker)
  | pruned (now : Nat)
  | retentionFailed
  | cancelRequested (scope id : String) (now : Nat)
  | cancelRead (call : CancelCall)
  | cancelSignalled (call : CancelCall)
  | cancelAbandoned (call : CancelCall)
  | historyRead (request : HistoryUpdate)
  | historyWritten (request : HistoryUpdate)
  | shutdownBegun
  | shutdownDrained
  | drainTimedOut

section Steps

variable (codec : Codec) (limits : RequestLimits) (settings : JobSettings)

inductive ManagerStep : JobManager → ManagerEvent → JobManager → Prop
  | submitted {s : JobManager} (scope : String) (request : ImageRequest)
      (accepting : s.shutdown = false) (healthy : s.retentionHealthy = true)
      (valid : validateRequest (durableRequest request) limits = .ok ()) :
      ManagerStep s (.submitted scope request)
        { s with submissions := ⟨scope, durableRequest request, none⟩ :: s.submissions }
  | inserted {s : JobManager} {submission : Submission} {others : List Submission}
      {answer : CreateOutcome} (id : String) (now : Nat)
      (held : s.submissions.Perm (submission :: others)) (asking : submission.answer = none)
      (fresh : id ∉ s.store.used)
      (answered : (create codec submission.scope id submission.request now settings.maxPending
        settings.maxDatabaseBytes s.store.rows).1 = .ok answer)
      (hosted : ∀ other, answer = .created other → WithinLimits (create codec submission.scope id
        submission.request now settings.maxPending settings.maxDatabaseBytes s.store.rows).2) :
      ManagerStep s (.inserted submission id now)
        { s with
          store := { s.store with
            rows := (create codec submission.scope id submission.request now settings.maxPending
              settings.maxDatabaseBytes s.store.rows).2
            used := id :: s.store.used }
          submissions := { submission with answer := some answer } :: others }
  | scheduled {s : JobManager} {submission : Submission} {others : List Submission}
      {answer : CreateOutcome} {job : SqliteJobSubmission}
      (held : s.submissions.Perm (submission :: others)) (answered : submission.answer = some answer)
      (read : readSubmission codec submission.scope s.store.rows answer = .ok job) :
      ManagerStep s (.scheduled submission)
        { s with
          submissions := others
          workers := match submission.inserted with
            | some id => ⟨submission.scope, id, .waiting⟩ :: s.workers
            | none => s.workers }
  | abandoned {s : JobManager} {submission : Submission} {others : List Submission}
      (held : s.submissions.Perm (submission :: others)) :
      ManagerStep s (.abandoned submission) { s with submissions := others }
  | proceeded {s : JobManager} {w : Worker} {others : List Worker} (stage : WorkerStage)
      (held : s.workers.Perm (w :: others)) (proceeds : Proceeds settings s w.stage stage) :
      ManagerStep s (.proceeded w stage) { s with workers := w.moveTo stage :: others }
  | ended {s : JobManager} {w : Worker} {others : List Worker}
      (held : s.workers.Perm (w :: others)) (ends : Ends s w.stage) :
      ManagerStep s (.ended w) { s with workers := others }
  | claimed {s : JobManager} {w : Worker} {others : List Worker} {won : Bool} (now : Nat)
      (held : s.workers.Perm (w :: others)) (stage : w.stage = .permitted)
      (answered : (claim w.scope w.id now s.store.rows).1 = .ok won) :
      ManagerStep s (.claimed w now)
        { s.withRows (claim w.scope w.id now s.store.rows).2 with
          workers := if won then w.moveTo .claimed :: others else others }
  | registered {s : JobManager} {w : Worker} {others : List Worker}
      (held : s.workers.Perm (w :: others)) (stage : w.stage = .claimed) :
      ManagerStep s (.registered w)
        { s with
          workers := w.moveTo (.registered s.tokens) :: others
          active := s.active.insert w.key s.tokens
          tokens := s.tokens + 1 }
  | read {s : JobManager} {w : Worker} {others : List Worker} {token : Nat} {job : ImageJob}
      (held : s.workers.Perm (w :: others)) (stage : w.stage = .registered token)
      (read : get codec w.scope w.id s.store.rows = .ok job) :
      ManagerStep s (.read w)
        { s with
          workers := w.moveTo (.executing token) :: others
          cancelled := if job.cancelRequested then token :: s.cancelled else s.cancelled
          calls := ⟨w.scope, w.id, token⟩ :: s.calls }
  | progressed {s : JobManager} {w : Worker} {token : Nat} (stage : String)
      (partialImages now : Nat) (held : w ∈ s.workers) (executing : w.stage = .executing token)
      (fits : partialImages < 2 ^ 32) :
      ManagerStep s (.progressed w stage partialImages now)
        (s.withRows (progress w.scope w.id stage partialImages now s.store.rows).2)
  | removed {s : JobManager} {w : Worker} {others : List Worker} {token : Nat}
      {result : Execution} (held : s.workers.Perm (w :: others))
      (stage : w.stage = .returned token result) :
      ManagerStep s (.removed w)
        { s with
          workers := w.moveTo (.removed token result) :: others
          active := s.active.erase w.key }
  | succeeded {s : JobManager} {w : Worker} {others : List Worker} {response : ImageResponse}
      (now : Nat) (held : s.workers.Perm (w :: others)) (stage : w.stage = .succeeding response)
      (stored : (succeed codec w.scope w.id response now s.store.rows).1 = .ok ()) :
      ManagerStep s (.succeeded w now)
        { s.withRows (succeed codec w.scope w.id response now s.store.rows).2 with
          workers := w.moveTo .settled :: others }
  | failed {s : JobManager} {w : Worker} {others : List Worker} {status : ImageJobStatus}
      {error : SuggestedError} (now : Nat) (held : s.workers.Perm (w :: others))
      (stage : w.stage = .failing status error)
      (stored : (fail w.scope w.id status error now s.store.rows).1 = .ok ()) :
      ManagerStep s (.failed w now)
        { s.withRows (fail w.scope w.id status error now s.store.rows).2 with
          workers := w.moveTo .settled :: others }
  | retained {s : JobManager} {w : Worker} {others : List Worker}
      (held : s.workers.Perm (w :: others)) (stage : w.stage = .settled) :
      ManagerStep s (.retained w) { s with workers := others }
  | pruned {s : JobManager} {count : Nat} (now : Nat)
      (answered : (prune now settings.retentionSecs settings.maxRetained settings.maxRetainedBytes
        s.store.rows).1 = .ok count) :
      ManagerStep s (.pruned now)
        { s.withRows (prune now settings.retentionSecs settings.maxRetained
            settings.maxRetainedBytes s.store.rows).2 with retentionHealthy := true }
  | retentionFailed {s : JobManager} :
      ManagerStep s .retentionFailed { s with retentionHealthy := false }
  | cancelRequested {s : JobManager} (scope id : String) (now : Nat)
      (answered : (requestCancel scope id now s.store.rows).1 = .ok ()) :
      ManagerStep s (.cancelRequested scope id now)
        { s.withRows (requestCancel scope id now s.store.rows).2 with
          cancels := ⟨scope, id, false⟩ :: s.cancels }
  | cancelRead {s : JobManager} {call : CancelCall} {others : List CancelCall} {job : ImageJob}
      (held : s.cancels.Perm (call :: others)) (unconfirmed : call.confirmed = false)
      (read : get codec call.scope call.id s.store.rows = .ok job) :
      ManagerStep s (.cancelRead call)
        { s with cancels := { call with confirmed := true } :: others }
  | cancelSignalled {s : JobManager} {call : CancelCall} {others : List CancelCall}
      (held : s.cancels.Perm (call :: others)) (confirmed : call.confirmed = true) :
      ManagerStep s (.cancelSignalled call)
        { s with
          cancels := others
          cancelled := (s.active.lookup call.key).toList ++ s.cancelled }
  | cancelAbandoned {s : JobManager} {call : CancelCall} {others : List CancelCall}
      (held : s.cancels.Perm (call :: others)) :
      ManagerStep s (.cancelAbandoned call) { s with cancels := others }
  | historyRead {s : JobManager} {request update : HistoryUpdate}
      (read : readHistory codec request s.store.rows = .ok update) :
      ManagerStep s (.historyRead request)
        { s with store := { s.store with updates := update :: s.store.updates } }
  | historyWritten {s : JobManager} {request : HistoryUpdate}
      (pending : request ∈ s.store.updates) :
      ManagerStep s (.historyWritten request)
        { s with store := { s.store with
            rows := (writeHistory request s.store.rows).2
            updates := s.store.updates.erase request } }
  | shutdownBegun {s : JobManager} : ManagerStep s .shutdownBegun { s with shutdown := true }
  | shutdownDrained {s : JobManager} (shutdown : s.shutdown = true) (empty : s.active.keys = []) :
      ManagerStep s .shutdownDrained { s with drained := true }
  | drainTimedOut {s : JobManager} (shutdown : s.shutdown = true) :
      ManagerStep s .drainTimedOut
        { s with cancelled := s.active.entries.map (·.2) ++ s.cancelled }

end Steps

end ImagegenBridge.Jobs
