import ImagegenBridge.Lib.Transition
import ImagegenBridge.Runtime.FanoutAlgebra

/-!
# The scheduling loop of a batch

`execute_fanout`, one completion at a time. `push_next` dispatches a sub-request; which active
sub-request completes next, with what, and how long a failed batch drains its siblings is the
environment's choice.
-/

namespace ImagegenBridge.Fanout

open Batch Idempotency Transition Unordered

/-- The failure a batch stopped at: the chunks that had completed by then and those still active. -/
structure Failure where
  job : ChunkSpec
  run : ChunkRun
  error : BridgeError
  completed : List (ChunkSpec × ChunkRun)
  beside : List ChunkSpec

def Failure.siblingsMayHaveRun (failure : Failure) : Bool :=
  !failure.beside.isEmpty || !failure.completed.isEmpty

/-- What the batch returns for it. -/
def Failure.returned (failure : Failure) : BridgeError :=
  stopError failure.error failure.job.offset failure.run.elapsedMs failure.siblingsMayHaveRun

inductive LoopPhase where
  | looping
  | draining (failure : Failure)
  | returned (result : Outcome ImageResponse) (failure : Option Failure)

/-- The queue, the active sub-requests and the results, with the order of dispatch and the
batch's own cancellation token. -/
structure Scheduler where
  window : Window ChunkSpec ChunkRun
  dispatched : List ChunkSpec
  cancelled : Bool
  phase : LoopPhase

namespace Scheduler

/-- `push_next`. -/
def pushNext (s : Scheduler) : Scheduler :=
  match s.window.waiting with
  | [] => s
  | chunk :: rest =>
    { s with
      window := { s.window with waiting := rest, running := s.window.running ++ [chunk] }
      dispatched := s.dispatched ++ [chunk] }

/-- `for _ in 0..batch_parallel`. -/
def fill : Nat → Scheduler → Scheduler
  | 0, s => s
  | n + 1, s => fill n s.pushNext

def start (config : OutputFanoutConfig) (request : ImageRequest) (nativeCount : U8Range) : Scheduler :=
  fill (batchParallel config request)
    ⟨⟨chunks request.parameters.n nativeCount.max, [], []⟩, [], false, .looping⟩

def failure (s : Scheduler) : Option Failure :=
  match s.phase with
  | .looping => none
  | .draining failure => some failure
  | .returned _ failure => failure

/-- A result goes to the others and the next sub-request is dispatched. -/
def observe (s : Scheduler) (others : List ChunkSpec) (job : ChunkSpec) (run : ChunkRun) : Scheduler :=
  { s with window := { s.window with
      running := others, finished := s.window.finished ++ [(job, run)] } }.pushNext

def stop (s : Scheduler) (others : List ChunkSpec) (job : ChunkSpec) (run : ChunkRun)
    (error : BridgeError) : Scheduler :=
  { s with
    window := { s.window with running := others }
    cancelled := true
    phase := .draining ⟨job, run, error, s.window.finished, others⟩ }

end Scheduler

inductive LoopEvent where
  | completed (position : Nat) (run : ChunkRun)
  | returned (clock : BatchClock)

/-- The steps of the loop. -/
inductive LoopStep (request : ImageRequest) (requestId : String) :
    Scheduler → LoopEvent → Scheduler → Prop
  | observe {s : Scheduler} {position : Nat} {run : ChunkRun} {job : ChunkSpec}
      {others : List ChunkSpec} (looping : s.phase = .looping)
      (picked : s.window.pick position = some (job, others))
      (goes : stops request.parameters.failurePolicy run = none) :
      LoopStep request requestId s (.completed position run) (s.observe others job run)
  | stop {s : Scheduler} {position : Nat} {run : ChunkRun} {job : ChunkSpec}
      {others : List ChunkSpec} {error : BridgeError} (looping : s.phase = .looping)
      (picked : s.window.pick position = some (job, others))
      (stopped : stops request.parameters.failurePolicy run = some error) :
      LoopStep request requestId s (.completed position run) (s.stop others job run error)
  | drain {s : Scheduler} {position : Nat} {run : ChunkRun} {job : ChunkSpec}
      {others : List ChunkSpec} {failure : Failure} (draining : s.phase = .draining failure)
      (picked : s.window.pick position = some (job, others)) :
      LoopStep request requestId s (.completed position run)
        { s with window := { s.window with running := others } }
  /-- Drained, or the grace is over. -/
  | fail {s : Scheduler} {failure : Failure} (clock : BatchClock)
      (draining : s.phase = .draining failure) :
      LoopStep request requestId s (.returned clock)
        { s with
          window := { s.window with running := [] }
          phase := .returned (.error failure.returned) (some failure) }
  | finish {s : Scheduler} (clock : BatchClock) (looping : s.phase = .looping)
      (idle : s.window.running = []) :
      LoopStep request requestId s (.returned clock)
        { s with phase := .returned (aggregate request requestId clock
            ((s.window.finished.map chunkResult).insertionSort (·.offset ≤ ·.offset))) none }

/-- The states a batch passes through. -/
abbrev LoopRun (config : OutputFanoutConfig) (request : ImageRequest) (requestId : String)
    (nativeCount : U8Range) : Scheduler → Prop :=
  Run (LoopStep request requestId) Unrestricted (Scheduler.start config request nativeCount)

namespace Scheduler

variable {config : OutputFanoutConfig} {request : ImageRequest} {requestId : String}
  {nativeCount : U8Range} {s t : Scheduler} {event : LoopEvent} {parallel : Nat}

/-! ## Dispatch -/

/-- Dispatch keeps the queue: what was dispatched and what waits is the plan. -/
theorem pushNext_plan (s : Scheduler) :
    s.pushNext.dispatched ++ s.pushNext.window.waiting = s.dispatched ++ s.window.waiting := by
  unfold pushNext
  cases waiting : s.window.waiting with
  | nil => simp only [waiting]
  | cons chunk rest => simp

theorem pushNext_window (s : Scheduler) : s.pushNext.window = s.window.refill := by
  unfold pushNext Window.refill
  cases s.window.waiting <;> rfl

@[simp] theorem pushNext_phase (s : Scheduler) : s.pushNext.phase = s.phase := by
  unfold pushNext
  split <;> rfl

@[simp] theorem pushNext_cancelled (s : Scheduler) : s.pushNext.cancelled = s.cancelled := by
  unfold pushNext
  split <;> rfl

/-- The first loop dispatches as many sub-requests as may be active at once. -/
theorem fill_window (n : Nat) (s : Scheduler) :
    (fill n s).window = ⟨s.window.waiting.drop n, s.window.running ++ s.window.waiting.take n,
      s.window.finished⟩ := by
  induction n generalizing s with
  | zero => simp [fill]
  | succ n ih =>
    rw [fill, ih, pushNext_window]
    unfold Window.refill
    cases waiting : s.window.waiting with
    | nil => simp [waiting]
    | cons chunk rest => simp

theorem start_window : (start config request nativeCount).window =
    .start (batchParallel config request) (chunks request.parameters.n nativeCount.max) := by
  rw [start, fill_window]
  rfl

theorem start_phase : (start config request nativeCount).phase = .looping ∧
    (start config request nativeCount).cancelled = false := by
  have kept (n : Nat) (s : Scheduler) : (fill n s).phase = s.phase ∧ (fill n s).cancelled = s.cancelled := by
    induction n generalizing s with
    | zero => exact ⟨rfl, rfl⟩
    | succ n ih =>
      rw [fill, (ih _).1, (ih _).2, pushNext_phase, pushNext_cancelled]
      exact ⟨rfl, rfl⟩
  exact kept _ _

theorem start_plan : (start config request nativeCount).dispatched ++
    (start config request nativeCount).window.waiting =
      chunks request.parameters.n nativeCount.max := by
  have kept (n : Nat) (s : Scheduler) : (fill n s).dispatched ++ (fill n s).window.waiting =
      s.dispatched ++ s.window.waiting := by
    induction n generalizing s with
    | zero => rfl
    | succ n ih => rw [fill, ih, pushNext_plan]
  rw [start, kept]
  rfl

/-- Observing a result is an advance of the window. -/
theorem observe_window (s : Scheduler) (others : List ChunkSpec) (job : ChunkSpec) (run : ChunkRun) :
    (s.observe others job run).window = s.window.advance job others run := by
  rw [observe, pushNext_window]
  rfl

/-! ## The loop -/

/-- What every state of a batch keeps. -/
structure Planned (config : OutputFanoutConfig) (request : ImageRequest) (nativeCount : U8Range)
    (s : Scheduler) : Prop where
  plan : s.dispatched ++ s.window.waiting = chunks request.parameters.n nativeCount.max
  bounded : s.window.running.length ≤ batchParallel config request
  busy : s.phase = .looping → s.window.running = [] → s.window.waiting = []
  ended : ∀ result, s.phase = .returned result none → s.window.waiting = []
  cancels : ∀ failure, s.failure = some failure →
    s.cancelled = true ∧ request.parameters.failurePolicy = .failFast

theorem start_planned (positive : 0 < batchParallel config request) :
    Planned config request nativeCount (start config request nativeCount) where
  plan := start_plan
  bounded := by
    rw [start_window]
    exact (start_busy positive _).bounded
  busy := by
    intro _
    rw [start_window]
    exact (start_busy positive _).drained
  ended := by
    intro result returned
    rw [start_phase.1] at returned
    cases returned
  cancels := by
    intro failure failed
    rw [Scheduler.failure, start_phase.1] at failed
    cases failed

theorem looping_failure (looping : s.phase = .looping) : s.failure = none := by
  rw [Scheduler.failure, looping]

theorem step_planned (step : LoopStep request requestId s event t)
    (planned : Planned config request nativeCount s) : Planned config request nativeCount t := by
  cases step with
  | observe looping picked goes =>
    rename_i position run job others
    have busy : s.window.Busy (batchParallel config request) :=
      ⟨planned.bounded, planned.busy looping⟩
    have kept := (advance_keeps run busy picked).1
    have still : (s.observe others job run).phase = .looping := by simp [observe, looping]
    refine ⟨?_, ?_, ?_, ?_, ?_⟩
    · rw [observe, pushNext_plan]
      exact planned.plan
    · rw [observe_window]
      exact kept.bounded
    · intro _
      rw [observe_window]
      exact kept.drained
    · intro result returned
      rw [still] at returned
      cases returned
    · intro failure failed
      rw [looping_failure still] at failed
      cases failed
  | stop looping picked stopped =>
    rename_i position run job others error
    have shorter := (pick_perm picked).length_eq
    have bounded := planned.bounded
    rw [List.length_cons] at shorter
    have fast : request.parameters.failurePolicy = .failFast := by
      cases policy : request.parameters.failurePolicy with
      | failFast => rfl
      | bestEffort => simp [stops, policy] at stopped
    refine ⟨planned.plan, ?_, ?_, ?_, ?_⟩
    · show others.length ≤ _
      omega
    · intro impossible
      cases impossible
    · intro result impossible
      cases impossible
    · intro failure _
      exact ⟨rfl, fast⟩
  | drain draining picked =>
    have shorter := (pick_perm picked).length_eq
    have bounded := planned.bounded
    rw [List.length_cons] at shorter
    refine ⟨planned.plan, by dsimp only; omega, ?_, ?_, planned.cancels⟩
    · intro looping
      rw [draining] at looping
      cases looping
    · intro result returned
      rw [draining] at returned
      cases returned
  | fail clock draining =>
    refine ⟨planned.plan, Nat.zero_le _, ?_, ?_, ?_⟩
    · intro impossible
      cases impossible
    · intro result impossible
      cases impossible
    · intro failure _
      exact planned.cancels _ (by rw [Scheduler.failure, draining])
  | finish clock looping idle =>
    refine ⟨planned.plan, planned.bounded, ?_, ?_, ?_⟩
    · intro impossible
      cases impossible
    · intro result _
      exact planned.busy looping idle
    · intro failure impossible
      cases impossible

theorem run_planned (positive : 0 < batchParallel config request)
    (run : LoopRun config request requestId nativeCount s) : Planned config request nativeCount s :=
  run.invariant (start_planned positive) fun _ _ _ _ planned step _ => step_planned step planned

/-- After an observed failure nothing is dispatched. -/
theorem failed_step (failed : s.failure ≠ none) (step : LoopStep request requestId s event t) :
    t.dispatched = s.dispatched ∧ t.failure = s.failure := by
  cases step with
  | observe looping => exact absurd (looping_failure looping) failed
  | stop looping => exact absurd (looping_failure looping) failed
  | drain draining => exact ⟨rfl, rfl⟩
  | fail clock draining => exact ⟨rfl, by simp [Scheduler.failure, draining]⟩
  | finish clock looping => exact absurd (looping_failure looping) failed

theorem failed_run (failed : s.failure ≠ none)
    (run : Run (LoopStep request requestId) Unrestricted s t) :
    t.dispatched = s.dispatched ∧ t.failure = s.failure := by
  induction run with
  | start => exact ⟨rfl, rfl⟩
  | next _ step _ ih =>
    have onward := failed_step (by rw [ih.2]; exact failed) step
    exact ⟨onward.1.trans ih.1, onward.2.trans ih.2⟩

/-- An error that a batch stopped at is uncertain when a sibling may have run. -/
theorem Failure.marked {failure : Failure} (siblings : failure.completed ≠ [] ∨ failure.beside ≠ []) :
    Uncertain failure.returned := by
  have may : failure.siblingsMayHaveRun = true := by
    simpa [Failure.siblingsMayHaveRun, or_comm] using siblings
  unfold Failure.returned stopError
  rw [may, if_pos rfl]
  constructor
  · rw [BridgeError.withDetail_outcome_ne _ _ (by decide)]
    simp
  · rfl

/-! ## The whole batch -/

/-- The courses that the loop has gone through so far. -/
inductive Follows (config : OutputFanoutConfig) (request : ImageRequest) (requestId : String)
    (nativeCount : U8Range) (s : Scheduler) : Prop
  | looping (completions : List (Completion ChunkRun)) (looping : s.phase = .looping)
      (same : ∀ later, runChunks config request nativeCount (completions ++ later) =
        course (stops request.parameters.failurePolicy) later s.window)
  | stopped (completions : List (Completion ChunkRun)) (failure : Failure)
      (failed : s.failure = some failure)
      (ran : runChunks config request nativeCount completions = some (.stopped failure.completed
        failure.job failure.run failure.error failure.beside []))
      (ends : ∀ result, s.phase = .returned result (some failure) → result = .error failure.returned)
  | completed (completions : List (Completion ChunkRun)) (finished : List (ChunkSpec × ChunkRun))
      (clock : BatchClock) (ran : runChunks config request nativeCount completions =
        some (.completed finished))
      (ended : s.phase = .returned (settle request requestId clock (.completed finished)) none)

theorem step_follows (step : LoopStep request requestId s event t)
    (follows : Follows config request requestId nativeCount s) :
    Follows config request requestId nativeCount t := by
  cases step with
  | observe looping picked goes =>
    rename_i position run job others
    cases follows with
    | looping completions _ same =>
      refine .looping (completions ++ [⟨position, run⟩]) (by simp [observe, looping]) ?_
      intro later
      rw [List.append_assoc, same, observe_window]
      simp [course, picked, goes]
    | stopped completions failure failed =>
      rw [looping_failure looping] at failed
      cases failed
    | completed completions finished clock ran ended =>
      rw [looping] at ended
      cases ended
  | stop looping picked stopped =>
    rename_i position run job others error
    cases follows with
    | looping completions _ same =>
      refine .stopped (completions ++ [⟨position, run⟩]) _ rfl ?_ (by intro _ impossible; cases impossible)
      rw [same]
      simp [course, picked, stopped]
    | stopped completions failure failed =>
      rw [looping_failure looping] at failed
      cases failed
    | completed completions finished clock ran ended =>
      rw [looping] at ended
      cases ended
  | drain draining picked =>
    cases follows with
    | looping completions looping same =>
      rw [draining] at looping
      cases looping
    | stopped completions failure failed ran ends => exact .stopped completions failure failed ran ends
    | completed completions finished clock ran ended =>
      rw [draining] at ended
      cases ended
  | fail clock draining =>
    cases follows with
    | looping completions looping same =>
      rw [draining] at looping
      cases looping
    | stopped completions failure failed ran ends =>
      simp only [Scheduler.failure, draining, Option.some.injEq] at failed
      subst failed
      refine .stopped completions _ rfl ran ?_
      intro result returned
      cases returned
      rfl
    | completed completions finished clock ran ended =>
      rw [draining] at ended
      cases ended
  | finish clock looping idle =>
    cases follows with
    | looping completions _ same =>
      refine .completed (completions ++ []) s.window.finished clock ?_ rfl
      rw [same]
      simp [course, idle]
    | stopped completions failure failed ran ends =>
      rw [looping_failure looping] at failed
      cases failed
    | completed completions finished clock ran ended =>
      rw [looping] at ended
      cases ended

theorem run_follows (run : LoopRun config request requestId nativeCount s) :
    Follows config request requestId nativeCount s := by
  refine run.invariant ?_ fun _ _ _ _ follows step _ => step_follows step follows
  refine .looping [] start_phase.1 fun later => ?_
  rw [runChunks, start_window]
  rfl

/-- What the loop returns is what the batch's course returns under some order of completions. -/
theorem loop_refines {result : Outcome ImageResponse} {failure : Option Failure}
    (run : LoopRun config request requestId nativeCount s)
    (returned : s.phase = .returned result failure) : ∃ clock completions,
      executeFanout config request requestId nativeCount clock completions = some result := by
  cases run_follows run with
  | looping completions looping =>
    rw [looping] at returned
    cases returned
  | stopped completions stopped failed ran ends =>
    refine ⟨⟨0, 0, 0⟩, completions, ?_⟩
    rw [Scheduler.failure, returned] at failed
    have same : failure = some stopped := failed
    subst same
    rw [executeFanout, ran, ends result returned]
    rfl
  | completed completions finished clock ran ended =>
    refine ⟨clock, completions, ?_⟩
    rw [ended] at returned
    cases returned
    rw [executeFanout, ran]
    rfl

/-- How a batch is scheduled, in each of its states. -/
structure Scheduled (config : OutputFanoutConfig) (request : ImageRequest) (requestId : String)
    (nativeCount : U8Range) (s : Scheduler) : Prop where
  bounded : s.window.running.length ≤ batchParallel config request
  once : s.dispatched.Nodup
  planned : ∀ chunk ∈ s.dispatched, chunk ∈ chunks request.parameters.n nativeCount.max
  observed : ∀ position run error t, request.parameters.failurePolicy = .failFast →
    s.phase = .looping → run.result = .error error →
    LoopStep request requestId s (.completed position run) t → ∃ failure, t.failure = some failure ∧
      failure.error = error ∧ failure.completed = s.window.finished ∧
      failure.beside = t.window.running
  failed : ∀ failure, s.failure = some failure → s.cancelled = true ∧
    ∀ t, Run (LoopStep request requestId) Unrestricted s t → t.dispatched = s.dispatched
  marked : ∀ failure result, s.phase = .returned result (some failure) →
    failure.completed ≠ [] ∨ failure.beside ≠ [] → ∃ e, result = .error e ∧ Uncertain e
  whole : request.parameters.failurePolicy = .bestEffort → ∀ result failure,
    s.phase = .returned result failure →
      s.dispatched = chunks request.parameters.n nativeCount.max

theorem fanout_scheduled (checked : config.validate = .ok ()) (native : 1 ≤ nativeCount.max)
    (run : LoopRun config request requestId nativeCount s) :
    Scheduled config request requestId nativeCount s := by
  have positive : 0 < batchParallel config request := by
    have limits := (Outcome.failIf_ok _ _ _).mp checked
    unfold batchParallel
    split
    · omega
    · split <;> omega
    · omega
  have planned := run_planned positive run
  have ordered : (chunks request.parameters.n nativeCount.max).Nodup :=
    (chunks_ordered native).imp fun earlier same => by
      rw [same] at earlier
      omega
  refine ⟨planned.bounded, ?_, ?_, ?_, ?_, ?_, ?_⟩
  · rw [← planned.plan] at ordered
    exact (List.nodup_append.mp ordered).1
  · intro chunk among
    rw [← planned.plan]
    exact List.mem_append_left _ among
  · intro position run error t fast looping failed step
    cases step with
    | observe _ _ goes => simp [stops, fast, failed] at goes
    | stop _ picked stopped =>
      simp only [stops, fast, failed, Option.some.injEq] at stopped
      exact ⟨_, rfl, stopped.symm, rfl, rfl⟩
    | drain draining =>
      rw [looping] at draining
      cases draining
  · intro failure failed
    refine ⟨(planned.cancels failure failed).1, fun t onward => ?_⟩
    exact (failed_run (by rw [failed]; simp) onward).1
  · intro failure result returned siblings
    cases run_follows run with
    | looping completions looping =>
      rw [looping] at returned
      cases returned
    | stopped completions stopped failed ran ends =>
      rw [Scheduler.failure, returned] at failed
      cases failed
      exact ⟨_, ends result returned, Failure.marked siblings⟩
    | completed completions finished clock ran ended =>
      rw [ended] at returned
      cases returned
  · intro lenient result failure returned
    have calm : failure = none := by
      cases failure with
      | none => rfl
      | some stopped =>
        have fast := (planned.cancels stopped (by rw [Scheduler.failure, returned])).2
        rw [lenient] at fast
        cases fast
    subst calm
    have spent := planned.ended result returned
    have plan := planned.plan
    rw [spent, List.append_nil] at plan
    exact plan

/-- A batch of two whose first sub-request is refused while the second is active. -/
theorem pair_scheduled : ∃ s, LoopRun ⟨2, 2⟩ (outputs 2) "pair" ⟨1, 1⟩ s ∧ s.failure ≠ none ∧
    Scheduled ⟨2, 2⟩ (outputs 2) "pair" ⟨1, 1⟩ s := by
  have stopped : stops (outputs 2).parameters.failurePolicy ⟨0, .cancelled⟩ = some _ := rfl
  have refused : LoopStep (outputs 2) "pair" (start ⟨2, 2⟩ (outputs 2) ⟨1, 1⟩) (.completed 0 ⟨0, .cancelled⟩) _ :=
    .stop rfl rfl stopped
  have run : LoopRun ⟨2, 2⟩ (outputs 2) "pair" ⟨1, 1⟩ _ := .next .start refused trivial
  exact ⟨_, run, by simp [Scheduler.failure, stop], fanout_scheduled rfl (by decide) run⟩

end Scheduler

end ImagegenBridge.Fanout
