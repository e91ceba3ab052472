import ImagegenBridge.CodexAppServer.Executions
import ImagegenBridge.Lib.KeyedLocks
import ImagegenBridge.Lib.Pool

/-!
# Turns on threads

Executions share the map of session locks, the session store and the app-server, where a
turn is in flight on its thread from its request on until the peer refuses it or ends it.
An execution that leaves its turn behind gives its lock back all the same.
-/

namespace ImagegenBridge.CodexAppServer.Threads

open Program Snapshot

/-- The locks by session, the stored threads by session key, and the turns in flight by
thread and execution. -/
structure ThreadState where
  locks : KeyedLocks String
  bindings : String → Option String
  turns : List (String × Nat)

namespace ThreadState

def initial (bindings : String → Option String) : ThreadState := ⟨.empty, bindings, []⟩

/-- A turn is over. -/
def finish (s : ThreadState) (threadId : String) (execution : Nat) : ThreadState :=
  { s with turns := s.turns.filter (· ≠ (threadId, execution)) }

def bind (s : ThreadState) (key : String) (thread : Option String) : ThreadState :=
  { s with bindings := fun other => if other = key then thread else s.bindings other }

/-- An execution drops its handle on its lock and its guard. -/
def release (s : ThreadState) (execution : Nat) : ThreadState :=
  { s with locks := s.locks.release execution }

end ThreadState

/-- How the operations of an execution are answered. What is not said may be answered with
anything: what the peer sends, what fails and what runs out of time. -/
def Performs (execution : Nat) : (op : ProviderOp) → op.Ans → ThreadState → ThreadState → Prop
  | .threadLock key, lock, s, s' =>
    lock = (s.locks.acquire key execution).1 ∧
      s' = { s with locks := (s.locks.acquire key execution).2 }
  | .lockThread lock, .guarded, s, s' =>
    s.locks.isFree lock = true ∧ s' = { s with locks := s.locks.hold lock execution }
  | .lockThread _, .cancelled, s, s' | .lockThread _, .elapsed, s, s' | .unlockThread, _, s, s' =>
    s' = s.release execution
  | .getBinding key, found, s, s' => s' = s ∧ ∀ bound, found = .ok bound → bound = s.bindings key
  | .putBinding key threadId, .ok _, s, s' => s' = s.bind key (some threadId)
  | .deleteBinding key, .ok _, s, s' => s' = s.bind key none
  | .rpc (.turnStart threadId _) .lockWriter, _, s, s' =>
    s' = { s with turns := (threadId, execution) :: s.turns }
  | .rpc (.turnStart threadId _) (.wait _), .answered (some (.error e)), s, s' =>
    (Responded e → s' = s.finish threadId execution) ∧ (¬Responded e → s' = s)
  | .receive threadId turnId, .received notification, s, s'
  | .receiveCleanup threadId turnId, .received notification, s, s' =>
    s' = if completesTurn notification threadId turnId then s.finish threadId execution else s
  | .finishTurn threadId owner, _, s, s' => s' = s.finish threadId owner
  | _, _, s, s' => s' = s

/-- Only an operation that awaits is abandoned. The session store may have the order to bind
or to delete by then. -/
def Abandons (execution : Nat) : ProviderOp → ThreadState → ThreadState → Prop
  | .putBinding key threadId, s, s' =>
    s' = s.release execution ∨ s' = (s.bind key (some threadId)).release execution
  | .deleteBinding key, s, s' =>
    s' = s.release execution ∨ s' = (s.bind key none).release execution
  | .connection, s, s' | .threadLock _, s, s' | .lockThread _, s, s' | .getBinding _, s, s'
  | .rpc _ .lockWriter, s, s' | .rpc _ (.writeByte _), s, s' | .rpc _ .flush, s, s'
  | .rpc _ (.wait _), s, s' | .loadReference _, s, s' | .receive .., s, s'
  | .receiveCleanup .., s, s' | .stall, s, s' =>
    s' = s.release execution
  | _, _, _ => False

abbrev behavior : Snapshot.Behavior providerCalls ThreadState where
  Performs := Performs
  Abandons := Abandons

inductive TaskEnd where
  | execution (result : Outcome ImageResponse)
  | deletion (result : Outcome Unit)
  | peer

/-- The app-server ends turns when it likes. -/
def endTurns : List (String × Nat) → Program providerCalls TaskEnd
  | [] => .done .peer
  | (threadId, execution) :: later => .await (.finishTurn threadId execution) fun _ => endTurns later

/-- The programs that share the state. -/
inductive Tasks (p : AppServerImageProvider) : Program providerCalls TaskEnd → Prop
  | execution (rounds : Nat) (request : ImageRequest) (requestId : String) :
      Tasks p ((executeInner p rounds request requestId).run >>= fun result =>
        pure (.execution result))
  | deletion (key : String) :
      Tasks p ((deleteSession key).run >>= fun result => pure (.deletion result))
  | peer (turns : List (String × Nat)) : Tasks p (endTurns turns)

theorem tasks_keep {p : AppServerImageProvider} {task : Program providerCalls TaskEnd}
    (spawned : Tasks p task) : task.Keeps executionContract ({} : ExecutionPhase) fun _ _ => True := by
  cases spawned with
  | execution rounds request requestId =>
    exact keeps_bind.mpr (Keeps.mono executeInner_reports fun _ _ _ => trivial)
  | deletion key => exact keeps_bind.mpr (Keeps.mono (calm_deleteSession key) fun _ _ _ => trivial)
  | peer turns =>
    induction turns with
    | nil => exact trivial
    | cons turn later ih => exact ⟨trivial, fun _ _ => ih⟩

abbrev ThreadView := Snapshot executionMonitor ThreadState

abbrev ThreadStep (v : ThreadView) (event : PoolEvent providerCalls) (v' : ThreadView) : Prop :=
  Snapshot.Step executionContract behavior ({} : ExecutionPhase) v event v'

/-- At most one turn is in flight on a thread. -/
def OneTurn (v : ThreadView) : Prop := (v.shared.turns.map Prod.fst).Nodup

/-- A turn starts on a thread on which every turn in flight belongs to an execution that
holds the lock of the same key. -/
def Addressed (v : ThreadView) : PoolEvent providerCalls → Prop
  | .exchanged execution ⟨.rpc (.turnStart threadId _) .lockWriter, _⟩ =>
    ∀ other, (threadId, other) ∈ v.shared.turns → ∃ phase phase',
      v.phase execution = some phase ∧ v.phase other = some phase' ∧ phase'.guards = true ∧
        phase'.key = phase.key
  | _ => True

/-! ## Invariants -/

/-- The lock key of an execution. -/
def keyOf (v : ThreadView) (execution : Nat) : Option String :=
  (v.phase execution).bind ExecutionPhase.key

structure Guarded (v : ThreadView) : Prop where
  locks : v.shared.locks.Valid (keyOf v)
  handles : ∀ execution phase lock, v.phase execution = some phase → phase.lock = some lock →
    (execution, lock) ∈ v.shared.locks.handles
  guards : ∀ execution phase, v.phase execution = some phase → phase.guards = true →
    ∃ lock, (lock, execution) ∈ v.shared.locks.guards

/-- The turns in flight were handed over by their executions. -/
structure Started (v : ThreadView) : Prop where
  spawned : ∀ threadId execution, (threadId, execution) ∈ v.shared.turns → execution < v.spawned
  handed : ∀ threadId execution phase, (threadId, execution) ∈ v.shared.turns →
    v.phase execution = some phase → phase.turn.handed

section

variable {v v' : ThreadView} {event : PoolEvent providerCalls} {execution other : Nat}
  {phase phase' p : ExecutionPhase} {s' : ThreadState}

theorem keyOf_self : keyOf (v.exchange execution phase' s') execution = phase'.key := by
  simp [keyOf, Snapshot.exchange]

theorem keyOf_other (apart : other ≠ execution) :
    keyOf (v.exchange execution phase' s') other = keyOf v other := by
  simp [keyOf, Snapshot.exchange, set_other _ _ apart]

/-! ## Locks -/

/-- An operation on something else. -/
theorem Guarded.quiet (guarded : Guarded v) (live : v.phase execution = some phase)
    (locks : s'.locks = v.shared.locks) (key : phase'.key = phase.key)
    (lock : phase'.lock = phase.lock) (guards : phase'.guards = phase.guards) :
    Guarded (v.exchange execution phase' s') := by
  have shared : (v.exchange execution phase' s').shared.locks = v.shared.locks := locks
  constructor
  · rw [shared]
    apply guarded.locks.renamed
    intro other lock _
    by_cases own : other = execution
    · subst own
      rw [keyOf_self, key]
      simp [keyOf, live]
    · exact keyOf_other own
  · intro other p l found named
    rw [shared]
    obtain ⟨rfl, rfl⟩ | ⟨_, still⟩ := live_exchange found
    · exact guarded.handles _ phase l live (lock ▸ named)
    · exact guarded.handles other p l still named
  · intro other p found held
    rw [shared]
    obtain ⟨rfl, rfl⟩ | ⟨_, still⟩ := live_exchange found
    · exact guarded.guards _ phase live (guards ▸ held)
    · exact guarded.guards other p still held

/-- An execution names its key and gets a handle. -/
theorem Guarded.acquired {key : String} (guarded : Guarded v)
    (live : v.phase execution = some phase) (fresh : phase.key = none) :
    Guarded (v.exchange execution
      { phase with key := some key, lock := some (v.shared.locks.acquire key execution).1 }
      { v.shared with locks := (v.shared.locks.acquire key execution).2 }) := by
  have unnamed : keyOf v execution = none := by simp [keyOf, live, fresh]
  have unhandled : ∀ lock, (execution, lock) ∉ v.shared.locks.handles := by
    intro lock handle
    obtain ⟨key, named, _⟩ := guarded.locks.mapped execution lock handle
    cases unnamed.symm.trans named
  constructor
  · exact guarded.locks.acquire unhandled keyOf_self fun other apart => keyOf_other apart
  · intro other p l found named
    show (other, l) ∈ (v.shared.locks.acquire key execution).2.handles
    rw [KeyedLocks.acquire_handle]
    obtain ⟨rfl, rfl⟩ | ⟨_, still⟩ := live_exchange found
    · cases named
      exact List.mem_cons_self ..
    · exact List.mem_cons_of_mem _ (guarded.handles other p l still named)
  · intro other p found held
    show ∃ lock, (lock, other) ∈ (v.shared.locks.acquire key execution).2.guards
    rw [KeyedLocks.acquire_guards]
    obtain ⟨rfl, rfl⟩ | ⟨_, still⟩ := live_exchange found
    · exact guarded.guards _ phase live held
    · exact guarded.guards other p still held

theorem Guarded.held {lock : Nat} (guarded : Guarded v) (live : v.phase execution = some phase)
    (own : phase.lock = some lock) (free : v.shared.locks.isFree lock = true) :
    Guarded (v.exchange execution { phase with guards := true }
      { v.shared with locks := v.shared.locks.hold lock execution }) := by
  constructor
  · apply KeyedLocks.Valid.hold
    · apply guarded.locks.renamed
      intro other l _
      by_cases own : other = execution
      · subst own
        rw [keyOf_self]
        simp [keyOf, live]
      · exact keyOf_other own
    · exact guarded.handles execution phase lock live own
    · exact free
  · intro other p l found named
    obtain ⟨rfl, rfl⟩ | ⟨_, still⟩ := live_exchange found
    · exact guarded.handles _ phase l live named
    · exact guarded.handles other p l still named
  · intro other p found held
    obtain ⟨rfl, rfl⟩ | ⟨_, still⟩ := live_exchange found
    · exact ⟨lock, List.mem_cons_self ..⟩
    · obtain ⟨l, guard⟩ := guarded.guards other p still held
      exact ⟨l, List.mem_cons_of_mem _ guard⟩

/-- An execution gives its lock back. -/
theorem Guarded.released (guarded : Guarded v) (lock : phase'.lock = none)
    (guards : phase'.guards = false) :
    Guarded (v.exchange execution phase' (v.shared.release execution)) := by
  constructor
  · exact guarded.locks.release fun other apart => keyOf_other apart
  · intro other p l found named
    obtain ⟨rfl, rfl⟩ | ⟨apart, still⟩ := live_exchange found
    · cases lock.symm.trans named
    · exact KeyedLocks.mem_release_handles.mpr ⟨guarded.handles other p l still named, apart⟩
  · intro other p found held
    obtain ⟨rfl, rfl⟩ | ⟨apart, still⟩ := live_exchange found
    · cases guards.symm.trans held
    · obtain ⟨l, guard⟩ := guarded.guards other p still held
      exact ⟨l, KeyedLocks.mem_release_guards.mpr ⟨guard, apart⟩⟩

theorem Guarded.dropped {bindings : String → Option String} (guarded : Guarded v) :
    Guarded (v.drop execution { v.shared.release execution with bindings := bindings }) := by
  constructor
  · apply guarded.locks.release
    intro other apart
    simp [keyOf, Snapshot.drop, set_other _ _ apart]
  · intro other p l found named
    obtain ⟨apart, still⟩ := live_drop found
    exact KeyedLocks.mem_release_handles.mpr ⟨guarded.handles other p l still named, apart⟩
  · intro other p found held
    obtain ⟨apart, still⟩ := live_drop found
    obtain ⟨l, guard⟩ := guarded.guards other p still held
    exact ⟨l, KeyedLocks.mem_release_guards.mpr ⟨guard, apart⟩⟩

theorem abandons_released {op : ProviderOp} {s : ThreadState}
    (abandons : Abandons execution op s s') :
    ∃ bindings, s' = { s.release execution with bindings := bindings } := by
  unfold Abandons at abandons
  split at abandons
  case h_1 | h_2 => obtain rfl | rfl := abandons <;> exact ⟨_, rfl⟩
  all_goals
    first
    | exact ⟨_, abandons⟩
    | exact abandons.elim

/-- What a request to the app-server does to the turns in flight: one starts, or ends. -/
theorem rpc_turns {call : AppServerCall} {op : RpcOp} {answer : op.Ans} {s : ThreadState}
    (performs : Performs execution (.rpc call op) answer s s') :
    s' = s ∨ (∃ threadId, s' = s.finish threadId execution) ∨
      ∃ threadId input, call = .turnStart threadId input ∧ op = .lockWriter ∧
        s' = { s with turns := (threadId, execution) :: s.turns } := by
  cases call with
  | turnStart threadId input =>
    cases op with
    | lockWriter => exact .inr (.inr ⟨threadId, input, rfl, rfl, performs⟩)
    | wait id =>
      obtain (_ | e | _) | _ | _ := answer
      · exact .inl performs
      · by_cases responded : Responded e
        · exact .inr (.inl ⟨threadId, performs.1 responded⟩)
        · exact .inl (performs.2 responded)
      · exact .inl performs
      · exact .inl performs
      · exact .inl performs
    | _ => exact .inl performs
  | _ => exact .inl performs

theorem rpc_next {call : AppServerCall} {op : RpcOp} {answer : op.Ans} :
    (phase.next (.rpc call op) answer).key = phase.key ∧
      (phase.next (.rpc call op) answer).lock = phase.lock ∧
      (phase.next (.rpc call op) answer).guards = phase.guards := by
  cases call <;> exact ⟨rfl, rfl, rfl⟩

theorem finish_locks {s : ThreadState} {threadId : String} {ended : Bool} :
    (if ended then s.finish threadId execution else s).locks = s.locks := by
  cases ended <;> rfl

theorem step_guarded (formed : v.WellFormed) (guarded : Guarded v) (step : ThreadStep v event v') :
    Guarded v' := by
  cases step with
  | spawn =>
    constructor
    · apply guarded.locks.renamed
      intro other lock handle
      obtain ⟨key, named, _⟩ := guarded.locks.mapped other lock handle
      have apart : other ≠ v.spawned := by
        rintro rfl
        simp [keyOf, (formed.fresh v.spawned (Nat.le_refl _)).1] at named
      simp [keyOf, Snapshot.spawn, set_other _ _ apart]
    · intro other p l found named
      obtain rfl | still := live_spawn found
      · cases named
      · exact guarded.handles other p l still named
    · intro other p found held
      obtain rfl | still := live_spawn found
      · cases held
      · exact guarded.guards other p still held
  | @drop execution phase op s' live allowed abandons =>
    obtain ⟨_, rfl⟩ := abandons_released abandons
    exact guarded.dropped
  | @exchange execution phase op answer s' live allowed _ performs =>
    cases op with
    | threadLock key =>
      obtain ⟨rfl, rfl⟩ := performs
      exact guarded.acquired live allowed
    | lockThread lock =>
      cases answer with
      | guarded =>
        obtain ⟨free, rfl⟩ := performs
        exact guarded.held live allowed.1 free
      | cancelled | elapsed =>
        obtain rfl := performs
        exact guarded.released rfl allowed.2
    | unlockThread =>
      obtain rfl := performs
      exact guarded.released rfl rfl
    | getBinding key =>
      obtain ⟨rfl, _⟩ := performs
      exact guarded.quiet live rfl rfl rfl rfl
    | putBinding | deleteBinding =>
      cases answer <;> obtain rfl := performs <;> exact guarded.quiet live rfl rfl rfl rfl
    | receive | receiveCleanup =>
      cases answer <;> obtain rfl := performs <;>
        first
        | exact guarded.quiet live finish_locks rfl rfl rfl
        | exact guarded.quiet live rfl rfl rfl rfl
    | rpc call op =>
      obtain ⟨key, lock, guards⟩ := @rpc_next phase call op answer
      apply guarded.quiet live _ key lock guards
      obtain rfl | ⟨_, rfl⟩ | ⟨_, _, _, _, rfl⟩ := rpc_turns performs <;> rfl
    | _ =>
      obtain rfl := performs
      exact guarded.quiet live rfl rfl rfl rfl

/-! ## Turns -/

/-- What happens to the turns in flight: some end, or the execution of a step starts one. -/
inductive Turns (v : ThreadView) : PoolEvent providerCalls → ThreadState → Prop
  | ends {event : PoolEvent providerCalls} {s' : ThreadState}
      (fewer : List.Sublist s'.turns v.shared.turns) : Turns v event s'
  | starts {execution : Nat} {threadId : String} {input : Json} {answer : Unit} {s' : ThreadState}
      (more : s'.turns = (threadId, execution) :: v.shared.turns) :
      Turns v (.exchanged execution ⟨.rpc (.turnStart threadId input) .lockWriter, answer⟩) s'

theorem finish_fewer {s : ThreadState} {threadId : String} {owner : Nat} :
    List.Sublist (s.finish threadId owner).turns s.turns := List.filter_sublist

theorem finish_if_fewer {s : ThreadState} {threadId : String} {owner : Nat} {ended : Bool} :
    List.Sublist (if ended then s.finish threadId owner else s).turns s.turns := by
  cases ended with
  | false => exact .refl _
  | true => exact finish_fewer

theorem step_turns (step : ThreadStep v event v') : Turns v event v'.shared := by
  cases step with
  | spawn => exact .ends (.refl _)
  | drop live allowed abandons =>
    obtain ⟨_, rfl⟩ := abandons_released abandons
    exact .ends (.refl _)
  | @exchange execution phase op answer s' live allowed _ performs =>
    cases op with
    | rpc call op =>
      obtain rfl | ⟨threadId, rfl⟩ | ⟨threadId, input, rfl, rfl, rfl⟩ := rpc_turns performs
      · exact .ends (.refl _)
      · exact .ends finish_fewer
      · exact .starts rfl
    | threadLock key =>
      obtain ⟨_, rfl⟩ := performs
      exact .ends (.refl _)
    | getBinding key =>
      obtain ⟨rfl, _⟩ := performs
      exact .ends (.refl _)
    | lockThread lock =>
      cases answer with
      | guarded =>
        obtain ⟨_, rfl⟩ := performs
        exact .ends (.refl _)
      | cancelled | elapsed =>
        obtain rfl := performs
        exact .ends (.refl _)
    | putBinding | deleteBinding =>
      cases answer <;> obtain rfl := performs <;> exact .ends (.refl _)
    | receive | receiveCleanup =>
      cases answer <;> obtain rfl := performs <;>
        first
        | exact .ends finish_if_fewer
        | exact .ends (.refl _)
    | finishTurn threadId owner =>
      obtain rfl := performs
      exact .ends finish_fewer
    | _ =>
      obtain rfl := performs
      exact .ends (.refl _)

theorem step_started (formed : v.WellFormed) (started : Started v) (step : ThreadStep v event v') :
    Started v' := by
  have turns := step_turns step
  cases step with
  | spawn =>
    constructor
    · intro threadId owner flying
      exact Nat.lt_succ_of_lt (started.spawned threadId owner flying)
    · intro threadId owner p flying found
      have apart : owner ≠ v.spawned := Nat.ne_of_lt (started.spawned threadId owner flying)
      exact started.handed threadId owner p flying ((set_other _ _ apart).symm.trans found)
  | @drop execution phase op s' live allowed abandons =>
    obtain ⟨_, rfl⟩ := abandons_released abandons
    constructor
    · exact started.spawned
    · intro threadId owner p flying found
      exact started.handed threadId owner p flying (live_drop found).2
  | @exchange execution phase op answer s' live allowed _ performs =>
    have known := formed.live_spawned live
    have stays : ∀ threadId owner p, (threadId, owner) ∈ v.shared.turns →
        (v.exchange execution (executionMonitor.next phase op answer) s').phase owner = some p →
        p.turn.handed := by
      intro threadId owner p flying found
      obtain ⟨rfl, rfl⟩ | ⟨_, still⟩ := live_exchange found
      · exact (phase_handed phase op answer).mpr
          (.inl (started.handed threadId owner phase flying live))
      · exact started.handed threadId owner p flying still
    cases turns with
    | ends fewer =>
      constructor
      · intro threadId owner flying
        exact started.spawned threadId owner (fewer.subset flying)
      · intro threadId owner p flying
        exact stays threadId owner p (fewer.subset flying)
    | @starts _ thread _ _ _ more =>
      have either : ∀ {turn}, turn ∈ s'.turns →
          turn = (thread, execution) ∨ turn ∈ v.shared.turns := by
        intro turn flying
        rw [show s'.turns = _ from more] at flying
        exact List.mem_cons.mp flying
      constructor
      · intro threadId owner flying
        obtain same | older := either flying
        · cases same
          exact known
        · exact started.spawned threadId owner older
      · intro threadId owner p flying found
        obtain same | older := either flying
        · cases same
          simp only [Snapshot.exchange, set_self, Option.some.injEq] at found
          subst found
          exact (phase_handed phase _ _).mpr (.inr rfl)
        · exact stays threadId owner p older found

/-- One execution at a time holds the lock of a key. -/
theorem Guarded.exclusive (guarded : Guarded v) (live : v.phase execution = some phase)
    (live' : v.phase other = some phase') (guards : phase.guards = true)
    (guards' : phase'.guards = true) (same : phase'.key = phase.key) : execution = other := by
  obtain ⟨lock, guard⟩ := guarded.guards execution phase live guards
  obtain ⟨lock', guard'⟩ := guarded.guards other phase' live' guards'
  have keys : keyOf v execution = keyOf v other := by simp [keyOf, live, live', same]
  exact guarded.locks.alone guard guard' keys

/-- An execution under the key of its lock starts a turn alone. -/
theorem step_oneTurn (guarded : Guarded v) (started : Started v) (alone : OneTurn v)
    (step : ThreadStep v event v') (addressed : Addressed v event) : OneTurn v' := by
  have turns := step_turns step
  cases turns with
  | ends fewer => exact List.Nodup.sublist (fewer.map _) alone
  | @starts execution threadId input answer _ more =>
    unfold OneTurn
    rw [more]
    refine List.nodup_cons.mpr ⟨fun member => ?_, alone⟩
    obtain ⟨⟨_, other⟩, flying, rfl⟩ := List.mem_map.mp member
    obtain ⟨phase, phase', live, live', holds, same⟩ := addressed other flying
    cases step with
    | exchange also allowed expected performs =>
      cases also.symm.trans live
      obtain rfl := guarded.exclusive live live' allowed.1 holds same
      exact allowed.2 (started.handed _ execution phase flying live)

/-- The condition is exact where a turn starts. -/
theorem starts_alone_iff (guarded : Guarded v) (started : Started v) (alone : OneTurn v)
    {threadId : String} {input : Json}
    (step : ThreadStep v (.exchanged execution ⟨.rpc (.turnStart threadId input) .lockWriter, ()⟩) v') :
    OneTurn v' ↔
      Addressed v (.exchanged execution ⟨.rpc (.turnStart threadId input) .lockWriter, ()⟩) := by
  constructor
  · intro after other flying
    cases step with
    | exchange live allowed expected performs =>
      obtain rfl : _ = _ := performs
      have fresh := (List.nodup_cons.mp after).1
      exact absurd (List.mem_map_of_mem flying) fresh
  · exact step_oneTurn guarded started alone step

end

/-! ## Runs -/

abbrev ThreadPool := Pool executionMonitor ThreadState TaskEnd

/-- The runs over a session store whose events all meet a condition. -/
abbrev ThreadRun (p : AppServerImageProvider) (bindings : String → Option String)
    (condition : ThreadView → PoolEvent providerCalls → Prop) (s : ThreadPool) : Prop :=
  Pool.Run (Tasks p) behavior ({} : ExecutionPhase) (ThreadState.initial bindings) condition s

abbrev ThreadPoolStep (p : AppServerImageProvider) (s : ThreadPool)
    (event : PoolEvent providerCalls) (s' : ThreadPool) : Prop :=
  Pool.Step (Tasks p) behavior ({} : ExecutionPhase) s event s'

/-- What every run keeps. -/
structure Orderly (v : ThreadView) : Prop where
  formed : v.WellFormed
  guarded : Guarded v
  started : Started v

section

variable {p : AppServerImageProvider} {bindings : String → Option String} {v v' : ThreadView}
  {condition : ThreadView → PoolEvent providerCalls → Prop} {event : PoolEvent providerCalls}
  {s s' : ThreadPool}

theorem initial_orderly : Orderly (Snapshot.empty (ThreadState.initial bindings)) := by
  refine ⟨empty_wellFormed _, ⟨KeyedLocks.valid_empty, ?_, ?_⟩, ⟨?_, ?_⟩⟩ <;>
    simp [Snapshot.empty, ThreadState.initial]

theorem step_orderly (orderly : Orderly v) (step : ThreadStep v event v') : Orderly v' where
  formed := step.wellFormed orderly.formed
  guarded := step_guarded orderly.formed orderly.guarded step
  started := step_started orderly.formed orderly.started step

theorem thread_justified (condition : ThreadView → PoolEvent providerCalls → Prop) :
    Pool.Justifies condition behavior executionContract :=
  fun _ _ _ _ _ _ _ _ _ => trivial

/-- An invariant of runs may use that they are orderly. -/
theorem threadRun_invariant {Inv : ThreadView → Prop}
    (initial : Inv (Snapshot.empty (ThreadState.initial bindings)))
    (preserved : ∀ v event v', Orderly v → Inv v → ThreadStep v event v' → condition v event →
      Inv v') (run : ThreadRun p bindings condition s) :
    (Orderly s.view ∧ Inv s.view) ∧ s.Keeps executionContract fun _ _ => True := by
  have tasks : ∀ task, Tasks p task → task.Keeps executionContract ({} : ExecutionPhase)
      fun _ _ => True := fun _ => tasks_keep
  let Both : ThreadView → Prop := fun v => Orderly v ∧ Inv v
  have start : Both (Snapshot.empty (ThreadState.initial bindings)) := ⟨initial_orderly, initial⟩
  have kept : ∀ v event v', Both v → ThreadStep v event v' → condition v event → Both v' := by
    intro v event v' ⟨orderly, holds⟩ step met
    exact ⟨step_orderly orderly step, preserved v event v' orderly holds step met⟩
  exact Pool.run_invariant tasks (thread_justified condition) start kept run

theorem threadStep_refines (kept : s.Keeps executionContract fun _ _ => True)
    (step : ThreadPoolStep p s event s') : ThreadStep s.view event s'.view := by
  have tasks : ∀ task, Tasks p task → task.Keeps executionContract ({} : ExecutionPhase)
      fun _ _ => True := fun _ => tasks_keep
  exact (Pool.step_refines kept tasks (thread_justified fun _ _ => True) step trivial).1

theorem initial_oneTurn : OneTurn (Snapshot.empty (ThreadState.initial bindings)) := List.nodup_nil

/-- As long as turns start beside turns of the same lock only, a thread has one turn; a
turn that starts otherwise is a second one. -/
theorem one_turn_per_thread :
    (∀ s, ThreadRun p bindings Addressed s → OneTurn s.view) ∧
    ∀ s execution threadId input s', ThreadRun p bindings (fun _ _ => True) s → OneTurn s.view →
      ThreadPoolStep p s
        (.exchanged execution ⟨.rpc (.turnStart threadId input) .lockWriter, ()⟩) s' →
      (OneTurn s'.view ↔ Addressed s.view
        (.exchanged execution ⟨.rpc (.turnStart threadId input) .lockWriter, ()⟩)) := by
  constructor
  · intro s run
    have preserved : ∀ v event v', Orderly v → OneTurn v → ThreadStep v event v' →
        Addressed v event → OneTurn v' := fun v event v' orderly alone step addressed =>
      step_oneTurn orderly.guarded orderly.started alone step addressed
    exact (threadRun_invariant initial_oneTurn preserved run).1.2
  · intro s execution threadId input s' run alone step
    let Any : ThreadView → Prop := fun _ => True
    have start : Any (Snapshot.empty (ThreadState.initial bindings)) := trivial
    obtain ⟨⟨orderly, _⟩, kept⟩ := threadRun_invariant start (fun _ _ _ _ _ _ _ => trivial) run
    exact starts_alone_iff orderly.guarded orderly.started alone (threadStep_refines kept step)

end

/-! ## A session and its thread -/

/-- The answers of an app-server that never fails. -/
def threadAnswers (execution : Nat) : (op : ProviderOp) → ThreadState →
    Option (op.Ans × ThreadState)
  | .connection, s => some (.ok (), s)
  | .threadLock key, s => some ((s.locks.acquire key execution).1,
      { s with locks := (s.locks.acquire key execution).2 })
  | .lockThread lock, s =>
    if s.locks.isFree lock then some (.guarded, { s with locks := s.locks.hold lock execution })
    else none
  | .getBinding key, s => some (.ok (s.bindings key), s)
  | .subscribe, s => some ((), s)
  | .rpc (.turnStart threadId _) .lockWriter, s =>
    some ((), { s with turns := (threadId, execution) :: s.turns })
  | .rpc (.threadResume _) .lockWriter, s => some ((), s)
  | .rpc _ .checkClosed, s => some (none, s)
  | .rpc _ .nextId, s => some (1, s)
  | .rpc _ (.register _), s | .rpc _ .unlockWriter, s => some ((), s)
  | .rpc _ (.writeByte _), s | .rpc _ .flush, s => some (true, s)
  | .rpc _ (.wait _), s => some (.answered (some (.ok startedTurn)), s)
  | _, _ => none

theorem threadAnswers_performs (execution : Nat) (op : ProviderOp) (s : ThreadState)
    (answer : op.Ans) (s' : ThreadState)
    (answered : threadAnswers execution op s = some (answer, s')) :
    Performs execution op answer s s' := by
  cases op with
  | threadLock key =>
    cases answered
    exact ⟨rfl, rfl⟩
  | getBinding key =>
    cases answered
    refine ⟨rfl, fun bound same => ?_⟩
    cases same
    rfl
  | lockThread lock =>
    by_cases free : s.locks.isFree lock = true
    · rw [threadAnswers, if_pos free] at answered
      cases answered
      exact ⟨free, rfl⟩
    · rw [threadAnswers, if_neg free] at answered
      cases answered
  | rpc call op => cases call <;> cases op <;> cases answered <;> rfl
  | connection | subscribe =>
    cases answered
    rfl
  | _ => cases answered

/-- The session `kite` is on the thread that the second request names. -/
def kiteBindings : String → Option String := fun key =>
  if key = "kite" then some "thread-1" else none

def onSession : ImageRequest :=
  { ImageRequest.generate "a kite" with session := { mode := .persistent, key := some "kite" } }

def onThread : ImageRequest :=
  { ImageRequest.generate "a kite" with
    session := { mode := .thread, threadId := some "thread-1" } }

def execution (request : ImageRequest) : Program providerCalls TaskEnd :=
  (executeInner sampleProvider 4 request "request-1").run >>= fun result =>
    pure (.execution result)

/-- Both executions run until their turns are handed over. -/
def bothStart : List (Pool.Move providerCalls TaskEnd) :=
  .spawn (execution onSession) :: List.replicate 17 (.go 0) ++
    .spawn (execution onThread) :: List.replicate 16 (.go 1)

def noExecutions : ThreadPool :=
  ⟨Snapshot.empty (ThreadState.initial kiteBindings), fun _ => .done .peer⟩

def runExecutions (moves : List (Pool.Move providerCalls TaskEnd)) : Option ThreadPool :=
  Pool.schedule threadAnswers (fun _ _ _ => none) ({} : ExecutionPhase) moves noExecutions

theorem schedule_run {moves : List (Pool.Move providerCalls TaskEnd)} {s : ThreadPool}
    (allowed : ∀ task, Pool.Move.spawn task ∈ moves → Tasks sampleProvider task)
    (scheduled : runExecutions moves = some s) :
    ThreadRun sampleProvider kiteBindings (fun _ _ => True) s := by
  have stays : ∀ (execution : Nat) (op : ProviderOp) (s s' : ThreadState),
      (none : Option ThreadState) = some s' → Abandons execution op s s' := by
    intro _ _ _ _ impossible
    cases impossible
  have path : Pool.Path (Tasks sampleProvider) behavior ({} : ExecutionPhase) (fun _ _ => True)
      noExecutions s :=
    Pool.schedule_path threadAnswers_performs stays allowed .here scheduled
  exact ⟨_, path⟩

theorem both_start : (runExecutions bothStart).any (fun s =>
    decide (s.view.shared.turns = [("thread-1", 1), ("thread-1", 0)])) = true := by
  decide +kernel

/-- The session key and the thread id are two locks for one thread. -/
theorem session_and_thread_collide : ∃ s : ThreadPool,
    ThreadRun sampleProvider kiteBindings (fun _ _ => True) s ∧
      s.view.shared.turns = [("thread-1", 1), ("thread-1", 0)] ∧ ¬OneTurn s.view := by
  obtain ⟨s, scheduled, flying⟩ := (Option.any_eq_true ..).mp both_start
  have turns := of_decide_eq_true flying
  refine ⟨s, schedule_run ?_ scheduled, turns, ?_⟩
  · intro task member
    simp only [bothStart, List.cons_append, List.mem_append, List.mem_cons, List.mem_replicate,
      reduceCtorEq, and_false, false_or, or_false, Pool.Move.spawn.injEq] at member
    obtain rfl | rfl := member <;> exact .execution ..
  · intro alone
    unfold OneTurn at alone
    rw [turns] at alone
    exact absurd alone (by decide)

end ImagegenBridge.CodexAppServer.Threads
