import ImagegenBridge.CodexAppServer.Sessions
import ImagegenBridge.CodexAppServer.Threads

/-!
# Sessions stay on their thread

The lock of a session key guards the look-up and the binding of its thread, whoever else
holds locks meanwhile.
-/

namespace ImagegenBridge.CodexAppServer.Threads

open Program Snapshot

/-- The programs that share the state while the binding of a key is not deleted. -/
inductive SessionTasks (p : AppServerImageProvider) (kept : String) :
    Program providerCalls TaskEnd → Prop
  | execution (rounds : Nat) (request : ImageRequest) (requestId : String) :
      SessionTasks p kept ((executeInner p rounds request requestId).run >>= fun result =>
        pure (.execution result))
  | deletion {key : String} : key ≠ kept →
      SessionTasks p kept ((deleteSession key).run >>= fun result => pure (.deletion result))
  | peer (turns : List (String × Nat)) : SessionTasks p kept (endTurns turns)

abbrev sharedMonitor : Monitor providerCalls := executionMonitor.both sessionMonitor

abbrev sharedContract (kept : String) : Contract sharedMonitor :=
  executionContract.both (sessionContract kept none)

/-- An execution reports the thread of its session. -/
def Told : TaskEnd → SessionPhase → Prop
  | .execution (.ok response), phase => phase.Reports response
  | _, _ => True

variable {p : AppServerImageProvider} {kept : String}

theorem keyed_allowed {own : Option String} {phase : SessionPhase} {op : ProviderOp}
    (allowed : (sessionContract kept own).Allow phase op) :
    (sessionContract kept none).Allow phase op := by
  cases op with
  | rpc call op =>
    cases call with
    | turnStart => exact ⟨allowed.1, nofun⟩
    | _ => trivial
  | _ => exact allowed

theorem sessionTasks_tell {task : Program providerCalls TaskEnd}
    (spawned : SessionTasks p kept task) :
    task.Keeps (sessionContract kept none) ({} : SessionPhase) Told := by
  cases spawned with
  | execution rounds request requestId =>
    have tells : ((executeInner p rounds request requestId).run >>= fun result =>
        (pure (.execution result) : Program providerCalls TaskEnd)).Keeps
          (sessionContract kept request.session.key) {} Told := by
      apply keeps_bind.mpr
      apply Keeps.mono executeInner_keepsSession
      intro result t told
      cases result <;> exact told
    have allowed : ∀ t op, (sessionContract kept request.session.key).Allow t op →
        (sessionContract kept none).Allow t op := fun _ _ => keyed_allowed
    exact tells.weaken allowed fun _ _ _ => id
  | deletion other =>
    apply keeps_bind.mpr
    apply Keeps.mono (deleteSession_keepsSession other rfl)
    intro _ _ _
    trivial
  | peer turns =>
    induction turns with
    | nil => exact trivial
    | cons turn later ih => exact ⟨trivial, fun _ _ => ih⟩

theorem sessionTasks_keep {task : Program providerCalls TaskEnd}
    (spawned : SessionTasks p kept task) :
    task.Keeps (sharedContract kept) (({}, {}) : ExecutionPhase × SessionPhase)
      fun ended t => Told ended t.2 := by
  have kept' : task.Keeps executionContract ({} : ExecutionPhase) fun _ _ => True := by
    cases spawned with
    | execution rounds request requestId => exact tasks_keep (.execution rounds request requestId)
    | deletion => exact tasks_keep (.deletion (p := p) _)
    | peer turns => exact tasks_keep (.peer (p := p) turns)
  exact (kept'.both (sessionTasks_tell spawned)).mono fun _ _ told => told.2

/-! ## What the phases of an execution tell -/

abbrev SharedView := Snapshot sharedMonitor ThreadState

abbrev SharedStep (kept : String) (v : SharedView) (event : PoolEvent providerCalls)
    (v' : SharedView) : Prop :=
  Snapshot.Step (sharedContract kept) behavior (({}, {}) : ExecutionPhase × SessionPhase) v event v'

/-- Both monitors tell the same lock, and a session is looked up under its lock once. -/
structure Matched (phase : ExecutionPhase × SessionPhase) : Prop where
  key : phase.1.key = phase.2.key
  guards : phase.1.guards = phase.2.guards
  session : ∀ key found, phase.2.session = some (key, found) → phase.2.key = some key
  held : phase.2.session ≠ none → phase.1.guards = true ∨ phase.1.lock = none
  bound : phase.2.session = none → phase.2.bound = none

theorem matched_next {phase : ExecutionPhase × SessionPhase} {op : ProviderOp} {answer : op.Ans}
    (matched : Matched phase) (allowed : (sharedContract kept).Allow phase op) :
    Matched (sharedMonitor.next phase op answer) := by
  obtain ⟨key, guards, session, held, bound⟩ := matched
  obtain ⟨first, second⟩ := allowed
  cases op with
  | threadLock name =>
    have fresh : phase.2.session = none := by
      cases looked : phase.2.session with
      | none => rfl
      | some pair =>
        have unnamed : phase.2.key = none := second
        cases unnamed.symm.trans (session pair.1 pair.2 looked)
    refine ⟨rfl, guards, ?_, ?_, bound⟩
    · intro other found looked
      cases fresh.symm.trans looked
    · intro looked
      exact absurd fresh looked
  | lockThread lock =>
    have waits : phase.1.lock = some lock ∧ phase.1.guards = false := first
    have fresh : phase.2.session = none := by
      by_contra looked
      rcases held looked with holds | without
      · cases waits.2.symm.trans holds
      · cases without.symm.trans waits.1
    cases answer with
    | guarded => exact ⟨key, rfl, session, fun looked => absurd fresh looked, bound⟩
    | cancelled | elapsed => exact ⟨key, guards, session, fun looked => absurd fresh looked, bound⟩
  | unlockThread => exact ⟨key, rfl, session, fun _ => .inr rfl, bound⟩
  | getBinding name =>
    cases answer with
    | error e => exact ⟨key, guards, session, held, bound⟩
    | ok found =>
      by_cases holds : phase.2.guards = true
      · have looks : phase.2.next (.getBinding name) (.ok found) =
            { phase.2 with session := some (name, found) } := by
          simp [SessionPhase.next, holds]
        have named := (second holds).1
        have after : sharedMonitor.next phase (.getBinding name) (.ok found) =
            (phase.1, { phase.2 with session := some (name, found) }) :=
          Prod.ext rfl looks
        rw [after]
        refine ⟨key, guards, ?_, fun _ => .inl (guards.trans holds), ?_⟩
        · intro other found' same
          cases same
          exact named
        · intro none_looked
          cases none_looked
      · have stays : phase.2.next (.getBinding name) (.ok found) = phase.2 := by
          simp [SessionPhase.next, holds]
        have after : sharedMonitor.next phase (.getBinding name) (.ok found) = phase :=
          Prod.ext rfl stays
        rw [after]
        exact ⟨key, guards, session, held, bound⟩
  | putBinding name threadId =>
    cases answer with
    | error e => exact ⟨key, guards, session, held, bound⟩
    | ok stored =>
      refine ⟨key, guards, session, held, ?_⟩
      intro fresh
      cases fresh.symm.trans second.2.2.1
  | rpc call op =>
    obtain ⟨sameKey, sameLock, sameGuards⟩ := @rpc_next phase.1 call op answer
    refine ⟨sameKey.trans key, sameGuards.trans guards, session, ?_, bound⟩
    intro looked
    exact (held looked).imp sameGuards.trans sameLock.trans
  | receive | receiveCleanup => cases answer <;> exact ⟨key, guards, session, held, bound⟩
  | _ => exact ⟨key, guards, session, held, bound⟩

/-! ## What happens to a binding -/

theorem performs_bindings {execution : Nat} {op : ProviderOp} {answer : op.Ans} {s s' : ThreadState}
    (performs : Performs execution op answer s s')
    (keeps : ∀ threadId, op ≠ .putBinding kept threadId) (undeleted : op ≠ .deleteBinding kept) :
    s'.bindings kept = s.bindings kept := by
  cases op with
  | putBinding key threadId =>
    have other : kept ≠ key := fun same => keeps threadId (same ▸ rfl)
    cases answer with
    | error e =>
      obtain rfl : s' = s := performs
      rfl
    | ok stored =>
      obtain rfl : s' = s.bind key (some threadId) := performs
      simp [ThreadState.bind, other]
  | deleteBinding key =>
    have other : kept ≠ key := fun same => undeleted (same ▸ rfl)
    cases answer with
    | error e =>
      obtain rfl : s' = s := performs
      rfl
    | ok stored =>
      obtain rfl : s' = s.bind key none := performs
      simp [ThreadState.bind, other]
  | rpc call op =>
    obtain rfl | ⟨_, rfl⟩ | ⟨_, _, _, _, rfl⟩ := rpc_turns performs <;> rfl
  | threadLock key =>
    obtain ⟨-, rfl⟩ := performs
    rfl
  | getBinding key =>
    obtain ⟨rfl, -⟩ := performs
    rfl
  | lockThread lock =>
    cases answer with
    | guarded =>
      obtain ⟨-, rfl⟩ := performs
      rfl
    | cancelled | elapsed =>
      obtain rfl := performs
      rfl
  | receive threadId turnId | receiveCleanup threadId turnId =>
    cases answer with
    | received notification =>
      obtain rfl := performs
      split <;> rfl
    | _ =>
      obtain rfl := performs
      rfl
  | _ =>
    obtain rfl := performs
    rfl

theorem abandons_bindings {execution : Nat} {op : ProviderOp} {s s' : ThreadState}
    (abandons : Abandons execution op s s') (undeleted : op ≠ .deleteBinding kept) :
    s'.bindings kept = s.bindings kept ∨
      ∃ threadId, op = .putBinding kept threadId ∧ s'.bindings kept = some threadId := by
  cases op with
  | putBinding key threadId =>
    obtain rfl | rfl := abandons
    · exact .inl rfl
    · by_cases same : kept = key
      · subst same
        exact .inr ⟨threadId, rfl, by simp [ThreadState.release, ThreadState.bind]⟩
      · exact .inl (by simp [ThreadState.release, ThreadState.bind, same])
  | deleteBinding key =>
    have other : kept ≠ key := fun same => undeleted (same ▸ rfl)
    obtain rfl | rfl := abandons
    · exact .inl rfl
    · exact .inl (by simp [ThreadState.release, ThreadState.bind, other])
  | rpc call op =>
    cases op <;> first
      | exact abandons.elim
      | (obtain rfl := abandons; exact .inl rfl)
  | unlockThread | stageReference | subscribe | elapsed | now | finishTurn => exact abandons.elim
  | _ =>
    obtain rfl := abandons
    exact .inl rfl

/-! ## The thread of a session -/

/-- Who found or bound the thread of the session knows the one that is bound, and who found
none and holds the lock knows that there is none. -/
structure Sticky (kept : String) (v : SharedView) : Prop where
  matched : ∀ id phase, v.phase id = some phase → Matched phase
  bound : ∀ id phase threadId, v.phase id = some phase → phase.2.On kept threadId →
    v.shared.bindings kept = some threadId
  unbound : ∀ id phase, v.phase id = some phase → phase.2.session = some (kept, none) →
    phase.2.bound = none → phase.2.guards = true → v.shared.bindings kept = none
  alone : ∀ id other phase phase' threadId threadId', v.phase id = some phase →
    v.phase other = some phase' → phase.2.Binds kept threadId → phase'.2.Binds kept threadId' →
    id = other

variable {v v' : SharedView} {event : PoolEvent providerCalls} {id : Nat}
  {phase phase' : ExecutionPhase × SessionPhase} {s' : ThreadState}

/-- The binding stays, and the execution comes to know nothing but what is so. -/
theorem Sticky.quiet (sticky : Sticky kept v) (live : v.phase id = some phase)
    (same : s'.bindings kept = v.shared.bindings kept) (matched : Matched phase')
    (bound : ∀ threadId, phase'.2.On kept threadId → v.shared.bindings kept = some threadId)
    (unbound : phase'.2.session = some (kept, none) → phase'.2.bound = none →
      phase'.2.guards = true → v.shared.bindings kept = none)
    (binds : ∀ threadId, phase'.2.Binds kept threadId → phase.2.Binds kept threadId) :
    Sticky kept (v.exchange id phase' s') := by
  have shared : (v.exchange id phase' s').shared.bindings kept = v.shared.bindings kept := same
  have was : ∀ other q threadId, (v.exchange id phase' s').phase other = some q →
      q.2.Binds kept threadId → ∃ q', v.phase other = some q' ∧ q'.2.Binds kept threadId := by
    intro other q threadId found bindsIt
    obtain ⟨rfl, rfl⟩ | ⟨-, still⟩ := live_exchange found
    · exact ⟨phase, live, binds threadId bindsIt⟩
    · exact ⟨q, still, bindsIt⟩
  constructor
  · intro other q found
    obtain ⟨rfl, rfl⟩ | ⟨-, still⟩ := live_exchange found
    · exact matched
    · exact sticky.matched other q still
  · intro other q threadId found on
    rw [shared]
    obtain ⟨rfl, rfl⟩ | ⟨-, still⟩ := live_exchange found
    · exact bound threadId on
    · exact sticky.bound other q threadId still on
  · intro other q found looked free holds
    rw [shared]
    obtain ⟨rfl, rfl⟩ | ⟨-, still⟩ := live_exchange found
    · exact unbound looked free holds
    · exact sticky.unbound other q still looked free holds
  · intro a b q q' threadId threadId' at_a at_b bound bound'
    obtain ⟨r, was_a, bound⟩ := was a q threadId at_a bound
    obtain ⟨r', was_b, bound'⟩ := was b q' threadId' at_b bound'
    exact sticky.alone a b r r' threadId threadId' was_a was_b bound bound'

/-- Nobody knows of a thread while none is bound. -/
theorem Sticky.off (sticky : Sticky kept v) (none_bound : v.shared.bindings kept = none)
    {other : Nat} {q : ExecutionPhase × SessionPhase} (live : v.phase other = some q)
    (threadId : String) : ¬ q.2.On kept threadId := by
  intro on
  cases none_bound.symm.trans (sticky.bound other q threadId live on)

/-- Two executions that hold the lock of the session are one. -/
theorem Sticky.exclusive (sticky : Sticky kept v) (guarded : Guarded (v.project Prod.fst))
    {other : Nat} (live : v.phase id = some phase) (live' : v.phase other = some phase')
    (guards : phase.2.guards = true) (guards' : phase'.2.guards = true)
    (key : phase.2.key = some kept) (key' : phase'.2.key = some kept) : id = other := by
  have matched := sticky.matched id phase live
  have matched' := sticky.matched other phase' live'
  apply guarded.exclusive (project_phase live) (project_phase live')
  · exact matched.guards.trans guards
  · exact matched'.guards.trans guards'
  · rw [matched.key, matched'.key, key, key']

/-- An execution binds a thread to the session, for which it had found none. -/
theorem Sticky.binds {threadId : String} (sticky : Sticky kept v)
    (guarded : Guarded (v.project Prod.fst)) (live : v.phase id = some phase)
    (guards : phase.2.guards = true) (key : phase.2.key = some kept)
    (looked : phase.2.session = some (kept, none)) (free : phase.2.bound = none)
    (bound : s'.bindings kept = some threadId) :
    Sticky kept (v.exchange id (phase.1, { phase.2 with bound := some threadId }) s') := by
  have none_bound := sticky.unbound id phase live looked free guards
  have matched := sticky.matched id phase live
  constructor
  · intro other q found
    obtain ⟨rfl, rfl⟩ | ⟨-, still⟩ := live_exchange found
    · refine ⟨matched.key, matched.guards, matched.session, matched.held, ?_⟩
      intro fresh
      cases fresh.symm.trans looked
    · exact sticky.matched other q still
  · intro other q threadId' found on
    show s'.bindings kept = some threadId'
    obtain ⟨rfl, rfl⟩ | ⟨-, still⟩ := live_exchange found
    · rcases on with found | ⟨-, same⟩
      · cases looked.symm.trans found
      · exact bound.trans same
    · exact absurd on (sticky.off none_bound still threadId')
  · intro other q found looked' free' guards'
    obtain ⟨rfl, rfl⟩ | ⟨apart, still⟩ := live_exchange found
    · cases free'
    · have key' := (sticky.matched other q still).session _ _ looked'
      exact absurd (sticky.exclusive guarded live still guards guards' key key').symm apart
  · intro a b q q' one another at_a at_b bound bound'
    obtain ⟨rfl, rfl⟩ | ⟨-, was_a⟩ := live_exchange at_a
    · obtain ⟨rfl, rfl⟩ | ⟨-, was_b⟩ := live_exchange at_b
      · rfl
      · exact absurd (.inr bound') (sticky.off none_bound was_b another)
    · exact absurd (.inr bound) (sticky.off none_bound was_a one)

/-- An execution is dropped, perhaps after the order to bind was given. -/
theorem Sticky.dropped (sticky : Sticky kept v)
    (same : s'.bindings kept = v.shared.bindings kept ∨
      v.shared.bindings kept = none ∧ ∀ other q, other ≠ id → v.phase other = some q →
        q.2.session = some (kept, none) → q.2.bound = none → q.2.guards = false) :
    Sticky kept (v.drop id s') := by
  constructor
  · intro other q found
    exact sticky.matched other q (live_drop found).2
  · intro other q threadId found on
    obtain ⟨-, still⟩ := live_drop found
    rcases same with same | ⟨none_bound, -⟩
    · exact same.trans (sticky.bound other q threadId still on)
    · exact absurd on (sticky.off none_bound still threadId)
  · intro other q found looked free guards
    obtain ⟨apart, still⟩ := live_drop found
    rcases same with same | ⟨-, unlocked⟩
    · exact same.trans (sticky.unbound other q still looked free guards)
    · cases guards.symm.trans (unlocked other q apart still looked free)
  · intro a b q q' one another at_a at_b
    exact sticky.alone a b q q' one another (live_drop at_a).2 (live_drop at_b).2

/-- What an execution knows after an operation that binds nothing to the session. -/
theorem Sticky.unchanged {op : ProviderOp} {answer : op.Ans} (sticky : Sticky kept v)
    (live : v.phase id = some phase) (allowed : (sharedContract kept).Allow phase op)
    (performs : Performs id op answer v.shared s')
    (keeps : ∀ threadId, op ≠ .putBinding kept threadId) :
    Sticky kept (v.exchange id (sharedMonitor.next phase op answer) s') := by
  have undeleted : op ≠ .deleteBinding kept := by
    rintro rfl
    exact allowed.2 rfl
  have same := performs_bindings performs keeps undeleted
  have matched := sticky.matched id phase live
  have after := @matched_next _ _ _ answer matched allowed
  have stays : (sharedMonitor.next phase op answer).2 = phase.2 →
      Sticky kept (v.exchange id (sharedMonitor.next phase op answer) s') := by
    intro still
    apply sticky.quiet live same after
    · intro threadId on
      exact sticky.bound id phase threadId live (still ▸ on)
    · intro looked free guards
      exact sticky.unbound id phase live (still ▸ looked) (still ▸ free) (still ▸ guards)
    · intro threadId binds
      exact still ▸ binds
  cases op with
  | threadLock key =>
    -- A named lock is nothing that the invariant speaks of.
    exact sticky.quiet live same after (fun threadId => sticky.bound id phase threadId live)
      (sticky.unbound id phase live) fun _ itself => itself
  | lockThread lock =>
    cases answer with
    | guarded =>
      apply sticky.quiet live same after (fun threadId => sticky.bound id phase threadId live)
      · intro looked
        have waits : phase.1.lock = some lock ∧ phase.1.guards = false := allowed.1
        have looked' : phase.2.session ≠ none := by
          intro fresh
          cases fresh.symm.trans looked
        rcases matched.held looked' with holds | without
        · cases waits.2.symm.trans holds
        · cases without.symm.trans waits.1
      · intro _ itself
        exact itself
    | cancelled | elapsed => exact stays rfl
  | unlockThread =>
    apply sticky.quiet live same after (fun threadId => sticky.bound id phase threadId live)
    · intro _ _ guards
      cases guards
    · intro _ itself
      exact itself
  | getBinding key =>
    cases answer with
    | error e => exact stays rfl
    | ok found =>
      by_cases holds : phase.2.guards = true
      · have told := performs.2 found rfl
        have fresh := (allowed.2 holds).2
        have free := matched.bound fresh
        have looks : phase.2.next (.getBinding key) (.ok found) =
            { phase.2 with session := some (key, found) } := by
          simp [SessionPhase.next, holds]
        have next : sharedMonitor.next phase (.getBinding key) (.ok found) =
            (phase.1, { phase.2 with session := some (key, found) }) := Prod.ext rfl looks
        rw [next] at after ⊢
        apply sticky.quiet live same after
        · intro threadId on
          rcases on with finds | ⟨-, bound⟩
          · cases finds
            exact told.symm
          · cases free.symm.trans bound
        · intro looked _ _
          cases looked
          exact told.symm
        · rintro threadId ⟨-, bound⟩
          cases free.symm.trans bound
      · have still : phase.2.next (.getBinding key) (.ok found) = phase.2 := by
          simp [SessionPhase.next, holds]
        exact stays still
  | putBinding key threadId =>
    cases answer with
    | error e => exact stays rfl
    | ok stored =>
      have looked : phase.2.session = some (key, none) := allowed.2.2.2.1
      have other : key ≠ kept := fun same => keeps threadId (same ▸ rfl)
      apply sticky.quiet live same after
      · intro threadId' on
        rcases on with finds | ⟨none_found, -⟩
        · cases looked.symm.trans finds
        · cases looked.symm.trans none_found
          exact absurd rfl other
      · intro none_found
        cases looked.symm.trans none_found
        exact absurd rfl other
      · rintro threadId' ⟨none_found, -⟩
        cases looked.symm.trans none_found
        exact absurd rfl other
  | _ => exact stays rfl

theorem step_sticky (guarded : Guarded (v.project Prod.fst)) (sticky : Sticky kept v)
    (step : SharedStep kept v event v') : Sticky kept v' := by
  cases step with
  | spawn =>
    constructor
    · intro other q found
      obtain rfl | still := live_spawn found
      · exact ⟨rfl, rfl, nofun, fun none => absurd rfl none, fun _ => rfl⟩
      · exact sticky.matched other q still
    · intro other q threadId found on
      obtain rfl | still := live_spawn found
      · rcases on with found | ⟨found, -⟩ <;> cases found
      · exact sticky.bound other q threadId still on
    · intro other q found looked free guards
      obtain rfl | still := live_spawn found
      · cases looked
      · exact sticky.unbound other q still looked free guards
    · intro a b q q' one another at_a at_b binds binds'
      obtain rfl | was_a := live_spawn at_a
      · cases binds.1
      · obtain rfl | was_b := live_spawn at_b
        · cases binds'.1
        · exact sticky.alone a b q q' one another was_a was_b binds binds'
  | @drop id phase op s' live allowed abandons =>
    have undeleted : op ≠ .deleteBinding kept := by
      rintro rfl
      exact allowed.2 rfl
    rcases abandons_bindings abandons undeleted with same | ⟨threadId, rfl, bound⟩
    · exact sticky.dropped (.inl same)
    · obtain ⟨guards, key, looked, free⟩ := allowed.2
      refine sticky.dropped (.inr ⟨sticky.unbound id phase live looked free guards, ?_⟩)
      intro other q apart still looked' free'
      by_contra holds
      have guards' : q.2.guards = true := Bool.eq_true_of_not_eq_false holds
      have key' := (sticky.matched other q still).session _ _ looked'
      exact apart (sticky.exclusive guarded live still guards guards' key key').symm
  | @exchange id phase op answer s' live allowed _ performs =>
    by_cases binds : ∃ threadId, op = .putBinding kept threadId
    · obtain ⟨threadId, rfl⟩ := binds
      obtain ⟨guards, key, looked, free⟩ := allowed.2
      cases answer with
      | error e =>
        obtain rfl : s' = v.shared := performs
        exact sticky.quiet live rfl (sticky.matched id phase live)
          (fun threadId => sticky.bound id phase threadId live)
          (sticky.unbound id phase live) fun _ itself => itself
      | ok stored =>
        obtain rfl : s' = v.shared.bind kept (some threadId) := performs
        exact sticky.binds guarded live guards key looked free (by simp [ThreadState.bind])
    · exact sticky.unchanged live allowed performs fun threadId same => binds ⟨threadId, same⟩

/-- A thread that is bound to the session stays bound. -/
theorem step_bound {threadId : String} (sticky : Sticky kept v) (step : SharedStep kept v event v')
    (bound : v.shared.bindings kept = some threadId) :
    v'.shared.bindings kept = some threadId := by
  cases step with
  | spawn => exact bound
  | @drop id phase op s' live allowed abandons =>
    have undeleted : op ≠ .deleteBinding kept := by
      rintro rfl
      exact allowed.2 rfl
    rcases abandons_bindings abandons undeleted with same | ⟨other, rfl, -⟩
    · exact same.trans bound
    · obtain ⟨guards, -, looked, free⟩ := allowed.2
      cases bound.symm.trans (sticky.unbound id phase live looked free guards)
  | @exchange id phase op answer s' live allowed _ performs =>
    have undeleted : op ≠ .deleteBinding kept := by
      rintro rfl
      exact allowed.2 rfl
    by_cases binds : ∃ other, op = .putBinding kept other
    · obtain ⟨other, rfl⟩ := binds
      obtain ⟨guards, -, looked, free⟩ := allowed.2
      cases bound.symm.trans (sticky.unbound id phase live looked free guards)
    · have same := performs_bindings performs (fun other is => binds ⟨other, is⟩) undeleted
      exact same.trans bound

/-- A turn is on the thread that is bound to the session of its execution. -/
theorem turn_bound {threadId : String} {input : Json} {found : Option String}
    (sticky : Sticky kept v) (live : v.phase id = some phase)
    (looked : phase.2.session = some (kept, found))
    (step : SharedStep kept v
      (.exchanged id ⟨.rpc (.turnStart threadId input) .lockWriter, ()⟩) v') :
    v.shared.bindings kept = some threadId := by
  cases step with
  | exchange also allowed =>
    cases also.symm.trans live
    exact sticky.bound id phase threadId live (allowed.2.1 kept found looked)

/-! ## Runs -/

abbrev SharedPool := Pool sharedMonitor ThreadState TaskEnd

/-- What a run goes on to, while the binding of a key is not deleted. -/
abbrev SessionPath (p : AppServerImageProvider) (kept : String) (s s' : SharedPool) : Prop :=
  Pool.Path (SessionTasks p kept) behavior (({}, {}) : ExecutionPhase × SessionPhase)
    (fun _ _ => True) s s'

abbrev SessionRun (p : AppServerImageProvider) (kept : String) (bindings : String → Option String)
    (s : SharedPool) : Prop :=
  Pool.Run (SessionTasks p kept) behavior (({}, {}) : ExecutionPhase × SessionPhase)
    (ThreadState.initial bindings) (fun _ _ => True) s

abbrev SharedPoolStep (p : AppServerImageProvider) (kept : String) (s : SharedPool)
    (event : PoolEvent providerCalls) (s' : SharedPool) : Prop :=
  Pool.Step (SessionTasks p kept) behavior (({}, {}) : ExecutionPhase × SessionPhase) s event s'

structure Settled (kept : String) (s : SharedPool) : Prop where
  orderly : Orderly (s.view.project Prod.fst)
  sticky : Sticky kept s.view
  keeps : s.Keeps (sharedContract kept) fun ended t => Told ended t.2

variable {bindings : String → Option String} {s s' : SharedPool}

theorem shared_justified : Pool.Justifies (fun _ _ => True) behavior (sharedContract kept) :=
  fun _ _ _ _ _ _ _ _ _ => ⟨trivial, trivial⟩

theorem settled_step (settled : Settled kept s) (step : SharedPoolStep p kept s event s') :
    Settled kept s' ∧ SharedStep kept s.view event s'.view := by
  have tasks : ∀ task, SessionTasks p kept task → task.Keeps (sharedContract kept)
      (({}, {}) : ExecutionPhase × SessionPhase) fun ended t => Told ended t.2 :=
    fun _ => sessionTasks_keep
  obtain ⟨refined, keeps⟩ := Pool.step_refines settled.keeps tasks shared_justified step trivial
  have allowed : ∀ phase op, (sharedContract kept).Allow phase op →
      executionContract.Allow phase.1 op := fun _ _ both => both.1
  have projected : ThreadStep (s.view.project Prod.fst) event (s'.view.project Prod.fst) :=
    refined.project (fun _ _ _ => rfl) allowed fun _ _ _ _ => trivial
  exact ⟨⟨step_orderly settled.orderly projected,
    step_sticky settled.orderly.guarded settled.sticky refined, keeps⟩, refined⟩

theorem settled_path (settled : Settled kept s) (path : SessionPath p kept s s') :
    Settled kept s' := by
  induction path with
  | here => exact settled
  | step _ step _ ih => exact (settled_step ih step).1

theorem settled_run (run : SessionRun p kept bindings s) : Settled kept s := by
  obtain ⟨code, path⟩ := run
  apply settled_path _ path
  refine ⟨@initial_orderly bindings, ⟨?_, ?_, ?_, ?_⟩, ?_⟩ <;>
    simp [Snapshot.empty, Pool.Keeps]

theorem bound_path {threadId : String} (settled : Settled kept s) (path : SessionPath p kept s s')
    (bound : s.view.shared.bindings kept = some threadId) :
    s'.view.shared.bindings kept = some threadId := by
  induction path with
  | here => exact bound
  | step before step _ ih =>
    have there := settled_path settled before
    exact step_bound there.sticky (settled_step there step).2 ih

/-- An execution under a session key looks up its thread before it starts a turn. -/
theorem looks_before_turn {rounds : Nat} {request : ImageRequest} {requestId : String}
    {trace : List (Exchange providerCalls)} {rest : Program providerCalls (Outcome ImageResponse)}
    {threadId : String} {input : Json} (own : request.session.key = some kept)
    (run : Follows (executeInner p rounds request requestId).run
      (trace ++ [⟨.rpc (.turnStart threadId input) .lockWriter, ()⟩]) rest) :
    (sessionMonitor.after ({} : SessionPhase) trace).session.map Prod.fst = some kept := by
  obtain ⟨next, reached⟩ := run.awaits
  have keeps : Tries (sessionContract kept request.session.key)
      (executeInner p rounds request requestId) {} (fun response t => t.Reports response)
      fun _ _ => True := executeInner_keepsSession
  have expected : (sessionContract kept request.session.key).ExpectsAll {} trace :=
    expectsAll_free (fun _ _ _ => trivial) _ trace
  have awaits := Keeps.follows keeps reached expected
  exact awaits.1.2 kept own

/-- The binding of a session is made once and stays; turns of its executions are on the
thread that is bound; and at most one of them reports that it did not find it. -/
theorem session_sticky (run : SessionRun p kept bindings s) :
    (∀ threadId s', s.view.shared.bindings kept = some threadId → SessionPath p kept s s' →
        s'.view.shared.bindings kept = some threadId) ∧
      (∀ id threadId input s' phase found, s.view.phase id = some phase →
        phase.2.session = some (kept, found) →
        SharedPoolStep p kept s
          (.exchanged id ⟨.rpc (.turnStart threadId input) .lockWriter, ()⟩) s' →
        s.view.shared.bindings kept = some threadId) ∧
      (∀ rounds request requestId trace threadId input
        (rest : Program providerCalls (Outcome ImageResponse)), request.session.key = some kept →
        Follows (executeInner p rounds request requestId).run
          (trace ++ [⟨.rpc (.turnStart threadId input) .lockWriter, ()⟩]) rest →
        (sessionMonitor.after ({} : SessionPhase) trace).session.map Prod.fst = some kept) ∧
      ∀ id other phase phase' response response' session session',
        s.view.phase id = some phase → s.view.phase other = some phase' →
        s.code id = .done (.execution (.ok response)) →
        s.code other = .done (.execution (.ok response')) →
        response.session = some session → response'.session = some session' →
        session.key = some kept → session'.key = some kept →
        session.reused = false → session'.reused = false → id = other := by
  have settled := settled_run run
  refine ⟨?_, ?_, ?_, ?_⟩
  · intro threadId s' bound path
    exact bound_path settled path bound
  · intro id threadId input s' phase found live looked step
    exact turn_bound settled.sticky live looked (settled_step settled step).2
  · intro rounds request requestId trace threadId input rest own run
    exact looks_before_turn own run
  · intro id other phase phase' response response' session session' live live' ended ended' told
      told' named named' fresh fresh'
    have reports := settled.keeps id phase live
    have reports' := settled.keeps other phase' live'
    rw [ended] at reports
    rw [ended'] at reports'
    obtain ⟨threadId, -, -, binds⟩ := reports session kept told named
    obtain ⟨threadId', -, -, binds'⟩ := reports' session' kept told' named'
    exact settled.sticky.alone id other phase phase' threadId threadId' live live' (binds fresh)
      (binds' fresh')

def noSessions : SharedPool :=
  ⟨Snapshot.empty (ThreadState.initial kiteBindings), fun _ => .done .peer⟩

/-- An execution on a session runs until its turn is handed over. -/
def runSession : Option SharedPool :=
  Pool.schedule threadAnswers (fun _ _ _ => none) (({}, {}) : ExecutionPhase × SessionPhase)
    (.spawn (execution onSession) :: List.replicate 17 (.go 0)) noSessions

theorem session_starts : runSession.any (fun s =>
    decide (s.view.shared.turns = [("thread-1", 0)]) &&
      decide (s.view.shared.bindings "kite" = some "thread-1")) = true := by
  decide +kernel

theorem session_sticky_kite : ∃ s : SharedPool,
    SessionRun sampleProvider "kite" kiteBindings s ∧
      s.view.shared.turns = [("thread-1", 0)] ∧
      ∀ s', SessionPath sampleProvider "kite" s s' →
        s'.view.shared.bindings "kite" = some "thread-1" := by
  obtain ⟨s, scheduled, holds⟩ := (Option.any_eq_true ..).mp session_starts
  obtain ⟨turns, bound⟩ := Bool.and_eq_true_iff.mp holds
  have allowed : ∀ task, Pool.Move.spawn task ∈
      (.spawn (execution onSession) :: List.replicate 17 (.go 0) :
        List (Pool.Move providerCalls TaskEnd)) → SessionTasks sampleProvider "kite" task := by
    intro task member
    simp only [List.mem_cons, List.mem_replicate, reduceCtorEq, and_false, or_false,
      Pool.Move.spawn.injEq] at member
    obtain rfl := member
    exact .execution ..
  have stays : ∀ (execution : Nat) (op : ProviderOp) (s s' : ThreadState),
      (none : Option ThreadState) = some s' → Abandons execution op s s' := by
    intro _ _ _ _ impossible
    cases impossible
  have path : SessionPath sampleProvider "kite" noSessions s :=
    Pool.schedule_path threadAnswers_performs stays allowed .here scheduled
  have run : SessionRun sampleProvider "kite" kiteBindings s := ⟨_, path⟩
  refine ⟨s, run, of_decide_eq_true turns, ?_⟩
  intro s' later
  exact (session_sticky run).1 "thread-1" s' (of_decide_eq_true bound) later

end ImagegenBridge.CodexAppServer.Threads
