import ImagegenBridge.CodexAppServer.Footprint
import ImagegenBridge.Core.NegotiationValidity

/-!
# The session of an execution

An execution looks up the thread of its session key once it holds the lock of that key, and
binds one only where it found none.
-/

namespace ImagegenBridge.CodexAppServer

open Program Validation

/-- The lock key that an execution named, whether it holds the lock, the session key it
looked up since with the thread it found, and the thread it bound. -/
structure SessionPhase where
  key : Option String := none
  guards : Bool := false
  session : Option (String × Option String) := none
  bound : Option String := none

namespace SessionPhase

def next (phase : SessionPhase) : (op : ProviderOp) → op.Ans → SessionPhase
  | .threadLock key, _ => { phase with key := some key }
  | .lockThread _, .guarded => { phase with guards := true }
  | .unlockThread, _ => { phase with guards := false }
  | .getBinding key, .ok found =>
    if phase.guards = true then { phase with session := some (key, found) } else phase
  | .putBinding _ threadId, .ok _ => { phase with bound := some threadId }
  | _, _ => phase

/-- The execution found the thread of the session. -/
def Finds (phase : SessionPhase) (key threadId : String) : Prop :=
  phase.session = some (key, some threadId)

/-- The execution found no thread of the session, and bound one. -/
def Binds (phase : SessionPhase) (key threadId : String) : Prop :=
  phase.session = some (key, none) ∧ phase.bound = some threadId

def On (phase : SessionPhase) (key threadId : String) : Prop :=
  phase.Finds key threadId ∨ phase.Binds key threadId

/-- The turn is on the thread of the session that was looked up. -/
def Turns (phase : SessionPhase) (threadId : String) : Prop :=
  ∀ key found, phase.session = some (key, found) → phase.On key threadId

/-- A response with a session key tells its thread, and whether the execution found it. -/
def Reports (phase : SessionPhase) (response : ImageResponse) : Prop :=
  ∀ session key, response.session = some session → session.key = some key →
    ∃ threadId, session.threadId = some threadId ∧ phase.On key threadId ∧
      (session.reused = false → phase.Binds key threadId)

end SessionPhase

abbrev sessionMonitor : Monitor providerCalls := ⟨SessionPhase, SessionPhase.next⟩

/-- The binding of `kept` is not deleted, and an execution under the session key `own` starts
no turn before it has looked up its thread. -/
abbrev sessionContract (kept : String) (own : Option String) : Contract sessionMonitor where
  Allow phase
    | .threadLock _ => phase.key = none
    | .getBinding key => phase.guards = true → phase.key = some key ∧ phase.session = none
    | .putBinding key _ => phase.guards = true ∧ phase.key = some key ∧
        phase.session = some (key, none) ∧ phase.bound = none
    | .deleteBinding key => key ≠ kept
    | .rpc (.turnStart threadId _) _ => phase.Turns threadId ∧
        ∀ key, own = some key → phase.session.map Prod.fst = some key
    | _ => True
  Expect _ _ _ := True

variable {p : AppServerImageProvider} {kept : String} {own : Option String}
  {phase : SessionPhase} {α : Type}

/-! ## Parts on one thread -/

theorem turnsOn_allowed {threadId : String} (turns : phase.Turns threadId)
    (looked : ∀ key, own = some key → phase.session.map Prod.fst = some key) {op : ProviderOp}
    (on : TurnsOn threadId op) : (sessionContract kept own).Allow phase op := by
  cases op with
  | rpc call op =>
    cases call with
    | turnStart thread input =>
      obtain rfl : thread = threadId := on
      exact ⟨turns, looked⟩
    | _ => trivial
  | threadLock | getBinding | putBinding | deleteBinding => exact on.elim
  | _ => trivial

theorem outside_session {op : ProviderOp} (outside : Outside op) :
    (sessionContract kept own).Allow phase op := by
  cases op with
  | rpc call op =>
    cases call with
    | turnStart => exact outside.elim
    | _ => trivial
  | threadLock | getBinding | putBinding | deleteBinding => exact outside.elim
  | _ => trivial

theorem turnsOn_unseen {threadId : String} {op : ProviderOp} (on : TurnsOn threadId op)
    (answer : op.Ans) : phase.next op answer = phase := by
  cases op with
  | threadLock | lockThread | unlockThread | getBinding | putBinding => exact on.elim
  | _ => rfl

/-- A part that awaits nothing of the session. -/
theorem outside_keepsSession {x : Execution α} (outside : Awaits Outside x) :
    Tries (sessionContract kept own) x phase (fun _ t => t = phase) fun _ t => t = phase := by
  have keeps : x.run.Keeps (sessionContract kept own) phase fun _ t => t = phase :=
    outside.keeps (fun _ => outside_session) fun _ answer outside =>
      turnsOn_unseen (outside.turnsOn "") answer
  refine Keeps.mono keeps fun result t same => ?_
  cases result <;> exact same

theorem runTurn_keepsSession {rounds : Nat} {threadId : String} {turnRequest : ImageRequest}
    (turns : phase.Turns threadId)
    (looked : ∀ key, own = some key → phase.session.map Prod.fst = some key) :
    Tries (sessionContract kept own) (runTurn p rounds threadId turnRequest) phase
      (fun _ t => t = phase) fun _ t => t = phase := by
  have keeps : (runTurn p rounds threadId turnRequest).run.Keeps (sessionContract kept own) phase
      fun _ t => t = phase :=
    (turnsOn_runTurn rounds turnRequest).keeps (fun _ => turnsOn_allowed turns looked)
      fun _ answer on => turnsOn_unseen on answer
  refine Keeps.mono keeps fun result t same => ?_
  cases result <;> exact same

/-! ## The thread of a session -/

/-- The session has its thread: one that was found, or bound, or no key of its own. -/
def Resolved (own : Option String) (threadId : String) (reused : Bool) (t : SessionPhase) : Prop :=
  t.Turns threadId ∧ (∀ key, own = some key → t.session.map Prod.fst = some key) ∧
    ∀ key, own = some key → t.On key threadId ∧ (reused = false → t.Binds key threadId)

/-- A session with a key is a persistent one. -/
theorem persistent_of_key {session : SessionOptions} {limits : RequestLimits}
    (valid : sessionIssues session limits = []) {key : String} (named : session.key = some key) :
    session.mode = .persistent := by
  cases mode : session.mode with
  | persistent => rfl
  | isolated | thread => simp [sessionIssues, mode, named] at valid

theorem resolved_keyless {threadId : String} {reused : Bool} {phase : SessionPhase}
    (fresh : phase.session = none) (keyless : own = none) :
    Resolved own threadId reused phase := by
  refine ⟨?_, ?_, ?_⟩
  · intro key found looked
    cases fresh.symm.trans looked
  · intro key named
    cases keyless.symm.trans named
  · intro key named
    cases keyless.symm.trans named

/-- The rest of a step whose outcome is checked. -/
theorem tries_ensure {β : Type} {m : Monitor providerCalls} {c : Contract m} {s : m.State}
    {outcome : Outcome α} {f : α → Execution β} {ok : β → m.State → Prop}
    {failed : BridgeError → m.State → Prop} (error : ∀ e, outcome = .error e → failed e s)
    (rest : ∀ a, outcome = .ok a → Tries c (f a) s ok failed) :
    Tries c (ensure outcome >>= f) s ok failed := by
  apply tries_bind.mpr
  cases outcome with
  | error e => exact error e rfl
  | ok a => exact rest a rfl

theorem tries_awaited {β : Type} {m : Monitor providerCalls} {c : Contract m} {s : m.State}
    {op : ProviderOp} {f : op.Ans → Execution β} {ok : β → m.State → Prop}
    {failed : BridgeError → m.State → Prop} (allowed : c.Allow s op)
    (rest : ∀ answer, Tries c (f answer) (m.next s op answer) ok failed) :
    Tries c (await op >>= f) s ok failed :=
  tries_bind.mpr ((tries_lift _).mpr ⟨allowed, fun answer _ => rest answer⟩)

theorem resolved_on {key threadId : String} {found : Option String} {reused : Bool}
    {phase : SessionPhase} (looked : phase.session = some (key, found))
    (on : phase.On key threadId) (binds : reused = false → phase.Binds key threadId) :
    Resolved (some key) threadId reused phase := by
  refine ⟨?_, ?_, ?_⟩
  · intro other found' same
    cases looked.symm.trans same
    exact on
  · intro other named
    cases named
    rw [looked]
    rfl
  · intro other named
    cases named
    exact ⟨on, binds⟩

theorem persistentThread_resolves {key : String} {found : Option String}
    (guards : phase.guards = true) (named : phase.key = some key)
    (looked : phase.session = some (key, found)) (unbound : phase.bound = none) :
    Tries (sessionContract kept (some key)) (persistentThread p key found) phase
      (fun result t => t.guards = true ∧ Resolved (some key) result.1 result.2 t)
      fun _ t => t.guards = true := by
  cases found with
  | some threadId =>
    apply tries_bind.mpr
    apply Tries.mono (outside_keepsSession (outside_resumeThread threadId))
    · intro _ t same
      obtain rfl : phase = t := same.symm
      exact ⟨guards, resolved_on looked (.inl looked) nofun⟩
    · intro _ t same
      obtain rfl : phase = t := same.symm
      exact guards
  | none =>
    apply tries_bind.mpr
    apply Tries.mono (outside_keepsSession (outside_startThread false))
    · intro threadId t same
      obtain rfl : phase = t := same.symm
      apply tries_awaited (And.intro guards (And.intro named (And.intro looked unbound)))
      intro stored
      cases stored with
      | error e => exact guards
      | ok stored =>
        have binds : ({ phase with bound := some threadId } : SessionPhase).Binds key threadId :=
          ⟨looked, rfl⟩
        exact ⟨guards, resolved_on looked (.inr binds) fun _ => binds⟩
    · intro _ t same
      obtain rfl : phase = t := same.symm
      exact guards

theorem resolveThread_resolves {session : SessionOptions} {limits : RequestLimits}
    (valid : sessionIssues session limits = []) (guards : phase.guards = true)
    (named : ∀ key, session.key = some key → phase.key = some key)
    (fresh : phase.session = none) (unbound : phase.bound = none) :
    Tries (sessionContract kept session.key) (resolveThread p session) phase
      (fun result t => t.guards = true ∧ Resolved session.key result.1 result.2 t)
      fun _ t => t.guards = true := by
  have keyless : ∀ {x : Execution (String × Bool)}, session.key = none → Awaits Outside x →
      Tries (sessionContract kept session.key) x phase
        (fun result t => t.guards = true ∧ Resolved session.key result.1 result.2 t)
        fun _ t => t.guards = true := by
    intro x keyless outside
    apply Tries.mono (outside_keepsSession outside)
    · intro result t same
      obtain rfl : phase = t := same.symm
      exact ⟨guards, resolved_keyless fresh keyless⟩
    · intro _ t same
      obtain rfl : phase = t := same.symm
      exact guards
  unfold resolveThread
  cases mode : session.mode with
  | isolated =>
    have without : session.key = none := by
      by_contra named
      obtain ⟨key, named⟩ := Option.ne_none_iff_exists'.mp named
      cases mode.symm.trans (persistent_of_key valid named)
    apply keyless without
    apply (outside_startThread true).bind_tries
    intro threadId
    exact awaits_pure _
  | thread =>
    have without : session.key = none := by
      by_contra named
      obtain ⟨key, named⟩ := Option.ne_none_iff_exists'.mp named
      cases mode.symm.trans (persistent_of_key valid named)
    apply keyless without
    cases session.threadId with
    | none => exact awaits_throw _
    | some threadId =>
      apply (outside_resumeThread threadId).bind_tries
      intro _
      exact awaits_pure _
  | persistent =>
    cases own : session.key with
    | none => exact guards
    | some key =>
      have holds := named key own
      apply tries_awaited fun _ => And.intro holds fresh
      intro bound
      cases bound with
      | error e => exact guards
      | ok found =>
        have same : phase.next (.getBinding key) (.ok found) =
            { phase with session := some (key, found) } := by
          simp [SessionPhase.next, guards]
        have looks : ∀ t, t = { phase with session := some (key, found) } →
            Tries (sessionContract kept (some key)) (persistentThread p key found) t
              (fun result t => t.guards = true ∧ Resolved (some key) result.1 result.2 t)
              fun _ t => t.guards = true := by
          rintro t rfl
          exact persistentThread_resolves guards holds rfl unbound
        exact tries_bind.mpr (looks _ same)

/-! ## Executions -/

theorem reports_keyless {session : SessionMetadata} {response : ImageResponse}
    (told : response.session = some session) (keyless : session.key = none) :
    phase.Reports response := by
  intro session' key same named
  cases told.symm.trans same
  cases keyless.symm.trans named

theorem executeLocked_reports {rounds : Nat} {negotiated : NegotiatedRequest} {requestId : String}
    {limits : RequestLimits}
    (valid : sessionIssues negotiated.effectiveRequest.session limits = [])
    (guards : phase.guards = true)
    (named : ∀ key, negotiated.effectiveRequest.session.key = some key → phase.key = some key)
    (fresh : phase.session = none) (unbound : phase.bound = none) :
    Tries (sessionContract kept negotiated.effectiveRequest.session.key)
      (executeLocked p rounds negotiated requestId) phase
      (fun response t => t.guards = true ∧ t.Reports response) fun _ t => t.guards = true := by
  apply tries_bind.mpr
  apply Tries.mono (resolveThread_resolves valid guards named fresh unbound)
  · rintro ⟨threadId, reused⟩ t ⟨guards, turns, looked, on⟩
    have archives : Tries (sessionContract kept negotiated.effectiveRequest.session.key)
        (archiveIsolated p negotiated.effectiveRequest.session.mode threadId) t
        (fun _ u => u = t) fun _ u => u = t :=
      outside_keepsSession (outside_archiveIsolated _ _)
    apply tries_attempt.mpr
    apply Tries.mono (runTurn_keepsSession turns looked)
    · rintro turn _ rfl
      apply tries_bind.mpr
      refine Tries.mono archives ?_ fun _ u same => same ▸ guards
      intro _ u same
      obtain rfl : u = _ := same
      apply tries_ensure
      · intro e impossible
        cases impossible
      · intro turn' _
        apply tries_ensure
        · intro e _
          exact guards
        · intro images _
          apply tries_awaited trivial
          intro elapsed
          apply tries_awaited trivial
          intro created
          refine ⟨guards, ?_⟩
          intro session key told named
          cases told
          exact ⟨threadId, rfl, on key named⟩
    · rintro e _ rfl
      apply tries_bind.mpr
      refine Tries.mono archives ?_ fun _ u same => same ▸ guards
      intro _ u same
      obtain rfl : u = _ := same
      exact tries_bind.mpr guards
  · intro _ t guards
    exact guards

theorem valid_session {request : ImageRequest} {limits : RequestLimits}
    (valid : validateRequest request limits = .ok ()) : sessionIssues request.session limits = [] := by
  rw [validateRequest_ok, reported_nil] at valid
  have untouched := valid.1
  simp only [untouchedIssues, List.append_eq_nil_iff] at untouched
  tauto

theorem negotiated_session {request : ImageRequest} {c : ProviderCapabilities}
    {negotiated : NegotiatedRequest} (ok : negotiateRequest request c = .ok negotiated) :
    negotiated.effectiveRequest.session = request.session := by
  rw [Negotiation.negotiateRequest_effective ok]
  rfl

/-- An execution keeps the contract of its own session key, and reports its thread. -/
theorem executeInner_keepsSession {rounds : Nat} {request : ImageRequest} {requestId : String} :
    Tries (sessionContract kept request.session.key) (executeInner p rounds request requestId) {}
      (fun response t => t.Reports response) fun _ _ => True := by
  apply tries_ensure fun _ _ => trivial
  intro _ validated
  apply tries_ensure fun _ _ => trivial
  intro negotiated ok
  have same := negotiated_session ok
  have valid := valid_session validated
  apply tries_awaited trivial
  intro connected
  apply tries_ensure fun _ _ => trivial
  intro _ _
  apply tries_awaited rfl
  intro lock
  apply tries_awaited trivial
  intro wakeup
  cases wakeup with
  | cancelled | elapsed => exact tries_bind.mpr trivial
  | guarded =>
    apply tries_bind.mpr
    apply tries_attempt.mpr
    rw [← same] at valid ⊢
    have named : ∀ key, negotiated.effectiveRequest.session.key = some key →
        some (lockKey negotiated.effectiveRequest.session requestId) = some key := by
      intro key named
      simp [lockKey, named]
    apply Tries.mono (executeLocked_reports valid rfl named rfl rfl)
    · rintro response t ⟨guards, reports⟩
      apply tries_awaited trivial
      intro _
      exact reports
    · intro e t guards
      apply tries_awaited trivial
      intro _
      trivial

theorem deleteSession_keepsSession {key : String} (other : key ≠ kept)
    (outside : phase.guards = false) :
    Tries (sessionContract kept own) (deleteSession key) phase (fun _ _ => True) fun _ _ => True := by
  have allowed : phase.guards = true → phase.key = some key ∧ phase.session = none := by
    simp [outside]
  apply tries_awaited allowed
  intro bound
  apply tries_ensure fun _ _ => trivial
  intro thread _
  apply tries_ensure fun _ _ => trivial
  intro _ _
  apply tries_awaited other
  intro deleted
  cases deleted <;> trivial

end ImagegenBridge.CodexAppServer
