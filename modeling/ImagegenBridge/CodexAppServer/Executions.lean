import ImagegenBridge.CodexAppServer.Delivery
import ImagegenBridge.CodexAppServer.Footprint

/-!
# What an execution does

An execution takes one lock, starts at most one turn while it holds it, and gives it back
at its end. Once the turn was handed over, the end of the execution tells of it.
-/

namespace ImagegenBridge.CodexAppServer

open Program

/-- The response to a turn's request has no turn id. -/
def Delivery.Unnamed (delivery : Delivery) : Prop :=
  ∃ value e, .ok value ∈ delivery.responses ∧
    stringAt value ["turn", "id"] "turn/start returned no turn ID" = .error e

/-- What an execution has done: the lock key it named, the lock it has a handle on and
whether it holds it, how its turn was delivered, whether the notifications failed, and
whether the turn was told to be over. -/
structure ExecutionPhase where
  key : Option String := none
  lock : Option Nat := none
  guards : Bool := false
  turn : Delivery := unsent
  missed : Prop := False
  settled : Prop := False

namespace ExecutionPhase

def next (phase : ExecutionPhase) : (op : ProviderOp) → op.Ans → ExecutionPhase
  | .threadLock key, lock => { phase with key := some key, lock := some lock }
  | .lockThread _, .guarded => { phase with guards := true }
  | .lockThread _, .cancelled | .lockThread _, .elapsed => { phase with lock := none }
  | .unlockThread, _ => { phase with lock := none, guards := false }
  | .rpc (.turnStart ..) op, answer => { phase with turn := phase.turn.next op answer }
  | .receive _ _, .failed _ => { phase with missed := True }
  | .receive threadId turnId, .received notification
  | .receiveCleanup threadId turnId, .received notification =>
    { phase with settled := phase.settled ∨ completesTurn notification threadId turnId = true }
  | _, _ => phase

/-- The report of a turn that was handed over can be trusted: no failure of the connection
or of the notifications hid its outcome. -/
def Sound (phase : ExecutionPhase) : Prop :=
  ¬phase.turn.lost ∧ ¬phase.turn.Unnamed ∧ ¬phase.missed

/-- The peer refused the turn or told that it is over. -/
def Known (phase : ExecutionPhase) : Prop := phase.turn.Refused ∨ phase.settled

/-- An error tells of the turn that was handed over exactly when its report is sound. -/
def Reports (phase : ExecutionPhase) (error : BridgeError) : Prop :=
  phase.turn.handed → (Ambiguous error ∨ phase.Known ↔ phase.Sound)

/-- Only the end of the turn was told. -/
structure Extends (phase later : ExecutionPhase) : Prop where
  guards : later.guards = phase.guards
  turn : later.turn = phase.turn
  missed : later.missed = phase.missed
  settled : phase.settled → later.settled

variable {phase later : ExecutionPhase} {error : BridgeError}

theorem Extends.refl (phase : ExecutionPhase) : phase.Extends phase := ⟨rfl, rfl, rfl, id⟩

theorem Extends.trans {a b c : ExecutionPhase} (first : a.Extends b) (second : b.Extends c) :
    a.Extends c :=
  ⟨second.guards.trans first.guards, second.turn.trans first.turn,
    second.missed.trans first.missed, second.settled ∘ first.settled⟩

theorem Extends.sound (extended : phase.Extends later) (sound : phase.Sound) : later.Sound := by
  unfold Sound
  rw [extended.turn, extended.missed]
  exact sound

theorem reports_unsent (fresh : phase.turn = unsent) : phase.Reports error := by
  intro handed
  rw [fresh] at handed
  exact handed.elim

theorem reports_settled (sound : phase.Sound) (settled : phase.settled) : phase.Reports error :=
  fun _ => ⟨fun _ => sound, fun _ => .inr (.inr settled)⟩

theorem reports_ambiguous (sound : phase.Sound) (ambiguous : Ambiguous error) :
    phase.Reports error :=
  fun _ => ⟨fun _ => sound, fun _ => .inl ambiguous⟩

/-- A plain error that nothing was told of. -/
theorem reports_hidden (plain : ¬Ambiguous error) (unknown : ¬phase.Known)
    (hidden : ¬phase.Sound) : phase.Reports error :=
  fun _ => ⟨fun told => (told.elim plain unknown).elim, fun sound => absurd sound hidden⟩

end ExecutionPhase

open ExecutionPhase (Extends)

abbrev executionMonitor : Monitor providerCalls := ⟨ExecutionPhase, ExecutionPhase.next⟩

abbrev executionContract : Contract executionMonitor where
  Allow phase
    | .threadLock _ => phase.key = none
    | .lockThread lock => phase.lock = some lock ∧ phase.guards = false
    | .unlockThread => phase.guards = true
    | .rpc (.turnStart ..) .lockWriter => phase.guards = true ∧ ¬phase.turn.handed
    | _ => True
  Expect _ _ _ := True

/-! ## Delivery of the turn -/

/-- The line of `turn/start` is handed to the writer. -/
def Hands : Exchange providerCalls → Prop
  | ⟨.rpc (.turnStart ..) op, _⟩ => op = .lockWriter
  | _ => False

theorem told_handed (delivery : Delivery) (result : Option (Outcome Json)) :
    (delivery.told result).handed = delivery.handed := by
  obtain _ | _ | _ := result <;> rfl

theorem delivery_handed (delivery : Delivery) (op : RpcOp) (answer : op.Ans) :
    (delivery.next op answer).handed ↔ delivery.handed ∨ op = .lockWriter := by
  cases op with
  | lockWriter => simp [Delivery.next]
  | writeByte | flush => cases answer <;> simp [Delivery.next]
  | wait id => cases answer <;> simp [Delivery.next, told_handed]
  | _ => simp [Delivery.next]

theorem phase_handed (phase : ExecutionPhase) (op : ProviderOp) (answer : op.Ans) :
    (phase.next op answer).turn.handed ↔ phase.turn.handed ∨ Hands ⟨op, answer⟩ := by
  cases op with
  | rpc call op =>
    cases call with
    | turnStart threadId input => exact delivery_handed phase.turn op answer
    | _ => simp [ExecutionPhase.next, Hands]
  | lockThread | receive | receiveCleanup => cases answer <;> simp [ExecutionPhase.next, Hands]
  | _ => simp [ExecutionPhase.next, Hands]

/-! ## Parts that change nothing -/

/-- A part of an execution that the monitor does not see. -/
def Calm {α : Type} (phase : ExecutionPhase) (x : Execution α) : Prop :=
  Tries executionContract x phase (fun _ t => t = phase) fun _ t => t = phase

section

variable {α β : Type} {phase : ExecutionPhase} {p : AppServerImageProvider} {x : Execution α}
  {f : α → Execution β}

theorem Calm.bind (first : Calm phase x) (rest : ∀ a, Calm phase (f a)) : Calm phase (x >>= f) :=
  tries_bind.mpr (first.mono (fun a _ same => same ▸ rest a) fun _ _ same => same)

theorem Calm.mono {ok : α → ExecutionPhase → Prop} {failed : BridgeError → ExecutionPhase → Prop}
    (calm : Calm phase x) (better : ∀ a, ok a phase) (worse : ∀ e, failed e phase) :
    Tries executionContract x phase ok failed :=
  Tries.mono calm (fun a _ same => same ▸ better a) fun e _ same => same ▸ worse e

theorem calm_pure (a : α) : Calm phase (pure a) := tries_pure a |>.mpr rfl

theorem calm_throw (e : BridgeError) : Calm phase (throw e : Execution α) := tries_throw e |>.mpr rfl

theorem calm_ensure (outcome : Outcome α) : Calm phase (ensure outcome) := by
  cases outcome <;> exact rfl

theorem calm_await {op : ProviderOp} (allowed : executionContract.Allow phase op)
    (unseen : ∀ answer, phase.next op answer = phase) : Calm phase (await op) :=
  (tries_lift _).mpr ⟨allowed, fun answer _ => unseen answer⟩

theorem outside_allowed {op : ProviderOp} (outside : Outside op) :
    executionContract.Allow phase op := by
  cases op with
  | rpc call op =>
    cases call with
    | turnStart => exact outside.elim
    | _ => trivial
  | threadLock | lockThread | unlockThread => exact outside.elim
  | _ => trivial

theorem outside_unseen {op : ProviderOp} (outside : Outside op) (answer : op.Ans) :
    phase.next op answer = phase := by
  cases op with
  | rpc call op =>
    cases call with
    | turnStart => exact outside.elim
    | _ => rfl
  | threadLock | lockThread | unlockThread | receive | receiveCleanup => exact outside.elim
  | _ => rfl

theorem outside_keeps {y : Program providerCalls α} (outside : y.Uses Outside) :
    y.Keeps executionContract phase fun _ t => t = phase :=
  outside.keeps (fun _ => outside_allowed) fun _ answer outside => outside_unseen outside answer

theorem calm_outside (outside : Awaits Outside x) : Calm phase x := by
  refine Keeps.mono (outside_keeps outside) fun result t same => ?_
  cases result <;> exact same

theorem calm_persistentThread (key : String) (bound : Option String) :
    Calm phase (persistentThread p key bound) := by
  cases bound with
  | some threadId =>
    apply (calm_outside (outside_resumeThread threadId)).bind
    intro _
    exact calm_pure _
  | none =>
    apply (calm_outside (outside_startThread false)).bind
    intro threadId
    apply (calm_await trivial fun _ => rfl).bind
    intro stored
    apply (calm_ensure stored).bind
    intro _
    exact calm_pure _

theorem calm_resolveThread (session : SessionOptions) : Calm phase (resolveThread p session) := by
  unfold resolveThread
  cases session.mode with
  | isolated =>
    apply (calm_outside (outside_startThread true)).bind
    intro _
    exact calm_pure _
  | persistent =>
    cases session.key with
    | none => exact calm_throw _
    | some key =>
      apply (calm_await trivial fun _ => rfl).bind
      intro bound
      apply (calm_ensure bound).bind
      intro thread
      exact calm_persistentThread key thread
  | thread =>
    cases session.threadId with
    | none => exact calm_throw _
    | some threadId =>
      apply (calm_outside (outside_resumeThread threadId)).bind
      intro _
      exact calm_pure _

/-! ## The turn -/

/-- A part that ends with the end of the turn, or an error. -/
def Concludes {α : Type} (phase : ExecutionPhase) (x : Execution α)
    (failed : BridgeError → ExecutionPhase → Prop) : Prop :=
  Tries executionContract x phase (fun _ t => phase.Extends t ∧ t.settled) failed

/-- An error of an execution that holds its lock and tells of its turn. -/
def Accounts (e : BridgeError) (t : ExecutionPhase) : Prop := t.guards = true ∧ t.Reports e

theorem stall_keeps {ok : α → ExecutionPhase → Prop} {failed : BridgeError → ExecutionPhase → Prop} :
    Tries executionContract (stall : Execution α) phase ok failed :=
  tries_bind.mpr ((tries_lift _).mpr ⟨trivial, fun never => nomatch never⟩)

/-- One operation and what follows it. -/
theorem tries_await {op : ProviderOp} {g : op.Ans → Execution α}
    {ok : α → ExecutionPhase → Prop} {failed : BridgeError → ExecutionPhase → Prop}
    (allowed : executionContract.Allow phase op)
    (continues : ∀ answer, Tries executionContract (g answer) (phase.next op answer) ok failed) :
    Tries executionContract (await op >>= g) phase ok failed :=
  tries_bind.mpr ((tries_lift _).mpr ⟨allowed, fun answer _ => continues answer⟩)

theorem confirmInterruption_concludes (threadId turnId : String) (rounds : Nat) :
    Concludes phase (confirmInterruption threadId turnId rounds) fun _ t => phase.Extends t := by
  induction rounds generalizing phase with
  | zero => exact stall_keeps
  | succ rounds ih =>
    apply tries_await trivial
    intro wakeup
    cases wakeup with
    | failed error => exact .refl _
    | elapsed => exact .refl _
    | received notification =>
      have extended : phase.Extends
          (phase.next (.receiveCleanup threadId turnId) (.received notification)) :=
        ⟨rfl, rfl, rfl, .inl⟩
      dsimp only
      split
      · rename_i completes
        exact ⟨extended, .inr completes⟩
      · exact Tries.mono ih (fun _ _ ⟨later, settled⟩ => ⟨extended.trans later, settled⟩)
          fun _ _ later => extended.trans later

theorem interruptAndConfirm_concludes (rounds : Nat) (threadId turnId : String) :
    Concludes phase (interruptAndConfirm p rounds threadId turnId) fun _ t => phase.Extends t := by
  have calm : Calm phase (request p (.turnInterrupt threadId turnId)) :=
    calm_outside (outside_request fun _ _ => nofun)
  apply tries_bind.mpr
  apply calm.mono
  · intro _
    exact confirmInterruption_concludes threadId turnId rounds
  · intro e
    exact .refl _

/-- A turn that is given up is settled, or its report is ambiguous. -/
theorem interrupted_accounts {rounds : Nat} {threadId turnId : String}
    {report : Outcome String → BridgeError} {ok : TurnImages → ExecutionPhase → Prop}
    (guards : phase.guards = true) (sound : phase.Sound)
    (ambiguous : ∀ e, Ambiguous (report (.error e))) :
    Tries executionContract (interrupted p rounds threadId turnId report) phase ok Accounts := by
  apply tries_attempt.mpr
  apply Tries.mono (interruptAndConfirm_concludes rounds threadId turnId)
  · rintro status t ⟨extended, settled⟩
    exact ⟨extended.guards.trans guards,
      ExecutionPhase.reports_settled (extended.sound sound) settled⟩
  · rintro e t extended
    exact ⟨extended.guards.trans guards,
      ExecutionPhase.reports_ambiguous (extended.sound sound) (ambiguous e)⟩

theorem unknownAppServerOutcome_ambiguous (code : ErrorCode) (message : String) :
    Ambiguous (unknownAppServerOutcome code message) :=
  ⟨BridgeError.withDetail_unknown _, rfl⟩

theorem protocolFailure_ambiguous (error e : BridgeError) :
    Ambiguous (protocolFailureOutcome error (.error e)) :=
  ⟨BridgeError.withDetail_unknown _, rfl⟩

theorem notificationError_plain (error : RecvError) : ¬Ambiguous (notificationError error) := by
  intro ambiguous
  cases error <;> cases ambiguous.1

/-- The turn's end, with everything told of it. -/
def Ended (t : ExecutionPhase) : Prop := t.guards = true ∧ t.Sound ∧ t.settled

theorem followTurn_accounts (threadId turnId : String) (turnRequest : ImageRequest) (rounds : Nat)
    (turn : TurnAccumulator) (guards : phase.guards = true) (sound : phase.Sound)
    (unknown : ¬phase.Known) :
    Tries executionContract (followTurn p threadId turnId turnRequest rounds turn) phase
      (fun _ t => Ended t) Accounts := by
  induction rounds generalizing phase turn with
  | zero => exact stall_keeps
  | succ rounds ih =>
    apply tries_await trivial
    intro wakeup
    cases wakeup with
    | failed error =>
      refine ⟨guards, ExecutionPhase.reports_hidden (notificationError_plain error) unknown ?_⟩
      exact fun ⟨_, _, unmissed⟩ => unmissed trivial
    | cancelled | elapsed =>
      apply interrupted_accounts guards sound
      intro e
      exact unknownAppServerOutcome_ambiguous _ _
    | received notification =>
      dsimp only
      split
      · rename_i e _
        exact interrupted_accounts guards sound (protocolFailure_ambiguous e)
      · split
        · rename_i completes
          have settled : (phase.next (.receive threadId turnId) (.received notification)).settled :=
            .inr completes
          cases turnResult notification turnRequest _ with
          | ok images => exact ⟨guards, sound, settled⟩
          | error e => exact ⟨guards, ExecutionPhase.reports_settled sound settled⟩
        · rename_i goes_on
          have still : ¬(phase.next (.receive threadId turnId) (.received notification)).Known := by
            rintro (refused | settled | completes)
            · exact unknown (.inl refused)
            · exact unknown (.inr settled)
            · exact goes_on completes
          exact @ih (phase.next (.receive threadId turnId) (.received notification)) _ guards sound
            still

/-- The request of the turn, from an execution that holds its lock and started none. -/
theorem turnStart_tells {threadId : String} {input : Json} (guards : phase.guards = true)
    (fresh : phase.turn = unsent) :
    Tries executionContract (request p (.turnStart threadId input)) phase
      (fun value t => ∃ turn, t = { phase with turn } ∧ Told turn (.ok value))
      fun e t => ∃ turn, t = { phase with turn } ∧ Told turn (.error e) := by
  let Related : Delivery → ExecutionPhase → Prop := fun turn t => t = { phase with turn }
  have allowed : ∀ turn t o, Related turn t → deliveryContract.Allow turn o →
      executionContract.Allow t (.rpc (.turnStart threadId input) o) := by
    intro turn t o same allows
    rw [show t = { phase with turn } from same]
    cases o with
    | lockWriter => exact ⟨guards, allows⟩
    | _ => exact trivial
  have followed : ∀ turn t o (given : o.Ans), Related turn t → deliveryContract.Allow turn o →
      executionContract.Expect t (.rpc (.turnStart threadId input) o) given →
        deliveryContract.Expect turn o given ∧
          Related (turn.next o given) (t.next (.rpc (.turnStart threadId input) o) given) := by
    intro turn t o given same _ _
    rw [show t = { phase with turn } from same]
    exact ⟨trivial, rfl⟩
  have start : Related unsent phase := by
    show phase = { phase with turn := unsent }
    rw [← fresh]
  refine Keeps.mono (request_delivery.relay allowed followed start) ?_
  rintro result t ⟨turn, same, told⟩
  cases result <;> exact ⟨turn, same, told⟩

theorem stringAt_plain {value : Json} {path : List String} {message : String} {e : BridgeError}
    (missing : stringAt value path message = .error e) : ¬Ambiguous e := by
  unfold stringAt at missing
  split at missing
  · cases missing
  · cases missing
    exact protocolError_plain message

/-- A turn is started by an execution that has not seen the end of another one. -/
theorem runTurn_accounts {rounds : Nat} {threadId : String} {turnRequest : ImageRequest}
    (guards : phase.guards = true) (fresh : phase.turn = unsent) (unsettled : ¬phase.settled)
    (unmissed : ¬phase.missed) :
    Tries executionContract (runTurn p rounds threadId turnRequest) phase (fun _ t => Ended t)
      Accounts := by
  apply tries_bind.mpr
  apply (calm_outside (outside_referencePaths turnRequest)).mono _ fun e =>
    ⟨guards, ExecutionPhase.reports_unsent fresh⟩
  intro paths
  apply tries_await trivial
  intro _
  apply tries_bind.mpr
  apply Tries.mono (turnStart_tells guards fresh)
  · rintro value t ⟨turn, rfl, handed, kept, told⟩
    have unknown : ¬({ phase with turn } : ExecutionPhase).Known := by
      rintro (⟨e, refused, _⟩ | settled)
      · rw [told] at refused
        cases List.mem_singleton.mp refused
      · exact unsettled settled
    apply tries_bind.mpr
    cases named : stringAt value ["turn", "id"] "turn/start returned no turn ID" with
    | error e =>
      refine ⟨guards, ExecutionPhase.reports_hidden (stringAt_plain named) unknown ?_⟩
      exact fun ⟨_, has_id, _⟩ => has_id ⟨value, e, by simp [told], named⟩
    | ok turnId =>
      refine followTurn_accounts threadId turnId turnRequest rounds _ guards
        ⟨kept, ?_, unmissed⟩ unknown
      rintro ⟨value', e, told', missing⟩
      rw [told] at told'
      cases List.mem_singleton.mp told'
      cases named.symm.trans missing
  · rintro e t ⟨turn, rfl, told⟩
    have named : ¬turn.Unnamed := fun ⟨value, _, response, _⟩ => told.1 value response
    refine ⟨guards, fun handed => ?_⟩
    constructor
    · rintro (ambiguous | refused | settled)
      · exact ⟨(told.2 handed).mp (.inl ambiguous), named, unmissed⟩
      · exact ⟨(told.2 handed).mp (.inr refused), named, unmissed⟩
      · exact absurd settled unsettled
    · rintro ⟨kept, _⟩
      exact ((told.2 handed).mpr kept).imp_right .inl

/-! ## Executions -/

/-- Archiving changes nothing and never fails. -/
theorem archiveIsolated_keeps (mode : SessionMode) (threadId : String) :
    Tries executionContract (archiveIsolated p mode threadId) phase (fun _ t => t = phase)
      fun _ _ => False := by
  cases mode with
  | isolated =>
    have calm : (sendCall p (.threadArchive threadId)).Keeps executionContract phase
        fun _ t => t = phase := outside_keeps (outside_sendCall fun _ _ => nofun)
    exact tries_bind.mpr ((tries_lift _).mpr (calm.mono fun _ _ same => same))
  | persistent | thread => exact rfl

theorem executeLocked_accounts {rounds : Nat} {negotiated : NegotiatedRequest} {requestId : String}
    (guards : phase.guards = true) (fresh : phase.turn = unsent) (unsettled : ¬phase.settled)
    (unmissed : ¬phase.missed) :
    Tries executionContract (executeLocked p rounds negotiated requestId) phase
      (fun _ t => t.guards = true) Accounts := by
  apply tries_bind.mpr
  apply (calm_resolveThread _).mono _ fun e => ⟨guards, ExecutionPhase.reports_unsent fresh⟩
  rintro ⟨threadId, reused⟩
  apply tries_attempt.mpr
  apply Tries.mono (runTurn_accounts guards fresh unsettled unmissed)
  · rintro turn t ⟨guards, sound, settled⟩
    have accounts : ∀ e, Accounts e t :=
      fun _ => ⟨guards, ExecutionPhase.reports_settled sound settled⟩
    apply tries_bind.mpr
    refine Tries.mono (archiveIsolated_keeps _ _) ?_ fun _ _ => False.elim
    rintro _ _ rfl
    apply tries_bind.mpr
    apply tries_bind.mpr
    apply (calm_ensure _).mono _ accounts
    intro images
    apply tries_await trivial
    intro elapsed
    apply tries_await trivial
    intro created
    exact guards
  · intro e t accounts
    apply tries_bind.mpr
    refine Tries.mono (archiveIsolated_keeps _ _) ?_ fun _ _ => False.elim
    rintro _ _ rfl
    exact tries_bind.mpr accounts

/-- An execution keeps the order of its contract, and its errors tell of its turn. -/
theorem executeInner_reports {rounds : Nat} {request : ImageRequest} {requestId : String} :
    Tries executionContract (executeInner p rounds request requestId) {} (fun _ _ => True)
      fun e t => t.Reports e := by
  apply tries_bind.mpr
  apply (calm_ensure _).mono _ fun e => ExecutionPhase.reports_unsent rfl
  intro _
  apply tries_bind.mpr
  apply (calm_ensure _).mono _ fun e => ExecutionPhase.reports_unsent rfl
  intro negotiated
  apply tries_await trivial
  intro connected
  apply tries_bind.mpr
  apply (calm_ensure _).mono _ fun e => ExecutionPhase.reports_unsent rfl
  intro _
  apply tries_await rfl
  intro lock
  refine tries_await (And.intro rfl rfl) fun wakeup => ?_
  apply tries_bind.mpr
  cases wakeup with
  | cancelled | elapsed => exact ExecutionPhase.reports_unsent rfl
  | guarded =>
    apply tries_attempt.mpr
    apply Tries.mono (executeLocked_accounts rfl rfl False.elim False.elim)
    · intro response t guards
      apply tries_await guards
      intro _
      exact trivial
    · rintro e t ⟨guards, reports⟩
      apply tries_await guards
      intro _
      exact reports

theorem calm_deleteSession (key : String) : Calm phase (deleteSession key) := by
  apply (calm_await trivial fun _ => rfl).bind
  intro bound
  apply (calm_ensure bound).bind
  intro thread
  apply (calm_ensure _).bind
  intro _
  apply (calm_await trivial fun _ => rfl).bind
  intro deleted
  exact calm_ensure deleted

end

/-! ## A sample app-server -/

/-- A provider as far as one execution without references needs it. -/
def sampleProvider : AppServerImageProvider where
  codec := ⟨fun _ => none, fun _ => []⟩
  rpcConfig := ⟨1024, 1024⟩
  config := ⟨none, "/work", 1024⟩
  referenceInputs := none
  normalizedImage := fun _ => .error (BridgeError.new .protocol "no image")

def startedTurn : Json :=
  .object [("thread", .object [("id", .string "thread-1")]),
    ("turn", .object [("id", .string "turn-1")])]

end ImagegenBridge.CodexAppServer
