import ImagegenBridge.CodexAppServer.Provider

/-!
# What the parts of an execution await

Most parts of an execution leave locks, sessions and turns alone, whatever watches them.
-/

namespace ImagegenBridge.CodexAppServer

open Program

/-- An operation on no lock, no binding and no turn. -/
def Outside : ProviderOp → Prop
  | .rpc (.turnStart ..) _ => False
  | .connection | .rpc .. | .loadReference _ | .stageReference _ | .subscribe | .stall
  | .elapsed | .now => True
  | _ => False

/-- An operation on no lock and no binding, and on no turn of another thread. -/
def TurnsOn (threadId : String) : ProviderOp → Prop
  | .rpc (.turnStart thread _) _ => thread = threadId
  | .connection | .rpc .. | .loadReference _ | .stageReference _ | .subscribe | .receive ..
  | .receiveCleanup .. | .stall | .elapsed | .now => True
  | _ => False

/-- Every operation of an execution is of a kind. -/
abbrev Awaits {α : Type} (kind : ProviderOp → Prop) (x : Execution α) : Prop := x.run.Uses kind

variable {p : AppServerImageProvider} {kind : ProviderOp → Prop} {α β : Type}

theorem Outside.turnsOn (threadId : String) {op : ProviderOp} (outside : Outside op) :
    TurnsOn threadId op := by
  cases op with
  | rpc call op =>
    cases call with
    | turnStart => exact outside.elim
    | _ => trivial
  | connection | loadReference | stageReference | subscribe | stall | elapsed | now => trivial
  | _ => exact outside.elim

theorem Awaits.turnsOn {x : Execution α} (outside : Awaits Outside x) (threadId : String) :
    Awaits (TurnsOn threadId) x :=
  outside.mono fun _ => Outside.turnsOn threadId

theorem awaits_pure (a : α) : Awaits kind (pure a) := trivial

theorem awaits_throw (e : BridgeError) : Awaits kind (throw e : Execution α) := trivial

theorem awaits_ensure (outcome : Outcome α) : Awaits kind (ensure outcome) := trivial

theorem awaits_await {op : ProviderOp} (fits : kind op) : Awaits kind (await op) :=
  (uses_ask (I := providerCalls) fits).lift

theorem awaits_attempt {x : Execution α} {f : Outcome α → Execution β} (first : Awaits kind x)
    (rest : ∀ outcome, Awaits kind (f outcome)) : Awaits kind (ExceptT.lift x.run >>= f) :=
  (Uses.lift first).bind_tries rest

theorem outside_sendCall {call : AppServerCall}
    (other : ∀ threadId input, call ≠ .turnStart threadId input) :
    (sendCall p call).Uses Outside := by
  apply uses_relay
  intro op
  cases call with
  | turnStart threadId input => exact absurd rfl (other threadId input)
  | _ => trivial

/-- A request that starts no turn. -/
theorem outside_request {call : AppServerCall}
    (other : ∀ threadId input, call ≠ .turnStart threadId input) :
    Awaits Outside (request p call) :=
  outside_sendCall other

theorem outside_startThread (ephemeral : Bool) : Awaits Outside (startThread p ephemeral) := by
  apply Uses.bind_tries
  · exact outside_request fun _ _ => nofun
  · intro result
    exact awaits_ensure _

theorem outside_resumeThread (threadId : String) : Awaits Outside (resumeThread p threadId) := by
  apply Uses.bind_tries
  · exact outside_request fun _ _ => nofun
  · intro _
    exact awaits_pure _

theorem outside_loadReference (inputs : AppServerReferenceInputs) (input : ImageInput) :
    Awaits Outside (loadReference inputs input) := by
  unfold loadReference
  split
  · exact awaits_throw _
  · apply (awaits_await trivial).bind_tries
    intro loaded
    exact awaits_ensure _

theorem outside_stageReferences (inputs : AppServerReferenceInputs) (rest : List ImageInput)
    (total : Nat) (paths : List String) :
    Awaits Outside (stageReferences inputs rest total paths) := by
  induction rest generalizing total paths with
  | nil => exact awaits_pure _
  | cons input rest ih =>
    apply (outside_loadReference inputs input).bind_tries
    intro bytes
    apply (awaits_ensure _).bind_tries
    intro _
    apply (awaits_ensure _).bind_tries
    intro _
    apply (awaits_await trivial).bind_tries
    intro stored
    apply (awaits_ensure stored).bind_tries
    intro path
    exact ih _ _

theorem outside_referencePaths (request : ImageRequest) :
    Awaits Outside (referencePaths p request) := by
  unfold referencePaths
  split
  · exact awaits_pure _
  · cases p.referenceInputs with
    | none => exact awaits_throw _
    | some inputs => exact outside_stageReferences inputs _ _ _

theorem outside_archiveIsolated (mode : SessionMode) (threadId : String) :
    Awaits Outside (archiveIsolated p mode threadId) := by
  cases mode with
  | isolated =>
    have archives : (sendCall p (.threadArchive threadId)).Uses Outside :=
      outside_sendCall fun _ _ => nofun
    apply (Uses.lift archives).bind_tries
    intro _
    exact awaits_pure _
  | persistent | thread => exact awaits_pure _

/-! ## Turns -/

variable {threadId turnId : String}

theorem turnsOn_stall : Awaits (TurnsOn threadId) (stall : Execution α) := by
  apply (awaits_await trivial).bind_tries
  intro never
  exact never.elim

theorem turnsOn_confirmInterruption (rounds : Nat) :
    Awaits (TurnsOn threadId) (confirmInterruption threadId turnId rounds) := by
  induction rounds with
  | zero => exact turnsOn_stall
  | succ rounds ih =>
    apply (awaits_await trivial).bind_tries
    intro wakeup
    cases wakeup with
    | failed | elapsed => exact awaits_throw _
    | received notification =>
      dsimp only
      split
      · exact awaits_pure _
      · exact ih

theorem turnsOn_interrupted (rounds : Nat) (report : Outcome String → BridgeError) :
    Awaits (TurnsOn threadId) (interrupted p rounds threadId turnId report) := by
  have confirms : Awaits (TurnsOn threadId) (interruptAndConfirm p rounds threadId turnId) := by
    have interrupts : Awaits Outside (request p (.turnInterrupt threadId turnId)) :=
      outside_request fun _ _ => nofun
    apply (interrupts.turnsOn threadId).bind_tries
    intro _
    exact turnsOn_confirmInterruption rounds
  apply awaits_attempt confirms
  intro confirmed
  exact awaits_throw _

theorem turnsOn_followTurn (turnRequest : ImageRequest) (rounds : Nat) (turn : TurnAccumulator) :
    Awaits (TurnsOn threadId) (followTurn p threadId turnId turnRequest rounds turn) := by
  induction rounds generalizing turn with
  | zero => exact turnsOn_stall
  | succ rounds ih =>
    apply (awaits_await trivial).bind_tries
    intro wakeup
    cases wakeup with
    | failed => exact awaits_throw _
    | cancelled | elapsed => exact turnsOn_interrupted rounds _
    | received notification =>
      dsimp only
      split
      · exact turnsOn_interrupted rounds _
      · split
        · exact awaits_ensure _
        · exact ih _

theorem turnsOn_runTurn (rounds : Nat) (turnRequest : ImageRequest) :
    Awaits (TurnsOn threadId) (runTurn p rounds threadId turnRequest) := by
  apply ((outside_referencePaths turnRequest).turnsOn threadId).bind_tries
  intro paths
  apply (awaits_await trivial).bind_tries
  intro _
  apply Uses.bind_tries
  · have fits : ∀ op, TurnsOn threadId
        (.rpc (.turnStart threadId (turnInput turnRequest paths)) op) := fun _ => rfl
    exact uses_relay fits _
  · intro result
    apply (awaits_ensure _).bind_tries
    intro turnId
    exact turnsOn_followTurn turnRequest rounds _

end ImagegenBridge.CodexAppServer
