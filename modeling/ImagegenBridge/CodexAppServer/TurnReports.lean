import ImagegenBridge.CodexAppServer.Executions

/-!
# Reports of ambiguous turns

Once the line of `turn/start` was handed to the writer the turn may run, whatever the
execution sees of it. The errors of an execution mark this, but for those of a connection
or a receiver that fails.
-/

namespace ImagegenBridge.CodexAppServer

open Program

/-- The peer answers a request with an error. -/
def Refuses : (op : RpcOp) → op.Ans → Prop
  | .wait _, .answered (some (.error e)) => Responded e
  | _, _ => False

/-- A request is lost: its line is not taken or not flushed, or a failed connection answers
for the peer. -/
def Loses : (op : RpcOp) → op.Ans → Prop
  | .writeByte _, taken => taken = false
  | .flush, flushed => flushed = false
  | .wait _, .answered none => True
  | .wait _, .answered (some (.error e)) => ¬Responded e ∧ ¬Ambiguous e
  | _, _ => False

/-- The response to `turn/start` has no turn id. -/
def Unnames : (op : RpcOp) → op.Ans → Prop
  | .wait _, .answered (some (.ok value)) =>
    ∃ e, stringAt value ["turn", "id"] "turn/start returned no turn ID" = .error e
  | _, _ => False

/-- The outcome of the turn becomes known: the peer answers `turn/start` with an error, or
tells that the turn is over. -/
def Reveals : Exchange providerCalls → Prop
  | ⟨.rpc (.turnStart ..) op, answer⟩ => Refuses op answer
  | ⟨.receive threadId turnId, .received notification⟩
  | ⟨.receiveCleanup threadId turnId, .received notification⟩ =>
    completesTurn notification threadId turnId = true
  | _ => False

/-- The outcome of the turn is hidden: `turn/start` is lost or its response names no turn,
or the notifications fail. -/
def Hides : Exchange providerCalls → Prop
  | ⟨.rpc (.turnStart ..) op, answer⟩ => Loses op answer ∨ Unnames op answer
  | ⟨.receive _ _, .failed _⟩ => True
  | _ => False

/-! ## One request -/

theorem delivery_lost (delivery : Delivery) (op : RpcOp) (answer : op.Ans) :
    (delivery.next op answer).lost ↔ delivery.lost ∨ Loses op answer := by
  cases op with
  | writeByte | flush => cases answer <;> simp [Delivery.next, Loses]
  | wait id =>
    cases answer with
    | answered result => obtain _ | _ | _ := result <;> simp [Delivery.next, Delivery.told, Loses]
    | _ => simp [Delivery.next, Loses]
  | _ => simp [Delivery.next, Loses]

theorem delivery_refused (delivery : Delivery) (op : RpcOp) (answer : op.Ans) :
    (delivery.next op answer).Refused ↔ delivery.Refused ∨ Refuses op answer := by
  cases op with
  | writeByte | flush => cases answer <;> simp [Delivery.next, Delivery.Refused, Refuses]
  | wait id =>
    cases answer with
    | answered result =>
      obtain _ | _ | _ := result <;>
        simp [Delivery.next, Delivery.told, Delivery.Refused, Refuses, or_comm]
    | _ => simp [Delivery.next, Delivery.Refused, Refuses]
  | _ => simp [Delivery.next, Delivery.Refused, Refuses]

theorem delivery_unnamed (delivery : Delivery) (op : RpcOp) (answer : op.Ans) :
    (delivery.next op answer).Unnamed ↔ delivery.Unnamed ∨ Unnames op answer := by
  cases op with
  | writeByte | flush => cases answer <;> simp [Delivery.next, Delivery.Unnamed, Unnames]
  | wait id =>
    cases answer with
    | answered result =>
      obtain _ | _ | _ := result <;>
        simp [Delivery.next, Delivery.told, Delivery.Unnamed, Unnames, or_comm]
    | _ => simp [Delivery.next, Delivery.Unnamed, Unnames]
  | _ => simp [Delivery.next, Delivery.Unnamed, Unnames]

/-! ## Whole executions -/

/-- The outcome of the turn is hidden. -/
def ExecutionPhase.Hidden (phase : ExecutionPhase) : Prop :=
  phase.turn.lost ∨ phase.turn.Unnamed ∨ phase.missed

theorem sound_iff (phase : ExecutionPhase) : phase.Sound ↔ ¬phase.Hidden := by
  simp [ExecutionPhase.Sound, ExecutionPhase.Hidden, not_or]

theorem phase_known (phase : ExecutionPhase) (op : ProviderOp) (answer : op.Ans) :
    (phase.next op answer).Known ↔ phase.Known ∨ Reveals ⟨op, answer⟩ := by
  cases op with
  | rpc call op =>
    cases call with
    | turnStart threadId input =>
      have refused := delivery_refused phase.turn op answer
      simp only [ExecutionPhase.next, ExecutionPhase.Known, Reveals, refused]
      exact or_right_comm
    | _ => simp [ExecutionPhase.next, ExecutionPhase.Known, Reveals]
  | lockThread | receive | receiveCleanup =>
    cases answer <;> simp [ExecutionPhase.next, ExecutionPhase.Known, Reveals, or_assoc]
  | _ => simp [ExecutionPhase.next, ExecutionPhase.Known, Reveals]

theorem phase_hidden (phase : ExecutionPhase) (op : ProviderOp) (answer : op.Ans) :
    (phase.next op answer).Hidden ↔ phase.Hidden ∨ Hides ⟨op, answer⟩ := by
  cases op with
  | rpc call op =>
    cases call with
    | turnStart threadId input =>
      have lost := delivery_lost phase.turn op answer
      have unnamed := delivery_unnamed phase.turn op answer
      simp only [ExecutionPhase.next, ExecutionPhase.Hidden, Hides, lost, unnamed]
      grind
    | _ => simp [ExecutionPhase.next, ExecutionPhase.Hidden, Hides]
  | lockThread | receive | receiveCleanup =>
    cases answer <;> simp [ExecutionPhase.next, ExecutionPhase.Hidden, Hides]
  | _ => simp [ExecutionPhase.next, ExecutionPhase.Hidden, Hides]

/-- The error of an execution that handed its turn over is marked as ambiguous, or the
outcome is known, exactly when nothing hid the outcome. -/
theorem turn_ambiguity_reported {p : AppServerImageProvider} {rounds : Nat}
    {request : ImageRequest} {requestId : String} {trace : List (Exchange providerCalls)}
    {error : BridgeError}
    (run : Follows (executeInner p rounds request requestId).run trace (.done (.error error)))
    (handed : ∃ exchange ∈ trace, Hands exchange) :
    (Ambiguous error ∨ ∃ exchange ∈ trace, Reveals exchange) ↔
      ∀ exchange ∈ trace, ¬Hides exchange := by
  have expected : executionContract.ExpectsAll {} trace :=
    expectsAll_free (fun _ _ _ => trivial) _ trace
  have reports : (executionMonitor.after {} trace).Reports error :=
    executeInner_reports.follows run expected
  have sent : (executionMonitor.after {} trace).turn.handed ↔
      False ∨ ∃ exchange ∈ trace, Hands exchange :=
    @after_records _ executionMonitor (fun phase => phase.turn.handed) Hands phase_handed {} trace
  have known := after_records (m := executionMonitor) phase_known {} trace
  have hidden := after_records (m := executionMonitor) phase_hidden {} trace
  have none_known : ¬({} : ExecutionPhase).Known := by
    simp [ExecutionPhase.Known, Delivery.Refused, unsent]
  have none_hidden : ¬({} : ExecutionPhase).Hidden := by
    simp [ExecutionPhase.Hidden, Delivery.Unnamed, unsent]
  rw [or_iff_right none_known] at known
  rw [or_iff_right none_hidden] at hidden
  have told := reports (sent.mpr (.inr handed))
  rw [known, sound_iff, hidden] at told
  rw [told]
  simp only [not_exists, not_and]

/-! ## A lagging receiver -/

/-- Everything works until the wait for the turn ends as given. -/
def turnEnds (wakeup : TurnWakeup) : (op : ProviderOp) → Option op.Ans
  | .connection | .putBinding .. | .deleteBinding _ => some (.ok ())
  | .threadLock _ | .elapsed | .now => some 0
  | .lockThread _ => some .guarded
  | .getBinding _ => some (.ok none)
  | .rpc _ op =>
    match op with
    | .checkClosed => some none
    | .nextId => some 1
    | .writeByte _ | .flush => some true
    | .wait _ => some (.answered (some (.ok startedTurn)))
    | .dispatch _ => some (.ok ())
    | .register _ | .unregister _ | .lockWriter | .unlockWriter | .drain _ | .publish _ => some ()
  | .loadReference _ => some (.ok 1)
  | .stageReference _ => some (.ok "reference.png")
  | .receive .. => some wakeup
  | .receiveCleanup .. => some .elapsed
  | .stall => none
  | .unlockThread | .subscribe | .finishTurn .. => some ()

def kiteTurn (wakeup : TurnWakeup) : Option (List (Exchange providerCalls) × Outcome ImageResponse) :=
  (executeInner sampleProvider 4 (ImageRequest.generate "a kite") "request-1").run.driven
    (turnEnds wakeup)

def isHandOver (exchange : Exchange providerCalls) : Bool :=
  match exchange.op with
  | .rpc (.turnStart ..) .lockWriter => true
  | _ => false

def isReveal (exchange : Exchange providerCalls) : Bool :=
  match exchange with
  | ⟨.rpc (.turnStart ..) (.wait _), .answered (some (.error _))⟩ => true
  | ⟨.receive threadId turnId, .received notification⟩
  | ⟨.receiveCleanup threadId turnId, .received notification⟩ =>
    completesTurn notification threadId turnId
  | _ => false

theorem isHandOver_hands {exchange : Exchange providerCalls} (hands : isHandOver exchange = true) :
    Hands exchange := by
  obtain ⟨op, answer⟩ := exchange
  unfold isHandOver at hands
  split at hands
  · rename_i same
    obtain rfl : op = _ := same
    exact rfl
  · cases hands

theorem reveals_isReveal {exchange : Exchange providerCalls} (reveals : Reveals exchange) :
    isReveal exchange = true := by
  unfold Reveals at reveals
  split at reveals
  · unfold Refuses at reveals
    split at reveals
    · rfl
    · exact reveals.elim
  · exact reveals
  · exact reveals
  · exact reveals.elim

/-- A run of the turn that ends with an error after it was handed over, and tells nothing
of its outcome. -/
def endsWith (check : BridgeError → Bool)
    (run : List (Exchange providerCalls) × Outcome ImageResponse) : Bool :=
  run.1.any isHandOver && !run.1.any isReveal && match run.2 with
    | .error e => check e
    | .ok _ => false

theorem endsWith_run {check : BridgeError → Bool} {wakeup : TurnWakeup}
    (plays : (kiteTurn wakeup).any (endsWith check) = true) : ∃ trace error,
      Follows (executeInner sampleProvider 4 (ImageRequest.generate "a kite") "request-1").run trace
        (.done (.error error)) ∧
      (∃ exchange ∈ trace, Hands exchange) ∧ (¬∃ exchange ∈ trace, Reveals exchange) ∧
      check error = true := by
  obtain ⟨⟨trace, result⟩, run, ends⟩ := (Option.any_eq_true ..).mp plays
  simp only [endsWith, Bool.and_eq_true, Bool.not_eq_true', List.any_eq_true,
    List.any_eq_false] at ends
  obtain ⟨⟨⟨sent, member, hands⟩, quiet⟩, checked⟩ := ends
  cases result with
  | ok response => cases checked
  | error error =>
    refine ⟨trace, error, driven_follows run, ⟨sent, member, isHandOver_hands hands⟩, ?_, checked⟩
    rintro ⟨exchange, member, reveals⟩
    exact quiet exchange member (reveals_isReveal reveals)

/-- The deadline of the turn passes and its interruption is not confirmed. -/
theorem deadline_reported : ∃ trace error,
    Follows (executeInner sampleProvider 4 (ImageRequest.generate "a kite") "request-1").run trace
        (.done (.error error)) ∧ (∃ exchange ∈ trace, Hands exchange) ∧
      ((Ambiguous error ∨ ∃ exchange ∈ trace, Reveals exchange) ↔
        ∀ exchange ∈ trace, ¬Hides exchange) := by
  have plays : (kiteTurn .elapsed).any (endsWith fun e => e.outcomeUnknown) = true := by
    decide +kernel
  obtain ⟨trace, error, run, handed, _⟩ := endsWith_run plays
  exact ⟨trace, error, run, handed, turn_ambiguity_reported run handed⟩

/-- The receiver of notifications lags behind a turn that was started. -/
theorem lagging_receiver_unreported : ∃ trace error,
    Follows (executeInner sampleProvider 4 (ImageRequest.generate "a kite") "request-1").run trace
        (.done (.error error)) ∧ (∃ exchange ∈ trace, Hands exchange) ∧
      ¬(Ambiguous error ∨ ∃ exchange ∈ trace, Reveals exchange) := by
  have plays : (kiteTurn (.failed .lagged)).any (endsWith fun e => !e.outcomeUnknown) = true := by
    decide +kernel
  obtain ⟨trace, error, run, handed, untold, plain⟩ := endsWith_run plays
  refine ⟨trace, error, run, handed, ?_⟩
  rintro (ambiguous | told)
  · rw [ambiguous.1] at plain
    cases plain
  · exact untold told

end ImagegenBridge.CodexAppServer
