import ImagegenBridge.Core.Parameters

/-!
# Error policy of the runtime

The free functions of `crates/runtime/src/orchestrator.rs` that classify errors,
and the two ways its pipeline awaits a future under control. How an awaited
future ends is the environment's choice.
-/

namespace ImagegenBridge.Orchestrator

def attachProvider (error : BridgeError) (provider : String) : BridgeError :=
  if error.provider.isNone then error.withProvider provider else error

def shouldFallback (error : BridgeError) (policy : FallbackPolicy) : Bool :=
  if error.outcomeUnknown then false
  else match error.code with
    | .invalidRequest | .permissionDenied | .safetyRejected | .cancelled | .session
    | .idempotencyConflict => false
    | .configuration | .authentication | .unsupportedCapability | .rateLimited | .overloaded => true
    | .upstream | .protocol | .artifact | .input | .internal => policy == .onError
    | .timeout => false

def timeoutError : BridgeError :=
  (BridgeError.new .timeout "request deadline elapsed").setRetryable true

def unknownOutcomeError (code : ErrorCode) (message : String) : BridgeError :=
  ((BridgeError.new code message).setRetryable false).withDetail "outcome" (.string "unknown")

def cancelledError (message : String) : BridgeError := .new .cancelled message

def configurationError (message : String) : BridgeError := .new .configuration message

def protocolError (message : String) : BridgeError := .new .protocol message

def interrupts (error : BridgeError) : Bool := error.code == .timeout || error.code == .cancelled

def classifyProviderExecutionResult {α : Type} : Outcome α → Outcome α
  | .error e =>
    if interrupts e && !e.outcomeUnknown then
      .error ((e.setRetryable false).withDetail "outcome" (.string "unknown"))
    else .error e
  | .ok value => .ok value

/-- Which branch of a `select!` won against the future. -/
inductive Interruption where
  | cancelled | shutdown | deadline
  deriving DecidableEq, Repr

/-- How `await_controlled` ends: the deadline had passed before the future was
polled, the future finished, or another branch won and the future was abandoned. -/
inductive Controlled (α : Type) where
  | elapsed
  | finished (result : α)
  | interrupted (interruption : Interruption)

/-- How a provider's execution ends. An interrupted one may still finish within
the cancellation grace. -/
inductive ProviderEnd (α : Type) where
  | elapsed
  | finished (result : Outcome α)
  | interrupted (interruption : Interruption) (late : Option (Outcome α))

def awaitControlled {α : Type} (cancellationMessage : String) : Controlled (Outcome α) → Outcome α
  | .elapsed => .error timeoutError
  | .finished result => result
  | .interrupted .cancelled => .error (cancelledError cancellationMessage)
  | .interrupted .shutdown => .error (cancelledError "runtime is shutting down")
  | .interrupted .deadline => .error timeoutError

def interruptedError : Interruption → BridgeError
  | .cancelled => unknownOutcomeError .cancelled "request was cancelled during provider execution"
  | .shutdown => unknownOutcomeError .cancelled "runtime shut down during provider execution"
  | .deadline => unknownOutcomeError .timeout "request deadline elapsed during provider execution"

def awaitProviderExecution {α : Type} : ProviderEnd α → Outcome α
  | .elapsed => .error timeoutError
  | .finished result => classifyProviderExecutionResult result
  | .interrupted _ (some (.ok value)) => .ok value
  | .interrupted interruption (some (.error e)) =>
    if interrupts e then .error (interruptedError interruption) else .error e
  | .interrupted interruption none => .error (interruptedError interruption)

/-- The value a provider call returned, at once or within the grace. -/
def ProviderEnd.returned {α : Type} : ProviderEnd α → Option α
  | .finished (.ok value) | .interrupted _ (some (.ok value)) => some value
  | _ => none

/-- The call was polled and its outcome is not known. -/
def ProviderEnd.ambiguous {α : Type} (finish : ProviderEnd α) : Bool :=
  match finish with
  | .elapsed => false
  | _ => match awaitProviderExecution finish with
    | .ok _ => false
    | .error e => e.outcomeUnknown

/-- Errors after which another route may run under the default policy. -/
def Unavailable (error : BridgeError) : Prop := shouldFallback error .onUnavailable = true

@[simp] theorem attachProvider_code (e : BridgeError) (p : String) :
    (attachProvider e p).code = e.code := by
  unfold attachProvider
  split <;> rfl

@[simp] theorem attachProvider_outcome (e : BridgeError) (p : String) :
    (attachProvider e p).outcomeUnknown = e.outcomeUnknown := by
  unfold attachProvider
  split <;> rfl

@[simp] theorem unknownOutcomeError_unknown (code : ErrorCode) (message : String) :
    (unknownOutcomeError code message).outcomeUnknown = true := by
  simp [unknownOutcomeError]

@[simp] theorem interruptedError_unknown (interruption : Interruption) :
    (interruptedError interruption).outcomeUnknown = true := by
  cases interruption <;> simp [interruptedError]

theorem unknown_never_falls_back {e : BridgeError} (policy : FallbackPolicy)
    (unknown : e.outcomeUnknown = true) : shouldFallback e policy = false := by
  simp [shouldFallback, unknown]

theorem not_unavailable_of_code {e : BridgeError} (code : e.code = .protocol ∨ e.code = .artifact ∨
    e.code = .timeout ∨ e.code = .cancelled ∨ e.code = .invalidRequest) : ¬Unavailable e := by
  unfold Unavailable shouldFallback
  rcases code with h | h | h | h | h <;> rw [h] <;> simp

/-- After classification an interrupted call is never released as known. -/
theorem classified_interrupts {α : Type} {result : Outcome α} {e : BridgeError}
    (classified : classifyProviderExecutionResult result = .error e) (interrupted : interrupts e = true) :
    e.outcomeUnknown = true := by
  cases result with
  | ok value => cases classified
  | error original =>
    simp only [classifyProviderExecutionResult] at classified
    split at classified
    · cases classified
      simp
    · rename_i kept
      cases classified
      simpa [interrupted] using kept

@[simp] theorem classify_ok {α : Type} {result : Outcome α} {value : α} :
    classifyProviderExecutionResult result = .ok value ↔ result = .ok value := by
  cases result with
  | ok value => simp [classifyProviderExecutionResult]
  | error e =>
    simp only [classifyProviderExecutionResult]
    split <;> simp

/-- The runtime sees a value exactly when the provider returned one. -/
theorem awaitProviderExecution_ok {α : Type} {finish : ProviderEnd α} {value : α} :
    awaitProviderExecution finish = .ok value ↔ finish.returned = some value := by
  cases finish with
  | elapsed => simp [awaitProviderExecution, ProviderEnd.returned]
  | finished result => cases result <;> simp [awaitProviderExecution, ProviderEnd.returned]
  | interrupted interruption late =>
    obtain _ | (e | value) := late
    · simp [awaitProviderExecution, ProviderEnd.returned]
    · simp only [awaitProviderExecution, ProviderEnd.returned]
      split <;> simp
    · simp [awaitProviderExecution, ProviderEnd.returned]

end ImagegenBridge.Orchestrator
