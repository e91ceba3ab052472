import ImagegenBridge.Core.Response
import ImagegenBridge.Runtime.Policy

/-!
# Errors of a batch

What the output fan-out and the `codex-responses` provider both do with the
errors of the sub-calls one request is split into, and what the runtime reads in
the error of the whole batch.
-/

namespace ImagegenBridge.Batch

open Orchestrator

def atOutput (error : BridgeError) (index elapsedMs : Nat) : BridgeError :=
  (error.withDetail "output_index" (.integer index)).withDetail "generation_ms" (.integer elapsedMs)

/-- The error of a batch that stopped at its first failed sub-call. -/
def stopError (error : BridgeError) (index elapsedMs : Nat) (siblingsMayHaveRun : Bool) :
    BridgeError :=
  if siblingsMayHaveRun then
    (((atOutput error index elapsedMs).setRetryable false).withDetail "outcome"
      (.string "unknown")).withDetail "retry_scope" (.string "do_not_retry_full_batch")
  else atOutput error index elapsedMs

/-- The error of a batch without any output. -/
def allFailedError (error : BridgeError) (requestedCount : Nat) : BridgeError :=
  (error.withDetail "all_outputs_failed" (.bool true)).withDetail "failed_outputs"
    (.integer requestedCount)

/-- What the runtime must read where work may have been done: the outcome is not
known, and the request is not safe to repeat. -/
def Uncertain (error : BridgeError) : Prop := error.outcomeUnknown = true ∧ error.retryable = false

/-- A sub-call that may have produced an output. -/
def Ambiguous {α : Type} : Outcome α → Prop
  | .ok _ => True
  | .error e => e.outcomeUnknown = true ∨ interrupts e = true

/-- Any error the runtime reads from a result is uncertain. -/
def Dominated {α : Type} (result : Outcome α) : Prop :=
  ∀ e, classifyProviderExecutionResult result = .error e → Uncertain e

/-- An error the runtime takes for uncertain: one that says so itself and may not be
retried, or an interruption that says nothing. -/
def ReportsUnknown (error : BridgeError) : Prop :=
  if error.outcomeUnknown then error.retryable = false else interrupts error = true

variable {α : Type} {e : BridgeError}

theorem dominated_ok (value : α) : Dominated (.ok value : Outcome α) := by
  intro e impossible
  cases impossible

theorem dominated_error : Dominated (.error e : Outcome α) ↔ ReportsUnknown e := by
  unfold Dominated ReportsUnknown Uncertain classifyProviderExecutionResult
  by_cases unknown : e.outcomeUnknown = true
  · simp [unknown]
  · by_cases interrupted : interrupts e = true <;> simp [unknown, interrupted]

/-- No route follows a dominated batch error, whatever the policy. -/
theorem Dominated.never_falls_back {result : Outcome α} (dominated : Dominated result)
    (failed : classifyProviderExecutionResult result = .error e) (policy : FallbackPolicy) :
    shouldFallback e policy = false :=
  unknown_never_falls_back policy (dominated e failed).1

@[simp] theorem interrupts_withDetail (k : String) (v : Json) :
    interrupts (e.withDetail k v) = interrupts e := rfl

@[simp] theorem reportsUnknown_withProvider (p : String) :
    ReportsUnknown (e.withProvider p) ↔ ReportsUnknown e := Iff.rfl

/-- Details other than `outcome` change nothing the runtime reads. -/
theorem reportsUnknown_withDetail {k : String} (v : Json) (h : k ≠ "outcome") :
    ReportsUnknown (e.withDetail k v) ↔ ReportsUnknown e := by
  simp [ReportsUnknown, BridgeError.withDetail_outcome_ne e v h]

theorem reportsUnknown_stopError (index elapsedMs : Nat) (siblings : Bool) :
    ReportsUnknown (stopError e index elapsedMs siblings) ↔ siblings = true ∨ ReportsUnknown e := by
  cases siblings with
  | false =>
    simp only [stopError, Bool.false_eq_true, if_false, false_or, atOutput]
    rw [reportsUnknown_withDetail _ (by decide), reportsUnknown_withDetail _ (by decide)]
  | true =>
    simp only [stopError, if_true, true_or, iff_true]
    rw [reportsUnknown_withDetail _ (by decide)]
    simp [ReportsUnknown]

theorem reportsUnknown_allFailedError (requestedCount : Nat) :
    ReportsUnknown (allFailedError e requestedCount) ↔ ReportsUnknown e := by
  unfold allFailedError
  rw [reportsUnknown_withDetail _ (by decide), reportsUnknown_withDetail _ (by decide)]

/-- A plain error of the batch's own is never taken for uncertain. -/
theorem not_reportsUnknown_new {code : ErrorCode} {message : String} (known : code ≠ .timeout)
    (live : code ≠ .cancelled) : ¬ReportsUnknown (BridgeError.new code message) := by
  simp [ReportsUnknown, interrupts, known, live]

end ImagegenBridge.Batch
