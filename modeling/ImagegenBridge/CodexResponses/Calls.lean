import ImagegenBridge.CodexResponses.Batch
import ImagegenBridge.CodexResponses.Sse

/-!
# The call of one output, `crates/codex-responses/src/provider.rs`

A call is one attempt after the other. What the credentials, the transport, the clock and
the consumer of partial images do in an attempt is given.
-/

namespace ImagegenBridge.CodexResponses

open SseEvents

/-- What the calls of a provider depend on. -/
structure CallConfig where
  parse : String → Option Json
  sseLimits : SseLimits
  maxBase64Chars : Nat
  maxTransientAttempts : Nat
  transientRetryBackoff : Nat

/-! ## Errors -/

def postDispatchUnknown (code : ErrorCode) (message : String) : BridgeError :=
  (((BridgeError.new code message).setRetryable false).withProvider "codex-responses").withDetail
    "outcome" (.string "unknown")

def httpTransportError (timeout : Bool) : BridgeError :=
  postDispatchUnknown (if timeout then .timeout else .upstream) "Codex Responses transport failed"

def statusCode (status : Nat) : ErrorCode × Bool :=
  match status with
  | 401 => (.authentication, false)
  | 403 => (.permissionDenied, false)
  | 408 => (.timeout, false)
  | 413 => (.input, false)
  | 429 => (.rateLimited, true)
  | status => if 500 ≤ status ∧ status < 600 then (.upstream, true) else (.upstream, false)

def statusError (status : Nat) : BridgeError :=
  (((BridgeError.new (statusCode status).1
    ("Codex Responses returned HTTP " ++ toString status)).setRetryable
    (statusCode status).2).withProvider "codex-responses").withDetail "http_status" (.integer status)

def safeTransientRetry (error : BridgeError) : Bool :=
  error.retryable && !error.outcomeUnknown &&
    (error.code == .rateLimited || error.code == .overloaded || error.code == .upstream)

/-! ## The stream of a response -/

/-- How reading the body ends, if what was read does not end it before. -/
inductive StreamEnd where
  | ended
  | failed (timeout : Bool)
  | cancelled
  | elapsed

/-- The body of a successful response. The consumer takes so many partial images before it
disconnects, if it does. -/
structure ResponseStream where
  chunks : List Bytes
  ending : StreamEnd
  consumer : Option Nat

/-- The state of the events and the partial images that the consumer still takes. -/
abbrev Consumption := EventState × Option Nat

def forwardPartial : Option Nat → Outcome (Option Nat)
  | none => .ok none
  | some 0 =>
    .error ((BridgeError.new .cancelled
      "image event consumer disconnected during Codex generation").withProvider "codex-responses")
  | some (room + 1) => .ok (some room)

variable (config : CallConfig)

def processAndForwardEvent : Consumption → String → Outcome Consumption
  | (state, consumer), data => do
    let (state, image) ← processEvent config.parse data state config.maxBase64Chars
    match image with
    | none => .ok (state, consumer)
    | some _ => do
      let consumer ← forwardPartial consumer
      .ok (state, consumer)

/-- The chunks of a body, each with its events. -/
def consumeChunks : SseDecoder → Consumption → List Bytes → Outcome (SseDecoder × Consumption)
  | decoder, consumption, [] => .ok (decoder, consumption)
  | decoder, consumption, chunk :: chunks => do
    let (decoder, pushed) ← decoder.push chunk
    let consumption ← pushed.foldlM (processAndForwardEvent config) consumption
    consumeChunks decoder consumption chunks

def consumeStream (stream : ResponseStream) : Outcome CallResult := do
  let (decoder, consumption) ← consumeChunks config { limits := config.sseLimits }
    ({}, stream.consumer) stream.chunks
  match stream.ending with
  | .failed timeout => .error (httpTransportError timeout)
  | .cancelled => .error (postDispatchUnknown .cancelled "Codex Responses stream was cancelled")
  | .elapsed => .error (postDispatchUnknown .timeout "Codex Responses stream timed out")
  | .ended => do
    let last ← decoder.finish
    let (state, _) ← last.foldlM (processAndForwardEvent config) consumption
    state.finish

/-! ## Attempts -/

/-- What happens to an attempt, up to the body of a successful response. -/
inductive Attempt where
  | noCredentials (error : BridgeError)
  | tooLate
  | cancelled
  | transport (timeout : Bool)
  | refused (status : Nat)
  | streamed (stream : ResponseStream)

/-- The request was handed to the transport. -/
def Attempt.handed : Attempt → Bool
  | .noCredentials _ | .tooLate => false
  | .cancelled | .transport _ | .refused _ | .streamed _ => true

def callOnce : Attempt → Outcome CallResult
  | .noCredentials error => .error error
  | .tooLate => .error (BridgeError.new .timeout "request deadline elapsed")
  | .cancelled => .error (BridgeError.new .cancelled "Codex Responses request was cancelled")
  | .transport timeout => .error (httpTransportError timeout)
  | .refused status => .error (statusError status)
  | .streamed stream => consumeStream config stream

/-- The pause before another attempt: the time left, and whether the request is cancelled. -/
structure Pause where
  remaining : Nat
  cancelled : Bool

/-- What happens to each attempt and in the pause after it. -/
structure CallWorld where
  attempt : Nat → Attempt
  pause : Nat → Pause

/-- `Duration::MAX` in nanoseconds. -/
def maxDuration : Nat := (2 ^ 64 - 1) * 10 ^ 9 + 999999999

def retryDelay (attempt : Nat) : Nat := min (config.transientRetryBackoff * attempt) maxDuration

def withAttempts (error : BridgeError) (attempt : Nat) : BridgeError :=
  error.withDetail "provider_attempts" (.integer attempt)

def retryCancelled (attempt : Nat) : BridgeError :=
  withAttempts ((BridgeError.new .cancelled
    "Codex Responses retry was cancelled before dispatch").withProvider "codex-responses") attempt

/-- A call that is over: the attempts it started and its result. -/
structure FinishedCall where
  attempts : Nat
  result : Outcome CallResult

/-- The attempts from the given one on, with so many left. -/
def attemptsFrom (world : CallWorld) (attempt : Nat) : Nat → FinishedCall
  | 0 => ⟨attempt - 1, .error ((BridgeError.new .internal
      "Codex Responses retry loop produced no attempts").withProvider "codex-responses")⟩
  | left + 1 =>
    match callOnce config (world.attempt attempt) with
    | .ok result => ⟨attempt, .ok { result with attempts := attempt }⟩
    | .error error =>
      if left ≠ 0 ∧ safeTransientRetry error = true then
        if (world.pause attempt).remaining ≤ retryDelay config attempt then
          ⟨attempt, .error (withAttempts error attempt)⟩
        else if (world.pause attempt).cancelled then ⟨attempt, .error (retryCancelled attempt)⟩
        else attemptsFrom world (attempt + 1) left
      else ⟨attempt, .error (withAttempts error attempt)⟩

def callResilient (world : CallWorld) : FinishedCall :=
  attemptsFrom config world 1 config.maxTransientAttempts

end ImagegenBridge.CodexResponses
