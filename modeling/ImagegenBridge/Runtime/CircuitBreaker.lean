import ImagegenBridge.Core.Error
import ImagegenBridge.Lib.Transition
import ImagegenBridge.Runtime.Idempotency

/-!
# Circuit breakers, `crates/runtime/src/circuit_breaker.rs`

One breaker is its configuration and the state behind its mutex. Instants and
durations count nanoseconds. A permit is completed or dropped at any later time,
so a circuit is a breaker together with the permits that are still alive.
-/

namespace ImagegenBridge.CircuitBreaker

open Idempotency (usizeMax saturatingAdd)

def u32Max : Nat := 2 ^ 32 - 1

def saturatingAdd32 (a b : Nat) : Nat := min (a + b) u32Max

/-- Circuit-breaker policy applied independently to every provider. -/
structure CircuitBreakerConfig where
  enabled : Bool := true
  failureThreshold : Nat := 5
  openDuration : Nat := 3 * 60 * 10 ^ 9
  halfOpenMaxCalls : Nat := 1
  successThreshold : Nat := 1
  /-- The thresholds are 32-bit numbers. -/
  fits : failureThreshold ≤ u32Max ∧ halfOpenMaxCalls ≤ u32Max ∧ successThreshold ≤ u32Max := by
    decide
  deriving DecidableEq

inductive CircuitState where
  | closed | opened | halfOpen
  deriving DecidableEq, Repr

inductive Phase where
  | closed (consecutiveFailures : Nat)
  | opened (until_ : Nat)
  | halfOpen (inFlight successes : Nat)
  deriving DecidableEq, Repr

def Phase.state : Phase → CircuitState
  | .closed _ => .closed
  | .opened _ => .opened
  | .halfOpen .. => .halfOpen

structure Inner where
  phase : Phase
  epoch : Nat
  rejectedCalls : Nat
  transitions : Nat
  deriving DecidableEq, Repr

inductive PermitKind where
  | closed (epoch : Nat)
  | halfOpen (epoch : Nat)
  | disabled
  deriving DecidableEq, Repr

/-- The source's own `Outcome` of an attempt. -/
inductive Verdict where
  | healthy | failed | neutral
  deriving DecidableEq, Repr

def Inner.initial : Inner := ⟨.closed 0, 0, 0, 0⟩

def new (config : CircuitBreakerConfig) : Outcome Inner :=
  if config.enabled = true ∧ (config.failureThreshold = 0 ∨ config.openDuration = 0
      ∨ config.halfOpenMaxCalls = 0 ∨ config.successThreshold = 0) then
    .error (.new .configuration "enabled circuit-breaker limits must be greater than zero")
  else .ok .initial

def countsAsFailure (error : BridgeError) : Bool :=
  match error.code with
  | .rateLimited | .overloaded | .timeout | .upstream | .protocol => true
  | _ => false

def durationMs (value : Nat) : Nat := min (value / 10 ^ 6) usizeMax

def openError (provider : String) (retryAfterMs : Nat) : BridgeError :=
  ((((BridgeError.new .overloaded "provider circuit breaker is open").setRetryable true).withProvider
    provider).withDetail "circuit_state" (.string "open")).withDetail "retry_after_ms"
    (.integer retryAfterMs)

/-- A phase change, counted by both counters. -/
def Inner.enter (inner : Inner) (phase : Phase) : Inner :=
  { inner with
    phase, epoch := saturatingAdd inner.epoch 1, transitions := saturatingAdd inner.transitions 1 }

def Inner.reject (inner : Inner) : Inner :=
  { inner with rejectedCalls := saturatingAdd inner.rejectedCalls 1 }

/-- An open circuit whose delay has passed admits probes. -/
def Inner.recover (inner : Inner) (now : Nat) : Inner :=
  match inner.phase with
  | .opened until_ => if now ≥ until_ then inner.enter (.halfOpen 0 0) else inner
  | _ => inner

def acquire (config : CircuitBreakerConfig) (provider : String) (now : Nat) (inner : Inner) :
    Outcome PermitKind × Inner :=
  if config.enabled = false then (.ok .disabled, inner)
  else
    let inner := inner.recover now
    match inner.phase with
    | .closed _ => (.ok (.closed inner.epoch), inner)
    | .halfOpen inFlight successes =>
      if inFlight < config.halfOpenMaxCalls then
        (.ok (.halfOpen inner.epoch),
          { inner with phase := .halfOpen (saturatingAdd32 inFlight 1) successes })
      else (.error ((openError provider (durationMs config.openDuration)).withDetail "circuit_state"
        (.string "half_open")), inner.reject)
    | .opened until_ => (.error (openError provider (durationMs (until_ - now))), inner.reject)

structure CircuitBreakerSnapshot where
  state : CircuitState
  consecutiveFailures : Nat
  retryAfterMs : Nat
  rejectedCalls : Nat
  transitions : Nat
  deriving DecidableEq, Repr

def snapshot (config : CircuitBreakerConfig) (now : Nat) (inner : Inner) :
    CircuitBreakerSnapshot :=
  let (consecutiveFailures, retryAfterMs) := match inner.phase with
    | .closed consecutiveFailures => (consecutiveFailures, 0)
    | .opened until_ => (config.failureThreshold, durationMs (until_ - now))
    | .halfOpen .. => (config.failureThreshold, 0)
  ⟨inner.phase.state, consecutiveFailures, retryAfterMs, inner.rejectedCalls, inner.transitions⟩

def verdict : Option BridgeError → Verdict
  | none => .healthy
  | some error => if countsAsFailure error then .failed else .neutral

/-- What a verdict under a permit of the current epoch does. -/
def settle (config : CircuitBreakerConfig) (now : Nat) (inner : Inner) (kind : PermitKind)
    (verdict : Verdict) : Inner :=
  match inner.phase, kind, verdict with
  | .closed _, .closed _, .healthy => { inner with phase := .closed 0 }
  | .closed consecutiveFailures, .closed _, .failed =>
    let failures := saturatingAdd32 consecutiveFailures 1
    if failures ≥ config.failureThreshold then inner.enter (.opened (now + config.openDuration))
    else { inner with phase := .closed failures }
  | .halfOpen inFlight successes, .halfOpen _, .healthy =>
    let remaining := inFlight - 1
    let healthy := saturatingAdd32 successes 1
    if healthy ≥ config.successThreshold ∧ remaining = 0 then inner.enter (.closed 0)
    else { inner with phase := .halfOpen remaining healthy }
  | .halfOpen .., .halfOpen _, .failed | .halfOpen .., .halfOpen _, .neutral =>
    inner.enter (.opened (now + config.openDuration))
  | _, _, _ => inner

def PermitKind.epoch : PermitKind → Option Nat
  | .closed epoch | .halfOpen epoch => some epoch
  | .disabled => none

/-- `failure` is the error of the attempt's result. -/
def complete (config : CircuitBreakerConfig) (now : Nat) (kind : PermitKind)
    (failure : Option BridgeError) (inner : Inner) : Inner :=
  if kind.epoch = some inner.epoch then settle config now inner kind (verdict failure) else inner

def abandon (kind : PermitKind) (inner : Inner) : Inner :=
  match kind, inner.phase with
  | .halfOpen epoch, .halfOpen inFlight successes =>
    if epoch = inner.epoch then { inner with phase := .halfOpen (inFlight - 1) successes } else inner
  | _, _ => inner

/-! ## Permits that are alive -/

/-- A breaker and the permits handed out and not yet finished or dropped. -/
structure Circuit where
  inner : Inner
  live : List PermitKind

inductive Event where
  | acquired (provider : String) (now : Nat)
  | finished (kind : PermitKind) (failure : Option BridgeError) (now : Nat)
  | dropped (kind : PermitKind)

/-- Permits come and go in any order, and time passes in any way between them. -/
inductive Step (config : CircuitBreakerConfig) : Circuit → Event → Circuit → Prop
  | admitted {s : Circuit} {provider : String} {now : Nat} {kind : PermitKind} {inner : Inner}
      (granted : acquire config provider now s.inner = (.ok kind, inner)) :
      Step config s (.acquired provider now) ⟨inner, kind :: s.live⟩
  | rejected {s : Circuit} {provider : String} {now : Nat} {error : BridgeError} {inner : Inner}
      (refused : acquire config provider now s.inner = (.error error, inner)) :
      Step config s (.acquired provider now) ⟨inner, s.live⟩
  | finished {s : Circuit} {kind : PermitKind} {rest : List PermitKind}
      (failure : Option BridgeError) (now : Nat) (held : s.live.Perm (kind :: rest)) :
      Step config s (.finished kind failure now) ⟨complete config now kind failure s.inner, rest⟩
  | dropped {s : Circuit} {kind : PermitKind} {rest : List PermitKind}
      (held : s.live.Perm (kind :: rest)) :
      Step config s (.dropped kind) ⟨abandon kind s.inner, rest⟩

def Circuit.initial : Circuit := ⟨.initial, []⟩

end ImagegenBridge.CircuitBreaker
