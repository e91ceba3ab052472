import ImagegenBridge.Config.Adapters
import ImagegenBridge.Config.Complete

/-!
# Assembly from a configuration, `config/src/build.rs` and `application.rs`

What the constructors make of the limits they receive. Where they need the environment
(directories, databases, the child process, credentials), it provides what they ask for.
-/

namespace ImagegenBridge.Config

open Admission (AdmissionGate maxPermits usizeMax)
open CircuitBreaker (CircuitBreakerConfig Inner)
open Idempotency (IdempotencyConfig)
open Materialize (MaterializationConfig OutputMaterializer configurationError)
open Orchestrator (validateProviderName)

/-- A constructor may refuse its arguments; `none` is a panic. -/
abbrev Construct := ExceptT BridgeError Option

namespace Construct

variable {α β : Type}

def ofOutcome (outcome : Outcome α) : Construct α := ExceptT.mk (some outcome)

def panicking (result : Option α) : Construct α := ExceptT.mk (result.map .ok)

/-- The constructor yields a component. -/
def Succeeds (construct : Construct α) : Prop := ∃ a, construct.run = some (.ok a)

end Construct

/-- `Semaphore::new` panics above `MAX_PERMITS`. -/
def semaphore (permits : Nat) : Option Nat := if permits ≤ maxPermits then some permits else none

/-! ## The runtime -/

structure ConcurrencyLimit where
  maxConcurrent : Nat
  maxQueued : Nat
  deriving DecidableEq, Repr

/-- The durations are in milliseconds. -/
structure RuntimeConfig where
  requestLimits : RequestLimits
  defaultTimeout : Nat
  cancellationGrace : Nat
  shutdownGrace : Nat
  globalLimit : ConcurrencyLimit
  defaultProviderLimit : ConcurrencyLimit
  providerLimits : List (String × ConcurrencyLimit)
  defaultCircuitBreaker : CircuitBreakerConfig
  circuitBreakers : List (String × CircuitBreakerConfig)
  idempotency : IdempotencyConfig
  materialization : MaterializationConfig

def concurrency (settings : ConcurrencySettings) : ConcurrencyLimit :=
  ⟨settings.maxConcurrent.runtimeValue, settings.maxQueued.runtimeValue⟩

def circuitBreaker (settings : CircuitBreakerSettings) : CircuitBreakerConfig where
  enabled := settings.enabled
  failureThreshold := settings.failureThreshold
  openDuration := settings.openDurationMs * 10 ^ 6
  halfOpenMaxCalls := settings.halfOpenMaxCalls
  successThreshold := settings.successThreshold
  fits := settings.fits

def idempotencyConfig (settings : IdempotencySettings) : IdempotencyConfig where
  maxEntries := settings.maxEntries
  maxCompletedBytes := settings.maxCompletedBytes
  completedTtl := settings.completedTtlSecs
  inFlightTtl := settings.inFlightTtlSecs
  unknownTtl := settings.unknownTtlSecs

/-- The limits, converted one by one. -/
def CompleteConfig.converted (config : CompleteConfig) : RuntimeConfig where
  requestLimits := config.requestLimits
  defaultTimeout := config.defaultTimeoutMs
  cancellationGrace := config.runtime.cancellationGraceMs
  shutdownGrace := config.runtime.shutdownGraceMs
  globalLimit := concurrency config.runtime.globalLimit
  defaultProviderLimit := concurrency config.runtime.providerDefault
  providerLimits := config.runtime.providers.map fun entry => (entry.1, concurrency entry.2)
  defaultCircuitBreaker := circuitBreaker config.runtime.circuitBreaker
  circuitBreakers :=
    config.runtime.circuitBreakers.map fun entry => (entry.1, circuitBreaker entry.2)
  idempotency := idempotencyConfig config.runtime.idempotency
  materialization :=
    { maxBase64Chars := config.artifacts.maxBase64Chars
      maxResponseBytes := config.artifacts.maxResponseBytes
      remoteOutputFetcher := config.artifacts.remoteOutput.enabled
      publicArtifactBaseUrl := config.artifacts.publicBaseUrl }

/-- `BridgeConfig::runtime_config`. -/
def CompleteConfig.runtimeConfig (parsers : Parsers) (config : CompleteConfig) :
    Outcome RuntimeConfig := do
  config.validate parsers
  Outcome.failIf (config.artifacts.publicBaseUrl.any (fun base => (parsers.url base).isNone) = true)
    (configurationError "could not build validated configuration")
  .ok config.converted

/-- The artifact store joins the materialization. -/
def RuntimeConfig.stored (config : RuntimeConfig) : RuntimeConfig :=
  { config with materialization := { config.materialization with artifactStore := true } }

/-- Providers by name, in name order. -/
structure ProviderRegistry where
  providers : List String
  default : String

def registryError (message : String) : BridgeError := .new .configuration message

namespace ProviderRegistry

/-- One round of the registering loop. -/
def register (registered : List String) (name : String) : Outcome (List String) := do
  validateProviderName name
  Outcome.failIf (name ∈ registered)
    (registryError ("provider '" ++ name ++ "' is registered more than once"))
  .ok (registered.orderedInsert (· ≤ ·) name)

def new (providers : List String) (default : String) : Outcome ProviderRegistry := do
  let registered ← providers.foldlM register []
  Outcome.failIf (registered = []) (registryError "at least one provider must be registered")
  validateProviderName default
  Outcome.failIf (default ∉ registered)
    (registryError ("default provider '" ++ default ++ "' is not registered"))
  .ok ⟨registered, default⟩

def resolve (registry : ProviderRegistry) (name : String) : Outcome Unit := do
  validateProviderName name
  Outcome.failIf (name ∉ registry.providers)
    ((BridgeError.new .configuration "requested provider is not registered").withDetail "provider"
      (.string name))

end ProviderRegistry

/-- `IdempotencyCoordinator::new`. -/
def idempotencyCoordinator (config : IdempotencyConfig) : Outcome IdempotencyConfig := do
  Outcome.failIf (config.maxEntries = 0 ∨ config.maxCompletedBytes = 0 ∨ config.completedTtl = 0
      ∨ config.inFlightTtl = 0 ∨ config.unknownTtl = 0)
    (BridgeError.new .configuration
      "idempotency limits and retention periods must be greater than zero")
  .ok config

/-- The gate and the circuit breaker of one provider. -/
structure ProviderGuards where
  name : String
  gate : AdmissionGate
  breaker : Inner

structure ImagegenRuntime where
  registry : ProviderRegistry
  globalGate : AdmissionGate
  guards : List ProviderGuards
  idempotency : IdempotencyConfig
  materializer : OutputMaterializer

def RuntimeConfig.checkDurations (config : RuntimeConfig) : Outcome Unit := do
  Outcome.failIf (config.defaultTimeout = 0 ∨ config.defaultTimeout > config.requestLimits.maxTimeoutMs)
    (configurationError "default timeout must be within the configured request limit")
  Outcome.failIf (config.cancellationGrace = 0 ∨ config.cancellationGrace > 30 * 1000)
    (configurationError "cancellation grace must be greater than zero and at most 30 seconds")
  Outcome.failIf (config.shutdownGrace = 0 ∨ config.shutdownGrace > 5 * 60 * 1000)
    (configurationError "shutdown grace must be greater than zero and at most five minutes")

/-- The body of the loop over the registered providers. -/
def RuntimeConfig.guard (config : RuntimeConfig) (name : String) : Construct ProviderGuards := do
  let limit := (config.providerLimits.lookup name).getD config.defaultProviderLimit
  let gate ← AdmissionGate.new limit.maxConcurrent limit.maxQueued ("provider:" ++ name)
  let breaker ← Construct.ofOutcome
    (CircuitBreaker.new ((config.circuitBreakers.lookup name).getD config.defaultCircuitBreaker))
  return ⟨name, gate, breaker⟩

def ImagegenRuntime.new (parsers : Parsers) (registry : ProviderRegistry) (config : RuntimeConfig) :
    Construct ImagegenRuntime := do
  Construct.ofOutcome config.checkDurations
  Construct.ofOutcome ((config.providerLimits.map Prod.fst).forM registry.resolve)
  Construct.ofOutcome ((config.circuitBreakers.map Prod.fst).forM registry.resolve)
  let globalGate ← AdmissionGate.new config.globalLimit.maxConcurrent config.globalLimit.maxQueued
    "global"
  let guards ← registry.providers.mapM config.guard
  let idempotency ← Construct.ofOutcome (idempotencyCoordinator config.idempotency)
  let materializer ← Construct.ofOutcome
    (OutputMaterializer.new (validPublicBaseUrl parsers) config.materialization)
  return ⟨registry, globalGate, guards, idempotency, materializer⟩

/-! ## The providers -/

def protocolError (message : String) : BridgeError := .new .protocol message

/-- The checks of `CodexProcess::spawn` and `AppServerRpc::connect`. -/
def ProcessSettings.spawn (settings : ProcessSettings) : Outcome Unit := do
  Outcome.failIf (settings.shutdownTimeoutMs = 0)
    (BridgeError.new .configuration "codex app-server shutdown timeout must be greater than zero")
  Outcome.failIf (settings.restartBackoffMs > 30 * 1000)
    (BridgeError.new .configuration "codex app-server restart backoff must not exceed 30 seconds")
  let slots := Nat.nextPowerOfTwo settings.notificationCapacity
  Outcome.failIf (slots > usizeMax) (protocolError "notification capacity is too large")
  let budget := settings.rpcMaxNotificationBytes * slots
  Outcome.failIf (budget > usizeMax) (protocolError "notification ring budget overflowed")
  Outcome.failIf (settings.rpcMaxMessageBytes = 0 ∨ settings.rpcMaxMessageBytes > 64 * 1024 * 1024
      ∨ settings.rpcMaxNotificationBytes = 0
      ∨ settings.rpcMaxNotificationBytes > settings.rpcMaxMessageBytes
      ∨ settings.rpcMaxNotificationBytes > 48 * 1024 * 1024
      ∨ settings.notificationCapacity = 0 ∨ settings.notificationCapacity > 64
      ∨ budget > 256 * 1024 * 1024)
    (protocolError "RPC limits must be greater than zero")

def BuiltProvider.name : BuiltProvider → String
  | codexAppServer _ => "codex-app-server"
  | codexResponses _ => "codex-responses"

/-- The semaphore of `OutputFanoutProvider::new`. -/
def BuiltProvider.allocate : BuiltProvider → Construct Unit
  | codexAppServer fanout => do
    let _ ← Construct.panicking (semaphore fanout.maxParallelOutputs)
  | codexResponses _ => return

def CompleteConfig.buildAppServer (config : CompleteConfig) : Construct (List BuiltProvider) := do
  Construct.ofOutcome (if config.codexAppServer.enabled then config.process.spawn else .ok ())
  let built ← Construct.ofOutcome config.codexAppServer.build
  built.forM BuiltProvider.allocate
  return built

/-- The endpoint is parsed before `CodexResponsesProvider::new` checks it. -/
def checkEndpoint (parsers : Parsers) (endpoint : String) : Outcome Unit :=
  match parsers.url endpoint with
  | none => .error (configurationError "Codex Responses endpoint is invalid")
  | some url =>
    Outcome.failIf (url.scheme ≠ "https" ∧ url.isLoopback = false)
      (BridgeError.new .configuration "Codex Responses endpoint must use HTTPS")

def CompleteConfig.buildResponses (parsers : Parsers) (config : CompleteConfig) :
    Construct (List BuiltProvider) := do
  Construct.ofOutcome (if config.codexResponses.enabled then
    checkEndpoint parsers config.transport.endpoint else .ok ())
  let built ← Construct.ofOutcome config.codexResponses.build
  Construct.ofOutcome (Outcome.failIf
    (config.codexResponses.enabled = true ∧ config.transport.transientRetryBackoffMs > 30 * 1000)
    (BridgeError.new .configuration
      "Codex Responses transient retry backoff must not exceed 30 seconds"))
  return built

/-! ## The application -/

/-- `BridgeApplication::from_config`. -/
def BridgeApplication.fromConfig (parsers : Parsers) (config : CompleteConfig) :
    Construct ImagegenRuntime := do
  Construct.ofOutcome (config.validate parsers)
  Construct.ofOutcome (Outcome.failIf (config.openai.enabled = true)
    (configurationError
      "the OpenAI provider is configured but is not available in this build"))
  let appServer ← config.buildAppServer
  let responses ← config.buildResponses parsers
  let runtime ← Construct.ofOutcome (config.runtimeConfig parsers)
  let registry ← Construct.ofOutcome
    (ProviderRegistry.new ((appServer ++ responses).map BuiltProvider.name) config.defaultProvider)
  ImagegenRuntime.new parsers registry runtime.stored

/-- The permits of `JobManager::open`. -/
def DurableJobSettings.permits (settings : DurableJobSettings) : Option Nat :=
  semaphore settings.maxRunning

/-- The permits of `LimitedListener::new`. -/
def ServerSettings.permits (settings : ServerSettings) : Option Nat :=
  let maximum := settings.maxConnections.runtimeValue
  semaphore (if maximum = usizeMax then maxPermits else maximum)

/-! ## Lifetimes -/

/-- Seconds of an `Instant`. -/
def instantMax : Nat := 2 ^ 63 - 1

/-- `Instant + Duration`, which panics when the sum is not representable. -/
def addInstant (now secs : Nat) : Option Nat := if now + secs ≤ instantMax then some (now + secs) else none

/-- What `complete` and `fail` add to the time they run at. -/
def expiries (config : IdempotencyConfig) : List Nat := [config.completedTtl, config.unknownTtl]

end ImagegenBridge.Config
