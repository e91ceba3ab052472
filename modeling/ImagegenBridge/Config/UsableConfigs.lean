import ImagegenBridge.Config.Application
import ImagegenBridge.Lib.Records

/-!
# Which checked configurations are usable

A configuration is usable when every component accepts the limits derived from it and
none panics. The check asks for most of this, and leaves the rest to the configuration.
-/

namespace ImagegenBridge.Config

open Admission (AdmissionGate maxPermits usizeMax)
open Fanout (OutputFanoutConfig)
open Orchestrator (validateProviderName)

/-! ## What the check guarantees -/

structure CheckedConcurrency (settings : ConcurrencySettings) : Prop where
  positive : settings.maxConcurrent.limit ≠ some 0

structure CheckedBreaker (settings : CircuitBreakerSettings) : Prop where
  positive : settings.enabled = true → settings.failureThreshold ≠ 0 ∧ settings.openDurationMs ≠ 0
    ∧ settings.halfOpenMaxCalls ≠ 0 ∧ settings.successThreshold ≠ 0

structure CheckedRuntime (config : CompleteConfig) : Prop where
  globalLimit : CheckedConcurrency config.runtime.globalLimit
  providerDefault : CheckedConcurrency config.runtime.providerDefault
  providers : ∀ entry ∈ config.runtime.providers,
    validProviderName entry.1 = true ∧ CheckedConcurrency entry.2
  circuitBreaker : CheckedBreaker config.runtime.circuitBreaker
  circuitBreakers : ∀ entry ∈ config.runtime.circuitBreakers,
    validProviderName entry.1 = true ∧ CheckedBreaker entry.2
  timeout : config.defaultTimeoutMs ≠ 0 ∧ config.defaultTimeoutMs ≤ config.request.maxTimeoutMs
  cancellation : config.runtime.cancellationGraceMs ≠ 0 ∧ config.runtime.cancellationGraceMs ≤ 30000
  shutdown : config.runtime.shutdownGraceMs ≠ 0 ∧ config.runtime.shutdownGraceMs ≤ 5 * 60 * 1000
  idempotency : config.runtime.idempotency.maxEntries ≠ 0
    ∧ config.runtime.idempotency.maxCompletedBytes ≠ 0
    ∧ config.runtime.idempotency.completedTtlSecs ≠ 0
    ∧ config.runtime.idempotency.inFlightTtlSecs ≠ 0
    ∧ config.runtime.idempotency.unknownTtlSecs ≠ 0

structure CheckedProviders (parsers : Parsers) (config : CompleteConfig) : Prop where
  appServer : config.codexAppServer.enabled = true →
    ¬capacityInvalid config.codexAppServer.maxOutputs config.codexAppServer.maxParallelOutputs
      config.request
  process : config.codexAppServer.enabled = true → config.process.spawn = .ok ()
  endpoint : config.codexResponses.enabled = true →
    validUpstreamUrl parsers config.transport.endpoint = true
  responses : config.codexResponses.enabled = true →
    ¬capacityInvalid config.codexResponses.maxOutputs config.codexResponses.maxParallelOutputs
      config.request
  attempts : config.codexResponses.enabled = true →
    1 ≤ config.codexResponses.maxTransientAttempts ∧ config.codexResponses.maxTransientAttempts ≤ 2
  backoff : config.codexResponses.enabled = true → config.transport.transientRetryBackoffMs ≤ 30000

structure Checked (parsers : Parsers) (config : CompleteConfig) : Prop where
  runtime : CheckedRuntime config
  providers : CheckedProviders parsers config
  payload : config.artifacts.maxBase64Chars ≠ 0 ∧ config.artifacts.maxResponseBytes ≠ 0
  publicBase : ∀ base, config.artifacts.publicBaseUrl = some base →
    validPublicBaseUrl parsers base = true
  default : validProviderName config.defaultProvider = true
    ∧ config.defaultProvider ∈ config.enabledProviders

section Check

variable {parsers : Parsers} {config : CompleteConfig}

end Check

/-! ## Constructors that succeed -/

section Constructors

variable {α β : Type}

end Constructors

/-! ## Capacities -/

/-- A semaphore takes the capacity. An unbounded one is capped. -/
def Capacity.Fits (capacity : Capacity) : Prop :=
  capacity.runtimeValue ≤ maxPermits ∨ capacity.runtimeValue = usizeMax

section Providers

variable {parsers : Parsers} {config : CompleteConfig}

def CompleteConfig.fanout (config : CompleteConfig) : OutputFanoutConfig where
  maxOutputs := config.codexAppServer.maxOutputs
  maxParallelOutputs :=
    config.codexAppServer.maxParallelOutputs.resolve config.codexAppServer.maxOutputs

def CompleteConfig.responses (config : CompleteConfig) : CodexResponses.Config where
  imageModel := config.codexResponses.imageModel
  maxOutputs := config.codexResponses.maxOutputs
  maxParallelOutputs :=
    config.codexResponses.maxParallelOutputs.resolve config.codexResponses.maxOutputs
  maxTransientAttempts := config.codexResponses.maxTransientAttempts

/-- The providers of a checked configuration. -/
def CompleteConfig.appServerProviders (config : CompleteConfig) : List BuiltProvider :=
  if config.codexAppServer.enabled then [.codexAppServer config.fanout] else []

def CompleteConfig.responsesProviders (config : CompleteConfig) : List BuiltProvider :=
  if config.codexResponses.enabled then [.codexResponses config.responses] else []

/-- The provider describes itself, and every description it gives is consistent. -/
structure DocumentsValidate (provider : BuiltProvider) : Prop where
  described : ∃ c, provider.capabilities none = .ok c
  consistent : ∀ model c, provider.capabilities model = .ok c → c.validate = .ok ()

end Providers

/-! ## The runtime -/

section Runtime

variable {parsers : Parsers} {config : CompleteConfig}

/-- The names of the providers that are built. -/
def CompleteConfig.registered (config : CompleteConfig) : List String :=
  (config.appServerProviders ++ config.responsesProviders).map BuiltProvider.name

/-- The override of a provider, or the default. -/
def settingsOf {α : Type} (entries : List (String × α)) (default : α) (name : String) : α :=
  (entries.lookup name).getD default

/-- The settings of a provider's gate. -/
def CompleteConfig.gateSettings (config : CompleteConfig) (name : String) : ConcurrencySettings :=
  settingsOf config.runtime.providers config.runtime.providerDefault name

/-- What the configuration has to add for its runtime to stand. -/
structure RuntimeFits (config : CompleteConfig) : Prop where
  limits : ∀ name ∈ config.runtime.providers.map Prod.fst, name ∈ config.enabledProviders
  breakers : ∀ name ∈ config.runtime.circuitBreakers.map Prod.fst, name ∈ config.enabledProviders
  globalLimit : config.runtime.globalLimit.maxConcurrent.Fits
  gates : ∀ name ∈ config.enabledProviders, (config.gateSettings name).maxConcurrent.Fits

end Runtime

/-! ## Usable configurations -/

/-- Every component accepts what it receives and none panics, at the second `now`. The
OpenAI provider is not in this build, and its configurations end before any component. -/
structure Usable (parsers : Parsers) (config : CompleteConfig) (now : Nat) : Prop where
  documents : ∃ built, config.providers = .ok built ∧ ∀ provider ∈ built, DocumentsValidate provider
  application : config.openai.enabled = false →
    (BridgeApplication.fromConfig parsers config).Succeeds
  jobs : config.server.jobs.enabled = true → config.server.jobs.permits.isSome = true
  connections : config.server.permits.isSome = true
  lifetimes : ∀ ttl ∈ expiries (idempotencyConfig config.runtime.idempotency),
    (addInstant now ttl).isSome = true

/-- What the check does not ask for. -/
structure Fits (config : CompleteConfig) (now : Nat) : Prop where
  outputs : config.codexResponses.enabled = true → config.codexResponses.maxOutputs ≠ 1
  model : config.codexResponses.enabled = true →
    config.codexResponses.imageModel ∈ CodexResponses.supportedImageModels
  runtime : config.openai.enabled = false → RuntimeFits config
  jobs : config.server.jobs.enabled = true → config.server.jobs.maxRunning ≤ maxPermits
  connections : config.server.maxConnections.Fits
  completed : now + config.runtime.idempotency.completedTtlSecs ≤ instantMax
  unknown : now + config.runtime.idempotency.unknownTtlSecs ≤ instantMax

section Usable

variable {parsers : Parsers} {config : CompleteConfig} {now : Nat}

end Usable

end ImagegenBridge.Config
