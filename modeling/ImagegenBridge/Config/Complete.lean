import ImagegenBridge.Artifacts.Inspect
import ImagegenBridge.Artifacts.Remote
import ImagegenBridge.Config.Settings
import ImagegenBridge.Jobs.Manager
import ImagegenBridge.Runtime.Admission
import ImagegenBridge.Runtime.CircuitBreaker
import ImagegenBridge.Runtime.Orchestrator

/-!
# The complete configuration check, `crates/config/src/validation.rs`

The settings that the check reads, beside those of the request limits and the output
limits, and `BridgeConfig::check` as a whole. Maps are lists in key order.
-/

namespace ImagegenBridge.Config

open Inspect (ImageLimits)
open Jobs (JobSettings)
open Remote (Url)

/-! ## Settings -/

/-- Configurable admission capacity. -/
inductive Capacity where
  | limited (value : Nat)
  | unlimited
  deriving DecidableEq, Repr

namespace Capacity

/-- `usize::MAX` stands for an unbounded policy. -/
def runtimeValue : Capacity → Nat
  | limited value => value
  | unlimited => Admission.usizeMax

def limit : Capacity → Option Nat
  | limited value => some value
  | unlimited => none

end Capacity

structure ConcurrencySettings where
  maxConcurrent : Capacity := .unlimited
  maxQueued : Capacity := .unlimited
  deriving DecidableEq, Repr

structure CircuitBreakerSettings where
  enabled : Bool := true
  failureThreshold : Nat := 5
  openDurationMs : Nat := 3 * 60 * 1000
  halfOpenMaxCalls : Nat := 1
  successThreshold : Nat := 1
  /-- The thresholds are 32-bit numbers. -/
  fits : failureThreshold ≤ CircuitBreaker.u32Max ∧ halfOpenMaxCalls ≤ CircuitBreaker.u32Max
    ∧ successThreshold ≤ CircuitBreaker.u32Max := by decide

structure IdempotencySettings where
  maxEntries : Nat := 10000
  maxCompletedBytes : Nat := 256 * 1024 * 1024
  completedTtlSecs : Nat := 24 * 60 * 60
  inFlightTtlSecs : Nat := 31 * 60
  unknownTtlSecs : Nat := 24 * 60 * 60
  deriving DecidableEq, Repr

/-- `RuntimeSettings`, without the default timeout and the request limits. -/
structure RuntimeSettings where
  cancellationGraceMs : Nat := 1000
  shutdownGraceMs : Nat := 10000
  globalLimit : ConcurrencySettings := {}
  providerDefault : ConcurrencySettings := {}
  providers : List (String × ConcurrencySettings) := []
  circuitBreaker : CircuitBreakerSettings := {}
  circuitBreakers : List (String × CircuitBreakerSettings) := []
  idempotency : IdempotencySettings := {}

structure RemoteImageSettings where
  enabled : Bool := false
  allowedHosts : List String := []
  allowedPorts : List Nat := [80, 443]
  maxRedirects : Nat := 3
  timeoutMs : Nat := 20000
  maxUrlBytes : Nat := 8 * 1024
  deriving DecidableEq, Repr

structure InputSettings where
  localRoots : List String := ["."]
  remote : RemoteImageSettings := {}
  deriving DecidableEq, Repr

structure RetentionSettings where
  maxAgeSecs : Nat := 7 * 24 * 60 * 60
  maxArtifacts : Option Nat := none
  maxScanEntries : Nat := 100000
  deriving DecidableEq, Repr

structure ArtifactSettings where
  publicBaseUrl : Option String := none
  maxBase64Chars : Nat := 128 * 1024 * 1024
  maxResponseBytes : Nat := 256 * 1024 * 1024
  image : ImageLimits := .default
  remoteOutput : RemoteImageSettings := {}
  retention : RetentionSettings := {}
  deriving DecidableEq

/-- `CodexAppServerSettings`, the process and its connection. -/
structure ProcessSettings where
  executable : String := "codex"
  rpcMaxMessageBytes : Nat := 64 * 1024 * 1024
  rpcMaxNotificationBytes : Nat := 48 * 1024 * 1024
  rpcTimeoutMs : Nat := 60000
  notificationCapacity : Nat := 4
  shutdownTimeoutMs : Nat := 5000
  restartBackoffMs : Nat := 250
  deriving DecidableEq, Repr

/-- `CodexResponsesSettings`, the upstream and the pause before a second attempt. -/
structure TransportSettings where
  endpoint : String := "https://chatgpt.com/backend-api/codex/responses"
  transientRetryBackoffMs : Nat := 750
  deriving DecidableEq, Repr

structure OpenAiSettings where
  enabled : Bool := false
  baseUrl : String := "https://api.openai.com/v1"
  apiKeyEnv : String := "OPENAI_API_KEY"
  organizationEnv : Option String := some "OPENAI_ORG_ID"
  projectEnv : Option String := some "OPENAI_PROJECT_ID"
  deriving DecidableEq, Repr

structure DurableJobSettings extends JobSettings where
  enabled : Bool := true
  database : String := "./data/jobs.sqlite3"
  maxPending := 1000
  maxRunning := 4
  retentionSecs := 7 * 24 * 60 * 60
  maxRetained := 10000
  maxRetainedBytes := 256 * 1024 * 1024
  maxDatabaseBytes := 1024 * 1024 * 1024

structure ServerSettings where
  bind : String := "127.0.0.1:8787"
  bearerTokenEnv : Option String := none
  activationLock : Option String := none
  maxBodyBytes : Nat := 80 * 1024 * 1024
  maxHeaderBytes : Nat := 32 * 1024
  maxConnections : Capacity := .unlimited
  writeTimeoutMs : Nat := 30000
  jobs : DurableJobSettings := {}

def configVersion : Nat := 1

/-- The whole configuration document. -/
structure CompleteConfig extends BridgeConfig where
  version : Nat := configVersion
  defaultProvider : String := "codex-responses"
  runtime : RuntimeSettings := {}
  inputs : InputSettings := {}
  artifacts : ArtifactSettings := {}
  process : ProcessSettings := {}
  transport : TransportSettings := {}
  openai : OpenAiSettings := {}
  server : ServerSettings := {}
  /-- The output limits are bytes. -/
  bytes : request.maxOutputs ≤ 255 ∧ codexAppServer.maxOutputs ≤ 255
    ∧ codexResponses.maxOutputs ≤ 255 := by decide

/-! ## The check -/

/-- A parsed URL with its query and its fragment. -/
structure ParsedUrl extends Url where
  query : Option String
  fragment : Option String
  deriving DecidableEq

/-- `Url::parse`, and `SocketAddr::from_str` with the address's `is_loopback`. -/
structure Parsers where
  url : String → Option ParsedUrl
  socket : String → Option Bool

def isAsciiUppercase (c : Char) : Bool := decide (0x41 ≤ c.toNat) && decide (c.toNat ≤ 0x5A)

def validProviderName (value : String) : Bool :=
  decide (Text.len value ≤ 64) && value.toList.head?.any Orchestrator.isAsciiLowercase
    && value.toList.all fun c =>
      Orchestrator.isAsciiLowercase c || Orchestrator.isAsciiDigit c || c == '-'

def validEnvName (value : String) : Bool :=
  decide (Text.len value ≤ 128) && value.toList.head?.any isAsciiUppercase
    && value.toList.all fun c => isAsciiUppercase c || Orchestrator.isAsciiDigit c || c == '_'

/-- The test of a public base URL, which the materializer repeats. -/
def ParsedUrl.isPublicBase (url : ParsedUrl) : Bool :=
  decide (url.scheme = "http" ∨ url.scheme = "https") && url.username.isEmpty
    && url.password.isNone && url.query.isNone && url.fragment.isNone
    && url.path.toList.getLast? == some '/'

def ParsedUrl.isLoopback (url : ParsedUrl) : Bool :=
  decide (url.hostStr = some "127.0.0.1" ∨ url.hostStr = some "localhost"
    ∨ url.hostStr = some "::1")

def validPublicBaseUrl (parsers : Parsers) (value : String) : Bool :=
  (parsers.url value).any ParsedUrl.isPublicBase

def validUpstreamUrl (parsers : Parsers) (value : String) : Bool :=
  (parsers.url value).any fun url =>
    decide (url.scheme = "https" ∨ url.scheme = "http" ∧ url.isLoopback = true)
      && url.username.isEmpty && url.password.isNone && url.fragment.isNone

def validateConcurrency (field : String) (settings : ConcurrencySettings) :
    List ValidationIssue :=
  issueIf (settings.maxConcurrent.limit = some 0) field "out_of_range"
    "maximum concurrency must be greater than zero"

def validateCircuitBreaker (field : String) (settings : CircuitBreakerSettings) :
    List ValidationIssue :=
  issueIf (settings.enabled = true ∧
      (settings.failureThreshold = 0 ∨ settings.failureThreshold > 10000
        ∨ settings.openDurationMs = 0 ∨ settings.openDurationMs > 24 * 60 * 60 * 1000
        ∨ settings.halfOpenMaxCalls = 0 ∨ settings.halfOpenMaxCalls > 100
        ∨ settings.successThreshold = 0 ∨ settings.successThreshold > 100))
    field "out_of_range"
    "enabled circuit-breaker thresholds, probe limits, and cooldown must be within bounds"

def invalidHost (host : String) : Bool :=
  host.isEmpty || Text.lowercase host.toList != host.toList || host.toList.any Text.isWhitespace

def validateRemote (field : String) (settings : RemoteImageSettings) : List ValidationIssue :=
  issueIf (settings.maxRedirects > 10 ∨ settings.timeoutMs = 0 ∨ settings.maxUrlBytes = 0
      ∨ (settings.enabled = true ∧ settings.allowedPorts = []) ∨ 0 ∈ settings.allowedPorts)
    field "out_of_range" "remote image redirect, timeout, URL, or port limits are invalid" ++
  issueIf (settings.allowedHosts.any invalidHost = true) field "invalid_host"
    "allowed remote hosts must be lowercase names without whitespace"

def validateEnvName (field value : String) : List ValidationIssue :=
  issueIf (validEnvName value = false) field "invalid"
    "credential environment reference is invalid"

def runtimeIssues (config : CompleteConfig) : List ValidationIssue :=
  let runtime := config.runtime
  validateConcurrency "runtime.global" runtime.globalLimit ++
  validateConcurrency "runtime.provider_default" runtime.providerDefault ++
  (runtime.providers.flatMap fun entry =>
    issueIf (validProviderName entry.1 = false) "runtime.providers" "invalid_key"
      "provider limit key is invalid" ++
    validateConcurrency "runtime.providers.*" entry.2) ++
  validateCircuitBreaker "runtime.circuit_breaker" runtime.circuitBreaker ++
  (runtime.circuitBreakers.flatMap fun entry =>
    issueIf (validProviderName entry.1 = false) "runtime.circuit_breakers" "invalid"
      "provider circuit-breaker key is invalid" ++
    validateCircuitBreaker "runtime.circuit_breakers.*" entry.2) ++
  issueIf (config.defaultTimeoutMs = 0 ∨ config.defaultTimeoutMs > config.request.maxTimeoutMs)
    "runtime.default_timeout_ms" "out_of_range"
    "default timeout must be positive and within the request maximum" ++
  issueIf (runtime.cancellationGraceMs = 0 ∨ runtime.cancellationGraceMs > 30000)
    "runtime.cancellation_grace_ms" "out_of_range"
    "cancellation grace must be between 1 and 30000 milliseconds" ++
  issueIf (runtime.shutdownGraceMs = 0 ∨ runtime.shutdownGraceMs > 5 * 60 * 1000)
    "runtime.shutdown_grace_ms" "out_of_range"
    "shutdown grace must be between 1 millisecond and five minutes" ++
  requestIssues config.request ++
  issueIf (runtime.idempotency.maxEntries = 0 ∨ runtime.idempotency.maxCompletedBytes = 0
      ∨ runtime.idempotency.completedTtlSecs = 0 ∨ runtime.idempotency.inFlightTtlSecs = 0
      ∨ runtime.idempotency.unknownTtlSecs = 0)
    "runtime.idempotency" "out_of_range"
    "idempotency capacity and lifetimes must be greater than zero"

def artifactIssues (parsers : Parsers) (config : CompleteConfig) : List ValidationIssue :=
  let artifacts := config.artifacts
  let image := artifacts.image
  issueIf (config.inputs.localRoots = []) "inputs.local_roots" "required"
    "at least one local input root is required" ++
  validateRemote "inputs.remote" config.inputs.remote ++
  validateRemote "artifacts.remote_output" artifacts.remoteOutput ++
  issueIf (artifacts.maxBase64Chars = 0 ∨ artifacts.maxResponseBytes = 0) "artifacts" "out_of_range"
    "base64 and aggregate response byte limits must be greater than zero" ++
  issueIf (image.maxEncodedBytes = 0 ∨ image.maxEdge = 0 ∨ image.maxPixels = 0
      ∨ image.maxDecodeAlloc = 0)
    "artifacts.image" "out_of_range" "all image limits must be greater than zero" ++
  issueIf (image.maxPixels > image.maxEdge * image.maxEdge) "artifacts.image.max_pixels"
    "inconsistent" "maximum pixels cannot exceed the square of maximum edge" ++
  issueIf (artifacts.retention.maxScanEntries = 0 ∨ artifacts.retention.maxAgeSecs = 0
      ∨ artifacts.retention.maxArtifacts = some 0)
    "artifacts.retention" "out_of_range"
    "retention age, scan bound, and optional artifact count must be positive" ++
  issueIf (artifacts.publicBaseUrl.any (fun base => !validPublicBaseUrl parsers base) = true)
    "artifacts.public_base_url" "invalid_url"
    "public artifact base must be credential-free HTTP(S) ending in a slash"

/-- `checked_next_power_of_two` and `checked_mul`: what a notification ring may occupy. -/
def notificationRing (process : ProcessSettings) : Option Nat :=
  let slots := Nat.nextPowerOfTwo process.notificationCapacity
  if slots ≤ Admission.usizeMax ∧ process.rpcMaxNotificationBytes * slots ≤ Admission.usizeMax then
    some (process.rpcMaxNotificationBytes * slots)
  else none

def processIssues (config : CompleteConfig) : List ValidationIssue :=
  let process := config.process
  issueIf (config.codexAppServer.enabled = true ∧ process.executable.isEmpty = true)
    "providers.codex_app_server.executable" "required" "Codex executable must not be empty" ++
  appServerIssues config.toBridgeConfig ++
  issueIf (config.codexAppServer.enabled = true ∧
      (process.rpcMaxMessageBytes = 0 ∨ process.rpcMaxMessageBytes > 64 * 1024 * 1024
        ∨ process.rpcMaxNotificationBytes = 0
        ∨ process.rpcMaxNotificationBytes > process.rpcMaxMessageBytes
        ∨ process.rpcMaxNotificationBytes > 48 * 1024 * 1024
        ∨ process.rpcTimeoutMs = 0
        ∨ process.notificationCapacity = 0 ∨ process.notificationCapacity > 64
        ∨ ¬(notificationRing process).any (fun bytes => decide (bytes ≤ 256 * 1024 * 1024)) = true
        ∨ process.shutdownTimeoutMs = 0 ∨ process.restartBackoffMs > 30000))
    "providers.codex_app_server" "out_of_range" "app-server RPC/process limits are invalid"

def upstreamIssues (parsers : Parsers) (config : CompleteConfig) : List ValidationIssue :=
  issueIf (config.codexResponses.enabled = true ∧
      validUpstreamUrl parsers config.transport.endpoint = false)
    "providers.codex_responses.endpoint" "invalid_url"
    "Codex Responses endpoint must use HTTPS or loopback HTTP" ++
  responsesIssues config.toBridgeConfig ++
  issueIf (config.codexResponses.enabled = true ∧ config.transport.transientRetryBackoffMs > 30000)
    "providers.codex_responses.transient_retry_backoff_ms" "out_of_range"
    "transient retry backoff must not exceed 30000 milliseconds" ++
  if config.openai.enabled then
    issueIf (validUpstreamUrl parsers config.openai.baseUrl = false) "providers.openai.base_url"
      "invalid_url" "OpenAI base URL must use HTTPS or loopback HTTP" ++
    validateEnvName "providers.openai.api_key_env" config.openai.apiKeyEnv ++
    config.openai.organizationEnv.toList.flatMap
      (validateEnvName "providers.openai.organization_env") ++
    config.openai.projectEnv.toList.flatMap (validateEnvName "providers.openai.project_env")
  else []

def bindIssues (parsers : Parsers) (server : ServerSettings) : List ValidationIssue :=
  match parsers.socket server.bind with
  | some loopback =>
    issueIf (loopback = false ∧ server.bearerTokenEnv = none) "server.bearer_token_env"
      "required_for_remote_bind" "a non-loopback server bind requires bridge bearer authentication"
  | none => [⟨"server.bind", "invalid", "server bind must be a numeric socket address"⟩]

def serverIssues (parsers : Parsers) (server : ServerSettings) : List ValidationIssue :=
  let jobs := server.jobs
  server.bearerTokenEnv.toList.flatMap (validateEnvName "server.bearer_token_env") ++
  bindIssues parsers server ++
  issueIf (server.maxBodyBytes = 0 ∨ server.maxHeaderBytes = 0
      ∨ server.maxConnections.limit = some 0 ∨ server.writeTimeoutMs = 0)
    "server" "out_of_range"
    "server request and connection limits, except the optional read-stall timeout, must be greater than zero" ++
  issueIf (server.activationLock = some "") "server.activation_lock" "invalid"
    "activation lock path must not be empty" ++
  issueIf (jobs.enabled = true ∧
      (jobs.database.isEmpty = true ∨ jobs.maxPending = 0 ∨ jobs.maxRunning = 0
        ∨ jobs.retentionSecs = 0 ∨ jobs.maxRetained = 0 ∨ jobs.maxRetainedBytes = 0
        ∨ jobs.maxDatabaseBytes = 0 ∨ jobs.maxRetainedBytes > jobs.maxDatabaseBytes))
    "server.jobs" "out_of_range"
    "enabled job storage paths and limits must be non-empty and greater than zero"

def CompleteConfig.enabledProviders (config : CompleteConfig) : List String :=
  (if config.codexAppServer.enabled then ["codex-app-server"] else []) ++
  (if config.codexResponses.enabled then ["codex-responses"] else []) ++
  if config.openai.enabled then ["openai"] else []

def CompleteConfig.issues (parsers : Parsers) (config : CompleteConfig) : List ValidationIssue :=
  issueIf (config.version ≠ configVersion) "version" "unsupported"
    "configuration version is unsupported" ++
  issueIf (validProviderName config.defaultProvider = false) "default_provider" "invalid"
    "default provider name is not a lowercase ASCII identifier" ++
  runtimeIssues config ++ artifactIssues parsers config ++ processIssues config ++
  upstreamIssues parsers config ++ serverIssues parsers config.server ++
  issueIf (config.enabledProviders = []) "providers" "required"
    "at least one provider must be enabled" ++
  issueIf (config.defaultProvider ∉ config.enabledProviders) "default_provider" "disabled"
    "default provider is not enabled"

/-- `BridgeConfig::check`: every issue, by field and code. -/
def CompleteConfig.check (parsers : Parsers) (config : CompleteConfig) : List ValidationIssue :=
  (config.issues parsers).mergeSort Validation.issueLe

/-- `BridgeConfig::validate`. -/
def CompleteConfig.validate (parsers : Parsers) (config : CompleteConfig) : Outcome Unit :=
  let issues := config.check parsers
  if issues = [] then .ok ()
  else .error ((BridgeError.new .configuration "configuration validation failed").withDetail "issues"
    (.array (issues.map ValidationIssue.toJson)))

end ImagegenBridge.Config
