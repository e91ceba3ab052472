import ImagegenBridge.CodexAppServer.Capabilities
import ImagegenBridge.CodexResponses.Capabilities
import ImagegenBridge.Core.Validation
import ImagegenBridge.Runtime.FanoutChunks

/-!
# Configured request limits and output capacities

The settings of `crates/config` that reach request limits and the providers'
output limits, their checks, and the providers `application.rs` builds from them.
-/

namespace ImagegenBridge.Config

open CodexResponses (Config)
open Fanout (OutputFanoutConfig)

inductive OutputParallelism where
  | limited (value : Nat)
  | auto
  deriving DecidableEq, Repr

namespace OutputParallelism

/-- `u8::try_from(value).unwrap_or(u8::MAX)`, or the output limit under `auto`. -/
def resolve (parallelism : OutputParallelism) (maxOutputs : Nat) : Nat :=
  match parallelism with
  | .limited value => if value ≤ 255 then value else 255
  | .auto => maxOutputs

def limit : OutputParallelism → Option Nat
  | .limited value => some value
  | .auto => none

end OutputParallelism

structure RequestSettings where
  maxPromptBytes : Nat := RequestLimits.default.maxPromptBytes
  maxNegativePromptBytes : Nat := RequestLimits.default.maxNegativePromptBytes
  maxOutputs : Nat := 255
  maxInputs : Nat := RequestLimits.default.maxInputs
  maxInlineEncodedBytes : Nat := RequestLimits.default.maxInlineEncodedBytes
  maxEdge : Nat := RequestLimits.default.maxEdge
  maxTimeoutMs : Nat := RequestLimits.default.maxTimeoutMs
  maxIdentifierBytes : Nat := RequestLimits.default.maxIdentifierBytes
  deriving DecidableEq, Repr

structure CodexAppServerSettings where
  enabled : Bool := true
  maxOutputs : Nat := 255
  maxParallelOutputs : OutputParallelism := .auto
  deriving DecidableEq, Repr

structure CodexResponsesSettings where
  enabled : Bool := true
  responsesModel : String := "gpt-5.5"
  imageModel : String := "gpt-image-2"
  maxOutputs : Nat := 255
  maxParallelOutputs : OutputParallelism := .auto
  maxTransientAttempts : Nat := 2
  deriving DecidableEq, Repr

structure BridgeConfig where
  defaultTimeoutMs : Nat := 5 * 60 * 1000
  request : RequestSettings := {}
  codexAppServer : CodexAppServerSettings := {}
  codexResponses : CodexResponsesSettings := {}
  deriving DecidableEq, Repr

/-- The check that both output capacities share. -/
def capacityInvalid (maxOutputs : Nat) (parallelism : OutputParallelism) (request : RequestSettings) :
    Prop :=
  maxOutputs = 0 ∨ maxOutputs > request.maxOutputs
    ∨ parallelism.limit.any (fun value => value == 0 || decide (value > maxOutputs)) = true

instance (maxOutputs : Nat) (parallelism : OutputParallelism) (request : RequestSettings) :
    Decidable (capacityInvalid maxOutputs parallelism request) := by
  unfold capacityInvalid
  infer_instance

def requestIssues (request : RequestSettings) : List ValidationIssue :=
  [("max_prompt_bytes", request.maxPromptBytes),
    ("max_negative_prompt_bytes", request.maxNegativePromptBytes),
    ("max_outputs", request.maxOutputs),
    ("max_inputs", request.maxInputs),
    ("max_inline_encoded_bytes", request.maxInlineEncodedBytes),
    ("max_edge", request.maxEdge),
    ("max_timeout_ms", request.maxTimeoutMs),
    ("max_identifier_bytes", request.maxIdentifierBytes)].flatMap fun entry =>
      issueIf (entry.2 = 0) ("runtime.request." ++ entry.1) "out_of_range"
        "request limit must be greater than zero"

def appServerIssues (config : BridgeConfig) : List ValidationIssue :=
  issueIf (config.codexAppServer.enabled = true ∧
      capacityInvalid config.codexAppServer.maxOutputs config.codexAppServer.maxParallelOutputs
        config.request)
    "providers.codex_app_server.max_outputs" "out_of_range"
    "app-server output capacity must fit the request limit; parallelism accepts `auto` or a positive value no greater than max_outputs"

def responsesIssues (config : BridgeConfig) : List ValidationIssue :=
  let responses := config.codexResponses
  issueIf (responses.enabled = true ∧
      (Text.isBlank responses.responsesModel = true ∨ Text.isBlank responses.imageModel = true))
    "providers.codex_responses" "required" "Codex Responses model names must not be empty" ++
  issueIf (responses.enabled = true ∧
      capacityInvalid responses.maxOutputs responses.maxParallelOutputs config.request)
    "providers.codex_responses.max_parallel_outputs" "out_of_range"
    "Codex Responses output capacity must fit the request limit; parallelism accepts `auto` or a positive value no greater than max_outputs" ++
  issueIf (responses.enabled = true ∧
      ¬(1 ≤ responses.maxTransientAttempts ∧ responses.maxTransientAttempts ≤ 2))
    "providers.codex_responses.max_transient_attempts" "out_of_range"
    "transient attempt limit must be between 1 and 2"

/-- The checks of `BridgeConfig::check` on the settings above. -/
def BridgeConfig.check (config : BridgeConfig) : List ValidationIssue :=
  issueIf (config.defaultTimeoutMs = 0 ∨ config.defaultTimeoutMs > config.request.maxTimeoutMs)
    "runtime.default_timeout_ms" "out_of_range"
    "default timeout must be positive and within the request maximum" ++
  requestIssues config.request ++ appServerIssues config ++ responsesIssues config

/-- The limits `runtime_config` hands to the runtime. -/
def BridgeConfig.requestLimits (config : BridgeConfig) : RequestLimits where
  maxPromptBytes := config.request.maxPromptBytes
  maxNegativePromptBytes := config.request.maxNegativePromptBytes
  maxOutputs := config.request.maxOutputs
  maxInputs := config.request.maxInputs
  maxInlineEncodedBytes := config.request.maxInlineEncodedBytes
  maxEdge := config.request.maxEdge
  maxTimeoutMs := config.request.maxTimeoutMs
  maxIdentifierBytes := config.request.maxIdentifierBytes

/-- A provider the application builds: the app-server adapter stands behind a fan-out. -/
inductive BuiltProvider where
  | codexAppServer (fanout : OutputFanoutConfig)
  | codexResponses (config : Config)
  deriving DecidableEq, Repr

def CodexAppServerSettings.build (settings : CodexAppServerSettings) :
    Outcome (List BuiltProvider) :=
  if settings.enabled then do
    let fanout : OutputFanoutConfig :=
      { maxOutputs := settings.maxOutputs
        maxParallelOutputs := settings.maxParallelOutputs.resolve settings.maxOutputs }
    fanout.validate
    .ok [.codexAppServer fanout]
  else .ok []

def CodexResponsesSettings.build (settings : CodexResponsesSettings) :
    Outcome (List BuiltProvider) :=
  if settings.enabled then do
    let config : Config :=
      { imageModel := settings.imageModel
        maxOutputs := settings.maxOutputs
        maxParallelOutputs := settings.maxParallelOutputs.resolve settings.maxOutputs
        maxTransientAttempts := settings.maxTransientAttempts }
    config.check
    .ok [.codexResponses config]
  else .ok []

/-- The providers of `Application::from_config`, in registration order. -/
def BridgeConfig.providers (config : BridgeConfig) : Outcome (List BuiltProvider) := do
  let appServer ← config.codexAppServer.build
  let responses ← config.codexResponses.build
  .ok (appServer ++ responses)

end ImagegenBridge.Config
