import ImagegenBridge.Core.Capabilities

/-! # Capability documents of `codex-responses`, `crates/codex-responses/src/provider.rs` -/

namespace ImagegenBridge.CodexResponses

def supportedImageModels : List String :=
  ["gpt-image-2", "gpt-image-1.5", "gpt-image-1", "gpt-image-1-mini"]

/-- The validated fields of the provider configuration that requests depend on. -/
structure Config where
  imageModel : String
  maxOutputs : Nat
  maxParallelOutputs : Nat
  maxTransientAttempts : Nat
  deriving DecidableEq, Repr

/-- The checks of `CodexResponsesProvider::new` on output and attempt limits. -/
def Config.check (config : Config) : Outcome Unit := do
  Outcome.failIf
    (config.maxOutputs = 0 ∨ config.maxParallelOutputs = 0
      ∨ config.maxParallelOutputs > config.maxOutputs)
    (BridgeError.new .configuration
      "Codex Responses parallel output capacity must be positive and no greater than max_outputs")
  Outcome.failIf (¬(1 ≤ config.maxTransientAttempts ∧ config.maxTransientAttempts ≤ 2))
    (BridgeError.new .configuration
      "Codex Responses transient attempt limit must be between 1 and 2")

/-- The refusal that both lookups of a model share. -/
def unsupportedModel (model : String) : BridgeError :=
  (((BridgeError.new .unsupportedCapability
    "Codex Responses does not support the requested image model").withProvider
    "codex-responses").withDetail "field" (.string "routing.model")).withDetail
    "requested_model" (.string model)

def selectedImageModel (config : Config) (requested : Option String) : Outcome String :=
  let model := requested.getD config.imageModel
  if model ∈ supportedImageModels then .ok model
  else .error ((unsupportedModel model).withDetail "supported_models"
    (.array (supportedImageModels.map Json.string)))

def references : InputCapabilities :=
  { support := .native, maxCount := 5, maxBytesEach := 32 * 1024 * 1024,
    maxBytesTotal := 64 * 1024 * 1024 }

def noInput : InputCapabilities :=
  { support := .unsupported, maxCount := 0, maxBytesEach := 0, maxBytesTotal := 0 }

def size (width height : Nat) [NeZero width] [NeZero height] : ImageSize :=
  .exact width height (Nat.pos_of_neZero width) (Nat.pos_of_neZero height)

/-- The accepted sizes, in the order of their texts. -/
def allowedSizes (model : String) : List ImageSize :=
  if model = "gpt-image-1" ∨ model = "gpt-image-1-mini" then
    [size 1024 1024, size 1024 1536, size 1536 1024]
  else
    [size 1024 1024, size 1024 1536, size 1536 1024, size 2048 1152, size 2048 2048,
      size 2160 3840, size 3840 2160]

def capabilities (model : String) (maxOutputs maxParallelOutputs : Nat) :
    Outcome ProviderCapabilities :=
  if model ∉ supportedImageModels then .error (unsupportedModel model)
  else if maxParallelOutputs > 255 then
    .error (BridgeError.new .configuration "Codex Responses parallel output limit is invalid")
  else .ok
    { provider := "codex-responses"
      model := some model
      generation := true
      edits := true
      count := ⟨1, maxOutputs⟩
      batching := { mode := .fanOut, nativeCount := ⟨1, 1⟩, maxParallelOutputs }
      sizes := { auto := true, allowed := allowedSizes model }
      aspectRatio := .emulated
      resolution := .emulated
      qualities := [.auto, .low, .medium, .high]
      outputFormats := [.png, .jpeg, .webp]
      backgrounds :=
        if model = "gpt-image-2" then [.auto, .opaqueFill] else [.auto, .opaqueFill, .transparent]
      transparentBackground := if model = "gpt-image-2" then .emulated else .native
      moderation := [.auto, .low]
      negativePrompt := .emulated
      revisedPrompt := .native
      userAttribution := .unsupported
      inputFidelities := if model = "gpt-image-2" then [.high] else [.low, .high]
      actions := [.auto, .generate, .edit]
      referenceImages := references
      editImages := references
      masks := noInput
      partialImages := ⟨0, 3⟩
      persistentSessions := false
      explicitThreads := false }

def capabilityDocument (config : Config) (requested : Option String) :
    Outcome ProviderCapabilities := do
  let model ← selectedImageModel config requested
  capabilities model config.maxOutputs config.maxParallelOutputs

end ImagegenBridge.CodexResponses
