import ImagegenBridge.Core.Capabilities

/-! # Capability document of `codex-app-server`, `crates/codex-app-server/src/provider.rs` -/

namespace ImagegenBridge.CodexAppServer

def noInput : InputCapabilities :=
  { support := .unsupported, maxCount := 0, maxBytesEach := 0, maxBytesTotal := 0 }

def references : InputCapabilities :=
  { support := .native, maxCount := 5, maxBytesEach := 32 * 1024 * 1024,
    maxBytesTotal := 64 * 1024 * 1024 }

def capabilities : ProviderCapabilities where
  provider := "codex-app-server"
  model := some "gpt-image-2"
  generation := true
  edits := true
  count := ⟨1, 1⟩
  batching := { mode := .native, nativeCount := ⟨1, 1⟩, maxParallelOutputs := 1 }
  sizes := { auto := true }
  aspectRatio := .unsupported
  resolution := .unsupported
  qualities := [.auto]
  outputFormats := [.png]
  backgrounds := [.auto]
  transparentBackground := .emulated
  moderation := [.auto]
  negativePrompt := .emulated
  revisedPrompt := .emulated
  userAttribution := .unsupported
  inputFidelities := [.high]
  actions := [.auto]
  referenceImages := references
  editImages := references
  masks := noInput
  partialImages := ⟨0, 0⟩
  persistentSessions := true
  explicitThreads := true

def capabilityDocument (model : Option String) : Outcome ProviderCapabilities :=
  match model with
  | none => .ok capabilities
  | some requested =>
    if capabilities.model ≠ some requested then
      .error ((((BridgeError.new .unsupportedCapability
        "Codex app-server image generation only exposes gpt-image-2").withProvider
        "codex-app-server").withDetail "field" (.string "routing.model")).withDetail
        "requested_model" (.string requested)
        |>.withDetail "effective_model" (.string "gpt-image-2"))
    else .ok capabilities

end ImagegenBridge.CodexAppServer
