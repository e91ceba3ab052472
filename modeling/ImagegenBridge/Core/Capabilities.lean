import ImagegenBridge.Core.Request

/-!
# Provider capability documents

`crates/core/src/capabilities.rs`. A `BTreeSet` field lists its elements in
iteration order.
-/

namespace ImagegenBridge

def codexRasterMaskUnsupported : String := "CODEX_RASTER_MASK_UNSUPPORTED"

/-- Degree to which a provider supports a semantic feature. -/
inductive SupportLevel where
  | native | emulated | unsupported
  deriving DecidableEq, Repr

/-- Inclusive range for a small integer parameter. -/
structure U8Range where
  min : Nat
  max : Nat
  deriving DecidableEq, Repr

def U8Range.contains (range : U8Range) (value : Nat) : Bool :=
  decide (range.min ≤ value) && decide (value ≤ range.max)

/-- `Ord::clamp`, on a range whose bounds are in order. -/
def U8Range.clamp (range : U8Range) (value : Nat) : Nat :=
  if value < range.min then range.min else if range.max < value then range.max else value

theorem U8Range.clamp_of_contains {range : U8Range} {value : Nat} (h : range.contains value = true) :
    range.clamp value = value := by
  simp only [contains, Bool.and_eq_true, decide_eq_true_eq] at h
  simp only [clamp]
  split
  · omega
  · split <;> omega

theorem U8Range.clamp_le_iff {range : U8Range} (ordered : range.min ≤ range.max) (value bound : Nat) :
    range.clamp value ≤ bound ↔ range.min ≤ bound ∧ (value ≤ bound ∨ range.max ≤ bound) := by
  simp only [clamp]
  split
  · omega
  · split <;> omega

theorem U8Range.min_le_clamp {range : U8Range} (ordered : range.min ≤ range.max) (value : Nat) :
    range.min ≤ range.clamp value := by
  simp only [clamp]
  split
  · omega
  · split <;> omega

inductive BatchMode where
  | native | fanOut
  deriving DecidableEq, Repr

structure BatchCapabilities where
  mode : BatchMode
  nativeCount : U8Range
  maxParallelOutputs : Nat
  deriving DecidableEq, Repr

/-- Explicit-size constraints for a provider or model. -/
structure SizeCapabilities where
  auto : Bool
  allowed : List ImageSize := []
  arbitrary : Bool := false
  minEdge : Option Nat := none
  maxEdge : Option Nat := none
  edgeMultiple : Option Nat := none
  minPixels : Option Nat := none
  maxPixels : Option Nat := none
  maxAspectRatio : Option Float := none

structure InputCapabilities where
  support : SupportLevel
  maxCount : Nat
  maxBytesEach : Nat
  maxBytesTotal : Nat
  deriving DecidableEq, Repr

/-- Complete capability declaration for one provider/model pair. -/
structure ProviderCapabilities where
  provider : String
  model : Option String
  generation : Bool
  edits : Bool
  count : U8Range
  batching : BatchCapabilities
  sizes : SizeCapabilities
  aspectRatio : SupportLevel
  resolution : SupportLevel
  qualities : List Quality
  outputFormats : List OutputFormat
  backgrounds : List Background
  transparentBackground : SupportLevel
  moderation : List Moderation
  negativePrompt : SupportLevel
  revisedPrompt : SupportLevel
  userAttribution : SupportLevel
  inputFidelities : List InputFidelity
  actions : List ImageAction
  referenceImages : InputCapabilities
  editImages : InputCapabilities
  masks : InputCapabilities
  partialImages : U8Range
  persistentSessions : Bool
  explicitThreads : Bool

def invalidCapability (capabilities : ProviderCapabilities) (message : String) : BridgeError :=
  (BridgeError.new .protocol message).withProvider capabilities.provider

namespace ProviderCapabilities

/-- Rejects semantically inconsistent dynamic provider declarations. -/
def validate (c : ProviderCapabilities) : Outcome Unit := do
  Outcome.failIf (c.count.min = 0 ∨ c.count.min > c.count.max)
    (invalidCapability c "provider output-count capability range is invalid")
  Outcome.failIf
    (c.batching.nativeCount.min = 0
      ∨ c.batching.nativeCount.min > c.batching.nativeCount.max
      ∨ c.batching.nativeCount.min < c.count.min
      ∨ c.batching.nativeCount.max > c.count.max
      ∨ c.batching.maxParallelOutputs = 0
      ∨ c.batching.maxParallelOutputs > c.count.max
      ∨ (c.batching.mode = .native ∧ c.batching.nativeCount ≠ c.count)
      ∨ (c.batching.mode = .fanOut ∧ c.batching.nativeCount.max ≥ c.count.max))
    (invalidCapability c
      "provider batching capability is inconsistent with its output-count range")
  Outcome.failIf (c.partialImages.min > c.partialImages.max)
    (invalidCapability c "provider partial-image capability range is invalid")
  Outcome.failIf (c.backgrounds.contains .transparent ≠ (c.transparentBackground == .native))
    (invalidCapability c "provider transparent-background capability is inconsistent")
  Outcome.failIf
    (c.transparentBackground = .emulated
      ∧ (¬ c.backgrounds.any (fun b => b == .auto || b == .opaqueFill)
        ∨ ¬ c.outputFormats.any (fun f => f == .png || f == .webp)))
    (invalidCapability c
      "emulated transparent output requires a keyable background and alpha format")

/-- The ranges that negotiation relies on. -/
theorem validate_ranges {c : ProviderCapabilities} (h : c.validate = .ok ()) :
    0 < c.count.min ∧ c.count.min ≤ c.count.max ∧ c.partialImages.min ≤ c.partialImages.max := by
  simp only [validate, Outcome.bind_ok, Outcome.failIf_ok] at h
  obtain ⟨_, count, _, _, _, images, _⟩ := h
  omega

end ProviderCapabilities

end ImagegenBridge
