import ImagegenBridge.Core.Error

/-!
# Common image-generation parameters

`crates/core/src/parameters.rs` and the parameter part of `request.rs`. Sizes
and integers are natural numbers; the bounds that Rust's types give are stated
where a result needs them.
-/

namespace ImagegenBridge

inductive Quality where
  | auto | low | medium | high
  deriving DecidableEq, Repr

inductive OutputFormat where
  | png | jpeg | webp
  deriving DecidableEq, Repr

inductive Background where
  | auto | opaqueFill | transparent
  deriving DecidableEq, Repr

/-- How a transparent-background result is produced. -/
inductive TransparencyMode where
  | auto | native | chromaKey
  deriving DecidableEq, Repr

/-- Conditions under which an ordered provider fallback may run. -/
inductive FallbackPolicy where
  | onUnavailable | onError
  deriving DecidableEq, Repr

inductive BatchExecution where
  | auto | sequential | parallel
  deriving DecidableEq, Repr

inductive Moderation where
  | auto | low
  deriving DecidableEq, Repr

inductive MultiImageFailurePolicy where
  | failFast | bestEffort
  deriving DecidableEq, Repr

inductive InputFidelity where
  | low | high
  deriving DecidableEq, Repr

inductive ImageAction where
  | auto | generate | edit
  deriving DecidableEq, Repr

inductive ResponseFormat where
  | b64Json | url | artifact | metadata
  deriving DecidableEq, Repr

inductive ArtifactCollisionPolicy where
  | error | suffix
  deriving DecidableEq, Repr

inductive ArtifactMetadataPolicy where
  | none | sidecar | embedded | sidecarAndEmbedded
  deriving DecidableEq, Repr

namespace ArtifactMetadataPolicy

def writesSidecar : ArtifactMetadataPolicy → Bool
  | .sidecar | .sidecarAndEmbedded => true
  | _ => false

def embeds : ArtifactMetadataPolicy → Bool
  | .embedded | .sidecarAndEmbedded => true
  | _ => false

end ArtifactMetadataPolicy

inductive CompatibilityMode where
  | strict | normalize | bestEffort
  deriving DecidableEq, Repr

inductive NegativePromptMode where
  | auto | native | merge | reject
  deriving DecidableEq, Repr

inductive RevisedPromptPolicy where
  | include | omit | require
  deriving DecidableEq, Repr

inductive SessionMode where
  | isolated | persistent | thread
  deriving DecidableEq, Repr

inductive Resolution where
  | oneK | twoK | fourK
  deriving DecidableEq, Repr

/-! Wire values, as `Display` and `serde` print them. -/

def Quality.wire : Quality → String
  | .auto => "auto" | .low => "low" | .medium => "medium" | .high => "high"

def OutputFormat.wire : OutputFormat → String
  | .png => "png" | .jpeg => "jpeg" | .webp => "webp"

def Background.wire : Background → String
  | .auto => "auto" | .opaqueFill => "opaque" | .transparent => "transparent"

def TransparencyMode.wire : TransparencyMode → String
  | .auto => "auto" | .native => "native" | .chromaKey => "chroma_key"

def Moderation.wire : Moderation → String
  | .auto => "auto" | .low => "low"

def InputFidelity.wire : InputFidelity → String
  | .low => "low" | .high => "high"

def ImageAction.wire : ImageAction → String
  | .auto => "auto" | .generate => "generate" | .edit => "edit"

def Resolution.wire : Resolution → String
  | .oneK => "1k" | .twoK => "2k" | .fourK => "4k"

def FallbackPolicy.wire : FallbackPolicy → String
  | .onUnavailable => "on_unavailable" | .onError => "on_error"

def ResponseFormat.wire : ResponseFormat → String
  | .b64Json => "b64_json" | .url => "url" | .artifact => "artifact" | .metadata => "metadata"

def ArtifactCollisionPolicy.wire : ArtifactCollisionPolicy → String
  | .error => "error" | .suffix => "suffix"

def ArtifactMetadataPolicy.wire : ArtifactMetadataPolicy → String
  | .none => "none" | .sidecar => "sidecar" | .embedded => "embedded"
  | .sidecarAndEmbedded => "sidecar_and_embedded"

def SessionMode.wire : SessionMode → String
  | .isolated => "isolated" | .persistent => "persistent" | .thread => "thread"

def CompatibilityMode.wire : CompatibilityMode → String
  | .strict => "strict" | .normalize => "normalize" | .bestEffort => "best_effort"

def NegativePromptMode.wire : NegativePromptMode → String
  | .auto => "auto" | .native => "native" | .merge => "merge" | .reject => "reject"

def RevisedPromptPolicy.wire : RevisedPromptPolicy → String
  | .include => "include" | .omit => "omit" | .require => "require"

def BatchExecution.wire : BatchExecution → String
  | .auto => "auto" | .sequential => "sequential" | .parallel => "parallel"

def MultiImageFailurePolicy.wire : MultiImageFailurePolicy → String
  | .failFast => "fail_fast" | .bestEffort => "best_effort"

/-- `auto`, or explicit nonzero dimensions. The Rust type keeps the text
`WIDTHxHEIGHT`; its constructors admit only the values below. -/
inductive ImageSize where
  | auto
  | exact (width height : Nat) (widthPos : 0 < width) (heightPos : 0 < height)
  deriving DecidableEq

namespace ImageSize

/-- `ImageSize::exact`: constructs a validated explicit size. -/
def ofDimensions (width height : Nat) : Outcome ImageSize :=
  if h : 0 < width ∧ 0 < height then .ok (.exact width height h.1 h.2)
  else .error (.new .invalidRequest "image dimensions must be greater than zero")

def dimensions : ImageSize → Option (Nat × Nat)
  | .auto => none
  | .exact width height _ _ => some (width, height)

def isAuto : ImageSize → Bool
  | .auto => true
  | .exact .. => false

def asStr : ImageSize → String
  | .auto => "auto"
  | .exact width height _ _ => toString width ++ "x" ++ toString height

@[simp] theorem isAuto_iff (size : ImageSize) : size.isAuto = true ↔ size = .auto := by
  cases size <;> simp [isAuto]

end ImageSize

/-- `WIDTH:HEIGHT` with nonzero terms in lowest terms. -/
structure AspectRatio where
  width : Nat
  height : Nat
  widthPos : 0 < width
  heightPos : 0 < height
  coprime : Nat.gcd width height = 1
  deriving DecidableEq

def AspectRatio.asStr (ratio : AspectRatio) : String :=
  toString ratio.width ++ ":" ++ toString ratio.height

/-- Image-generation parameters shared across providers. -/
structure GenerationParameters where
  n : Nat := 1
  size : ImageSize := .auto
  aspectRatio : Option AspectRatio := none
  resolution : Option Resolution := none
  quality : Quality := .auto
  outputFormat : OutputFormat := .png
  outputCompression : Option Nat := none
  background : Background := .auto
  moderation : Moderation := .auto
  partialImages : Nat := 0
  failurePolicy : MultiImageFailurePolicy := .failFast
  inputFidelity : Option InputFidelity := none
  action : ImageAction := .auto
  deriving DecidableEq

end ImagegenBridge
