import ImagegenBridge.Runtime.Materialize

/-!
# Image inspection, `crates/artifacts/src/inspect.rs`

The decoders and the checksum are outside the repository and are a parameter.
-/

namespace ImagegenBridge.Inspect

open Materialize Outcome

structure ImageLimits where
  maxEncodedBytes : Nat
  maxEdge : Nat
  maxPixels : Nat
  maxDecodeAlloc : Nat
  deriving DecidableEq

def ImageLimits.default : ImageLimits where
  maxEncodedBytes := 32 * 1024 * 1024
  maxEdge := 16384
  maxPixels := 64 * 1024 * 1024
  maxDecodeAlloc := 256 * 1024 * 1024

/-- The type `imagesize` finds. -/
inductive ImageType where
  | known (format : OutputFormat)
  | other

structure Decoders where
  imageType : Bytes → Option ImageType
  blobSize : Bytes → Option (Nat × Nat)
  /-- The dimensions of the decoded image. -/
  decode : Bytes → OutputFormat → ImageLimits → Option (Nat × Nat)
  sha256 : Bytes → String

def imageError (message : String) : BridgeError := .new .input message

def orError {α : Type} (value : Option α) (message : String) : Outcome α :=
  value.elim (.error (imageError message)) .ok

def enabledFormat : ImageType → Outcome OutputFormat
  | .known format => .ok format
  | .other => .error (imageError "input image format is not enabled")

/-- `u32::try_from`. -/
def edge (value : Nat) (message : String) : Outcome Nat :=
  if value < 2 ^ 32 then .ok value else .error (imageError message)

def inspectImage (decoders : Decoders) (limits : ImageLimits) (bytes : Bytes) :
    Outcome ImageMetadata := do
  failIf (bytes.isEmpty = true ∨ bytes.length > limits.maxEncodedBytes)
    (imageError "encoded image exceeds the configured size limit")
  let imageType ← orError (decoders.imageType bytes)
    "input is not a supported PNG, JPEG, or WebP image"
  let format ← enabledFormat imageType
  let dimensions ← orError (decoders.blobSize bytes) "could not read image dimensions"
  let width ← edge dimensions.1 "image width is outside the supported range"
  let height ← edge dimensions.2 "image height is outside the supported range"
  failIf (width = 0 ∨ height = 0 ∨ width > limits.maxEdge ∨ height > limits.maxEdge ∨
      width * height > limits.maxPixels)
    (imageError "image dimensions exceed configured limits")
  let decoded ← orError (decoders.decode bytes format limits)
    "image payload is malformed or incomplete"
  failIf (decoded.1 ≠ width ∨ decoded.2 ≠ height)
    (imageError "image headers and decoded dimensions disagree")
  .ok { format, width, height, bytes := bytes.length, sha256 := decoders.sha256 bytes }

/-- An inspected image is inside the size limit and is described by its own checksum. -/
theorem inspectImage_ok {decoders : Decoders} {limits : ImageLimits} {bytes : Bytes}
    {metadata : ImageMetadata} (inspected : inspectImage decoders limits bytes = .ok metadata) :
    bytes ≠ [] ∧ bytes.length ≤ limits.maxEncodedBytes ∧
      metadata.sha256 = decoders.sha256 bytes := by
  unfold inspectImage at inspected
  obtain ⟨_, sized, inspected⟩ := bind_ok.mp inspected
  rw [failIf_ok] at sized
  obtain ⟨imageType, _, inspected⟩ := bind_ok.mp inspected
  obtain ⟨format, _, inspected⟩ := bind_ok.mp inspected
  obtain ⟨dimensions, _, inspected⟩ := bind_ok.mp inspected
  obtain ⟨width, _, inspected⟩ := bind_ok.mp inspected
  obtain ⟨height, _, inspected⟩ := bind_ok.mp inspected
  obtain ⟨_, _, inspected⟩ := bind_ok.mp inspected
  obtain ⟨decoded, _, inspected⟩ := bind_ok.mp inspected
  obtain ⟨_, _, inspected⟩ := bind_ok.mp inspected
  cases inspected
  refine ⟨?_, by omega, rfl⟩
  rintro rfl
  exact sized (.inl rfl)

end ImagegenBridge.Inspect
