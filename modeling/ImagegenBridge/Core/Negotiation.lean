import ImagegenBridge.Core.Capabilities
import ImagegenBridge.Core.Response
import ImagegenBridge.Core.Text

/-!
# Capability negotiation, `crates/core/src/negotiation.rs`

A step of the Rust function writes through two mutable references, the
effective request and the list of normalizations. `Draft` holds both.
-/

namespace ImagegenBridge

/-- Request after provider capability negotiation. -/
structure NegotiatedRequest where
  requested : GenerationParameters
  effectiveRequest : ImageRequest
  normalizations : List Normalization

namespace Negotiation

structure Draft where
  request : ImageRequest
  normalizations : List Normalization

def Draft.parameters (draft : Draft) : GenerationParameters := draft.request.parameters

def Draft.setParameters (draft : Draft) (p : GenerationParameters) : Draft :=
  { draft with request := { draft.request with parameters := p } }

def recordOptional (draft : Draft) (field : String) (requested effective : Option Json)
    (reason : String) : Draft :=
  { draft with normalizations := draft.normalizations ++ [⟨field, requested, effective, reason⟩] }

def record (draft : Draft) (field : String) (requested effective : Json) (reason : String) : Draft :=
  recordOptional draft field (some requested) (some effective) reason

def unsupported (c : ProviderCapabilities) (field message : String) : BridgeError :=
  (((BridgeError.new .unsupportedCapability message).withProvider c.provider).withDetail "field"
    (.string field)).withDetail "model" ((c.model.map Json.string).getD .null)

def checkModel (r : ImageRequest) (c : ProviderCapabilities) : Outcome Unit :=
  match r.routing.model, c.model with
  | some requested, some effective =>
    if requested = effective then .ok ()
    else .error (((unsupported c "routing.model"
      "provider cannot honor the requested image model").withDetail "requested_model"
      (.string requested)).withDetail "effective_model" (.string effective))
  | _, _ => .ok ()

def checkOperation (r : ImageRequest) (c : ProviderCapabilities) : Outcome Unit :=
  match r.operation with
  | .generate _ => Outcome.failIf (¬c.generation)
      (unsupported c "operation" "provider does not support image generation")
  | .edit .. => Outcome.failIf (¬c.edits)
      (unsupported c "operation" "provider does not support image edits")

/-- A raster mask sent to a Codex transport also carries a stable code. -/
def maskError (c : ProviderCapabilities) : BridgeError :=
  let error := unsupported c "mask" "provider does not support edit masks"
  if Text.startsWith c.provider.toList "codex-".toList then
    error.withDetail "codex_code" (.string codexRasterMaskUnsupported)
  else error

def checkInputCounts (r : ImageRequest) (c : ProviderCapabilities) : Outcome Unit := do
  let referenceCount := r.operation.referenceImages.length
  Outcome.failIf (referenceCount > c.referenceImages.maxCount)
    (unsupported c "reference_images" "reference image count exceeds provider capability")
  Outcome.failIf (referenceCount > 0 ∧ c.referenceImages.support = .unsupported)
    (unsupported c "reference_images" "provider does not support reference images")
  match r.operation with
  | .generate _ => .ok ()
  | .edit images mask _ =>
    Outcome.failIf (images.length > c.editImages.maxCount ∨ c.editImages.support = .unsupported)
      (unsupported c "images" "edit images exceed provider capability")
    Outcome.failIf (mask.isSome ∧ (c.masks.support = .unsupported ∨ c.masks.maxCount = 0))
      (maskError c)

def checkSessions (r : ImageRequest) (c : ProviderCapabilities) : Outcome Unit :=
  match r.session.mode with
  | .isolated => .ok ()
  | .persistent => Outcome.failIf (¬c.persistentSessions)
      (unsupported c "session.mode" "provider does not support persistent sessions")
  | .thread => Outcome.failIf (¬c.explicitThreads)
      (unsupported c "session.mode" "provider does not support explicit threads")

def checkUserAttribution (r : ImageRequest) (c : ProviderCapabilities) : Outcome Unit :=
  Outcome.failIf (r.user.isSome ∧ c.userAttribution = .unsupported)
    (unsupported c "user" "provider cannot consume the requested end-user attribution")

def checkInputFidelity (r : ImageRequest) (c : ProviderCapabilities) : Outcome Unit :=
  match r.parameters.inputFidelity with
  | none => .ok ()
  | some requested => Outcome.failIf (requested ∉ c.inputFidelities)
      (((unsupported c "parameters.input_fidelity"
        "provider cannot honor the requested input fidelity").withDetail "requested"
        (.string requested.wire)).withDetail "supported"
        (.array (c.inputFidelities.map (fun value => .string value.wire))))

def negotiateAction (c : ProviderCapabilities) (draft : Draft) : Outcome Draft :=
  let requested := draft.parameters.action
  if requested ∈ c.actions then .ok draft
  else if requested ≠ .auto ∧ .auto ∈ c.actions then
    .ok ((record draft "parameters.action" (.string requested.wire)
      (.string ImageAction.auto.wire) "provider_uses_automatic_action").setParameters
      { draft.parameters with action := .auto })
  else .error (((unsupported c "parameters.action"
    "provider cannot honor the requested image action").withDetail "requested"
    (.string requested.wire)).withDetail "supported"
    (.array (c.actions.map (fun value => .string value.wire))))

def isStrict (draft : Draft) : Bool := draft.request.policies.compatibility == .strict

def negotiateCount (c : ProviderCapabilities) (draft : Draft) : Outcome Draft :=
  let requested := draft.parameters.n
  if c.count.contains requested then .ok draft
  else if isStrict draft then
    .error (unsupported c "parameters.n" "output count is outside provider capability")
  else
    let effective := c.count.clamp requested
    .ok ((record draft "parameters.n" (.integer requested) (.integer effective)
      "clamped_to_provider_range").setParameters { draft.parameters with n := effective })

/-- The arbitrary-size constraints on explicit dimensions. -/
def dimensionsSupported (sizes : SizeCapabilities) (width height : Nat) : Bool :=
  let short := min width height
  let long := max width height
  let pixels := width * height
  sizes.minEdge.all (fun least => decide (short ≥ least))
    && sizes.maxEdge.all (fun most => decide (long ≤ most))
    && sizes.edgeMultiple.all (fun multiple => width % multiple == 0 && height % multiple == 0)
    && sizes.minPixels.all (fun least => decide (pixels ≥ least))
    && sizes.maxPixels.all (fun most => decide (pixels ≤ most))
    && sizes.maxAspectRatio.all (fun most => decide (Float.ofNat long / Float.ofNat short ≤ most))

def sizeSupported (size : ImageSize) (c : ProviderCapabilities) : Bool :=
  match size with
  | .auto => c.sizes.auto
  | .exact width height _ _ =>
    decide (size ∈ c.sizes.allowed)
      || (c.sizes.arbitrary && dimensionsSupported c.sizes width height)

/-- What replaces an unsupported size: `auto`, or the first size allowed. -/
def sizeFallback (size : ImageSize) (c : ProviderCapabilities) : Option ImageSize :=
  if !size.isAuto && c.sizes.auto then some .auto else c.sizes.allowed.head?

def negotiateSize (c : ProviderCapabilities) (draft : Draft) : Outcome Draft :=
  let requested := draft.parameters.size
  if sizeSupported requested c then .ok draft
  else if isStrict draft then
    .error (unsupported c "parameters.size" "requested size is outside provider capability")
  else match sizeFallback requested c with
    | none => .error (unsupported c "parameters.size" "provider has no usable size fallback")
    | some effective =>
      .ok ((record draft "parameters.size" (.string requested.asStr) (.string effective.asStr)
        "normalized_to_provider_size").setParameters { draft.parameters with size := effective })

def negotiateRatio (c : ProviderCapabilities) (draft : Draft) : Outcome Draft :=
  match draft.parameters.aspectRatio with
  | none => .ok draft
  | some requested =>
    if c.aspectRatio ≠ .unsupported then .ok draft
    else if isStrict draft then
      .error (unsupported c "parameters.aspect_ratio"
        "provider cannot honor an aspect-ratio hint")
    else .ok ((recordOptional draft "parameters.aspect_ratio" (some (.string requested.asStr)) none
      "provider_does_not_support_hint").setParameters
      { draft.parameters with aspectRatio := none })

def negotiateResolution (c : ProviderCapabilities) (draft : Draft) : Outcome Draft :=
  match draft.parameters.resolution with
  | none => .ok draft
  | some requested =>
    if c.resolution ≠ .unsupported then .ok draft
    else if isStrict draft then
      .error (unsupported c "parameters.resolution" "provider cannot honor a resolution hint")
    else .ok ((recordOptional draft "parameters.resolution" (some (.string requested.wire)) none
      "provider_does_not_support_hint").setParameters { draft.parameters with resolution := none })

def negotiateHints (c : ProviderCapabilities) (draft : Draft) : Outcome Draft := do
  let draft ← negotiateRatio c draft
  negotiateResolution c draft

def normalizeOrReject (c : ProviderCapabilities) (draft : Draft) (field : String)
    (requested effective : Json) : Outcome Draft :=
  if isStrict draft then
    .error (unsupported c field "requested value is outside provider capability")
  else .ok (record draft field requested effective "normalized_to_provider_value")

/-- What replaces an unsupported value of a declared set: its default, or the first. -/
def valueFallback {α : Type} [DecidableEq α] (declared : List α) (default : α) : Option α :=
  if default ∈ declared then some default else declared.head?

/-- The body that quality, output format, background and moderation share. -/
def negotiateValue {α : Type} [DecidableEq α] (c : ProviderCapabilities) (draft : Draft)
    (field undeclared : String) (declared : List α) (default requested : α) (wire : α → String)
    (set : GenerationParameters → α → GenerationParameters) : Outcome Draft :=
  if requested ∈ declared then .ok draft
  else match valueFallback declared default with
    | none => .error (unsupported c field undeclared)
    | some effective => do
      let draft ← normalizeOrReject c draft field (.string (wire requested))
        (.string (wire effective))
      .ok (draft.setParameters (set draft.parameters effective))

def negotiateQuality (c : ProviderCapabilities) (draft : Draft) : Outcome Draft :=
  negotiateValue c draft "parameters.quality" "provider declares no supported quality"
    c.qualities .auto draft.parameters.quality Quality.wire (fun p v => { p with quality := v })

def negotiateOutputFormat (c : ProviderCapabilities) (draft : Draft) : Outcome Draft :=
  negotiateValue c draft "parameters.output_format" "provider declares no output format"
    c.outputFormats .png draft.parameters.outputFormat OutputFormat.wire
    (fun p v => { p with outputFormat := v })

/-- Compression is dropped when the effective format is neither jpeg nor webp. -/
def negotiateCompression (c : ProviderCapabilities) (draft : Draft) : Outcome Draft :=
  match draft.parameters.outputCompression with
  | none => .ok draft
  | some requested =>
    if draft.parameters.outputFormat = .jpeg ∨ draft.parameters.outputFormat = .webp then .ok draft
    else if isStrict draft then
      .error (unsupported c "parameters.output_compression"
        "effective output format does not support compression")
    else .ok ((recordOptional draft "parameters.output_compression" (some (.integer requested)) none
      "effective_format_has_no_compression").setParameters
      { draft.parameters with outputCompression := none })

def negotiateFormat (c : ProviderCapabilities) (draft : Draft) : Outcome Draft := do
  let draft ← negotiateOutputFormat c draft
  negotiateCompression c draft

def negotiateBackground (c : ProviderCapabilities) (draft : Draft) : Outcome Draft :=
  negotiateValue c draft "parameters.background" "provider declares no background behavior"
    c.backgrounds .auto draft.parameters.background Background.wire
    (fun p v => { p with background := v })

def negotiateModeration (c : ProviderCapabilities) (draft : Draft) : Outcome Draft :=
  negotiateValue c draft "parameters.moderation" "provider declares no moderation behavior"
    c.moderation .auto draft.parameters.moderation Moderation.wire
    (fun p v => { p with moderation := v })

def negotiatePartialImages (c : ProviderCapabilities) (draft : Draft) : Outcome Draft :=
  let requested := draft.parameters.partialImages
  if c.partialImages.contains requested then .ok draft
  else if isStrict draft then
    .error (unsupported c "parameters.partial_images"
      "partial image count is outside provider capability")
  else
    let effective := c.partialImages.clamp requested
    .ok ((record draft "parameters.partial_images" (.integer requested) (.integer effective)
      "clamped_to_provider_range").setParameters
      { draft.parameters with partialImages := effective })

def negativeSeparator : String := "\n\nNegative constraints (avoid these elements): "

/-- Whether a negative prompt moves into the prompt, or why it cannot be honored. -/
def mergesNegative (mode : NegativePromptMode) (c : ProviderCapabilities) : Outcome Bool :=
  match mode with
  | .reject =>
    .error (unsupported c "negative_prompt" "negative prompt is rejected by request policy")
  | .native =>
    if c.negativePrompt ≠ .native then
      .error (unsupported c "negative_prompt" "provider does not support a native negative prompt")
    else .ok false
  | .merge => .ok true
  | .auto => match c.negativePrompt with
    | .native => .ok false
    | .emulated => .ok true
    | .unsupported => .error (unsupported c "negative_prompt"
        "provider cannot honor a negative prompt under auto policy")

def negotiateNegativePrompt (c : ProviderCapabilities) (draft : Draft) : Outcome Draft :=
  match draft.request.negativePrompt with
  | none => .ok draft
  | some negativePrompt => do
    let merge ← mergesNegative draft.request.policies.negativePrompt c
    if merge then
      .ok (recordOptional
        { draft with request := { draft.request with
            prompt := draft.request.prompt ++ negativeSeparator ++ negativePrompt
            negativePrompt := none } }
        "negative_prompt" (some (.bool true)) (some (.string "merged_into_prompt"))
        "negative_prompt_prompt_merge")
    else .ok draft

end Negotiation

open Negotiation in
/-- Negotiates one intrinsically valid request against provider capabilities. -/
def negotiateRequest (request : ImageRequest) (c : ProviderCapabilities) :
    Outcome NegotiatedRequest := do
  c.validate
  checkModel request c
  checkOperation request c
  checkInputCounts request c
  checkSessions request c
  checkUserAttribution request c
  checkInputFidelity request c
  let draft ← negotiateAction c ⟨request, []⟩
  let draft ← negotiateCount c draft
  let draft ← negotiateSize c draft
  let draft ← negotiateHints c draft
  let draft ← negotiateQuality c draft
  let draft ← negotiateFormat c draft
  let draft ← negotiateBackground c draft
  let draft ← negotiateModeration c draft
  let draft ← negotiatePartialImages c draft
  let draft ← negotiateNegativePrompt c draft
  Outcome.failIf (request.policies.revisedPrompt = .require ∧ c.revisedPrompt = .unsupported)
    (unsupported c "policies.revised_prompt" "provider cannot return a revised prompt")
  .ok ⟨request.parameters, draft.request, draft.normalizations⟩

end ImagegenBridge
