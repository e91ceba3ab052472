import Mathlib.Tactic.Tauto
import ImagegenBridge.Core.Request
import ImagegenBridge.Core.Text

/-!
# Intrinsic request validation, `crates/core/src/validation.rs`

The Rust function reports issues through one closure that keeps the first 63.
Here each block of the function is a list of the issues it reports, in source
order; `validationIssues` truncates and sorts their concatenation.
-/

namespace ImagegenBridge

def maxEmbeddedRequestTextBytes : Nat := 12 * 1024
def maxValidationIssues : Nat := 64
def maxDetailedInputValidations : Nat := 64

/-- Configurable limits applied before provider negotiation. -/
structure RequestLimits where
  maxPromptBytes : Nat := 128 * 1024
  maxNegativePromptBytes : Nat := 64 * 1024
  maxOutputs : Nat := 16
  maxInputs : Nat := 16
  maxInlineEncodedBytes : Nat := 64 * 1024 * 1024
  maxEdge : Nat := 16384
  maxTimeoutMs : Nat := 30 * 60 * 1000
  maxIdentifierBytes : Nat := 256
  deriving DecidableEq, Repr

/-- `RequestLimits::default()`. -/
def RequestLimits.default : RequestLimits := {}

structure ValidationIssue where
  field : String
  code : String
  message : String
  deriving DecidableEq, Repr

/-- One call of the `issue` closure under a condition. -/
def issueIf (condition : Prop) [Decidable condition] (field code message : String) :
    List ValidationIssue :=
  if condition then [⟨field, code, message⟩] else []

@[simp] theorem issueIf_nil (p : Prop) [Decidable p] (f c m : String) :
    issueIf p f c m = [] ↔ ¬p := by
  by_cases h : p <;> simp [issueIf, h]

namespace Validation

open Text

def versionIssues (version : String) : List ValidationIssue :=
  issueIf (version ≠ contractVersion) "version" "unsupported_version"
    "only contract version 1 is supported"

def promptIssues (prompt : String) (limits : RequestLimits) : List ValidationIssue :=
  if isBlank prompt then issueIf True "prompt" "required" "prompt must not be empty"
  else issueIf (len prompt > limits.maxPromptBytes) "prompt" "too_large"
    "prompt exceeds the configured byte limit"

def negativePromptIssues (negativePrompt : Option String) (mode : NegativePromptMode)
    (limits : RequestLimits) : List ValidationIssue :=
  match negativePrompt with
  | none => []
  | some text =>
    (if isBlank text then
      issueIf True "negative_prompt" "empty" "negative prompt must be omitted instead of empty"
    else issueIf (len text > limits.maxNegativePromptBytes) "negative_prompt" "too_large"
      "negative prompt exceeds the configured byte limit") ++
    issueIf (mode = .reject) "policies.negative_prompt" "rejected_by_policy"
      "negative prompt is present while its policy is reject"

def countIssues (n : Nat) (limits : RequestLimits) : List ValidationIssue :=
  issueIf (n = 0 ∨ n > limits.maxOutputs) "parameters.n" "out_of_range"
    "output count is outside the configured generic range"

/-- Whether a dimension of an explicit size exceeds the edge limit. -/
def edgeTooLarge (size : ImageSize) (maxEdge : Nat) : Bool :=
  match size.dimensions with
  | some (width, height) => decide (width > maxEdge) || decide (height > maxEdge)
  | none => false

def sizeIssues (p : GenerationParameters) (limits : RequestLimits) : List ValidationIssue :=
  issueIf (edgeTooLarge p.size limits.maxEdge) "parameters.size" "out_of_range"
    "an image edge exceeds the configured generic limit" ++
  issueIf (¬p.size.isAuto ∧ (p.aspectRatio.isSome ∨ p.resolution.isSome)) "parameters.size"
    "ambiguous" "explicit size cannot be combined with aspect_ratio or resolution hints"

/-- `matches!(format, Jpeg | Webp)`. -/
def compresses (format : OutputFormat) : Bool := format == .jpeg || format == .webp

def compressionIssues (compression : Option Nat) (format : OutputFormat) : List ValidationIssue :=
  issueIf (compression.any (fun value => decide (value > 100))) "parameters.output_compression"
    "out_of_range" "output compression must be between 0 and 100" ++
  issueIf (compression.isSome ∧ ¬compresses format) "parameters.output_compression"
    "incompatible" "output compression is valid only for jpeg or webp"

def partialImagesIssues (partialImages : Nat) : List ValidationIssue :=
  issueIf (partialImages > 3) "parameters.partial_images" "out_of_range"
    "partial image count must be between 0 and 3"

def validateIdentifier (value : Option String) (field : String) (limits : RequestLimits) :
    List ValidationIssue :=
  match value with
  | none => []
  | some text =>
    if isBlank text then
      issueIf True field "empty" "identifier must be omitted instead of empty"
    else if len text > limits.maxIdentifierBytes then
      issueIf True field "too_large" "identifier exceeds the configured byte limit"
    else issueIf (hasControl text) field "invalid"
      "identifier must not contain control characters"

/-- The loop over fallback routes: `earlier` holds the routes already seen. -/
def fallbackIssues (routing : RoutingOptions) (limits : RequestLimits) (index : Nat)
    (route : ProviderRoute) (earlier : List ProviderRoute) : List ValidationIssue :=
  validateIdentifier (some route.provider) s!"routing.fallbacks[{index}].provider" limits ++
  validateIdentifier route.model s!"routing.fallbacks[{index}].model" limits ++
  issueIf (route ∈ earlier) s!"routing.fallbacks[{index}]" "duplicate"
    "fallback routes must be unique" ++
  issueIf (routing.provider = some route.provider ∧ routing.model = route.model)
    s!"routing.fallbacks[{index}]" "duplicate"
    "a fallback route must differ from the explicit primary route"

def routingIssues (routing : RoutingOptions) (limits : RequestLimits) : List ValidationIssue :=
  validateIdentifier routing.provider "routing.provider" limits ++
  validateIdentifier routing.model "routing.model" limits ++
  issueIf (routing.fallbacks.length > 4) "routing.fallbacks" "too_many"
    "at most four fallback routes may be configured" ++
  routing.fallbacks.zipIdx.flatMap (fun (route, index) =>
    fallbackIssues routing limits index route (routing.fallbacks.take index))

def isolationIssues (routing : RoutingOptions) (batch : BatchExecution) (mode : SessionMode) :
    List ValidationIssue :=
  issueIf (routing.fallbacks ≠ [] ∧ mode ≠ .isolated) "routing.fallbacks" "incompatible"
    "provider fallback is supported only for isolated sessions" ++
  issueIf (batch = .parallel ∧ mode ≠ .isolated) "policies.batch_execution" "incompatible"
    "parallel batch execution requires an isolated session"

def validHexColor (value : String) : Bool :=
  let digits := match value.toList with
    | '#' :: rest => rest
    | chars => chars
  digits.length == 6 && digits.all isAsciiHexdigit

def transparencyIssues (options : TransparencyOptions) : List ValidationIssue :=
  issueIf (options.transparentThreshold ≥ options.opaqueThreshold)
    "output.transparency.transparent_threshold" "out_of_range"
    "transparent threshold must be lower than opaque threshold" ++
  issueIf (options.keyColor.any (fun key => !validHexColor key))
    "output.transparency.key_color" "invalid_format"
    "chroma key must be a hex RGB color like #00ff00"

/-- `value.as_deref().is_none_or(str::is_empty)`. -/
def absentOrEmpty (value : Option String) : Bool := value.all String.isEmpty

def sessionIssues (session : SessionOptions) (limits : RequestLimits) : List ValidationIssue :=
  (match session.mode with
  | .isolated =>
    issueIf (session.key.isSome ∨ session.threadId.isSome) "session" "incompatible"
      "isolated mode cannot include a key or thread_id"
  | .persistent =>
    issueIf (absentOrEmpty session.key) "session.key" "required"
      "persistent mode requires a non-empty session key" ++
    issueIf session.threadId.isSome "session.thread_id" "incompatible"
      "persistent mode uses a key, not an explicit thread_id"
  | .thread =>
    issueIf (absentOrEmpty session.threadId) "session.thread_id" "required"
      "thread mode requires a non-empty thread_id" ++
    issueIf session.key.isSome "session.key" "incompatible"
      "thread mode cannot include a persistent key") ++
  validateIdentifier session.key "session.key" limits ++
  validateIdentifier session.threadId "session.thread_id" limits

def timeoutIssues (timeoutMs : Option Nat) (limits : RequestLimits) : List ValidationIssue :=
  issueIf (timeoutMs.any (fun t => decide (t = 0) || decide (t > limits.maxTimeoutMs)))
    "timeout_ms" "out_of_range" "timeout is outside the configured range"

def validPortableDirectory (value : String) : Bool :=
  !value.isEmpty && decide (len value ≤ 512) &&
  (splitOn '/' value.toList).all (fun component =>
    !component.isEmpty && component != ['.'] && component != ['.', '.']
      && decide (component.length ≤ 128) && component.head? != some '.'
      && component.all isPortable)

def validOutputFilename (value : String) (format : OutputFormat) : Bool :=
  if value.isEmpty || decide (len value > 160) || value.toList.head? == some '.'
      || value.toList.any (fun c => c == '/' || c == '\\') || !value.toList.all isPortable then
    false
  else match extension? value.toList with
    | none => true
    | some extension => match format with
      | .png => eqIgnoreAsciiCase extension "png".toList
      | .jpeg => eqIgnoreAsciiCase extension "jpg".toList
          || eqIgnoreAsciiCase extension "jpeg".toList
      | .webp => eqIgnoreAsciiCase extension "webp".toList

/-- `matches!(response_format, Artifact | Url)`. -/
def artifactDelivery (format : ResponseFormat) : Bool := format == .artifact || format == .url

def deliveryIssues (output : OutputOptions) (n : Nat) : List ValidationIssue :=
  issueIf (¬artifactDelivery output.responseFormat ∧ output.filenamePrefix.isSome)
    "output.filename_prefix" "incompatible" "filename_prefix requires artifact response format" ++
  issueIf (¬artifactDelivery output.responseFormat
      ∧ (output.directory.isSome ∨ output.filename.isSome)) "output" "incompatible"
    "artifact path controls require artifact or url response format" ++
  issueIf (output.filename.isSome ∧ output.filenamePrefix.isSome) "output.filename"
    "incompatible" "filename cannot be combined with filename_prefix" ++
  issueIf (output.filename.isSome ∧ n ≠ 1) "output.filename" "incompatible"
    "an exact filename requires a single output" ++
  issueIf (output.filename.isNone ∧ output.collision ≠ .error) "output.collision"
    "incompatible" "collision policy applies only to an explicit filename"

def metadataIssues (output : OutputOptions) (prompt : String) (negativePrompt : Option String) :
    List ValidationIssue :=
  issueIf (output.metadata.writesSidecar ∧ output.responseFormat ≠ .artifact) "output.metadata"
    "incompatible" "metadata sidecars require artifact response format" ++
  issueIf (output.metadata.embeds ∧ output.responseFormat = .metadata) "output.metadata"
    "incompatible" "embedded metadata requires an image-bearing response format" ++
  issueIf (output.metadata.embeds
      ∧ len prompt + (negativePrompt.map len).getD 0 > maxEmbeddedRequestTextBytes)
    "output.metadata" "too_large"
    "embedded metadata requires combined prompt text no larger than 12 KiB"

def pathIssues (output : OutputOptions) (format : OutputFormat) : List ValidationIssue :=
  issueIf (output.directory.any (fun d => !validPortableDirectory d)) "output.directory"
    "invalid" "output directory must be a safe portable relative path" ++
  issueIf (output.filename.any (fun f => !validOutputFilename f format)) "output.filename"
    "invalid" "output filename must be a safe component with a matching image extension"

def sourceIssues (source : ImageSource) (field : String) (limits : RequestLimits) :
    List ValidationIssue :=
  match source with
  | .file path => issueIf path.isEmpty field "empty" "file path must not be empty"
  | .url url => issueIf (isBlank url) field "empty" "URL must not be empty"
  | .dataUrl dataUrl =>
    if len dataUrl > limits.maxInlineEncodedBytes then
      issueIf True field "too_large" "data URL exceeds the encoded byte limit"
    else issueIf (¬startsWith dataUrl.toList "data:image/".toList) field "invalid"
      "data URL must contain an image media type"
  | .base64 data =>
    if len data > limits.maxInlineEncodedBytes then
      issueIf True field "too_large" "base64 input exceeds the encoded byte limit"
    else issueIf data.isEmpty field "empty" "base64 input must not be empty"

def validateInput (input : ImageInput) (field : String) (limits : RequestLimits) :
    List ValidationIssue :=
  sourceIssues input.source field limits ++
  issueIf (input.filename.any (fun name =>
      name.isEmpty || name.toList.any (fun c => c == '/' || c == '\\') || hasControl name))
    field "invalid_filename" "logical filename must be a single safe path component"

/-! Detailed checks stop after 64 inputs: sources first, then the mask, then references. -/

def detailedImages (operation : ImageOperation) : List ImageInput :=
  operation.editImages.take maxDetailedInputValidations

def detailedMask (operation : ImageOperation) : List ImageInput :=
  if (detailedImages operation).length < maxDetailedInputValidations then operation.mask.toList
  else []

def detailedReferences (operation : ImageOperation) : List ImageInput :=
  operation.referenceImages.take (maxDetailedInputValidations -
    ((detailedImages operation).length + (detailedMask operation).length))

def inputIssues (operation : ImageOperation) (limits : RequestLimits) : List ValidationIssue :=
  (detailedImages operation).zipIdx.flatMap (fun entry =>
    validateInput entry.1 s!"images[{entry.2}]" limits) ++
  (detailedMask operation).flatMap (fun input => validateInput input "mask" limits) ++
  (detailedReferences operation).zipIdx.flatMap (fun entry =>
    validateInput entry.1 s!"reference_images[{entry.2}]" limits)

def inputCount (operation : ImageOperation) : Nat :=
  operation.editImages.length + operation.mask.toList.length + operation.referenceImages.length

def operationIssues (operation : ImageOperation) (limits : RequestLimits) :
    List ValidationIssue :=
  (match operation with
  | .generate _ => []
  | .edit images _ _ => issueIf (images = []) "images" "required"
      "edit operation requires at least one source image") ++
  issueIf (inputCount operation > limits.maxInputs) "operation" "too_many_inputs"
    "total input image count exceeds the configured limit" ++
  inputIssues operation limits

def fidelityIssues (operation : ImageOperation) (fidelity : Option InputFidelity) :
    List ValidationIssue :=
  issueIf (fidelity.isSome
      ∧ operation.editImages.length + operation.referenceImages.length = 0)
    "parameters.input_fidelity" "incompatible"
    "input_fidelity requires at least one source or reference image"

def actionIssues (operation : ImageOperation) (action : ImageAction) : List ValidationIssue :=
  match operation, action with
  | .generate [], .edit => issueIf True "parameters.action" "incompatible"
      "edit action requires an image in context"
  | .edit .., .generate => issueIf True "parameters.action" "incompatible"
      "generate action conflicts with the edit operation"
  | _, _ => []

/-- Every issue the function reports, in the order in which it reports them. -/
def reported (r : ImageRequest) (limits : RequestLimits) : List ValidationIssue :=
  versionIssues r.version ++
  promptIssues r.prompt limits ++
  negativePromptIssues r.negativePrompt r.policies.negativePrompt limits ++
  countIssues r.parameters.n limits ++
  sizeIssues r.parameters limits ++
  compressionIssues r.parameters.outputCompression r.parameters.outputFormat ++
  partialImagesIssues r.parameters.partialImages ++
  routingIssues r.routing limits ++
  isolationIssues r.routing r.policies.batchExecution r.session.mode ++
  validateIdentifier r.idempotencyKey "idempotency_key" limits ++
  validateIdentifier r.user "user" limits ++
  transparencyIssues r.output.transparency ++
  sessionIssues r.session limits ++
  timeoutIssues r.timeoutMs limits ++
  deliveryIssues r.output r.parameters.n ++
  metadataIssues r.output r.prompt r.negativePrompt ++
  pathIssues r.output r.parameters.outputFormat ++
  operationIssues r.operation limits ++
  fidelityIssues r.operation r.parameters.inputFidelity ++
  actionIssues r.operation r.parameters.action

def truncationIssue : ValidationIssue :=
  ⟨"$", "too_many_issues", "additional validation issues were omitted"⟩

/-- The closure keeps 63 issues; one more tells that others were left out. -/
def truncated (issues : List ValidationIssue) : List ValidationIssue :=
  if issues.length ≤ maxValidationIssues - 1 then issues
  else issues.take (maxValidationIssues - 1) ++ [truncationIssue]

def issueLe (left right : ValidationIssue) : Bool :=
  decide (left.field < right.field)
    || (left.field == right.field && !decide (right.code < left.code))

end Validation

/-- All intrinsic issues in deterministic field order. -/
def validationIssues (request : ImageRequest) (limits : RequestLimits) : List ValidationIssue :=
  (Validation.truncated (Validation.reported request limits)).mergeSort Validation.issueLe

def ValidationIssue.toJson (issue : ValidationIssue) : Json :=
  .object [("field", .string issue.field), ("code", .string issue.code),
    ("message", .string issue.message)]

/-- Validates a request before any provider or I/O work occurs. -/
def validateRequest (request : ImageRequest) (limits : RequestLimits) : Outcome Unit :=
  let issues := validationIssues request limits
  if issues = [] then .ok ()
  else .error ((BridgeError.new .invalidRequest "request validation failed").withDetail "issues"
    (.array (issues.map ValidationIssue.toJson)))

namespace Validation

open Text

theorem truncated_nil (issues : List ValidationIssue) : truncated issues = [] ↔ issues = [] := by
  unfold truncated
  split
  · rfl
  · rename_i long
    have hne : issues ≠ [] := by
      intro h
      simp [h] at long
    simp [hne]

theorem validationIssues_nil (request : ImageRequest) (limits : RequestLimits) :
    validationIssues request limits = [] ↔ reported request limits = [] := by
  rw [validationIssues, ← List.length_eq_zero_iff, List.length_mergeSort,
    List.length_eq_zero_iff]
  exact truncated_nil _

/-- Neither truncation nor sorting hides the last issue of a request. -/
theorem validateRequest_ok (request : ImageRequest) (limits : RequestLimits) :
    validateRequest request limits = .ok () ↔ reported request limits = [] := by
  rw [← validationIssues_nil, validateRequest]
  by_cases h : validationIssues request limits = []
  · simp [h]
  · simp [h]

/-! What each rule asks of a request that reports nothing. -/

theorem promptIssues_nil (prompt : String) (limits : RequestLimits) :
    promptIssues prompt limits = [] ↔ isBlank prompt = false ∧ len prompt ≤ limits.maxPromptBytes := by
  cases blank : isBlank prompt <;> simp [promptIssues, blank]

theorem negativePromptIssues_nil (negative : Option String) (mode : NegativePromptMode)
    (limits : RequestLimits) : negativePromptIssues negative mode limits = [] ↔
      ∀ text, negative = some text → isBlank text = false ∧
        len text ≤ limits.maxNegativePromptBytes ∧ mode ≠ .reject := by
  cases negative with
  | none => simp [negativePromptIssues]
  | some text => cases blank : isBlank text <;> simp [negativePromptIssues, blank]

theorem countIssues_nil (n : Nat) (limits : RequestLimits) :
    countIssues n limits = [] ↔ 0 < n ∧ n ≤ limits.maxOutputs := by
  simp only [countIssues, issueIf_nil]
  omega

theorem sizeIssues_nil (p : GenerationParameters) (limits : RequestLimits) :
    sizeIssues p limits = [] ↔ edgeTooLarge p.size limits.maxEdge = false ∧
      (p.size = .auto ∨ (p.aspectRatio = none ∧ p.resolution = none)) := by
  simp only [sizeIssues, List.append_eq_nil_iff, issueIf_nil, Bool.not_eq_true, not_and, not_or,
    Option.isSome_eq_false_iff, Option.isNone_iff_eq_none]
  cases size : p.size with
  | auto => simp [ImageSize.isAuto]
  | exact => simp [ImageSize.isAuto]

theorem deliveryIssues_nil (output : OutputOptions) (n : Nat) :
    deliveryIssues output n = [] ↔
      deliveryIssues output 1 = [] ∧ (output.filename.isSome → n = 1) := by
  simp only [deliveryIssues, List.append_eq_nil_iff, issueIf_nil]
  tauto

/-- The rules that read neither a prompt nor a generation parameter that
negotiation may rewrite. -/
def untouchedIssues (r : ImageRequest) (limits : RequestLimits) : List ValidationIssue :=
  versionIssues r.version ++
  routingIssues r.routing limits ++
  isolationIssues r.routing r.policies.batchExecution r.session.mode ++
  validateIdentifier r.idempotencyKey "idempotency_key" limits ++
  validateIdentifier r.user "user" limits ++
  transparencyIssues r.output.transparency ++
  sessionIssues r.session limits ++
  timeoutIssues r.timeoutMs limits ++
  operationIssues r.operation limits ++
  fidelityIssues r.operation r.parameters.inputFidelity

theorem reported_nil (r : ImageRequest) (limits : RequestLimits) :
    reported r limits = [] ↔ untouchedIssues r limits = [] ∧
      promptIssues r.prompt limits = [] ∧
      negativePromptIssues r.negativePrompt r.policies.negativePrompt limits = [] ∧
      countIssues r.parameters.n limits = [] ∧
      sizeIssues r.parameters limits = [] ∧
      compressionIssues r.parameters.outputCompression r.parameters.outputFormat = [] ∧
      partialImagesIssues r.parameters.partialImages = [] ∧
      deliveryIssues r.output r.parameters.n = [] ∧
      metadataIssues r.output r.prompt r.negativePrompt = [] ∧
      pathIssues r.output r.parameters.outputFormat = [] ∧
      actionIssues r.operation r.parameters.action = [] := by
  unfold reported untouchedIssues
  simp only [List.append_eq_nil_iff, and_assoc]
  constructor
  · rintro ⟨version, prompt, negative, count, size, compression, images, routing, isolation, key,
      user, transparency, session, timeout, delivery, metadata, path, operation, fidelity, action⟩
    exact ⟨version, routing, isolation, key, user, transparency, session, timeout, operation,
      fidelity, prompt, negative, count, size, compression, images, delivery, metadata, path, action⟩
  · rintro ⟨version, routing, isolation, key, user, transparency, session, timeout, operation,
      fidelity, prompt, negative, count, size, compression, images, delivery, metadata, path, action⟩
    exact ⟨version, prompt, negative, count, size, compression, images, routing, isolation, key,
      user, transparency, session, timeout, delivery, metadata, path, operation, fidelity, action⟩

end Validation

end ImagegenBridge
