import ImagegenBridge.Core.RequestContract
import ImagegenBridge.Runtime.ReplayedAnswers
import ImagegenBridge.Server.CompatForms

/-!
# The image routes, `crates/server/src/compat.rs`

A compatible request becomes a native one, is run by the runtime and has its response converted
back. The conversion refuses what the two compatible formats do not carry.
-/

namespace ImagegenBridge.Compat

open Text Outcome JsonCodec JsonFields Orchestrator Idempotency Program

/-! ## Generation requests -/

inductive CompatibleResponseFormat where
  | b64Json | url
  deriving DecidableEq

def CompatibleResponseFormat.wire : CompatibleResponseFormat → String
  | .b64Json => "b64_json" | .url => "url"

structure CompatibleExtensions where
  provider : Option String := none
  negativePrompt : Option String := none
  compatibility : CompatibilityMode := .strict
  negativePromptMode : NegativePromptMode := .auto
  revisedPrompt : RevisedPromptPolicy := .include
  aspectRatio : Option AspectRatio := none
  resolution : Option Resolution := none
  partialImages : Nat := 0
  inputFidelity : Option InputFidelity := none
  action : ImageAction := .auto
  session : SessionOptions := {}
  referenceImages : List ImageInput := []
  filenamePrefix : Option String := none

structure CompatibleGenerationRequest where
  prompt : String := ""
  model : Option String := none
  n : Nat := 1
  size : ImageSize := .auto
  quality : Quality := .auto
  outputFormat : OutputFormat := .png
  outputCompression : Option Nat := none
  background : Background := .auto
  moderation : Moderation := .auto
  responseFormat : CompatibleResponseFormat := .b64Json
  user : Option String := none
  imagegenBridge : CompatibleExtensions := {}

def compatibleFormatCodec : JsonCodec CompatibleResponseFormat :=
  enumeration [("b64_json", .b64Json), ("url", .url)] CompatibleResponseFormat.wire
    fun value => by cases value <;> decide

theorem aspectRatio_solid (ratio : AspectRatio) : aspectRatioCodec.encode ratio ≠ .null := by
  intro null
  cases null

theorem resolution_solid (resolution : Resolution) : resolutionCodec.encode resolution ≠ .null := by
  intro null
  cases null

theorem inputFidelity_solid (fidelity : InputFidelity) :
    inputFidelityCodec.encode fidelity ≠ .null := by
  intro null
  cases null

theorem u8_solid (number : Nat) : u8.encode number ≠ .null := by
  intro null
  cases null

/-- `#[serde(default, deny_unknown_fields)]`. -/
def extensionsFields : JsonFields CompatibleExtensions CompatibleExtensions :=
  Records.Fields.start CompatibleExtensions.mk
    |>.ap (optional "provider" optionText CompatibleExtensions.provider (.ok none)) (by decide)
    |>.ap (optional "negative_prompt" optionText CompatibleExtensions.negativePrompt (.ok none))
      (by decide)
    |>.ap (defaulted "compatibility" compatibilityCodec CompatibleExtensions.compatibility .strict)
      (by decide)
    |>.ap (defaulted "negative_prompt_mode" negativePromptModeCodec
      CompatibleExtensions.negativePromptMode .auto) (by decide)
    |>.ap (defaulted "revised_prompt" revisedPromptCodec CompatibleExtensions.revisedPrompt .include)
      (by decide)
    |>.ap (optional "aspect_ratio" (option aspectRatioCodec aspectRatio_solid)
      CompatibleExtensions.aspectRatio (.ok none)) (by decide)
    |>.ap (optional "resolution" (option resolutionCodec resolution_solid)
      CompatibleExtensions.resolution (.ok none)) (by decide)
    |>.ap (defaulted "partial_images" u8 CompatibleExtensions.partialImages 0) (by decide)
    |>.ap (optional "input_fidelity" (option inputFidelityCodec inputFidelity_solid)
      CompatibleExtensions.inputFidelity (.ok none)) (by decide)
    |>.ap (defaulted "action" imageActionCodec CompatibleExtensions.action .auto) (by decide)
    |>.ap (defaulted "session" sessionCodec CompatibleExtensions.session {}) (by decide)
    |>.ap (listed "reference_images" (listOf inputCodec)
      CompatibleExtensions.referenceImages) (by decide)
    |>.ap (optional "filename_prefix" optionText CompatibleExtensions.filenamePrefix (.ok none))
      (by decide)

def extensionsCodec : JsonCodec CompatibleExtensions :=
  struct "CompatibleExtensions" extensionsFields fun _ => rfl

def generationFields : JsonFields CompatibleGenerationRequest CompatibleGenerationRequest :=
  Records.Fields.start CompatibleGenerationRequest.mk
    |>.ap (defaulted "prompt" text CompatibleGenerationRequest.prompt "") (by decide)
    |>.ap (optional "model" optionText CompatibleGenerationRequest.model (.ok none)) (by decide)
    |>.ap (defaulted "n" u8 CompatibleGenerationRequest.n 1) (by decide)
    |>.ap (defaulted "size" sizeCodec CompatibleGenerationRequest.size .auto) (by decide)
    |>.ap (defaulted "quality" qualityCodec CompatibleGenerationRequest.quality .auto) (by decide)
    |>.ap (defaulted "output_format" outputFormatCodec CompatibleGenerationRequest.outputFormat .png)
      (by decide)
    |>.ap (optional "output_compression" (option u8 u8_solid)
      CompatibleGenerationRequest.outputCompression (.ok none)) (by decide)
    |>.ap (defaulted "background" backgroundCodec CompatibleGenerationRequest.background .auto)
      (by decide)
    |>.ap (defaulted "moderation" moderationCodec CompatibleGenerationRequest.moderation .auto)
      (by decide)
    |>.ap (defaulted "response_format" compatibleFormatCodec
      CompatibleGenerationRequest.responseFormat .b64Json) (by decide)
    |>.ap (optional "user" optionText CompatibleGenerationRequest.user (.ok none)) (by decide)
    |>.ap (defaulted "imagegen_bridge" extensionsCodec CompatibleGenerationRequest.imagegenBridge {})
      (by decide)

def generationCodec : JsonCodec CompatibleGenerationRequest :=
  struct "CompatibleGenerationRequest" generationFields fun _ => rfl

def CompatibleResponseFormat.native : CompatibleResponseFormat → ResponseFormat
  | .b64Json => .b64Json
  | .url => .url

/-- `into_native`. -/
def CompatibleGenerationRequest.intoNative (c : CompatibleGenerationRequest) : ImageRequest :=
  let extensions := c.imagegenBridge
  let request := ImageRequest.generate c.prompt
  { request with
    negativePrompt := extensions.negativePrompt
    operation := .generate extensions.referenceImages
    parameters := { request.parameters with
      n := c.n
      size := c.size
      aspectRatio := extensions.aspectRatio
      resolution := extensions.resolution
      quality := c.quality
      outputFormat := c.outputFormat
      outputCompression := c.outputCompression
      background := c.background
      moderation := c.moderation
      partialImages := extensions.partialImages
      inputFidelity := extensions.inputFidelity
      action := extensions.action }
    routing := { request.routing with provider := extensions.provider, model := c.model }
    session := extensions.session
    output := { request.output with
      responseFormat := c.responseFormat.native
      filenamePrefix := extensions.filenamePrefix }
    policies := { request.policies with
      compatibility := extensions.compatibility
      negativePrompt := extensions.negativePromptMode
      revisedPrompt := extensions.revisedPrompt }
    user := c.user }

/-! ## Responses -/

structure CompatibleImageData where
  b64Json : Option String
  url : Option String
  revisedPrompt : Option String

structure CompatibleResponseExtensions where
  id : String
  provider : String
  model : String
  effective : GenerationParameters
  normalizations : List Normalization
  session : Option SessionMetadata
  timings : Timings
  warnings : List String

structure CompatibleImageResponse where
  created : Nat
  data : List CompatibleImageData
  usage : Option Usage
  imagegenBridge : CompatibleResponseExtensions

def compatibleData (image : GeneratedImage) (revisedPrompt : Option String) :
    Outcome CompatibleImageData :=
  match image.payload with
  | .b64Json b64Json => .ok ⟨some b64Json, none, revisedPrompt⟩
  | .url url => .ok ⟨none, some url, revisedPrompt⟩
  | .artifact _ _ | .metadata =>
    .error (.new .internal "compatibility response materialization is inconsistent")

/-- `collect::<Result<Vec<_>, _>>`. -/
def compatibleImages (revisedPrompt : Option String) :
    List GeneratedImage → Outcome (List CompatibleImageData)
  | [] => .ok []
  | image :: rest => do
    let data ← compatibleData image revisedPrompt
    let later ← compatibleImages revisedPrompt rest
    .ok (data :: later)

def CompatibleImageResponse.tryFrom (response : ImageResponse) : Outcome CompatibleImageResponse := do
  let data ← compatibleImages response.revisedPrompt response.data
  .ok {
    created := response.created
    data
    usage := response.usage
    imagegenBridge := {
      id := response.id
      provider := response.provider
      model := response.model
      effective := response.effective
      normalizations := response.normalizations
      session := response.session
      timings := response.timings
      warnings := response.warnings } }

/-! ## Routes -/

def maxIdempotencyKeyBytes : Nat := 512

/-- The header is none where it is absent, and has no text where it is not visible ASCII. -/
def applyIdempotencyHeader (header : Option (Option String)) (request : ImageRequest) :
    Outcome ImageRequest :=
  match header with
  | none => .ok request
  | some none => .error (badRequest "Idempotency-Key must be visible ASCII")
  | some (some key) => do
    failIf (key = "" ∨ len key > maxIdempotencyKeyBytes)
      (badRequest "Idempotency-Key length is invalid")
    failIf (request.idempotencyKey.any (· ≠ key))
      (badRequest "Idempotency-Key conflicts with the request body")
    .ok { request with idempotencyKey := some key }

/-- A posted image request: `execute_image`, `generate_compatible` and `edit_compatible`. A JSON
body is none where it is no JSON. -/
inductive Received where
  | native (payload : Option Json)
  | generation (payload : Option Json)
  | edit (multipart : Option (List (Option Part)))

inductive Reply where
  | native (response : ImageResponse)
  | compatible (response : CompatibleImageResponse)

def readJson {α : Type} (decode : Json → Except DecodeError α) (message : String)
    (payload : Option Json) : Outcome α :=
  match payload with
  | none => .error (badRequest message)
  | some json => (decode json).mapError fun _ => badRequest message

def Received.request : Received → Outcome ImageRequest
  | .native payload =>
    readJson ImageRequest.decode "request body must be valid ImageRequest JSON" payload
  | .generation payload => do
    let payload ← readJson generationCodec.decode "request body must be valid image generation JSON"
      payload
    .ok payload.intoNative
  | .edit multipart => editRequest multipart

def Received.reply (received : Received) (response : ImageResponse) : Outcome Reply :=
  match received with
  | .native _ => .ok (.native response)
  | .generation _ | .edit _ => do
    let response ← CompatibleImageResponse.tryFrom response
    .ok (.compatible response)

section Calls

variable {Fingerprint : Type}

def runRequest (rt : Runtime) (header : Option (Option String)) (request : ImageRequest)
    (context : ExecutionContext) : Task Fingerprint ImageResponse := do
  let request ← require (applyIdempotencyHeader header request)
  executeWith rt request context

/-- A handled request, with what the runtime answered and what the route replies. -/
def handled (rt : Runtime) (received : Received) (header : Option (Option String))
    (context : ExecutionContext) :
    Program (calls Fingerprint) (Received × Outcome ImageResponse × Outcome Reply) := do
  let answered ← (do
    let request ← require received.request
    runRequest rt header request context).run
  .done (received, answered, answered.bind received.reply)

end Calls

/-! ## What can be asked -/

/-- The native requests that a generation body can ask for: what it has no field for is as native
requests have it by default. -/
structure Offered (request : ImageRequest) : Prop where
  version : request.version = contractVersion
  operation : ∃ references, request.operation = .generate references
  failurePolicy : request.parameters.failurePolicy = .failFast
  routing : request.routing = { provider := request.routing.provider, model := request.routing.model }
  format : request.output.responseFormat = .b64Json ∨ request.output.responseFormat = .url
  output : request.output = {
    responseFormat := request.output.responseFormat
    filenamePrefix := request.output.filenamePrefix }
  batch : request.policies.batchExecution = .auto
  key : request.idempotencyKey = none
  timeout : request.timeoutMs = none

theorem intoNative_offered (c : CompatibleGenerationRequest) : Offered c.intoNative where
  version := rfl
  operation := ⟨_, rfl⟩
  failurePolicy := rfl
  routing := rfl
  format := by
    show c.responseFormat.native = .b64Json ∨ c.responseFormat.native = .url
    cases c.responseFormat
    · exact .inl rfl
    · exact .inr rfl
  output := rfl
  batch := rfl
  key := rfl
  timeout := rfl

/-- The generation request for a native one. -/
def ofNative (request : ImageRequest) : CompatibleGenerationRequest where
  prompt := request.prompt
  model := request.routing.model
  n := request.parameters.n
  size := request.parameters.size
  quality := request.parameters.quality
  outputFormat := request.parameters.outputFormat
  outputCompression := request.parameters.outputCompression
  background := request.parameters.background
  moderation := request.parameters.moderation
  responseFormat := if request.output.responseFormat = .url then .url else .b64Json
  user := request.user
  imagegenBridge := {
    provider := request.routing.provider
    negativePrompt := request.negativePrompt
    compatibility := request.policies.compatibility
    negativePromptMode := request.policies.negativePrompt
    revisedPrompt := request.policies.revisedPrompt
    aspectRatio := request.parameters.aspectRatio
    resolution := request.parameters.resolution
    partialImages := request.parameters.partialImages
    inputFidelity := request.parameters.inputFidelity
    action := request.parameters.action
    session := request.session
    referenceImages := request.operation.referenceImages
    filenamePrefix := request.output.filenamePrefix }

theorem intoNative_ofNative {request : ImageRequest} (offered : Offered request) :
    (ofNative request).intoNative = request := by
  obtain ⟨version, prompt, negativePrompt, operation, parameters, routing, session, output, policies,
    idempotencyKey, timeoutMs, user⟩ := request
  obtain ⟨rfl, ⟨references, rfl⟩, failFast, routed, format, written, batch, rfl, rfl⟩ := offered
  dsimp only at failFast routed format written batch
  have native : (if output.responseFormat = .url then CompatibleResponseFormat.url
      else .b64Json).native = output.responseFormat := by
    obtain format | format := format
    · rw [format]
      rfl
    · rw [format]
      rfl
  obtain ⟨n, size, aspectRatio, resolution, quality, outputFormat, outputCompression, background,
    moderation, partialImages, failurePolicy, inputFidelity, action⟩ := parameters
  obtain ⟨provider, model, fallbacks, fallbackPolicy⟩ := routing
  obtain ⟨responseFormat, filenamePrefix, directory, filename, collision, metadata, transparency⟩ :=
    output
  obtain ⟨compatibility, negative, revised, batchExecution⟩ := policies
  cases failFast
  cases routed
  cases written
  cases batch
  unfold ofNative CompatibleGenerationRequest.intoNative
  dsimp only at native ⊢
  rw [native]
  rfl

theorem ofNative_fits {request : ImageRequest} (fits : ImageRequest.Representable request) :
    generationCodec.Fits (ofNative request) := by
  have session : sessionCodec.Fits request.session :=
    ⟨⟨⟨trivial, trivial⟩, fun _ _ => trivial⟩, fun _ _ => trivial⟩
  have extensions : extensionsCodec.Fits (ofNative request).imagegenBridge :=
    ⟨⟨⟨⟨⟨⟨⟨⟨⟨⟨⟨⟨⟨trivial, fun _ _ => trivial⟩, fun _ _ => trivial⟩, trivial⟩, trivial⟩, trivial⟩,
      fits.aspectRatio⟩, fun _ _ => trivial⟩, fits.partialImages⟩, fun _ _ => trivial⟩, trivial⟩,
      session⟩, fun _ _ => trivial⟩, fun _ _ => trivial⟩
  exact ⟨⟨⟨⟨⟨⟨⟨⟨⟨⟨⟨⟨trivial, trivial⟩, fun _ _ => trivial⟩, fits.n⟩, fits.size⟩, trivial⟩, trivial⟩,
    fits.compression⟩, trivial⟩, trivial⟩, trivial⟩, fun _ _ => trivial⟩, extensions⟩

/-- A native request can be asked for with a generation body exactly if it has nothing but the
default where that body has no field. -/
theorem generation_offers {request : ImageRequest} (fits : ImageRequest.Representable request) :
    (∃ payload, (Received.generation payload).request = .ok request) ↔ Offered request := by
  constructor
  · rintro ⟨payload, asked⟩
    obtain ⟨c, _, made⟩ := bind_ok.mp asked
    cases made
    exact intoNative_offered c
  · intro offered
    have read := generationCodec.restores (ofNative request) (ofNative_fits fits)
    refine ⟨some (generationCodec.encode (ofNative request)), bind_ok.mpr ⟨ofNative request, ?_, ?_⟩⟩
    · exact mapError_ok.mpr read
    · exact congrArg Except.ok (intoNative_ofNative offered)

theorem lighthouse_offers :
    (∃ payload, (Received.generation payload).request = .ok (.generate "a lighthouse")) ↔
      Offered (.generate "a lighthouse") :=
  generation_offers (ImageRequest.generate_representable "a lighthouse")

/-! ## What is replied -/

/-- One entry of a compatible response: its image's payload, in the format asked for and in no
other. -/
inductive Shows (format : ResponseFormat) (revised : Option String) (image : GeneratedImage) :
    CompatibleImageData → Prop
  | b64Json {text : String} (asked : format = .b64Json) (payload : image.payload = .b64Json text) :
      Shows format revised image ⟨some text, none, revised⟩
  | url {url : String} (asked : format = .url) (payload : image.payload = .url url) :
      Shows format revised image ⟨none, some url, revised⟩

/-- A compatible response has an entry for each image, in the order of the images. -/
structure Converted (format : ResponseFormat) (response : ImageResponse)
    (own : CompatibleImageResponse) : Prop where
  data : List.Forall₂ (Shows format response.revisedPrompt) response.data own.data
  created : own.created = response.created
  usage : own.usage = response.usage
  id : own.imagegenBridge.id = response.id
  effective : own.imagegenBridge.effective = response.effective
  normalizations : own.imagegenBridge.normalizations = response.normalizations
  warnings : own.imagegenBridge.warnings = response.warnings

/-- A route replies in its own kind. -/
inductive Received.Replies (format : ResponseFormat) (response : ImageResponse) :
    Received → Reply → Prop
  | native (payload : Option Json) : Replies format response (.native payload) (.native response)
  | generation (payload : Option Json) {own : CompatibleImageResponse}
      (converted : Converted format response own) :
      Replies format response (.generation payload) (.compatible own)
  | edit (multipart : Option (List (Option Part))) {own : CompatibleImageResponse}
      (converted : Converted format response own) :
      Replies format response (.edit multipart) (.compatible own)

theorem compatibleImages_shows {format : ResponseFormat} {revised : Option String}
    {images : List GeneratedImage} (compatible : format = .b64Json ∨ format = .url)
    (carried : Materialize.Carried format images) :
    ∃ data, compatibleImages revised images = .ok data ∧
      List.Forall₂ (Shows format revised) images data := by
  induction images with
  | nil => exact ⟨[], rfl, .nil⟩
  | cons image rest ih =>
    obtain ⟨first, later⟩ := List.forall_mem_cons.mp carried
    obtain ⟨data, read, shows⟩ := ih later
    have one : ∃ own, compatibleData image revised = .ok own ∧ Shows format revised image own := by
      unfold compatibleData
      cases payload : image.payload with
      | b64Json text =>
        rw [payload] at first
        obtain rfl | rfl := compatible
        · exact ⟨_, rfl, .b64Json rfl payload⟩
        · cases first
      | url url =>
        rw [payload] at first
        obtain rfl | rfl := compatible
        · cases first
        · exact ⟨_, rfl, .url rfl payload⟩
      | artifact id name =>
        rw [payload] at first
        obtain rfl | rfl := compatible <;> cases first
      | metadata =>
        rw [payload] at first
        obtain rfl | rfl := compatible <;> cases first
    obtain ⟨own, converted, shown⟩ := one
    exact ⟨own :: data, bind_ok.mpr ⟨own, converted, bind_ok.mpr ⟨data, read, rfl⟩⟩, .cons shown shows⟩

theorem tryFrom_converted {format : ResponseFormat} {response : ImageResponse}
    (compatible : format = .b64Json ∨ format = .url)
    (carried : Materialize.Carried format response.data) :
    ∃ own, CompatibleImageResponse.tryFrom response = .ok own ∧ Converted format response own := by
  obtain ⟨data, read, shows⟩ := @compatibleImages_shows _ response.revisedPrompt _ compatible carried
  exact ⟨_, bind_ok.mpr ⟨data, read, rfl⟩, shows, rfl, rfl, rfl, rfl, rfl, rfl⟩

theorem editRequest_format {multipart : Option (List (Option Part))} {request : ImageRequest}
    (accepted : editRequest multipart = .ok request) :
    request.output.responseFormat = .b64Json ∨ request.output.responseFormat = .url := by
  cases multipart with
  | none => cases accepted
  | some body =>
    obtain ⟨fields, form, _, fits, _, rfl⟩ := editRequest_ok.mp accepted
    have spelled : Spelled _ form.responseFormat (fields.texts .responseFormat) :=
      fits.texts .responseFormat
    have format : (form.request).output.responseFormat = form.responseFormat.getD .b64Json := rfl
    rw [format]
    generalize form.responseFormat = chosen, fields.texts .responseFormat = text at spelled ⊢
    cases spelled with
    | absent => exact .inl rfl
    | present spelled => exact spelled.1

/-- A response that answers a received request is replied. -/
theorem Received.replied {received : Received} {request : ImageRequest} {response : ImageResponse}
    (asked : received.request = .ok request) (answers : Matches request response) :
    ∃ reply, received.reply response = .ok reply ∧
      Received.Replies request.output.responseFormat response received reply := by
  cases received with
  | native payload => exact ⟨_, rfl, .native payload⟩
  | generation payload =>
    obtain ⟨c, _, made⟩ := bind_ok.mp asked
    cases made
    obtain ⟨own, read, converted⟩ := tryFrom_converted (intoNative_offered c).format answers.carried
    exact ⟨_, bind_ok.mpr ⟨own, read, rfl⟩, .generation payload converted⟩
  | edit multipart =>
    obtain ⟨own, read, converted⟩ := tryFrom_converted (editRequest_format asked) answers.carried
    exact ⟨_, bind_ok.mpr ⟨own, read, rfl⟩, .edit multipart converted⟩

section Runs

variable {Fingerprint : Type} {codec : Codec Fingerprint} {rt : Runtime}

theorem header_matches {header : Option (Option String)} {request sent : ImageRequest}
    {response : ImageResponse} (applied : applyIdempotencyHeader header request = .ok sent)
    (answers : Matches sent response) : Matches request response := by
  match header with
  | none =>
    cases applied
    exact answers
  | some none => cases applied
  | some (some key) =>
    obtain ⟨_, _, next⟩ := bind_ok.mp applied
    obtain ⟨_, _, made⟩ := bind_ok.mp next
    cases made
    exact ⟨answers.requested, answers.carried⟩

/-- What is known of a handled request. -/
structure Answered (received : Received) (answered : Outcome ImageResponse) (reply : Outcome Reply) :
    Prop where
  replied : reply = answered.bind received.reply
  answers : ∀ response, answered = .ok response → ∃ request, received.request = .ok request ∧
    Matches request response

theorem handled_keeps {asked : Option Asked} (received : Received) (header : Option (Option String))
    (context : ExecutionContext) :
    (handled rt received header context).Keeps (answerContract codec) asked fun answer _ =>
      Answered answer.1 answer.2.1 answer.2.2 := by
  unfold handled
  rw [keeps_bind]
  have kept : Tries (answerContract codec) (do
      let request ← require received.request
      runRequest rt header request context) asked
      (fun response _ => ∃ request, received.request = .ok request ∧ Matches request response)
      fun _ _ => True := by
    apply tries_passed
    intro request read
    unfold runRequest
    apply tries_passed
    intro sent applied
    have ran : Tries (answerContract codec) (executeWith rt sent context) asked
        (fun response _ => Matches sent response) fun _ _ => True := executeWith_answers
    apply Tries.mono ran
    · exact fun response _ answers => ⟨request, read, header_matches applied answers⟩
    · exact fun _ _ _ => trivial
  apply Keeps.mono kept
  intro result t held
  refine ⟨rfl, fun response same => ?_⟩
  subst same
  exact held

/-- Requests of all three routes, with any header. -/
def AnyHandled (rt : Runtime)
    (p : Program (calls Fingerprint) (Received × Outcome ImageResponse × Outcome Reply)) : Prop :=
  ∃ received header context, p = handled rt received header context

abbrev HandledCalls (Fingerprint : Type) :=
  Pool (askMonitor Fingerprint) (Shared Fingerprint)
    (Received × Outcome ImageResponse × Outcome Reply)

variable [DecidableEq Fingerprint] {config : IdempotencyConfig}
  {timely : Nat → IdempotencyState Fingerprint → Prop}

/-- Whichever routes share a runtime and its keys: where the runtime answers a request, the route
replies. A conversion never fails, and shows each image once, in order and as asked for. -/
theorem every_answer_is_replied {pool : HandledCalls Fingerprint}
    (collisionFree : Codec.CollisionFree codec)
    (run : Pool.Run (AnyHandled rt) (behavior codec config timely) none Shared.initial
      (fun _ _ => True) pool) {id : Nat} {asked : Option Asked} {received : Received}
    {response : ImageResponse} {reply : Outcome Reply} (live : pool.view.phase id = some asked)
    (returned : pool.code id = .done (received, .ok response, reply)) :
    ∃ request own, received.request = .ok request ∧ reply = .ok own ∧
      response.requested = request.parameters ∧
      Received.Replies request.output.responseFormat response received own := by
  have kept : ∀ p, AnyHandled rt p → p.Keeps (answerContract codec) none fun answer _ =>
      Answered answer.1 answer.2.1 answer.2.2 := by
    rintro p ⟨received, header, context, rfl⟩
    exact handled_keeps received header context
  have reached := Pool.run_invariant_justifies kept traced_justifies initial_traced
    (fun _ _ _ traced step _ => step_traced collisionFree traced step) run
  have own := reached.2 id asked live
  rw [returned] at own
  obtain ⟨request, read, answers⟩ := own.answers response rfl
  obtain ⟨shown, replied, shows⟩ := Received.replied read answers
  exact ⟨request, shown, read, own.replied.trans replied, answers.requested, shows⟩

end Runs

/-! ## A replayed reply -/

/-- The body of a generation request. -/
def lighthouseBody : Received := .generation (some (.object [("prompt", .string "a lighthouse")]))

def handledLighthouse : Program (calls Unit) (Received × Outcome ImageResponse × Outcome Reply) :=
  handled plainRuntime lighthouseBody (some (some "key")) lighthouseContext

def unhandled : HandledCalls Unit := ⟨Snapshot.empty Shared.initial, fun _ => handledLighthouse⟩

/-- The first request is served; the second has the same key and comes afterwards. -/
def handledMoves :
    List (Pool.Move (calls Unit) (Received × Outcome ImageResponse × Outcome Reply)) :=
  .spawn handledLighthouse ::
    (List.replicate 21 (.go 0) ++ .spawn handledLighthouse :: List.replicate 5 (.go 1))

def handledPlay : Option (HandledCalls Unit) :=
  Pool.schedule (fun id op s => some (answers lighthouseCodec {} 0 id delivered op s))
    (fun _ _ _ => none) none handledMoves unhandled

/-- What the second request is answered, when only the first was dispatched. -/
def replayed (pool : HandledCalls Unit) : Option (Received × ImageResponse × Outcome Reply) :=
  match pool.view.phase 1, pool.code 1, pool.view.shared.dispatches with
  | some _, .done (received, .ok response, reply), [_] => some (received, response, reply)
  | _, _, _ => none

theorem lighthouse_replayed : (handledPlay.bind replayed).isSome = true := by
  decide +kernel

theorem replayed_answer_is_replied : ∃ (pool : HandledCalls Unit) (received : Received)
    (response : ImageResponse) (reply : Outcome Reply),
    Pool.Run (AnyHandled plainRuntime) (behavior lighthouseCodec {} fun _ _ => True) none
      Shared.initial (fun _ _ => True) pool ∧
    replayed pool = some (received, response, reply) ∧
    ∃ request own, received.request = .ok request ∧ reply = .ok own ∧
      response.requested = request.parameters ∧
      Received.Replies request.output.responseFormat response received own := by
  obtain ⟨⟨received, response, reply⟩, found⟩ := Option.isSome_iff_exists.mp lighthouse_replayed
  obtain ⟨pool, played, found⟩ := Option.bind_eq_some_iff.mp found
  have path : Pool.Path (AnyHandled plainRuntime) (behavior lighthouseCodec {} fun _ _ => True) none
      (fun _ _ => True) unhandled pool := by
    refine Pool.schedule_path ?_ ?_ ?_ .here played
    · intro id op s answer s' same
      have performs : Performs lighthouseCodec {} (fun _ _ => True) id op
          (answers lighthouseCodec {} 0 id delivered op s).1 s
          (answers lighthouseCodec {} 0 id delivered op s).2 :=
        answers_performs delivered op s trivial
      rw [Option.some.inj same] at performs
      exact performs
    · intro id op s s' impossible
      cases impossible
    · intro p spawned
      simp only [handledMoves, List.mem_cons, List.mem_append, List.mem_replicate,
        Pool.Move.spawn.injEq, reduceCtorEq, and_false, false_or, or_false, or_self] at spawned
      subst spawned
      exact ⟨lighthouseBody, some (some "key"), lighthouseContext, rfl⟩
  have run : Pool.Run (AnyHandled plainRuntime) (behavior lighthouseCodec {} fun _ _ => True) none
      Shared.initial (fun _ _ => True) pool := ⟨_, path⟩
  refine ⟨pool, received, response, reply, run, found, ?_⟩
  unfold replayed at found
  split at found
  · rename_i asked received' response' reply' _ live returned _
    cases found
    exact every_answer_is_replied lighthouseCodec_collisionFree run live returned
  · cases found

end ImagegenBridge.Compat
