import ImagegenBridge.Config.Settings
import ImagegenBridge.Core.Limits
import ImagegenBridge.Core.NegotiationValidity

/-!
# Configured limits against the adapters' built-in limits

The runtime validates with configured limits; the adapters and the fan-out
validate once more with `RequestLimits::default()`.
-/

namespace ImagegenBridge.Config

open Negotiation Validation Text

namespace BuiltProvider

/-- The capability document the runtime negotiates against. -/
def capabilities : BuiltProvider → Option String → Outcome ProviderCapabilities
  | .codexAppServer fanout, model => do
    let native ← CodexAppServer.capabilityDocument model
    Fanout.effectiveCapabilities fanout native
  | .codexResponses config, model => CodexResponses.capabilityDocument config model

/-- What the fan-out hands to the inner adapter: one request, or its chunks. -/
def forwarded (native : ProviderCapabilities) (request : ImageRequest) : List ImageRequest :=
  if request.parameters.n ≤ native.count.max then [request]
  else (Fanout.chunks request.parameters.n native.count.max).map (Fanout.chunkRequest request)

/-- The requests `execute` validates with built-in limits: the one it receives,
and behind a fan-out those that reach the inner adapter after re-negotiation. -/
def revalidated : BuiltProvider → ImageRequest → List ImageRequest
  | .codexResponses _, request => [request]
  | .codexAppServer fanout, request =>
    let reached : Outcome (List ImageRequest) := do
      let native ← CodexAppServer.capabilityDocument request.routing.model
      let effective ← Fanout.effectiveCapabilities fanout native
      let plan ← negotiateRequest request effective
      .ok (forwarded native plan.effectiveRequest)
    request :: match reached with
      | .ok requests => requests
      | .error _ => []

end BuiltProvider

/-- What the capability documents of the two adapters have in common. -/
structure AdapterDocument (c : ProviderCapabilities) : Prop where
  count : c.count.min = 1
  sizes : c.sizes.auto = true ∧ c.sizes.arbitrary = false
  allowed : ∀ size ∈ c.sizes.allowed, edgeTooLarge size RequestLimits.default.maxEdge = false
  partialImages : c.partialImages.min = 0
  references : c.referenceImages.maxCount = 5
  edits : c.editImages.maxCount = 5
  masks : c.masks.support = .unsupported
  negative : c.negativePrompt = .emulated

theorem appServer_native {model : Option String} {native : ProviderCapabilities}
    (h : CodexAppServer.capabilityDocument model = .ok native) :
    native = CodexAppServer.capabilities := by
  simp only [CodexAppServer.capabilityDocument] at h
  split at h
  · exact (Except.ok.inj h).symm
  · split at h
    · cases h
    · exact (Except.ok.inj h).symm

theorem appServer_document {fanout : Fanout.OutputFanoutConfig} {model : Option String}
    {c : ProviderCapabilities}
    (h : (BuiltProvider.codexAppServer fanout).capabilities model = .ok c) : AdapterDocument c ∧
      c.sizes.allowed = [] ∧ c.outputFormats = [.png] := by
  simp only [BuiltProvider.capabilities, Outcome.bind_ok] at h
  obtain ⟨native, document, h⟩ := h
  have fixed := appServer_native document
  subst fixed
  simp only [Fanout.effectiveCapabilities, Outcome.bind_ok] at h
  obtain ⟨_, _, h⟩ := h
  split at h
  · cases h
    exact ⟨⟨rfl, ⟨rfl, rfl⟩, by simp [CodexAppServer.capabilities], rfl, rfl, rfl, rfl, rfl⟩, rfl, rfl⟩
  · simp only [Outcome.bind_ok] at h
    obtain ⟨_, _, h⟩ := h
    cases h
    exact ⟨⟨rfl, ⟨rfl, rfl⟩, by simp [CodexAppServer.capabilities], rfl, rfl, rfl, rfl, rfl⟩, rfl, rfl⟩

theorem allowedSizes_fit (model : String) : ∀ size ∈ CodexResponses.allowedSizes model,
    edgeTooLarge size RequestLimits.default.maxEdge = false := by
  unfold CodexResponses.allowedSizes
  split <;> decide

theorem responses_document {config : CodexResponses.Config} {model : Option String}
    {c : ProviderCapabilities}
    (h : (BuiltProvider.codexResponses config).capabilities model = .ok c) : AdapterDocument c := by
  simp only [BuiltProvider.capabilities, CodexResponses.capabilityDocument, Outcome.bind_ok] at h
  obtain ⟨selected, _, h⟩ := h
  simp only [CodexResponses.capabilities] at h
  split at h
  · cases h
  · split at h
    · cases h
    · cases h
      exact ⟨rfl, ⟨rfl, rfl⟩, allowedSizes_fit selected, rfl, rfl, rfl, rfl, rfl⟩

theorem adapter_document {p : BuiltProvider} {model : Option String} {c : ProviderCapabilities}
    (h : p.capabilities model = .ok c) : AdapterDocument c := by
  cases p with
  | codexAppServer fanout => exact (appServer_document h).1
  | codexResponses config => exact responses_document h

/-- The exact condition under which the adapters' built-in limits admit what the
configured limits and the capability document admitted. -/
structure FitsAdapterDefaults (r : ImageRequest) (c : ProviderCapabilities) : Prop where
  outputs : r.parameters.n ≤ RequestLimits.default.maxOutputs ∨
    c.count.max ≤ RequestLimits.default.maxOutputs
  prompt : len r.prompt ≤ RequestLimits.default.maxPromptBytes
  merged : ∀ text, r.negativePrompt = some text →
    len r.prompt + len negativeSeparator + len text ≤ RequestLimits.default.maxPromptBytes
  embedded : r.output.metadata.embeds = true → ∀ text, r.negativePrompt = some text →
    len r.prompt + len negativeSeparator + len text ≤ maxEmbeddedRequestTextBytes
  filename : ∀ name, r.output.filename = some name →
    r.parameters.outputFormat ∉ c.outputFormats → ∀ format,
      valueFallback c.outputFormats .png = some format → validOutputFilename name format = true
  identifiers : ∀ text ∈ identifiers r, len text ≤ RequestLimits.default.maxIdentifierBytes
  timeout : ∀ t, r.timeoutMs = some t → t ≤ RequestLimits.default.maxTimeoutMs
  inline : ∀ input ∈ detailedInputs r.operation,
    inlineEncodedBytes input.source ≤ RequestLimits.default.maxInlineEncodedBytes

section Effective

variable {r : ImageRequest} {c : ProviderCapabilities} {plan : NegotiatedRequest}

/-- An accepted request has at most ten inputs: five references, five sources, no mask. -/
theorem inputCount_le (document : AdapterDocument c) (h : negotiateRequest r c = .ok plan) :
    inputCount r.operation ≤ 10 := by
  simp only [negotiateRequest, Outcome.bind_ok] at h
  obtain ⟨_, _, _, _, _, _, _, counts, _⟩ := h
  simp only [checkInputCounts, Outcome.bind_ok, Outcome.failIf_ok] at counts
  obtain ⟨_, references, _, _, counts⟩ := counts
  rw [document.references] at references
  cases operation : r.operation with
  | generate refs =>
    rw [operation] at references
    simp only [ImageOperation.referenceImages] at references
    simp only [inputCount, ImageOperation.editImages, ImageOperation.mask,
      ImageOperation.referenceImages, List.length_nil, Option.toList_none]
    omega
  | edit images mask refs =>
    rw [operation] at references counts
    simp only [ImageOperation.referenceImages, Outcome.bind_ok, Outcome.failIf_ok, document.edits,
      document.masks, true_or, and_true] at references counts
    obtain ⟨_, sources, unmasked⟩ := counts
    have none : mask = none := by simpa using unmasked
    subst none
    simp only [inputCount, ImageOperation.editImages, ImageOperation.mask,
      ImageOperation.referenceImages, List.length_nil, Option.toList_none]
    omega

/-- Under an emulated negative prompt an accepted request merges whatever it has. -/
theorem negative_merges (document : AdapterDocument c) (h : negotiateRequest r c = .ok plan)
    {text : String} (present : r.negativePrompt = some text) :
    mergesInto r.policies.negativePrompt c = true := by
  obtain ⟨merge, decided⟩ := negotiateRequest_merges h present
  rw [← mergesNegative_ok decided]
  cases mode : r.policies.negativePrompt <;>
    simp_all [mergesNegative, document.negative]

theorem effectiveNegative_absent (document : AdapterDocument c) (h : negotiateRequest r c = .ok plan) :
    effectiveNegative r c = none := by
  cases kept : effectiveNegative r c with
  | none => rfl
  | some text =>
    have present := (effectiveNegative_eq kept).1
    simp [effectiveNegative, negative_merges document h present] at kept

/-- Both documents accept only sizes within the built-in edge limit. -/
theorem supported_size_fits (document : AdapterDocument c) {size : ImageSize}
    (supported : sizeSupported size c = true) :
    edgeTooLarge size RequestLimits.default.maxEdge = false := by
  cases size with
  | auto => rfl
  | exact width height widthPos heightPos =>
    simp only [sizeSupported, document.sizes.2, Bool.false_and, Bool.or_false,
      decide_eq_true_eq] at supported
    exact document.allowed _ supported

/-- An unsupported size is explicit, and both documents replace it by `auto`. -/
theorem unsupported_becomes_auto (document : AdapterDocument c) {size : ImageSize}
    (unsupported : sizeSupported size c = false) : sizeFallback size c = some .auto := by
  cases size with
  | auto => simp [sizeSupported, document.sizes.1] at unsupported
  | exact => simp [sizeFallback, ImageSize.isAuto, document.sizes.1]

/-- What the built-in limits ask of the effective request, spelled out on the request. -/
theorem adapter_valid_iff {limits : RequestLimits} (document : AdapterDocument c)
    (valid : validateRequest r limits = .ok ()) (negotiated : negotiateRequest r c = .ok plan) :
    validateRequest plan.effectiveRequest .default = .ok () ↔ FitsAdapterDefaults r c := by
  rw [effective_valid_iff RequestLimits.default valid negotiated]
  have untouched : untouchedIssues r limits = [] := (keptFits_of_valid (c := c) limits valid).untouched
  have merges : ∀ text, r.negativePrompt = some text →
      mergesInto r.policies.negativePrompt c = true :=
    fun text present => negative_merges document negotiated present
  constructor
  · rintro ⟨kept, fits⟩
    have untouchedFits := (untouched_nil_iff untouched).mp kept.untouched
    exact ⟨kept.count, kept.prompt,
      fun text present => fits.prompt (merges text present) text present,
      fun embeds text present => fits.embedded embeds (merges text present) text present,
      fits.filenameFormat, untouchedFits.identifiers, untouchedFits.timeout, untouchedFits.inline⟩
  · intro fits
    refine ⟨⟨?_, fits.prompt, ?_, fits.outputs, ?_⟩,
      ⟨fun _ => fits.merged, fun embeds _ => fits.embedded embeds, ?_, ?_, fits.filename, ?_, ?_⟩⟩
    · have few := inputCount_le document negotiated
      exact (untouched_nil_iff untouched).mpr
        ⟨fits.identifiers, fits.timeout, Nat.le_trans few (by decide), fits.inline⟩
    · simp [effectiveNegative_absent document negotiated]
    · intro kept
      cases supported : sizeSupported r.parameters.size c with
      | true => exact supported_size_fits document supported
      | false => simp [replacedSize, supported, unsupported_becomes_auto document supported] at kept
    · rw [document.count]
      decide
    · exact fun _ => document.count
    · intro unsupported size fallback
      rw [unsupported_becomes_auto document unsupported] at fallback
      cases fallback
      exact ⟨rfl, Or.inl rfl⟩
    · rw [document.partialImages]
      decide

/-- A smaller batch of a valid request is valid. -/
theorem chunkRequest_valid {limits : RequestLimits} (valid : validateRequest r limits = .ok ())
    {chunk : Fanout.ChunkSpec} (positive : 0 < chunk.count) (within : chunk.count ≤ r.parameters.n) :
    validateRequest (Fanout.chunkRequest r chunk) limits = .ok () := by
  rw [validateRequest_ok, reported_nil] at valid ⊢
  obtain ⟨untouched, prompt, negative, count, size, compression, images, delivery, rest⟩ := valid
  refine ⟨untouched, prompt, negative, ?_, size, compression, images, ?_, rest⟩
  · rw [countIssues_nil] at count ⊢
    exact ⟨positive, Nat.le_trans within count.2⟩
  · rw [deliveryIssues_nil] at delivery ⊢
    refine ⟨delivery.1, fun named => ?_⟩
    have single := delivery.2 named
    simp only [Fanout.chunkRequest]
    omega

/-- What the fan-out forwards is valid whenever the request it received is. -/
theorem forwarded_valid {fanout : Fanout.OutputFanoutConfig} {native : ProviderCapabilities}
    {again : NegotiatedRequest} (positive : 0 < native.count.max)
    (document : (BuiltProvider.codexAppServer fanout).capabilities r.routing.model = .ok c)
    (negotiated : negotiateRequest r c = .ok plan)
    (valid : validateRequest plan.effectiveRequest .default = .ok ())
    (renegotiated : negotiateRequest plan.effectiveRequest c = .ok again) :
    ∀ request ∈ BuiltProvider.forwarded native again.effectiveRequest,
      validateRequest request .default = .ok () := by
  obtain ⟨common, _, png⟩ := appServer_document document
  have effective := negotiateRequest_effective negotiated
  have fits : RewritesFit plan.effectiveRequest c .default := by
    refine ⟨?_, ?_, by rw [common.count]; decide, fun _ => common.count, ?_, ?_,
      by rw [common.partialImages]; decide⟩
    · intro _ text present
      rw [effective] at present
      simp [effectiveRequest, effectiveNegative_absent common negotiated] at present
    · intro _ _ text present
      rw [effective] at present
      simp [effectiveRequest, effectiveNegative_absent common negotiated] at present
    · intro name _ foreign
      rw [effective] at foreign
      exact absurd (by simp [effectiveRequest, effectiveParameters, effectiveValue, replacedValue,
        valueFallback, png]; split <;> simp_all) foreign
    · intro unsupported size fallback
      rw [unsupported_becomes_auto common unsupported] at fallback
      cases fallback
      exact ⟨rfl, Or.inl rfl⟩
  have againValid : validateRequest again.effectiveRequest .default = .ok () :=
    (negotiated_valid_iff RequestLimits.default valid renegotiated).mpr fits
  intro request member
  simp only [BuiltProvider.forwarded] at member
  split at member
  · rw [List.mem_singleton.mp member]
    exact againValid
  · obtain ⟨chunk, listed, rfl⟩ := List.mem_map.mp member
    obtain ⟨nonempty, _, within⟩ := Fanout.chunks_count positive listed
    exact chunkRequest_valid againValid nonempty (by omega)

end Effective

/-- Configured limits, advertised limits and built-in limits agree on a request
exactly when it fits the built-in ones, whatever was configured and built. -/
theorem revalidation_succeeds_iff {config : BridgeConfig} {p : BuiltProvider} {r : ImageRequest}
    {c : ProviderCapabilities} {plan : NegotiatedRequest}
    (valid : validateRequest r config.requestLimits = .ok ())
    (document : p.capabilities r.routing.model = .ok c)
    (negotiated : negotiateRequest r c = .ok plan) :
    (∀ request ∈ p.revalidated plan.effectiveRequest, validateRequest request .default = .ok ()) ↔
      FitsAdapterDefaults r c := by
  rw [← adapter_valid_iff (adapter_document document) valid negotiated]
  cases p with
  | codexResponses responses => simp [BuiltProvider.revalidated]
  | codexAppServer fanout =>
    constructor
    · intro all
      exact all _ (by simp [BuiltProvider.revalidated])
    · intro accepted request member
      simp only [BuiltProvider.revalidated, List.mem_cons] at member
      obtain rfl | reached := member
      · exact accepted
      · split at reached
        · rename_i requests forwards
          simp only [Outcome.bind_ok] at forwards
          obtain ⟨native, nativeDocument, effective, widened, again, renegotiated, equal⟩ :=
            forwards
          cases equal
          have same : effective = c := by
            have model : plan.effectiveRequest.routing.model = r.routing.model := by
              rw [negotiateRequest_effective negotiated]
              rfl
            rw [model] at nativeDocument
            simp only [BuiltProvider.capabilities, nativeDocument, bind, Except.bind, widened,
              Except.ok.injEq] at document
            exact document
          subst same
          have positive : 0 < native.count.max := by
            rw [appServer_native nativeDocument]
            decide
          exact forwarded_valid positive document negotiated accepted renegotiated request reached
        · cases reached

/-- Seventeen outputs: within every configured and advertised limit of the defaults. -/
def seventeenOutputs : ImageRequest where
  prompt := "a lighthouse"
  parameters := { n := 17 }

def defaultResponses : CodexResponses.Config :=
  { imageModel := "gpt-image-2", maxOutputs := 255, maxParallelOutputs := 255,
    maxTransientAttempts := 2 }

/-- The default configuration admits and advertises 255 outputs; the adapter refuses seventeen. -/
theorem default_configuration_refuses_seventeen : ∃ (config : BridgeConfig)
    (providers : List BuiltProvider) (p : BuiltProvider) (r : ImageRequest)
    (c : ProviderCapabilities) (plan : NegotiatedRequest), config.check = [] ∧
      config.providers = .ok providers ∧ p ∈ providers ∧
      validateRequest r config.requestLimits = .ok () ∧
      p.capabilities r.routing.model = .ok c ∧ negotiateRequest r c = .ok plan ∧
      ∃ request ∈ p.revalidated plan.effectiveRequest, validateRequest request .default ≠ .ok () := by
  refine ⟨{}, _, .codexResponses defaultResponses, seventeenOutputs, _, _, by decide, rfl,
    List.mem_cons_of_mem _ (List.mem_singleton.mpr rfl), ?_, rfl, rfl, _,
    List.mem_singleton.mpr rfl, ?_⟩
  · exact (validateRequest_ok _ _).mpr (by decide)
  · rw [ne_eq, validateRequest_ok]
    decide

def oneOutput : ImageRequest := ImageRequest.generate "a lighthouse"

theorem one_output_revalidated :
    (∀ request ∈ (BuiltProvider.codexAppServer ⟨255, 255⟩).revalidated oneOutput,
      validateRequest request .default = .ok ()) ↔
    FitsAdapterDefaults oneOutput
      { CodexAppServer.capabilities with
        count := ⟨1, 255⟩
        batching := { mode := .fanOut, nativeCount := ⟨1, 1⟩, maxParallelOutputs := 255 } } :=
  @revalidation_succeeds_iff {} (.codexAppServer ⟨255, 255⟩) oneOutput _ ⟨_, oneOutput, []⟩
    ((validateRequest_ok _ _).mpr (by decide)) rfl rfl

end ImagegenBridge.Config
