import ImagegenBridge.Core.Negotiation
import ImagegenBridge.Core.Validation

/-!
# What negotiation does to an intrinsically valid request

A successful negotiation yields one request, `effectiveRequest`, that depends on
the steps' declared values and not on the compatibility mode. Its validity is
then a question about nine rewritten fields, rule by rule.
-/

namespace ImagegenBridge

namespace Negotiation

variable {c : ProviderCapabilities} {draft draft' : Draft}

def effectiveAction (c : ProviderCapabilities) (action : ImageAction) : ImageAction :=
  if action ∈ c.actions then action else .auto

/-- The size that takes the place of an unsupported one. -/
def replacedSize (c : ProviderCapabilities) (size : ImageSize) : Option ImageSize :=
  if sizeSupported size c then none else sizeFallback size c

def effectiveSize (c : ProviderCapabilities) (size : ImageSize) : ImageSize :=
  (replacedSize c size).getD size

/-- A hint survives when its support level is not `unsupported`. -/
def effectiveHint {α : Type} (support : SupportLevel) (hint : Option α) : Option α :=
  if support = .unsupported then none else hint

theorem effectiveHint_absent {α : Type} {support : SupportLevel} {hint : Option α}
    (h : hint = none) : effectiveHint support hint = hint := by
  simp [effectiveHint, h]

/-- The declared value that takes the place of an undeclared one. -/
def replacedValue {α : Type} [DecidableEq α] (declared : List α) (default requested : α) : Option α :=
  if requested ∈ declared then none else valueFallback declared default

def effectiveValue {α : Type} [DecidableEq α] (declared : List α) (default requested : α) : α :=
  (replacedValue declared default requested).getD requested

def effectiveCompression (format : OutputFormat) (compression : Option Nat) : Option Nat :=
  if format = .jpeg ∨ format = .webp then compression else none

theorem effectiveCompression_absent {format : OutputFormat} {compression : Option Nat}
    (h : compression = none) : effectiveCompression format compression = compression := by
  simp [effectiveCompression, h]

def effectiveParameters (p : GenerationParameters) (c : ProviderCapabilities) :
    GenerationParameters :=
  let format := effectiveValue c.outputFormats .png p.outputFormat
  { p with
    action := effectiveAction c p.action
    n := c.count.clamp p.n
    size := effectiveSize c p.size
    aspectRatio := effectiveHint c.aspectRatio p.aspectRatio
    resolution := effectiveHint c.resolution p.resolution
    quality := effectiveValue c.qualities .auto p.quality
    outputFormat := format
    outputCompression := effectiveCompression format p.outputCompression
    background := effectiveValue c.backgrounds .auto p.background
    moderation := effectiveValue c.moderation .auto p.moderation
    partialImages := c.partialImages.clamp p.partialImages }

/-- Whether a negative prompt that negotiation accepts is merged into the prompt. -/
def mergesInto (mode : NegativePromptMode) (c : ProviderCapabilities) : Bool :=
  mode == .merge || (mode == .auto && c.negativePrompt == .emulated)

/-- The negative prompt that negotiation appends to the prompt. -/
def mergedText (r : ImageRequest) (c : ProviderCapabilities) : Option String :=
  if mergesInto r.policies.negativePrompt c then r.negativePrompt else none

def effectivePrompt (r : ImageRequest) (c : ProviderCapabilities) : String :=
  match mergedText r c with
  | some text => r.prompt ++ negativeSeparator ++ text
  | none => r.prompt

def effectiveNegative (r : ImageRequest) (c : ProviderCapabilities) : Option String :=
  if mergesInto r.policies.negativePrompt c then none else r.negativePrompt

def effectiveRequest (r : ImageRequest) (c : ProviderCapabilities) : ImageRequest :=
  { r with
    prompt := effectivePrompt r c
    negativePrompt := effectiveNegative r c
    parameters := effectiveParameters r.parameters c }

/-! Each step that succeeds sets its own parameter and nothing else. -/

theorem negotiateAction_ok (h : negotiateAction c draft = .ok draft') :
    draft'.request = { draft.request with parameters :=
      { draft.parameters with action := effectiveAction c draft.parameters.action } } := by
  simp only [negotiateAction] at h
  split at h
  · rename_i supported
    cases h
    simp only [effectiveAction, if_pos supported]
    rfl
  · rename_i unsupported
    simp only [effectiveAction, if_neg unsupported]
    split at h
    · cases h
      rfl
    · cases h

theorem negotiateCount_ok (h : negotiateCount c draft = .ok draft') :
    draft'.request = { draft.request with parameters :=
      { draft.parameters with n := c.count.clamp draft.parameters.n } } := by
  simp only [negotiateCount] at h
  split at h
  · rename_i inRange
    cases h
    rw [U8Range.clamp_of_contains inRange]
    rfl
  · split at h
    · cases h
    · cases h
      rfl

theorem negotiateSize_ok (h : negotiateSize c draft = .ok draft') :
    draft'.request = { draft.request with parameters :=
      { draft.parameters with size := effectiveSize c draft.parameters.size } } := by
  simp only [negotiateSize] at h
  split at h
  · rename_i supported
    cases h
    simp only [effectiveSize, replacedSize, if_pos supported]
    rfl
  · rename_i unsupported
    simp only [effectiveSize, replacedSize, if_neg unsupported]
    split at h
    · cases h
    · cases fallback : sizeFallback draft.parameters.size c with
      | none => simp [fallback] at h
      | some size =>
        simp only [fallback, Except.ok.injEq] at h
        subst h
        rfl

theorem negotiateRatio_ok (h : negotiateRatio c draft = .ok draft') :
    draft'.request = { draft.request with parameters := { draft.parameters with
      aspectRatio := effectiveHint c.aspectRatio draft.parameters.aspectRatio } } := by
  simp only [negotiateRatio] at h
  split at h
  · rename_i absent
    cases h
    rw [effectiveHint_absent absent]
    rfl
  · split at h
    · rename_i supported
      cases h
      simp only [effectiveHint, if_neg supported]
      rfl
    · rename_i unsupported
      simp only [effectiveHint, if_pos (Decidable.of_not_not unsupported)]
      split at h
      · cases h
      · cases h
        rfl

theorem negotiateResolution_ok (h : negotiateResolution c draft = .ok draft') :
    draft'.request = { draft.request with parameters := { draft.parameters with
      resolution := effectiveHint c.resolution draft.parameters.resolution } } := by
  simp only [negotiateResolution] at h
  split at h
  · rename_i absent
    cases h
    rw [effectiveHint_absent absent]
    rfl
  · split at h
    · rename_i supported
      cases h
      simp only [effectiveHint, if_neg supported]
      rfl
    · rename_i unsupported
      simp only [effectiveHint, if_pos (Decidable.of_not_not unsupported)]
      split at h
      · cases h
      · cases h
        rfl

/-- The one lemma of the four set-valued parameters. -/
theorem negotiateValue_ok {α : Type} [DecidableEq α] {field undeclared : String}
    {declared : List α} {default requested : α} {wire : α → String}
    {set : GenerationParameters → α → GenerationParameters}
    (unchanged : set draft.parameters requested = draft.parameters)
    (h : negotiateValue c draft field undeclared declared default requested wire set = .ok draft') :
    draft'.request = { draft.request with
      parameters := set draft.parameters (effectiveValue declared default requested) } := by
  simp only [negotiateValue] at h
  split at h
  · rename_i supported
    cases h
    simp only [effectiveValue, replacedValue, if_pos supported, Option.getD_none, unchanged]
    rfl
  · rename_i unsupported
    simp only [effectiveValue, replacedValue, if_neg unsupported]
    cases fallback : valueFallback declared default with
    | none => simp [fallback] at h
    | some value =>
      simp only [fallback, Outcome.bind_ok] at h
      obtain ⟨noted, normalized, set_eq⟩ := h
      simp only [normalizeOrReject] at normalized
      split at normalized
      · cases normalized
      · cases normalized
        cases set_eq
        rfl

theorem negotiateCompression_ok (h : negotiateCompression c draft = .ok draft') :
    draft'.request = { draft.request with parameters := { draft.parameters with
      outputCompression := effectiveCompression draft.parameters.outputFormat
        draft.parameters.outputCompression } } := by
  simp only [negotiateCompression] at h
  split at h
  · rename_i absent
    cases h
    rw [effectiveCompression_absent absent]
    rfl
  · split at h
    · rename_i compressed
      cases h
      simp only [effectiveCompression, if_pos compressed]
      rfl
    · rename_i uncompressed
      simp only [effectiveCompression, if_neg uncompressed]
      split at h
      · cases h
      · cases h
        rfl

theorem negotiatePartialImages_ok (h : negotiatePartialImages c draft = .ok draft') :
    draft'.request = { draft.request with parameters := { draft.parameters with
      partialImages := c.partialImages.clamp draft.parameters.partialImages } } := by
  simp only [negotiatePartialImages] at h
  split at h
  · rename_i inRange
    cases h
    rw [U8Range.clamp_of_contains inRange]
    rfl
  · split at h
    · cases h
    · cases h
      rfl

theorem mergesNegative_ok {mode : NegativePromptMode} {merge : Bool}
    (h : mergesNegative mode c = .ok merge) : merge = mergesInto mode c := by
  cases mode with
  | reject => cases h
  | merge => cases h; rfl
  | native =>
    simp only [mergesNegative] at h
    split at h
    · cases h
    · cases h; rfl
  | auto =>
    cases support : c.negativePrompt <;>
      simp_all [mergesNegative, mergesInto]

theorem negotiateNegativePrompt_ok (h : negotiateNegativePrompt c draft = .ok draft') :
    draft'.request = { draft.request with
      prompt := effectivePrompt draft.request c
      negativePrompt := effectiveNegative draft.request c } := by
  simp only [negotiateNegativePrompt] at h
  split at h
  · rename_i absent
    cases h
    have prompt : effectivePrompt draft.request c = draft.request.prompt := by
      simp [effectivePrompt, mergedText, absent]
    have negative : effectiveNegative draft.request c = draft.request.negativePrompt := by
      simp [effectiveNegative, absent]
    rw [prompt, negative]
  · rename_i text present
    simp only [Outcome.bind_ok] at h
    obtain ⟨merge, decided, h⟩ := h
    have merges := mergesNegative_ok decided
    subst merges
    split at h
    · rename_i merges
      cases h
      simp [effectivePrompt, mergedText, effectiveNegative, merges, present, recordOptional]
    · rename_i keeps
      cases h
      simp [effectivePrompt, mergedText, effectiveNegative, keeps]

/-- Before its last step a successful negotiation holds the effective parameters. -/
theorem negotiateRequest_steps {r : ImageRequest} {plan : NegotiatedRequest}
    (h : negotiateRequest r c = .ok plan) : ∃ draft draft' : Draft,
      draft.request = { r with parameters := effectiveParameters r.parameters c } ∧
      negotiateNegativePrompt c draft = .ok draft' ∧ plan.effectiveRequest = draft'.request := by
  simp only [negotiateRequest, negotiateHints, negotiateFormat, negotiateQuality,
    negotiateOutputFormat, negotiateBackground, negotiateModeration, Outcome.bind_ok] at h
  obtain ⟨_, _, _, _, _, _, _, _, _, _, _, _, _, _, d1, h1, d2, h2, d3, h3, d5,
    ⟨d4, h4, h5⟩, d6, h6, d8, ⟨d7, h7, h8⟩, d9, h9, d10, h10, d11, h11, d12, h12, _, _, h⟩ := h
  cases h
  have e1 := negotiateAction_ok h1
  have e2 := negotiateCount_ok h2
  have e3 := negotiateSize_ok h3
  have e4 := negotiateRatio_ok h4
  have e5 := negotiateResolution_ok h5
  have e6 := negotiateValue_ok rfl h6
  have e7 := negotiateValue_ok rfl h7
  have e8 := negotiateCompression_ok h8
  have e9 := negotiateValue_ok rfl h9
  have e10 := negotiateValue_ok rfl h10
  have e11 := negotiatePartialImages_ok h11
  simp only [Draft.parameters] at e1 e2 e3 e4 e5 e6 e7 e8 e9 e10 e11
  simp only [e1] at e2
  simp only [e2] at e3
  simp only [e3] at e4
  simp only [e4] at e5
  simp only [e5] at e6
  simp only [e6] at e7
  simp only [e7] at e8
  simp only [e8] at e9
  simp only [e9] at e10
  simp only [e10] at e11
  exact ⟨d11, d12, e11, h12, rfl⟩

/-- Every successful negotiation yields the one effective request. -/
theorem negotiateRequest_effective {r : ImageRequest} {plan : NegotiatedRequest}
    (h : negotiateRequest r c = .ok plan) : plan.effectiveRequest = effectiveRequest r c := by
  obtain ⟨draft, draft', parameters, negative, effective⟩ := negotiateRequest_steps h
  rw [effective, negotiateNegativePrompt_ok negative, parameters]
  rfl

/-- Negotiation succeeds only when the negative-prompt policy can be honored. -/
theorem negotiateRequest_merges {r : ImageRequest} {plan : NegotiatedRequest}
    (h : negotiateRequest r c = .ok plan) {text : String} (present : r.negativePrompt = some text) :
    ∃ merge, mergesNegative r.policies.negativePrompt c = .ok merge := by
  obtain ⟨draft, draft', parameters, negative, _⟩ := negotiateRequest_steps h
  simp only [negotiateNegativePrompt, parameters, present, Outcome.bind_ok] at negative
  obtain ⟨merge, decided, _⟩ := negative
  exact ⟨merge, decided⟩

/-! ## Validity of the effective request -/

section Validity

open Validation Text

variable {r : ImageRequest} (limits : RequestLimits)

/-- The rules a rewrite of negotiation can break, as conditions on the request,
the capabilities and the limits. -/
structure RewritesFit (r : ImageRequest) (c : ProviderCapabilities) (limits : RequestLimits) :
    Prop where
  prompt : mergesInto r.policies.negativePrompt c = true →
    ∀ text, r.negativePrompt = some text →
      len r.prompt + len negativeSeparator + len text ≤ limits.maxPromptBytes
  embedded : r.output.metadata.embeds = true →
    mergesInto r.policies.negativePrompt c = true →
      ∀ text, r.negativePrompt = some text →
        len r.prompt + len negativeSeparator + len text ≤ maxEmbeddedRequestTextBytes
  count : c.count.min ≤ limits.maxOutputs
  filenameCount : r.output.filename.isSome → c.count.min = 1
  filenameFormat : ∀ name, r.output.filename = some name →
    r.parameters.outputFormat ∉ c.outputFormats →
      ∀ format, valueFallback c.outputFormats .png = some format →
        validOutputFilename name format = true
  size : sizeSupported r.parameters.size c = false →
    ∀ size, sizeFallback r.parameters.size c = some size →
      edgeTooLarge size limits.maxEdge = false ∧
        (size = .auto ∨
          ((r.parameters.aspectRatio = none ∨ c.aspectRatio = .unsupported) ∧
            (r.parameters.resolution = none ∨ c.resolution = .unsupported)))
  partialImages : c.partialImages.min ≤ 3

/-- What limits ask of the parts of a request that negotiation keeps. -/
structure KeptFits (r : ImageRequest) (c : ProviderCapabilities) (limits : RequestLimits) : Prop where
  untouched : untouchedIssues r limits = []
  prompt : len r.prompt ≤ limits.maxPromptBytes
  negative : ∀ text, effectiveNegative r c = some text → len text ≤ limits.maxNegativePromptBytes
  count : r.parameters.n ≤ limits.maxOutputs ∨ c.count.max ≤ limits.maxOutputs
  size : replacedSize c r.parameters.size = none →
    edgeTooLarge r.parameters.size limits.maxEdge = false

theorem forall_mergedText {P : String → Prop} :
    (∀ text, mergedText r c = some text → P text) ↔
      (mergesInto r.policies.negativePrompt c = true →
        ∀ text, r.negativePrompt = some text → P text) := by
  by_cases merges : mergesInto r.policies.negativePrompt c = true <;> simp [mergedText, merges]

theorem forall_replacedSize {size : ImageSize} {P : ImageSize → Prop} :
    (∀ other, replacedSize c size = some other → P other) ↔
      (sizeSupported size c = false → ∀ other, sizeFallback size c = some other → P other) := by
  by_cases supported : sizeSupported size c = true <;> simp [replacedSize, supported]

theorem forall_replacedValue {α : Type} [DecidableEq α] {declared : List α} {default requested : α}
    {P : α → Prop} : (∀ other, replacedValue declared default requested = some other → P other) ↔
      (requested ∉ declared → ∀ other, valueFallback declared default = some other → P other) := by
  by_cases supported : requested ∈ declared <;> simp [replacedValue, supported]

theorem effectiveHint_none {α : Type} {support : SupportLevel} {hint : Option α} :
    effectiveHint support hint = none ↔ hint = none ∨ support = .unsupported := by
  by_cases unsupported : support = .unsupported <;> simp [effectiveHint, unsupported]

theorem mergedText_some {text : String} (h : mergedText r c = some text) :
    r.negativePrompt = some text ∧ effectiveNegative r c = none := by
  simp only [mergedText] at h
  split at h
  · rename_i merges
    exact ⟨h, by simp [effectiveNegative, merges]⟩
  · cases h

theorem effectivePrompt_merged {text : String} (h : mergedText r c = some text) :
    effectivePrompt r c = r.prompt ++ negativeSeparator ++ text := by
  simp [effectivePrompt, h]

theorem effectivePrompt_kept (h : mergedText r c = none) : effectivePrompt r c = r.prompt := by
  simp [effectivePrompt, h]

theorem effectiveNegative_eq {text : String} (h : effectiveNegative r c = some text) :
    r.negativePrompt = some text ∧ mergedText r c = none := by
  simp only [effectiveNegative] at h
  split at h
  · cases h
  · rename_i kept
    exact ⟨h, by simp [mergedText, kept]⟩

theorem effective_prompt_nil (present : isBlank r.prompt = false) :
    promptIssues (effectivePrompt r c) limits = [] ↔ len r.prompt ≤ limits.maxPromptBytes ∧
      ∀ text, mergedText r c = some text →
        len r.prompt + len negativeSeparator + len text ≤ limits.maxPromptBytes := by
  rw [promptIssues_nil]
  cases merged : mergedText r c with
  | none => simp [effectivePrompt_kept merged, present]
  | some text =>
    have blank : isBlank (r.prompt ++ negativeSeparator ++ text) = false :=
      isBlank_append text (isBlank_append negativeSeparator present)
    simp only [effectivePrompt_merged merged, blank, len_append, true_and, Option.some.injEq,
      forall_eq']
    omega

theorem effective_negative_nil {valid : RequestLimits}
    (h : negativePromptIssues r.negativePrompt r.policies.negativePrompt valid = []) :
    negativePromptIssues (effectiveNegative r c) r.policies.negativePrompt limits = [] ↔
      ∀ text, effectiveNegative r c = some text → len text ≤ limits.maxNegativePromptBytes := by
  rw [negativePromptIssues_nil] at h ⊢
  constructor
  · intro kept text present
    exact (kept text present).2.1
  · intro fits text present
    obtain ⟨blank, _, mode⟩ := h text (effectiveNegative_eq present).1
    exact ⟨blank, fits text present, mode⟩

theorem effective_count_nil (ordered : c.count.min ≤ c.count.max) (positive : 0 < c.count.min)
    (n : Nat) : countIssues (c.count.clamp n) limits = [] ↔
      c.count.min ≤ limits.maxOutputs ∧ (n ≤ limits.maxOutputs ∨ c.count.max ≤ limits.maxOutputs) := by
  rw [countIssues_nil, U8Range.clamp_le_iff ordered]
  have least := U8Range.min_le_clamp ordered n
  constructor
  · exact fun h => h.2
  · exact fun h => ⟨by omega, h⟩

/-- An unreplaced size keeps the hints' exclusivity, since hints are only ever dropped. -/
theorem effective_size_nil {valid : RequestLimits} (h : sizeIssues r.parameters valid = []) :
    sizeIssues (effectiveParameters r.parameters c) limits = [] ↔
      (replacedSize c r.parameters.size = none →
        edgeTooLarge r.parameters.size limits.maxEdge = false) ∧
      ∀ size, replacedSize c r.parameters.size = some size →
        edgeTooLarge size limits.maxEdge = false ∧
          (size = .auto ∨ (effectiveHint c.aspectRatio r.parameters.aspectRatio = none ∧
            effectiveHint c.resolution r.parameters.resolution = none)) := by
  rw [sizeIssues_nil] at h ⊢
  have exclusive : r.parameters.size = .auto ∨
      (effectiveHint c.aspectRatio r.parameters.aspectRatio = none ∧
        effectiveHint c.resolution r.parameters.resolution = none) := by
    obtain auto | ⟨ratio, resolution⟩ := h.2
    · exact Or.inl auto
    · exact Or.inr ⟨by rw [effectiveHint_absent ratio, ratio],
        by rw [effectiveHint_absent resolution, resolution]⟩
  cases replaced : replacedSize c r.parameters.size with
  | none => simp [effectiveParameters, effectiveSize, replaced, exclusive]
  | some size => simp [effectiveParameters, effectiveSize, replaced]

/-- The effective compression always suits the effective format. -/
theorem effective_compression_nil {p : GenerationParameters}
    (h : compressionIssues p.outputCompression p.outputFormat = []) (format : OutputFormat) :
    compressionIssues (effectiveCompression format p.outputCompression) format = [] := by
  simp only [compressionIssues, List.append_eq_nil_iff, issueIf_nil] at h ⊢
  cases format with
  | png => simp [effectiveCompression]
  | jpeg | webp => exact ⟨h.1, by simp [compresses]⟩

theorem effective_partial_nil (ordered : c.partialImages.min ≤ c.partialImages.max) {images : Nat}
    (h : partialImagesIssues images = []) :
    partialImagesIssues (c.partialImages.clamp images) = [] ↔ c.partialImages.min ≤ 3 := by
  simp only [partialImagesIssues, issueIf_nil, Nat.not_lt] at h ⊢
  rw [U8Range.clamp_le_iff ordered]
  omega

theorem effective_delivery_nil (ordered : c.count.min ≤ c.count.max) (positive : 0 < c.count.min)
    (h : deliveryIssues r.output r.parameters.n = []) :
    deliveryIssues r.output (c.count.clamp r.parameters.n) = [] ↔
      (r.output.filename.isSome → c.count.min = 1) := by
  rw [deliveryIssues_nil] at h ⊢
  have least := U8Range.min_le_clamp ordered r.parameters.n
  have one := U8Range.clamp_le_iff ordered r.parameters.n 1
  constructor
  · intro fits named
    have := fits.2 named
    omega
  · intro single
    refine ⟨h.1, fun named => ?_⟩
    have := single named
    have := h.2 named
    omega

theorem effective_metadata_nil (h : metadataIssues r.output r.prompt r.negativePrompt = []) :
    metadataIssues r.output (effectivePrompt r c) (effectiveNegative r c) = [] ↔
      (r.output.metadata.embeds = true → ∀ text, mergedText r c = some text →
        len r.prompt + len negativeSeparator + len text ≤ maxEmbeddedRequestTextBytes) := by
  simp only [metadataIssues, List.append_eq_nil_iff, issueIf_nil, not_and, Nat.not_lt] at h ⊢
  rw [and_iff_right h.1]
  cases merged : mergedText r c with
  | none =>
    simp only [effectivePrompt_kept merged, reduceCtorEq, false_implies, implies_true, iff_true]
    intro embeds
    have fits := h.2 embeds
    cases kept : effectiveNegative r c with
    | none => simp; omega
    | some text => simpa [(effectiveNegative_eq kept).1] using fits
  | some text =>
    simp [effectivePrompt_merged merged, (mergedText_some merged).2]

theorem effective_path_nil (h : pathIssues r.output r.parameters.outputFormat = []) :
    pathIssues r.output (effectiveValue c.outputFormats .png r.parameters.outputFormat) = [] ↔
      ∀ name, r.output.filename = some name → ∀ format,
        replacedValue c.outputFormats .png r.parameters.outputFormat = some format →
          validOutputFilename name format = true := by
  simp only [pathIssues, List.append_eq_nil_iff, issueIf_nil] at h ⊢
  rw [and_iff_right h.1]
  cases replaced : replacedValue c.outputFormats .png r.parameters.outputFormat with
  | none => simpa [effectiveValue, replaced] using h.2
  | some format => simp [effectiveValue, replaced, Option.any_eq_true]

theorem effective_action_nil {operation : ImageOperation} {action : ImageAction}
    (h : actionIssues operation action = []) :
    actionIssues operation (effectiveAction c action) = [] := by
  simp only [effectiveAction]
  split
  · exact h
  · cases operation <;> simp [actionIssues]

/-- Validity of the effective request under any limits: what negotiation keeps
must fit them, and so must what it rewrites. -/
theorem effective_valid_iff {valid : RequestLimits} {plan : NegotiatedRequest}
    (h : validateRequest r valid = .ok ()) (negotiated : negotiateRequest r c = .ok plan) :
    validateRequest plan.effectiveRequest limits = .ok () ↔
      KeptFits r c limits ∧ RewritesFit r c limits := by
  rw [validateRequest_ok, reported_nil] at h
  obtain ⟨_, prompt, negative, _, size, compression, images, delivery, metadata, path, action⟩ := h
  rw [promptIssues_nil] at prompt
  have consistent : c.validate = .ok () := by
    simp only [negotiateRequest, Outcome.bind_ok] at negotiated
    obtain ⟨_, consistent, _⟩ := negotiated
    exact consistent
  obtain ⟨positive, ordered, imagesOrdered⟩ := ProviderCapabilities.validate_ranges consistent
  rw [negotiateRequest_effective negotiated, validateRequest_ok, reported_nil]
  have prompt_iff := effective_prompt_nil limits (c := c) prompt.1
  have negative_iff := effective_negative_nil limits (c := c) negative
  have count_iff := effective_count_nil limits ordered positive r.parameters.n
  have size_iff := effective_size_nil limits (c := c) size
  simp only [forall_mergedText, forall_replacedSize, effectiveHint_none] at prompt_iff size_iff
  have compression_nil := effective_compression_nil compression
    (effectiveValue c.outputFormats .png r.parameters.outputFormat)
  have images_iff := effective_partial_nil imagesOrdered images
  have delivery_iff := effective_delivery_nil ordered positive delivery
  have metadata_iff := effective_metadata_nil (c := c) metadata
  have path_iff := effective_path_nil (c := c) path
  simp only [forall_mergedText, forall_replacedValue] at metadata_iff path_iff
  have action_nil := effective_action_nil (c := c) action
  constructor
  · rintro ⟨untouched, prompt', negative', count', size', _, images', delivery', metadata', path', _⟩
    exact ⟨⟨untouched, (prompt_iff.mp prompt').1, negative_iff.mp negative',
        (count_iff.mp count').2, (size_iff.mp size').1⟩,
      ⟨(prompt_iff.mp prompt').2, metadata_iff.mp metadata', (count_iff.mp count').1,
        delivery_iff.mp delivery', path_iff.mp path', (size_iff.mp size').2,
        images_iff.mp images'⟩⟩
  · rintro ⟨kept, fits⟩
    exact ⟨kept.untouched, prompt_iff.mpr ⟨kept.prompt, fits.prompt⟩,
      negative_iff.mpr kept.negative, count_iff.mpr ⟨fits.count, kept.count⟩,
      size_iff.mpr ⟨kept.size, fits.size⟩, compression_nil, images_iff.mpr fits.partialImages,
      delivery_iff.mpr fits.filenameCount, metadata_iff.mpr fits.embedded,
      path_iff.mpr fits.filenameFormat, action_nil⟩

/-- The limits a request was validated against admit everything negotiation keeps. -/
theorem keptFits_of_valid (h : validateRequest r limits = .ok ()) : KeptFits r c limits := by
  rw [validateRequest_ok, reported_nil, promptIssues_nil, negativePromptIssues_nil, countIssues_nil,
    sizeIssues_nil] at h
  obtain ⟨untouched, prompt, negative, count, size, _⟩ := h
  refine ⟨untouched, prompt.2, ?_, Or.inl count.2, fun _ => size.1⟩
  intro text kept
  exact (negative text (effectiveNegative_eq kept).1).2.1

/-- Negotiation keeps a request valid exactly when every rewrite it makes fits. -/
theorem negotiated_valid_iff {plan : NegotiatedRequest}
    (h : validateRequest r limits = .ok ()) (negotiated : negotiateRequest r c = .ok plan) :
    validateRequest plan.effectiveRequest limits = .ok () ↔ RewritesFit r c limits := by
  rw [effective_valid_iff limits h negotiated]
  exact and_iff_right (keptFits_of_valid limits h)

end Validity

section Examples

def noInputs : InputCapabilities :=
  { support := .unsupported, maxCount := 0, maxBytesEach := 0, maxBytesTotal := 0 }

/-- A document with one format and one quality: the fixture of the module's tests. -/
def pngOnly : ProviderCapabilities where
  provider := "test"
  model := some "test-image"
  generation := true
  edits := false
  count := ⟨1, 2⟩
  batching := { mode := .native, nativeCount := ⟨1, 2⟩, maxParallelOutputs := 1 }
  sizes := { auto := true }
  aspectRatio := .unsupported
  resolution := .unsupported
  qualities := [.auto]
  outputFormats := [.png]
  backgrounds := [.auto]
  transparentBackground := .unsupported
  moderation := [.auto]
  negativePrompt := .emulated
  revisedPrompt := .unsupported
  userAttribution := .unsupported
  inputFidelities := []
  actions := [.auto]
  referenceImages := noInputs
  editImages := noInputs
  masks := noInputs
  partialImages := ⟨0, 0⟩
  persistentSessions := true
  explicitThreads := true

/-- A request for one jpeg artifact under an exact name. -/
def namedJpeg : ImageRequest where
  prompt := "a lighthouse"
  parameters := { outputFormat := .jpeg }
  output := { responseFormat := .artifact, filename := some "poster.jpg" }
  policies := { compatibility := .normalize }

theorem namedJpeg_valid : validateRequest namedJpeg .default = .ok () :=
  (Validation.validateRequest_ok _ _).mpr (by decide)

/-- The format becomes png while the name keeps its jpeg extension. -/
theorem named_jpeg_becomes_invalid : ∃ (r : ImageRequest) (c : ProviderCapabilities)
    (limits : RequestLimits) (plan : NegotiatedRequest), validateRequest r limits = .ok () ∧
      c.validate = .ok () ∧ negotiateRequest r c = .ok plan ∧
      validateRequest plan.effectiveRequest limits ≠ .ok () := by
  refine ⟨namedJpeg, pngOnly, .default, _, namedJpeg_valid, rfl, rfl, ?_⟩
  rw [ne_eq, Validation.validateRequest_ok]
  decide

def namedPng : ImageRequest :=
  { namedJpeg with parameters := {}, output.filename := some "poster.png" }

/-- A png of the same name stays valid: nothing is rewritten. -/
theorem named_png_stays_valid : validateRequest (effectiveRequest namedPng pngOnly) .default = .ok ()
    ↔ RewritesFit namedPng pngOnly .default :=
  @negotiated_valid_iff pngOnly namedPng .default ⟨_, _, _⟩
    ((Validation.validateRequest_ok _ _).mpr (by decide)) rfl

end Examples

end Negotiation

end ImagegenBridge
