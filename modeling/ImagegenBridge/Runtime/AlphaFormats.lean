import ImagegenBridge.Artifacts.Chroma
import ImagegenBridge.Core.NegotiationProjection
import ImagegenBridge.Runtime.ReportedChanges

/-!
# The format of a transparent request

Transparency planning looks at the format on the chroma-key path only, and negotiation
looks at what the provider declares. The alpha stage needs png or webp.
-/

namespace ImagegenBridge.AlphaFormats

open Chroma Materialize Negotiation ReportedChanges Transparency

variable {request : ImageRequest} {c : ProviderCapabilities} {prepared : PreparedTransparency}
  {plan : NegotiatedRequest}

/-- The format negotiation starts from: planning replaces a jpeg it would have to key. -/
def sentFormat (request : ImageRequest) (c : ProviderCapabilities) : OutputFormat :=
  if chosenMode request.output.transparency.mode (c.transparentBackground == .native) ≠ .native ∧
      request.parameters.outputFormat = .jpeg then .png
  else request.parameters.outputFormat

/-- The format negotiation starts from is no declared jpeg, and an undeclared one is not
answered with jpeg: the provider declares png, or does not declare jpeg first. -/
def AlphaFormat (request : ImageRequest) (c : ProviderCapabilities) : Prop :=
  if sentFormat request c ∈ c.outputFormats then sentFormat request c ≠ .jpeg
  else .png ∈ c.outputFormats ∨ c.outputFormats.head? ≠ some .jpeg

/-- The transparency stages of a world are the ones of this codec. -/
structure Uses (world : World) (codec : ImageCodec) : Prop where
  removes : world.removeChromaKey = removeChromaKey codec
  inspects : world.inspectTransparentAlpha = inspectTransparentAlpha codec

/-- No image of the negotiated format passes the alpha stage. -/
def Doomed (prepared : PreparedTransparency) (plan : NegotiatedRequest) : Prop :=
  ∀ world codec image, Uses world codec → OpaqueJpegs codec →
    codec.inspect image.bytes = .ok image.metadata →
    image.metadata.format = plan.effectiveRequest.parameters.outputFormat →
    ∃ e, checkAlpha world plan.effectiveRequest prepared.plan image = .error e

theorem prepared_format (transparent : request.parameters.background = .transparent)
    (ok : prepareTransparency request c = .ok prepared) :
    prepared.providerRequest.parameters.outputFormat = sentFormat request c := by
  unfold sentFormat
  obtain ⟨unkeyed, _, kept, _⟩ | ⟨keyed, _, _, _, _, _, _, _, format, _, _, _, sent, _⟩ :=
    prepareTransparency_cases ok
  · rw [kept, if_neg]
    exact fun keys => unkeyed ⟨transparent, keys.1⟩
  · obtain ⟨jpeg, _, rfl, _⟩ | ⟨other, rfl, _⟩ := alphaFormat_cases format
    · rw [sent, if_pos ⟨keyed.2, jpeg⟩]
    · rw [sent, if_neg fun keys => other keys.2]

theorem effective_format (transparent : request.parameters.background = .transparent)
    (ok : prepareTransparency request c = .ok prepared)
    (negotiated : negotiateRequest prepared.providerRequest c = .ok plan) :
    plan.effectiveRequest.parameters.outputFormat =
      effectiveValue c.outputFormats .png (sentFormat request c) := by
  rw [negotiateRequest_effective negotiated, ← prepared_format transparent ok]
  rfl

/-- Negotiation ends with a declared format, or fails. -/
theorem negotiated_format_declared {r : ImageRequest} (ok : negotiateRequest r c = .ok plan) :
    plan.effectiveRequest.parameters.outputFormat ∈ c.outputFormats := by
  obtain ⟨draft, draft', staged, negative, rfl⟩ := negotiateRequest_stages ok
  obtain ⟨t, t', _, taken, after⟩ := Rewriting.run_passes unseen_equivalence
    (fun y among x => stage_unseen among x) (by decide)
    (show Parameter.outputFormat ∈ rewritten by decide) staged
  have stays : draft'.request.parameters = draft.request.parameters := by
    obtain rfl | ⟨_, _, parameters, _⟩ := negotiateNegativePrompt_notes negative
    · rfl
    · exact parameters
  have same : t'.parameters.outputFormat = draft.parameters.outputFormat := after.1
  show draft'.request.parameters.outputFormat ∈ c.outputFormats
  rw [stays]
  show draft.parameters.outputFormat ∈ c.outputFormats
  rw [← same]
  simp only [stage, negotiateOutputFormat, negotiateValue] at taken
  split at taken
  · rename_i declared
    cases taken
    exact declared
  · cases fallback : valueFallback c.outputFormats .png with
    | none =>
      rw [fallback] at taken
      cases taken
    | some format =>
      rw [fallback] at taken
      obtain ⟨noted, _, taken⟩ := Outcome.bind_ok.mp taken
      cases taken
      exact valueFallback_mem fallback

theorem alpha_capable_iff (transparent : request.parameters.background = .transparent)
    (ok : prepareTransparency request c = .ok prepared)
    (negotiated : negotiateRequest prepared.providerRequest c = .ok plan) :
    plan.effectiveRequest.parameters.outputFormat ≠ .jpeg ↔ AlphaFormat request c := by
  have among := negotiated_format_declared negotiated
  rw [effective_format transparent ok negotiated] at among ⊢
  unfold AlphaFormat
  unfold effectiveValue replacedValue valueFallback at among ⊢
  by_cases declared : sentFormat request c ∈ c.outputFormats
  · simp [declared]
  · by_cases png : OutputFormat.png ∈ c.outputFormats
    · simp [declared, png]
    · cases first : c.outputFormats.head? with
      | none => simp [declared, png, first] at among
      | some format => simp [declared, png]

/-- Without a local plan the provider's own alpha is asked for, and stays asked for. -/
theorem native_background (transparent : request.parameters.background = .transparent)
    (ok : prepareTransparency request c = .ok prepared)
    (negotiated : negotiateRequest prepared.providerRequest c = .ok plan)
    (native : prepared.plan = none) :
    plan.effectiveRequest.parameters.background = .transparent := by
  have valid : c.validate = .ok () := by
    rw [negotiateRequest_run] at negotiated
    obtain ⟨_, checked, _⟩ := Outcome.bind_ok.mp negotiated
    exact (precheck_iff.mp checked).1
  have supported : c.transparentBackground = .native ∧ prepared.providerRequest = request := by
    unfold prepareTransparency at ok
    rw [if_neg (not_not.mpr transparent)] at ok
    obtain ⟨_, _, ok⟩ := Outcome.bind_ok.mp ok
    dsimp only at ok
    split at ok
    · obtain ⟨_, declared, ok⟩ := Outcome.bind_ok.mp ok
      cases ok
      simpa using declared
    · unfold prepareChromaKey at ok
      obtain ⟨_, _, ok⟩ := Outcome.bind_ok.mp ok
      obtain ⟨_, _, ok⟩ := Outcome.bind_ok.mp ok
      obtain ⟨_, _, ok⟩ := Outcome.bind_ok.mp ok
      cases ok
      cases native
  have declared : Background.transparent ∈ c.backgrounds := by
    simp only [ProviderCapabilities.validate, Outcome.bind_ok, Outcome.failIf_ok] at valid
    obtain ⟨_, _, _, _, _, _, _, consistent, _⟩ := valid
    simpa [supported.1] using consistent
  rw [negotiateRequest_effective negotiated, supported.2]
  show effectiveValue c.backgrounds .auto request.parameters.background = .transparent
  simp [transparent, effectiveValue, replacedValue, declared]

/-- A jpeg is refused by both alpha stages: before its pixels are read where a key is
removed, for its pixels where the provider's own alpha is inspected. -/
theorem jpeg_doomed (transparent : request.parameters.background = .transparent)
    (ok : prepareTransparency request c = .ok prepared)
    (negotiated : negotiateRequest prepared.providerRequest c = .ok plan)
    (jpeg : plan.effectiveRequest.parameters.outputFormat = .jpeg) : Doomed prepared plan := by
  intro world codec image uses solid inspected format
  unfold checkAlpha
  cases planned : prepared.plan with
  | some chroma =>
    dsimp only
    cases verifiedBy (world.detectBorderChromaKey image.bytes) with
    | error e => exact ⟨e, rfl⟩
    | ok key =>
      obtain ⟨e, refused⟩ := removeChromaKey_jpeg codec image.bytes { chroma.chroma with key }
      simp only [bind, Except.bind]
      rw [jpeg, uses.removes, refused]
      exact ⟨asArtifactError e, rfl⟩
  | none =>
    obtain ⟨e, refused⟩ := inspectTransparentAlpha_jpeg solid inspected (format.trans jpeg)
    dsimp only
    rw [if_pos (native_background transparent ok negotiated planned), uses.inspects, refused]
    exact ⟨asArtifactError e, rfl⟩

/-- A transparent request that would be dispatched has an alpha-capable format exactly
when planning and the provider's formats leave it one; otherwise every image it is
paid for is refused. -/
theorem alpha_format_iff (transparent : request.parameters.background = .transparent)
    (ok : prepareTransparency request c = .ok prepared)
    (negotiated : negotiateRequest prepared.providerRequest c = .ok plan) :
    (plan.effectiveRequest.parameters.outputFormat = .png ∨
      plan.effectiveRequest.parameters.outputFormat = .webp ↔ AlphaFormat request c) ∧
    (¬AlphaFormat request c → Doomed prepared plan) := by
  have capable := alpha_capable_iff transparent ok negotiated
  constructor
  · rw [← capable]
    cases plan.effectiveRequest.parameters.outputFormat <;> simp
  · intro refused
    rw [← capable, not_not] at refused
    exact jpeg_doomed transparent ok negotiated refused

theorem keyed_png_alpha : ∃ prepared plan, prepareTransparency keyedPng pngKeyed = .ok prepared ∧
    negotiateRequest prepared.providerRequest pngKeyed = .ok plan ∧
    (plan.effectiveRequest.parameters.outputFormat = .png ∨
      plan.effectiveRequest.parameters.outputFormat = .webp ↔ AlphaFormat keyedPng pngKeyed) :=
  ⟨⟨_, _, _⟩, ⟨_, _, _⟩, rfl, rfl, (alpha_format_iff rfl rfl rfl).1⟩

/-- A provider with its own alpha that declares jpeg as well. -/
def jpegNative : ProviderCapabilities :=
  { pngOnly with
    backgrounds := [.auto, .transparent], transparentBackground := .native
    outputFormats := [.png, .jpeg] }

def transparentJpeg : ImageRequest where
  prompt := "a lighthouse"
  parameters := { outputFormat := .jpeg, background := .transparent }

/-- The jpeg reaches the provider as it is, even under strict compatibility. -/
theorem native_jpeg_dispatched : ∃ prepared plan,
    validateRequest transparentJpeg .default = .ok () ∧ jpegNative.validate = .ok () ∧
    prepareTransparency transparentJpeg jpegNative = .ok prepared ∧
    negotiateRequest prepared.providerRequest jpegNative = .ok plan ∧
    plan.effectiveRequest.parameters.outputFormat = .jpeg :=
  ⟨⟨_, _, _⟩, ⟨_, _, _⟩, (Validation.validateRequest_ok _ _).mpr (by decide), rfl, rfl, rfl, rfl⟩

end ImagegenBridge.AlphaFormats
