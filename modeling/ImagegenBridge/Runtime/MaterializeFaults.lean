import ImagegenBridge.Runtime.CircuitBreaker
import ImagegenBridge.Runtime.MaterializeErrors

/-!
# When materialization counts as a failure of the provider

The circuit breaker reads the code of an error only. Of the materializer's errors it
counts those about what the provider sent and those about the size of the response.
-/

namespace ImagegenBridge.Materialize

open Transparency Outcome Idempotency
open CircuitBreaker (countsAsFailure)

variable {config : MaterializationConfig} {world : World}

abbrev Counted (error : BridgeError) : Prop := countsAsFailure error = true

section Stages

/-- A stage that fails, but never as a failure of the provider. -/
abbrev Local {α : Type} (x : Outcome α) : Prop := ¬Fails Counted x

theorem protocolError_counted (message : String) : Counted (protocolError message) := rfl

/-- The bridge's own errors count as nobody's. -/
theorem Raises.local {α : Type} {codes : List ErrorCode} {x : Outcome α} (raises : Raises codes x)
    (quiet : ∀ code ∈ codes, code = .artifact ∨ code = .invalidRequest ∨ code = .configuration) :
    Local x := by
  apply raises.never
  intro e among
  rcases quiet e.code among with code | code | code <;> simp [countsAsFailure, code]

/-- More bytes than a response may have, or than can be counted. -/
def OverBudget (config : MaterializationConfig) (bytes : Nat) : Prop :=
  usizeMax < bytes ∨ config.maxResponseBytes < bytes

theorem addBytes_eq (total more : Nat) : addBytes total more =
    if total + more ≤ usizeMax then .ok (total + more)
    else .error (protocolError "aggregate response size overflowed") := rfl

/-- Adding bytes and checking the budget fail together exactly over the budget. -/
theorem budget_counted_iff {α : Type} (total more : Nat) {rest : Nat → Outcome α}
    (calm : ∀ bytes, Local (rest bytes)) :
    Fails Counted (addBytes total more >>= fun bytes =>
        checkResponseBudget config bytes >>= fun _ => rest bytes) ↔
      OverBudget config (total + more) := by
  by_cases fits : total + more ≤ usizeMax
  · rw [addBytes_eq, if_pos fits, fails_bind]
    simp only [fails_ok, false_or, Except.ok.injEq, exists_eq_left', fails_bind, checkResponseBudget,
      fails_failIf, OverBudget]
    constructor
    · rintro (⟨large, _⟩ | ⟨_, _, failed⟩)
      · exact Or.inr large
      · exact absurd failed (calm _)
    · rintro (wide | large)
      · omega
      · exact Or.inl ⟨large, rfl⟩
  · rw [addBytes_eq, if_neg fits, fails_bind]
    exact ⟨fun _ => Or.inl (Nat.lt_of_not_le fits),
      fun _ => Or.inl ((fails_error _).mpr (protocolError_counted _))⟩

/-- The bytes a response declares before anything is decoded. -/
def declaredBytes (response : ImageResponse) : Nat :=
  Text.len response.id + ([Text.len response.provider, Text.len response.model,
      (response.revisedPrompt.map Text.len).getD 0]
    ++ response.warnings.map Text.len
    ++ response.data.map (fun image => payloadBytes image.payload)).sum

theorem foldlM_addBytes_fits {sizes : List Nat} {start : Nat} (fits : start + sizes.sum ≤ usizeMax) :
    sizes.foldlM addBytes start = .ok (start + sizes.sum) := by
  induction sizes generalizing start with
  | nil => rfl
  | cons size sizes ih =>
    rw [List.sum_cons, ← Nat.add_assoc] at fits ⊢
    rw [List.foldlM_cons, addBytes_eq, if_pos (by omega)]
    exact ih fits

theorem foldlM_addBytes_counted_iff (size : Nat) (sizes : List Nat) (start : Nat) :
    Fails Counted ((size :: sizes).foldlM addBytes start) ↔
      usizeMax < start + (size :: sizes).sum := by
  induction sizes generalizing start size with
  | nil =>
    rw [List.foldlM_cons, fails_bind, addBytes_eq, List.sum_cons, List.sum_nil]
    by_cases fits : start + size ≤ usizeMax
    · rw [if_pos fits]
      constructor
      · rintro (failed | ⟨_, _, failed⟩)
        · exact absurd failed (fails_ok _)
        · exact absurd failed (fails_ok _)
      · intro wide
        omega
    · rw [if_neg fits]
      exact ⟨fun _ => by omega, fun _ => Or.inl ((fails_error _).mpr (protocolError_counted _))⟩
  | cons next sizes ih =>
    rw [List.foldlM_cons, fails_bind, addBytes_eq, List.sum_cons]
    by_cases fits : start + size ≤ usizeMax
    · rw [if_pos fits]
      simp only [fails_ok, false_or, Except.ok.injEq, exists_eq_left', ih, Nat.add_assoc]
    · rw [if_neg fits]
      exact ⟨fun _ => by omega, fun _ => Or.inl ((fails_error _).mpr (protocolError_counted _))⟩

/-- The payload stage before decoding fails exactly over the budget. -/
theorem payload_counted_iff {α : Type} (response : ImageResponse) {rest : Nat → Outcome α} :
    Fails Counted (responsePayloadBytes response >>= fun bytes =>
        checkResponseBudget config bytes >>= fun _ => rest bytes) ↔
      OverBudget config (declaredBytes response) ∨
        (¬OverBudget config (declaredBytes response) ∧
          Fails Counted (rest (declaredBytes response))) := by
  by_cases wide : usizeMax < declaredBytes response
  · have failed : Fails Counted (responsePayloadBytes response) :=
      (foldlM_addBytes_counted_iff _ _ _).mpr wide
    rw [fails_bind]
    exact ⟨fun _ => Or.inl (Or.inl wide), fun _ => Or.inl failed⟩
  · have counted : responsePayloadBytes response = .ok (declaredBytes response) :=
      foldlM_addBytes_fits (Nat.le_of_not_lt wide)
    rw [counted, fails_bind]
    simp only [fails_ok, false_or, Except.ok.injEq, exists_eq_left', fails_bind, checkResponseBudget,
      fails_failIf, failIf_ok, OverBudget, wide]
    constructor
    · rintro (⟨large, _⟩ | ⟨_, within, failed⟩)
      · exact Or.inl large
      · exact Or.inr ⟨within, failed⟩
    · rintro (large | ⟨within, failed⟩)
      · exact Or.inl ⟨large, rfl⟩
      · exact Or.inr ⟨(), within, failed⟩

end Stages

/-! ## Verification -/

/-- A payload that is no image the provider could have sent. -/
def Unreadable (config : MaterializationConfig) (world : World) : ImagePayload → Prop
  | .b64Json b64Json => config.maxBase64Chars < Text.len b64Json ∨ world.decode b64Json = none
  | .url _ => False
  | .artifact .. | .metadata => True

/-- The decoded image is not the one the provider described. -/
def Misdescribed (expectedFormat : OutputFormat) (image : GeneratedImage)
    (metadata : ImageMetadata) : Prop :=
  metadata.format ≠ expectedFormat ∨ image.format ≠ metadata.format ∨
    image.width ≠ metadata.width ∨ image.height ≠ metadata.height ∨
    image.bytes ≠ metadata.bytes ∨ image.sha256 ≠ metadata.sha256

theorem loadImage_counted_iff (payload : ImagePayload) :
    Fails Counted (loadImage config world payload) ↔ Unreadable config world payload := by
  cases payload with
  | b64Json text =>
    simp only [loadImage, fails_bind, fails_failIf, failIf_ok, Unreadable]
    constructor
    · rintro (⟨long, _⟩ | ⟨_, _, failed⟩)
      · exact Or.inl long
      · split at failed
        · rename_i undecoded
          exact Or.inr undecoded
        · rw [fails_bind] at failed
          obtain failed | ⟨_, _, failed⟩ := failed
          · exact absurd failed ((verifiedBy_raises _).local (by simp))
          · exact absurd failed (fails_ok _)
    · intro unreadable
      by_cases long : Text.len text > config.maxBase64Chars
      · exact Or.inl ⟨long, protocolError_counted _⟩
      · have undecoded := unreadable.resolve_left long
        refine Or.inr ⟨(), long, ?_⟩
        rw [undecoded]
        exact (fails_error _).mpr (protocolError_counted _)
  | url url =>
    simp only [loadImage, Unreadable, iff_false]
    split
    · exact (verifiedBy_raises _).local (by simp)
    · rw [fails_error]
      simp [countsAsFailure, configurationError]
  | artifact id name =>
    unfold loadImage
    rw [fails_error]
    exact ⟨fun _ => trivial, fun _ => protocolError_counted _⟩
  | metadata =>
    unfold loadImage
    rw [fails_error]
    exact ⟨fun _ => trivial, fun _ => protocolError_counted _⟩

/-- An image that cannot be verified. -/
def Unverifiable (config : MaterializationConfig) (world : World) (format : OutputFormat)
    (image : GeneratedImage) : Prop :=
  Unreadable config world image.payload ∨
    ∃ bytes metadata, loadImage config world image.payload = .ok (bytes, metadata) ∧
      Misdescribed format image metadata

theorem verify_counted_iff (format : OutputFormat) (image : GeneratedImage) :
    Fails Counted (verify config world format image) ↔
      Unverifiable config world format image := by
  unfold verify Unverifiable Misdescribed
  rw [fails_bind, loadImage_counted_iff]
  apply or_congr_right
  constructor
  · rintro ⟨⟨bytes, metadata⟩, loaded, failed⟩
    simp only [fails_bind, fails_failIf] at failed
    obtain ⟨other, _⟩ | ⟨_, _, ⟨mismatch, _⟩ | ⟨_, _, impossible⟩⟩ := failed
    · exact ⟨bytes, metadata, loaded, Or.inl other⟩
    · exact ⟨bytes, metadata, loaded, Or.inr mismatch⟩
    · exact absurd impossible (fails_ok _)
  · rintro ⟨bytes, metadata, loaded, misdescribed⟩
    refine ⟨(bytes, metadata), loaded, ?_⟩
    simp only [fails_bind, fails_failIf, failIf_ok]
    by_cases other : metadata.format ≠ format
    · exact Or.inl ⟨other, protocolError_counted _⟩
    · exact Or.inr ⟨(), other, Or.inl ⟨misdescribed.resolve_left other, protocolError_counted _⟩⟩

/-- The image cannot be verified, or its bytes exceed what is left of the budget. -/
def VerifyFaults (config : MaterializationConfig) (world : World) (effective : ImageRequest)
    (transparency : Option TransparencyPlan) (s : Verified) (image : GeneratedImage) : Prop :=
  Unverifiable config world effective.parameters.outputFormat image ∨
    ∃ loaded checked notes,
      verify config world effective.parameters.outputFormat image = .ok loaded ∧
      checkAlpha world effective transparency loaded = .ok (checked, notes) ∧
      OverBudget config (s.aggregateBytes + checked.bytes.length)

theorem verifyNext_counted_iff (effective : ImageRequest) (transparency : Option TransparencyPlan)
    (s : Verified) (image : GeneratedImage) :
    Fails Counted (verifyNext config world effective transparency s image) ↔
      VerifyFaults config world effective transparency s image := by
  unfold verifyNext VerifyFaults
  rw [fails_bind, verify_counted_iff]
  apply or_congr_right
  constructor
  · rintro ⟨loaded, verified, failed⟩
    rw [fails_bind] at failed
    obtain failed | ⟨⟨checked, notes⟩, alpha, failed⟩ := failed
    · exact absurd failed ((checkAlpha_raises _ _ _).local (by simp))
    · exact ⟨loaded, checked, notes, verified, alpha,
        (budget_counted_iff _ _ fun _ => fails_ok _).mp failed⟩
  · rintro ⟨loaded, checked, notes, verified, alpha, large⟩
    refine ⟨loaded, verified, ?_⟩
    rw [fails_bind]
    exact Or.inr ⟨(checked, notes), alpha, (budget_counted_iff _ _ fun _ => fails_ok _).mpr large⟩

/-! ## Delivery -/

theorem project_raises (output : OutputOptions) (image : VerifiedImage) :
    Raises [.artifact, .configuration] (project config world output image) := by
  have misconfigured : ∀ (p : Prop) [Decidable p] (message : String),
      Raises [.artifact, .configuration] (failIf p (configurationError message)) := by
    intro p _ message e failed
    obtain ⟨_, same⟩ := (failIf_error p _ e).mp failed
    simp [← same, configurationError]
  have stored : ∀ x : Except ArtifactError StoredArtifact,
      Raises [.artifact, .configuration] (ArtifactError.raised x) := by
    intro x e failed
    have code := artifact_raises x e failed
    simp only [List.mem_singleton] at code
    simp [code]
  have published : Raises [.artifact, .configuration] (publish config world image output) := by
    refine raises_bind (misconfigured _ _) fun _ => raises_bind (misconfigured _ _) fun _ =>
      raises_bind (stored _) fun artifact => ?_
    split
    · exact raises_ok _
    · split
      · exact raises_ok _
      · exact raises_error (by simp [configurationError])
  have delivered : Raises [.artifact, .configuration] (deliver config world image output) := by
    unfold deliver
    split
    · exact raises_ok _
    · exact raises_ok _
    · exact published
    · exact published
  exact raises_bind delivered fun _ => raises_ok _

/-- The delivered payload exceeds what is left of the budget. -/
def DeliveryFaults (config : MaterializationConfig) (world : World)
    (original effective : ImageRequest) (response : ImageResponse) (s : Projected)
    (image : VerifiedImage) : Prop :=
  ∃ embedded delivered, embed world original effective response image = .ok embedded ∧
    project config world effective.output embedded = .ok delivered ∧
    OverBudget config (s.aggregateBytes + payloadBytes delivered.payload)

theorem projectNext_counted_iff (original effective : ImageRequest) (response : ImageResponse)
    (s : Projected) (image : VerifiedImage) :
    Fails Counted (projectNext config world original effective response s image) ↔
      DeliveryFaults config world original effective response s image := by
  unfold projectNext DeliveryFaults
  rw [fails_bind]
  constructor
  · rintro (failed | ⟨embedded, embeds, failed⟩)
    · exact absurd failed ((embed_raises _ _ _ _).local (by simp))
    · rw [fails_bind] at failed
      obtain failed | ⟨delivered, projected, failed⟩ := failed
      · exact absurd failed ((project_raises _ _).local (by simp))
      · exact ⟨embedded, delivered, embeds, projected,
          (budget_counted_iff _ _ fun _ => fails_ok _).mp failed⟩
  · rintro ⟨embedded, delivered, embeds, projected, large⟩
    refine Or.inr ⟨embedded, embeds, ?_⟩
    rw [fails_bind]
    exact Or.inr ⟨delivered, projected, (budget_counted_iff _ _ fun _ => fails_ok _).mpr large⟩

/-- The provider sent too much, or an image that does not verify, or the verified
images exceed the budget. -/
def VerificationFails (config : MaterializationConfig) (world : World) (job : Job) : Prop :=
  OverBudget config (declaredBytes job.response) ∨
    (¬OverBudget config (declaredBytes job.response) ∧
      ∃ before image after reached, job.response.data = before ++ image :: after ∧
        before.foldlM (verifyNext config world job.effective job.transparency)
          { response := { job.response with data := [] }
            aggregateBytes := declaredBytes job.response, images := [] } = .ok reached ∧
        VerifyFaults config world job.effective job.transparency reached image)

/-- Every image is verified and the delivered payloads exceed the budget. -/
def DeliveryFails (config : MaterializationConfig) (world : World) (job : Job) : Prop :=
  ∃ verified response, verifyAll config world job = .ok verified ∧
    reconcileDimensions verified.response verified.images job.effective.parameters.size
      = .ok response ∧
    ∃ before image after reached, verified.images = before ++ image :: after ∧
      before.foldlM (projectNext config world job.original job.effective response)
        { aggregateBytes := verified.aggregateBytes, images := [] } = .ok reached ∧
      DeliveryFaults config world job.original job.effective response reached image

/-- The output set a response must be, for the request it answers. -/
abbrev ValidOutputSet (response : ImageResponse) (effective : ImageRequest) : Prop :=
  validateOutputSet response effective.parameters.n effective.parameters.failurePolicy = .ok ()

theorem verifyAll_counted_iff {job : Job} (valid : ValidOutputSet job.response job.effective) :
    Fails Counted (verifyAll config world job) ↔ VerificationFails config world job := by
  have rest : verifyAll config world job =
      (responsePayloadBytes job.response >>= fun bytes => checkResponseBudget config bytes >>=
        fun _ => job.response.data.foldlM (verifyNext config world job.effective job.transparency)
          { response := { job.response with data := [] }, aggregateBytes := bytes, images := [] }) := by
    unfold verifyAll
    rw [show validateOutputSet job.response job.effective.parameters.n
      job.effective.parameters.failurePolicy = .ok () from valid]
    rfl
  rw [rest, payload_counted_iff]
  simp only [fails_foldlM, verifyNext_counted_iff, VerificationFails]

theorem projectAll_counted_iff (job : Job) (verified : Verified) :
    Fails Counted (projectAll config world job verified) ↔
      ∃ response, reconcileDimensions verified.response verified.images
          job.effective.parameters.size = .ok response ∧
        ∃ before image after reached, verified.images = before ++ image :: after ∧
          before.foldlM (projectNext config world job.original job.effective response)
            { aggregateBytes := verified.aggregateBytes, images := [] } = .ok reached ∧
          DeliveryFaults config world job.original job.effective response reached image := by
  simp only [projectAll, fails_bind, fails_foldlM, projectNext_counted_iff]
  constructor
  · rintro (failed | ⟨response, reconciled, loop | ⟨_, _, failed⟩⟩)
    · exact absurd failed ((reconcileDimensions_raises _ _ _).local (by simp))
    · exact ⟨response, reconciled, loop⟩
    · exact absurd failed (fails_ok _)
  · rintro ⟨response, reconciled, loop⟩
    exact Or.inr ⟨response, reconciled, Or.inl loop⟩

/-- Materialization of a complete output set counts against the provider exactly when
what was sent does not verify or the payloads exceed the bridge's budget. -/
theorem materialize_counted_iff {job : Job} (valid : ValidOutputSet job.response job.effective) :
    Fails Counted (materialize config world job) ↔
      VerificationFails config world job ∨ DeliveryFails config world job := by
  unfold materialize DeliveryFails
  rw [fails_bind, verifyAll_counted_iff valid]
  apply or_congr_right
  constructor
  · rintro ⟨verified, done, failed⟩
    obtain ⟨response, reconciled, loop⟩ := (projectAll_counted_iff job verified).mp failed
    exact ⟨verified, response, done, reconciled, loop⟩
  · rintro ⟨verified, response, done, reconciled, loop⟩
    exact ⟨verified, done, (projectAll_counted_iff job verified).mpr ⟨response, reconciled, loop⟩⟩

end ImagegenBridge.Materialize
