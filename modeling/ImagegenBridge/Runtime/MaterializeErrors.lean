import ImagegenBridge.Runtime.Materialize
import ImagegenBridge.Runtime.Policy

/-!
# When materialization reports an unavailable provider

Every error of the materializer that another route may follow under the default
policy is about the bridge's own delivery settings, never about the provider.
-/

namespace ImagegenBridge.Materialize

open Transparency Outcome
open Orchestrator (Unavailable not_unavailable_of_code)

variable {config : MaterializationConfig} {world : World}

/-- Every error of the stage has one of these codes. -/
def Raises (codes : List ErrorCode) {α : Type} (x : Outcome α) : Prop :=
  ∀ e, x = .error e → e.code ∈ codes

section Codes

variable {codes : List ErrorCode} {α β : Type}

/-- A stage fails with no error that its codes exclude. -/
theorem Raises.never {kind : BridgeError → Prop} {x : Outcome α} (raises : Raises codes x)
    (harmless : ∀ e : BridgeError, e.code ∈ codes → ¬kind e) : ¬Fails kind x := by
  rintro ⟨e, failed, held⟩
  exact harmless e (raises e failed) held

theorem raises_ok (a : α) : Raises codes (.ok a : Outcome α) := fun _ impossible => nomatch impossible

theorem raises_error {e : BridgeError} (among : e.code ∈ codes) :
    Raises codes (.error e : Outcome α) := by
  intro raised same
  cases same
  exact among

theorem raises_bind {x : Outcome α} {f : α → Outcome β} (first : Raises codes x)
    (rest : ∀ a, Raises codes (f a)) : Raises codes (x >>= f) := by
  intro e failed
  obtain early | ⟨a, _, late⟩ := bind_error.mp failed
  · exact first e early
  · exact rest a e late

theorem verifiedBy_raises (x : Outcome α) : Raises [.artifact] (verifiedBy x) := by
  cases x with
  | ok value => exact raises_ok value
  | error e => exact raises_error (by simp [asArtifactError])

theorem artifact_raises (x : Except ArtifactError α) : Raises [.artifact] (ArtifactError.raised x) := by
  cases x with
  | ok value => exact raises_ok value
  | error e => exact raises_error (by simp [e.isArtifact])

theorem checkAlpha_raises (effective : ImageRequest) (transparency : Option TransparencyPlan)
    (image : VerifiedImage) : Raises [.artifact] (checkAlpha world effective transparency image) := by
  cases transparency with
  | none =>
    unfold checkAlpha
    dsimp only
    split
    · exact raises_bind (verifiedBy_raises _) fun _ => raises_ok _
    · exact raises_ok _
  | some plan =>
    exact raises_bind (verifiedBy_raises _) fun _ =>
      raises_bind (verifiedBy_raises _) fun _ => raises_ok _

theorem reconcileDimensions_raises (response : ImageResponse) (verified : List VerifiedImage)
    (expected : ImageSize) :
    Raises [.invalidRequest] (reconcileDimensions response verified expected) := by
  have sized : ∀ width height, Raises [.invalidRequest] (ImageSize.ofDimensions width height) := by
    intro width height
    unfold ImageSize.ofDimensions
    split
    · exact raises_ok _
    · exact raises_error (by simp)
  have reported : ∀ requested first rest,
      Raises [.invalidRequest] (reportSize response expected requested first rest) := by
    intro requested first rest
    unfold reportSize
    dsimp only
    split
    · exact raises_bind (sized _ _) fun _ => raises_ok _
    · exact raises_ok _
  unfold reconcileDimensions
  split
  · exact raises_ok _
  · exact raises_ok _
  · split
    · exact raises_ok _
    · exact raises_bind (reported _ _ _) fun _ => raises_ok _

theorem artifactError_raises (message : String) :
    Raises [.artifact] (.error (artifactError message) : Outcome α) :=
  raises_error (by simp [artifactError])

theorem trimEmbedded_raises (encode : List String → Option Bytes) (omitted fields : List String) :
    Raises [.artifact] (trimEmbedded encode omitted fields) := by
  induction fields generalizing omitted with
  | nil => exact artifactError_raises _
  | cons field fields ih =>
    unfold trimEmbedded
    split
    · exact artifactError_raises _
    · split
      · exact raises_ok _
      · exact ih _

theorem embed_raises (original effective : ImageRequest) (response : ImageResponse)
    (image : VerifiedImage) : Raises [.artifact] (embed world original effective response image) := by
  have encoded : Raises [.artifact] (embeddedMetadata world original effective response image) := by
    unfold embeddedMetadata
    dsimp only
    split
    · exact artifactError_raises _
    · split
      · exact raises_ok _
      · exact trimEmbedded_raises _ _ _
  unfold embed
  split
  · exact raises_bind encoded fun _ => raises_bind (artifact_raises _) fun _ => raises_ok _
  · exact raises_ok _

end Codes

section Stages

/-- A stage that fails, but never as an unavailable provider would. -/
abbrev Steady {α : Type} (x : Outcome α) : Prop := ¬Fails Unavailable x

theorem protocolError_steady (message : String) : ¬Unavailable (protocolError message) :=
  not_unavailable_of_code (Or.inl rfl)

theorem configurationError_unavailable (message : String) : Unavailable (configurationError message) :=
  rfl

theorem addBytes_steady (total more : Nat) : Steady (addBytes total more) := by
  unfold addBytes
  split
  · exact fails_ok _
  · rw [Steady, fails_error]
    exact protocolError_steady _

theorem checkResponseBudget_steady (bytes : Nat) : Steady (checkResponseBudget config bytes) := by
  rw [Steady, checkResponseBudget, fails_failIf]
  rintro ⟨_, unavailable⟩
  exact not_unavailable_of_code (Or.inl rfl) unavailable

theorem responsePayloadBytes_steady (response : ImageResponse) :
    Steady (responsePayloadBytes response) := by
  rw [Steady, responsePayloadBytes, fails_foldlM]
  rintro ⟨_, more, _, total, _, _, failed⟩
  exact addBytes_steady total more failed

/-- Artifact errors and invalid sizes are no news of the provider. -/
theorem Raises.steady {α : Type} {codes : List ErrorCode} {x : Outcome α} (raises : Raises codes x)
    (quiet : ∀ code ∈ codes, code = .artifact ∨ code = .invalidRequest) : Steady x := by
  apply raises.never
  intro e among
  obtain artifact | invalid := quiet e.code among
  · exact not_unavailable_of_code (Or.inr (Or.inl artifact))
  · exact not_unavailable_of_code (by simp [invalid])

theorem verifiedBy_steady {α : Type} (x : Outcome α) : Steady (verifiedBy x) :=
  (verifiedBy_raises x).steady (by simp)

theorem raised_steady {α : Type} (x : Except ArtifactError α) : Steady (ArtifactError.raised x) :=
  (artifact_raises x).steady (by simp)

theorem validateOutputSet_steady (response : ImageResponse) (count : Nat)
    (policy : MultiImageFailurePolicy) : Steady (validateOutputSet response count policy) := by
  simp only [Steady, validateOutputSet, fails_bind, fails_failIf, not_or, not_and, not_exists]
  refine ⟨fun _ => protocolError_steady _, fun _ _ => ⟨fun _ => ?_, fun _ _ =>
    ⟨fun _ => protocolError_steady _, fun _ _ _ => protocolError_steady _⟩⟩⟩
  exact not_unavailable_of_code (Or.inl rfl)

end Stages

/-- A provider URL that no configured fetcher can retrieve. -/
def Unretrievable (config : MaterializationConfig) (payload : ImagePayload) : Prop :=
  (∃ url, payload = .url url) ∧ config.remoteOutputFetcher = false

theorem loadImage_unavailable_iff (payload : ImagePayload) :
    Fails Unavailable (loadImage config world payload) ↔ Unretrievable config payload := by
  cases payload with
  | b64Json text =>
    have decoded : Steady (loadImage config world (.b64Json text)) := by
      rw [Steady, loadImage, fails_bind, fails_failIf]
      rintro (⟨_, unavailable⟩ | ⟨_, _, failed⟩)
      · exact protocolError_steady _ unavailable
      · split at failed
        · rw [fails_error] at failed
          exact protocolError_steady _ failed
        · rw [fails_bind] at failed
          obtain failed | ⟨_, _, failed⟩ := failed
          · exact verifiedBy_steady _ failed
          · exact fails_ok _ failed
    exact ⟨fun failed => absurd failed decoded, fun ⟨⟨url, other⟩, _⟩ => nomatch other⟩
  | url url =>
    simp only [loadImage, Unretrievable]
    split
    · rename_i fetches
      exact ⟨fun failed => absurd failed (verifiedBy_steady _), fun ⟨_, without⟩ => by
        rw [fetches] at without; cases without⟩
    · rename_i without
      rw [fails_error]
      exact ⟨fun _ => ⟨⟨url, rfl⟩, by simpa using without⟩,
        fun _ => configurationError_unavailable _⟩
  | artifact id name =>
    unfold loadImage
    rw [fails_error]
    exact ⟨fun unavailable => absurd unavailable (protocolError_steady _),
      fun ⟨⟨url, other⟩, _⟩ => nomatch other⟩
  | metadata =>
    unfold loadImage
    rw [fails_error]
    exact ⟨fun unavailable => absurd unavailable (protocolError_steady _),
      fun ⟨⟨url, other⟩, _⟩ => nomatch other⟩

theorem verify_unavailable_iff (format : OutputFormat) (image : GeneratedImage) :
    Fails Unavailable (verify config world format image) ↔ Unretrievable config image.payload := by
  unfold verify
  rw [fails_bind, loadImage_unavailable_iff]
  constructor
  · rintro (unretrievable | ⟨_, _, failed⟩)
    · exact unretrievable
    · simp only [fails_bind, fails_failIf] at failed
      obtain ⟨_, unavailable⟩ | ⟨_, _, ⟨_, unavailable⟩ | ⟨_, _, impossible⟩⟩ := failed
      · exact absurd unavailable (protocolError_steady _)
      · exact absurd unavailable (protocolError_steady _)
      · exact absurd impossible (fails_ok _)
  · exact Or.inl

theorem checkAlpha_steady (effective : ImageRequest) (transparency : Option TransparencyPlan)
    (image : VerifiedImage) : Steady (checkAlpha world effective transparency image) :=
  (checkAlpha_raises effective transparency image).steady (by simp)

theorem verifyNext_unavailable_iff (effective : ImageRequest)
    (transparency : Option TransparencyPlan) (s : Verified) (image : GeneratedImage) :
    Fails Unavailable (verifyNext config world effective transparency s image) ↔
      Unretrievable config image.payload := by
  unfold verifyNext
  rw [fails_bind, verify_unavailable_iff]
  constructor
  · rintro (unretrievable | ⟨loaded, _, failed⟩)
    · exact unretrievable
    · rw [fails_bind] at failed
      obtain failed | ⟨⟨checked, notes⟩, _, failed⟩ := failed
      · exact absurd failed (checkAlpha_steady _ _ _)
      · simp only [fails_bind] at failed
        obtain failed | ⟨_, _, failed | ⟨_, _, failed⟩⟩ := failed
        · exact absurd failed (addBytes_steady _ _)
        · exact absurd failed (checkResponseBudget_steady _)
        · exact absurd failed (fails_ok _)
  · exact Or.inl

theorem reconcileDimensions_steady (response : ImageResponse) (verified : List VerifiedImage)
    (expected : ImageSize) : Steady (reconcileDimensions response verified expected) :=
  (reconcileDimensions_raises response verified expected).steady (by simp)

theorem embed_steady (original effective : ImageRequest) (response : ImageResponse)
    (image : VerifiedImage) : Steady (embed world original effective response image) :=
  (embed_raises original effective response image).steady (by simp)

/-- Delivery through the store that the bridge is not set up for. -/
def Undeliverable (config : MaterializationConfig) (world : World) (image : VerifiedImage)
    (output : OutputOptions) : Prop :=
  (output.responseFormat = .artifact ∧ config.artifactStore = false) ∨
    (output.responseFormat = .url ∧
      (config.publicArtifactBaseUrl = none ∨ config.artifactStore = false ∨
        ∃ stored, world.publishWithOptions image output = .ok stored ∧
          config.publicArtifactBaseUrl.bind (world.joinUrl · stored.name) = none))

theorem raised_ok {α : Type} {x : Except ArtifactError α} {value : α} :
    ArtifactError.raised x = .ok value ↔ x = .ok value := by
  cases x <;> simp [ArtifactError.raised]

theorem publish_unavailable_iff (image : VerifiedImage) (output : OutputOptions)
    (stored : output.responseFormat = .artifact ∨ output.responseFormat = .url) :
    Fails Unavailable (publish config world image output) ↔
      Undeliverable config world image output := by
  simp only [publish, fails_bind, fails_failIf, failIf_ok, raised_ok]
  constructor
  · rintro (⟨⟨url, base⟩, _⟩ | ⟨_, based, ⟨store, _⟩ | ⟨_, _, failed | ⟨artifact, published, failed⟩⟩⟩)
    · exact Or.inr ⟨url, Or.inl base⟩
    · exact stored.imp (fun format => ⟨format, store⟩) (fun format => ⟨format, Or.inr (Or.inl store)⟩)
    · exact absurd failed (raised_steady _)
    · split at failed
      · exact absurd failed (fails_ok _)
      · rename_i notArtifact
        have url : output.responseFormat = .url := stored.resolve_left notArtifact
        split at failed
        · exact absurd failed (fails_ok _)
        · rename_i unjoined
          exact Or.inr ⟨url, Or.inr (Or.inr ⟨artifact, published, unjoined⟩)⟩
  · intro undeliverable
    by_cases base : output.responseFormat = .url ∧ config.publicArtifactBaseUrl = none
    · exact Or.inl ⟨base, configurationError_unavailable _⟩
    · refine Or.inr ⟨(), base, ?_⟩
      by_cases store : config.artifactStore = false
      · exact Or.inl ⟨store, configurationError_unavailable _⟩
      · refine Or.inr ⟨(), store, Or.inr ?_⟩
        obtain ⟨_, missing⟩ | ⟨url, none | missing | ⟨artifact, published, unjoined⟩⟩ :=
          undeliverable
        · exact absurd missing store
        · exact absurd ⟨url, none⟩ base
        · exact absurd missing store
        · refine ⟨artifact, published, ?_⟩
          rw [if_neg (by rw [url]; decide), unjoined]
          exact (fails_error _).mpr (configurationError_unavailable _)

theorem deliver_unavailable_iff (image : VerifiedImage) (output : OutputOptions) :
    Fails Unavailable (deliver config world image output) ↔
      Undeliverable config world image output := by
  unfold deliver
  split
  · rename_i inline
    exact ⟨fun failed => absurd failed (fails_ok _), fun undeliverable => by
      simp [Undeliverable, inline] at undeliverable⟩
  · rename_i inline
    exact ⟨fun failed => absurd failed (fails_ok _), fun undeliverable => by
      simp [Undeliverable, inline] at undeliverable⟩
  · rename_i format
    exact publish_unavailable_iff image output (Or.inl format)
  · rename_i format
    exact publish_unavailable_iff image output (Or.inr format)

theorem projectNext_unavailable_iff (original effective : ImageRequest) (response : ImageResponse)
    (s : Projected) (image : VerifiedImage) :
    Fails Unavailable (projectNext config world original effective response s image) ↔
      ∃ embedded, embed world original effective response image = .ok embedded ∧
        Undeliverable config world embedded effective.output := by
  have projected : ∀ embedded, Fails Unavailable (project config world effective.output embedded) ↔
      Undeliverable config world embedded effective.output := by
    intro embedded
    unfold project
    rw [fails_bind, deliver_unavailable_iff]
    exact ⟨fun failed => failed.elim id (fun ⟨_, _, failed⟩ => absurd failed (fails_ok _)), Or.inl⟩
  unfold projectNext
  rw [fails_bind]
  constructor
  · rintro (failed | ⟨embedded, done, failed⟩)
    · exact absurd failed (embed_steady _ _ _ _)
    · rw [fails_bind, projected] at failed
      obtain undeliverable | ⟨_, _, failed⟩ := failed
      · exact ⟨embedded, done, undeliverable⟩
      · simp only [fails_bind] at failed
        obtain failed | ⟨_, _, failed | ⟨_, _, failed⟩⟩ := failed
        · exact absurd failed (addBytes_steady _ _)
        · exact absurd failed (checkResponseBudget_steady _)
        · exact absurd failed (fails_ok _)
  · rintro ⟨embedded, done, undeliverable⟩
    refine Or.inr ⟨embedded, done, ?_⟩
    rw [fails_bind, projected]
    exact Or.inl undeliverable

/-- The loop over the provider's images reaches one the bridge cannot retrieve. -/
def RetrievalRefused (config : MaterializationConfig) (world : World) (job : Job) : Prop :=
  validateOutputSet job.response job.effective.parameters.n job.effective.parameters.failurePolicy
      = .ok () ∧
    ∃ bytes, responsePayloadBytes job.response = .ok bytes ∧
      checkResponseBudget config bytes = .ok () ∧
      ∃ before image after reached, job.response.data = before ++ image :: after ∧
        before.foldlM (verifyNext config world job.effective job.transparency)
          { response := { job.response with data := [] }, aggregateBytes := bytes, images := [] }
          = .ok reached ∧
        Unretrievable config image.payload

/-- Every image is verified and the delivery loop reaches one it cannot deliver. -/
def DeliveryRefused (config : MaterializationConfig) (world : World) (job : Job) : Prop :=
  ∃ verified response, verifyAll config world job = .ok verified ∧
    reconcileDimensions verified.response verified.images job.effective.parameters.size
      = .ok response ∧
    ∃ before image after reached embedded, verified.images = before ++ image :: after ∧
      before.foldlM (projectNext config world job.original job.effective response)
        { aggregateBytes := verified.aggregateBytes, images := [] } = .ok reached ∧
      embed world job.original job.effective response image = .ok embedded ∧
      Undeliverable config world embedded job.effective.output

theorem verifyAll_unavailable_iff (job : Job) :
    Fails Unavailable (verifyAll config world job) ↔ RetrievalRefused config world job := by
  simp only [verifyAll, fails_bind, fails_foldlM, verifyNext_unavailable_iff, RetrievalRefused]
  constructor
  · rintro (failed | ⟨_, valid, failed | ⟨bytes, counted, failed | ⟨_, within, loop⟩⟩⟩)
    · exact absurd failed (validateOutputSet_steady _ _ _)
    · exact absurd failed (responsePayloadBytes_steady _)
    · exact absurd failed (checkResponseBudget_steady _)
    · exact ⟨valid, bytes, counted, within, loop⟩
  · rintro ⟨valid, bytes, counted, within, loop⟩
    exact Or.inr ⟨(), valid, Or.inr ⟨bytes, counted, Or.inr ⟨(), within, loop⟩⟩⟩

theorem projectAll_unavailable_iff (job : Job) (verified : Verified) :
    Fails Unavailable (projectAll config world job verified) ↔
      ∃ response, reconcileDimensions verified.response verified.images
          job.effective.parameters.size = .ok response ∧
        ∃ before image after reached, verified.images = before ++ image :: after ∧
          before.foldlM (projectNext config world job.original job.effective response)
            { aggregateBytes := verified.aggregateBytes, images := [] } = .ok reached ∧
          ∃ embedded, embed world job.original job.effective response image = .ok embedded ∧
            Undeliverable config world embedded job.effective.output := by
  simp only [projectAll, fails_bind, fails_foldlM, projectNext_unavailable_iff]
  constructor
  · rintro (failed | ⟨response, reconciled, loop | ⟨_, _, failed⟩⟩)
    · exact absurd failed (reconcileDimensions_steady _ _ _)
    · exact ⟨response, reconciled, loop⟩
    · exact absurd failed (fails_ok _)
  · rintro ⟨response, reconciled, loop⟩
    exact Or.inr ⟨response, reconciled, Or.inl loop⟩

/-- Materialization ends as an unavailable provider would exactly when the bridge
itself can neither retrieve nor deliver an image. -/
theorem materialize_unavailable_iff (job : Job) :
    Fails Unavailable (materialize config world job) ↔
      RetrievalRefused config world job ∨ DeliveryRefused config world job := by
  unfold materialize
  rw [fails_bind, verifyAll_unavailable_iff]
  apply or_congr_right
  constructor
  · rintro ⟨verified, done, failed⟩
    obtain ⟨response, reconciled, before, image, after, reached, split, through, embedded, rest⟩ :=
      (projectAll_unavailable_iff job verified).mp failed
    exact ⟨verified, response, done, reconciled, before, image, after, reached, embedded, split,
      through, rest⟩
  · rintro ⟨verified, response, done, reconciled, before, image, after, reached, embedded, split,
      through, rest⟩
    exact ⟨verified, done, (projectAll_unavailable_iff job verified).mpr
      ⟨response, reconciled, before, image, after, reached, split, through, embedded, rest⟩⟩

/-- A bridge with a fetcher, a store and a base URL that joins every name never
makes a provider look unavailable. -/
theorem equipped_never_refuses (fetcher : config.remoteOutputFetcher = true)
    (store : config.artifactStore = true) (base : config.publicArtifactBaseUrl.isSome = true)
    (joins : ∀ base name, (world.joinUrl base name).isSome = true) (job : Job) :
    ¬Fails Unavailable (materialize config world job) := by
  rw [materialize_unavailable_iff]
  rintro (⟨_, _, _, _, _, _, _, _, _, _, _, without⟩ | ⟨_, _, _, _, _, _, _, _, embedded, _, _, _,
    undeliverable⟩)
  · rw [fetcher] at without
    cases without
  · obtain ⟨url, configured⟩ := Option.isSome_iff_exists.mp base
    obtain ⟨_, missing⟩ | ⟨_, none | missing | ⟨stored, _, unjoined⟩⟩ := undeliverable
    · rw [store] at missing
      cases missing
    · rw [configured] at none
      cases none
    · rw [store] at missing
      cases missing
    · have joined := joins url stored.name
      rw [configured, Option.bind_some] at unjoined
      rw [unjoined] at joined
      cases joined

end ImagegenBridge.Materialize
