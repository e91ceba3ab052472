import ImagegenBridge.Artifacts.MetadataErrors
import ImagegenBridge.Artifacts.PublishedFiles
import ImagegenBridge.Artifacts.Remote
import ImagegenBridge.Artifacts.Chroma

/-!
# The materializer over the code around it

A `World` answers for the image crates, the fetcher and the codecs of the repository; here it is
put together from their own models. Publication is a program over the files of the store, so the
second half of `materialize` is one as well.
-/

namespace ImagegenBridge.StoredDelivery

open Materialize Outcome Program
open Inspect (ImageLimits inspectImage)
open ArtifactStore (Action Fs Store)
open EmbeddedRecord (utf8)

/-! ## The world of the repository's own code -/

/-- The libraries, the settings and the network; `others` answers for the rest. -/
structure Parts where
  libraries : Metadata.Libraries
  limits : ImageLimits
  decodePixels : Bytes → OutputFormat → Option Chroma.Raster
  encodePixels : Chroma.Raster → OutputFormat → Option Bytes
  remote : Remote.RemoteInputPolicy
  remoteLimits : ImageLimits
  network : String → Remote.Network
  others : World

namespace Parts

variable (parts : Parts)

def inspect (bytes : Bytes) : Outcome ImageMetadata :=
  inspectImage parts.libraries.decoders parts.limits bytes

def codec : Chroma.ImageCodec where
  inspect := parts.inspect
  decode := parts.decodePixels
  encode := parts.encodePixels

def fetcher : Remote.RemoteImageFetcher where
  policy := parts.remote
  limits := parts.remoteLimits
  decoders := parts.libraries.decoders

def fetch (url : String) : Outcome (Bytes × ImageMetadata) :=
  (parts.fetcher.fetch (parts.network url) url).1.map fun loaded => (loaded.bytes, loaded.metadata)

def world : World :=
  { parts.others with
    decode := fun text => Base64.decodePadded (utf8 (Text.trim text))
    encode := fun bytes =>
      String.ofList ((Base64.encodePadded bytes).map fun b => Char.ofNat b.toNat)
    inspectImage := parts.inspect
    fetch := parts.fetch
    removeChromaKey := Chroma.removeChromaKey parts.codec
    inspectTransparentAlpha := Chroma.inspectTransparentAlpha parts.codec
    encodeEmbedded := EmbeddedRecord.encodeRecord
    embedImageMetadata := fun bytes expected encoded => Metadata.answered _
      (Metadata.embedImageMetadata_raises parts.libraries parts.limits bytes expected encoded) }

end Parts

/-! ## The second half as a program -/

/-- An outcome that no operation is needed for. -/
def lifted {α : Type} (x : Outcome α) : Action α := ExceptT.mk (.done x)

/-- `publish_with_options` of some store. -/
abbrev Publisher := VerifiedImage → OutputOptions → Action StoredArtifact

variable (publisher : Publisher) (config : MaterializationConfig) (world : World)

/-- What is returned for a stored artifact. -/
def storedPayload (output : OutputOptions) (stored : StoredArtifact) : Outcome ImagePayload :=
  if output.responseFormat = .artifact then .ok (.artifact stored.id (some stored.name))
  else match config.publicArtifactBaseUrl.bind (world.joinUrl · stored.name) with
    | some url => .ok (.url url)
    | none => .error (configurationError "could not construct public artifact URL")

def publish (image : VerifiedImage) (output : OutputOptions) : Action ImagePayload := do
  lifted (failIf (output.responseFormat = .url ∧ config.publicArtifactBaseUrl = none)
    (configurationError "public artifact base URL is not configured"))
  lifted (failIf (config.artifactStore = false)
    (configurationError "artifact output is not configured"))
  let stored ← publisher image output
  lifted (storedPayload config world output stored)

def deliver (image : VerifiedImage) (output : OutputOptions) : Action ImagePayload :=
  match output.responseFormat with
  | .b64Json => lifted (.ok (.b64Json (world.encode image.bytes)))
  | .metadata => lifted (.ok .metadata)
  | .artifact | .url => publish publisher config world image output

/-- The image that is returned with a payload. -/
def returned (image : VerifiedImage) (payload : ImagePayload) : GeneratedImage where
  index := image.index
  payload
  format := image.metadata.format
  width := image.metadata.width
  height := image.metadata.height
  bytes := image.metadata.bytes
  sha256 := image.metadata.sha256
  generationMs := image.generationMs
  metadataName := none

def counted (s : Projected) (projected : GeneratedImage) : Outcome Projected := do
  let aggregateBytes ← addBytes s.aggregateBytes (payloadBytes projected.payload)
  checkResponseBudget config aggregateBytes
  .ok { aggregateBytes, images := s.images ++ [projected] }

def projectNext (job : Job) (response : ImageResponse) (s : Projected) (image : VerifiedImage) :
    Action Projected := do
  let embedded ← lifted (embed world job.original job.effective response image)
  let payload ← deliver publisher config world embedded job.effective.output
  lifted (counted config s (returned embedded payload))

def projectAll (job : Job) (verified : Verified) : Action ImageResponse := do
  let response ← lifted
    (reconcileDimensions verified.response verified.images job.effective.parameters.size)
  let projected ← verified.images.foldlM (projectNext publisher config world job response)
    { aggregateBytes := verified.aggregateBytes, images := [] }
  lifted (.ok { response with data := projected.images })

def materialize (job : Job) : Action ImageResponse := do
  let verified ← lifted (verifyAll config world job)
  projectAll publisher config world job verified

/-- The store publishes under a new identifier at some time for every image. -/
def storing (store : Store) (ids : Nat → ArtifactStore.Uuid) (clock : Nat → Option UInt64) : Publisher :=
  fun image output => do
    let stored ← ArtifactStore.publishWithOptions store (ids image.index) (clock image.index)
      image.bytes output.filenamePrefix (some image.metadata.format)
      ⟨output.directory, output.filename, output.collision⟩
    pure ⟨stored.id, stored.name⟩

/-! ## With the answers of a world -/

/-- Publication whose answers are known beforehand. -/
def answering : Publisher := fun image output =>
  lifted (ArtifactError.raised (world.publishWithOptions image output))

variable {α β : Type}

theorem lifted_bind (x : Outcome α) (f : α → Outcome β) :
    (lifted x >>= fun a => lifted (f a)) = lifted (x >>= f) := by
  cases x <;> rfl

theorem lifted_foldlM (f : β → α → Outcome β) (b : β) (values : List α) :
    values.foldlM (fun b a => lifted (f b a)) b = lifted (values.foldlM f b) := by
  induction values generalizing b with
  | nil => rfl
  | cons a rest ih =>
    simp only [List.foldlM_cons]
    rw [← lifted_bind]
    exact congrArg (lifted (f b a) >>= ·) (funext fun b => ih b)

theorem deliver_answering (image : VerifiedImage) (output : OutputOptions) :
    deliver (answering world) config world image output =
      lifted (Materialize.deliver config world image output) := by
  have published : publish (answering world) config world image output =
      lifted (Materialize.publish config world image output) := by
    unfold publish answering
    simp only [lifted_bind]
    rfl
  unfold deliver Materialize.deliver
  rw [published]
  cases output.responseFormat <;> rfl

theorem projectNext_answering (job : Job) (response : ImageResponse) (s : Projected)
    (image : VerifiedImage) :
    projectNext (answering world) config world job response s image =
      lifted (Materialize.projectNext config world job.original job.effective response s image) := by
  unfold projectNext
  simp only [deliver_answering, lifted_bind]
  unfold Materialize.projectNext project
  cases embed world job.original job.effective response image with
  | error e => rfl
  | ok embedded =>
    simp only [Bind.bind, Except.bind]
    cases Materialize.deliver config world embedded job.effective.output with
    | error e => rfl
    | ok payload => rfl

/-- With answers known beforehand the program is the materializer. -/
theorem materialize_answering (job : Job) :
    materialize (answering world) config world job =
      lifted (Materialize.materialize config world job) := by
  have second (verified : Verified) : projectAll (answering world) config world job verified =
      lifted (Materialize.projectAll config world job verified) := by
    unfold projectAll
    have rounds (response : ImageResponse) :
        projectNext (answering world) config world job response = fun s image =>
          lifted (Materialize.projectNext config world job.original job.effective response s image) :=
      funext fun s => funext fun image => projectNext_answering config world job response s image
    simp only [rounds, lifted_foldlM, lifted_bind]
    rfl
  unfold materialize
  simp only [second, lifted_bind]
  rfl

end ImagegenBridge.StoredDelivery
