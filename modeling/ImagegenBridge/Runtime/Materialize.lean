import ImagegenBridge.Runtime.Idempotency
import ImagegenBridge.Runtime.Transparency

/-!
# Output verification and delivery, `crates/runtime/src/materialize.rs`

What the image codecs, the artifact store, the remote fetcher and the JSON
encoder answer during one call is a `World`; the materializer is a function of
it. Image limits only reach those answers.
-/

namespace ImagegenBridge.Materialize

open Transparency Idempotency

abbrev Bytes := List UInt8

/-- Output verification, remote retrieval, and artifact delivery configuration. -/
structure MaterializationConfig where
  maxBase64Chars : Nat := 128 * 1024 * 1024
  maxResponseBytes : Nat := 256 * 1024 * 1024
  artifactStore : Bool := false
  remoteOutputFetcher : Bool := false
  publicArtifactBaseUrl : Option String := none
  deriving DecidableEq

def configurationError (message : String) : BridgeError := .new .configuration message

def artifactError (message : String) : BridgeError := .new .artifact message

def protocolError (message : String) : BridgeError := .new .protocol message

/-- A configuration whose URL delivery has a store behind it. -/
structure OutputMaterializer where
  config : MaterializationConfig
  limited : config.maxBase64Chars ≠ 0 ∧ config.maxResponseBytes ≠ 0
  backed : config.publicArtifactBaseUrl.isSome = true → config.artifactStore = true

/-- `credentialFree` is the check of the parsed base URL. -/
def OutputMaterializer.new (credentialFree : String → Bool) (config : MaterializationConfig) :
    Outcome OutputMaterializer :=
  if limited : config.maxBase64Chars ≠ 0 ∧ config.maxResponseBytes ≠ 0 then
    if config.publicArtifactBaseUrl.any (fun base => !credentialFree base) then
      .error (configurationError
        "public artifact base URL must be credential-free HTTP(S) ending in a slash")
    else if backed : config.publicArtifactBaseUrl.isSome = true → config.artifactStore = true then
      .ok ⟨config, limited, backed⟩
    else .error (configurationError "public artifact URL delivery requires an artifact store")
  else .error (configurationError "output payload limits must be greater than zero")

/-- Verified metadata for encoded image bytes. -/
structure ImageMetadata where
  format : OutputFormat
  width : Nat
  height : Nat
  bytes : Nat
  sha256 : String
  deriving DecidableEq

structure AlphaSummary where
  totalPixels : Nat
  transparentPixels : Nat
  partialPixels : Nat
  opaquePixels : Nat
  transparentCorners : Nat

structure VerifiedImage where
  index : Nat
  bytes : Bytes
  metadata : ImageMetadata
  generationMs : Option Nat

structure StoredArtifact where
  id : String
  name : String

/-- The store and the metadata codecs raise artifact errors only. -/
structure ArtifactError where
  error : BridgeError
  isArtifact : error.code = .artifact

def ArtifactError.raised {α : Type} : Except ArtifactError α → Outcome α
  | .ok value => .ok value
  | .error e => .error e.error

/-- The answers of the code around the materializer. -/
structure World where
  decode : String → Option Bytes
  encode : Bytes → String
  inspectImage : Bytes → Outcome ImageMetadata
  fetch : String → Outcome (Bytes × ImageMetadata)
  detectBorderChromaKey : Bytes → Outcome ChromaKey
  removeChromaKey : Bytes → OutputFormat → ChromaKeyOptions →
    Outcome (Bytes × ImageMetadata × AlphaSummary)
  inspectTransparentAlpha : Bytes → Outcome AlphaSummary
  /-- The embedded record without the fields listed last. -/
  encodeEmbedded : ImageRequest → ImageRequest → ImageResponse → VerifiedImage → List String →
    Option Bytes
  embedImageMetadata : Bytes → OutputFormat → Bytes → Except ArtifactError (Bytes × ImageMetadata)
  publishWithOptions : VerifiedImage → OutputOptions → Except ArtifactError StoredArtifact
  joinUrl : String → String → Option String
  encodeSidecar : ImageRequest → ImageRequest → ImageResponse → GeneratedImage → String → Option Bytes
  attachMetadata : String → String → Bytes → Except ArtifactError String

/-- `checked_add`, reported as an overflow of the aggregate size. -/
def addBytes (total more : Nat) : Outcome Nat :=
  if total + more ≤ usizeMax then .ok (total + more)
  else .error (protocolError "aggregate response size overflowed")

def payloadBytes : ImagePayload → Nat
  | .b64Json b64Json => Text.len b64Json
  | .url url => Text.len url
  | .artifact id name => saturatingAdd (Text.len id) ((name.map Text.len).getD 0)
  | .metadata => 0

def responsePayloadBytes (response : ImageResponse) : Outcome Nat :=
  ([Text.len response.provider, Text.len response.model,
      (response.revisedPrompt.map Text.len).getD 0]
    ++ response.warnings.map Text.len
    ++ response.data.map (fun image => payloadBytes image.payload)).foldlM addBytes
    (Text.len response.id)

def asArtifactError (error : BridgeError) : BridgeError :=
  { error with code := .artifact, message := "provider output image failed independent verification" }

/-- `map_err(as_artifact_error)`. -/
def verifiedBy {α : Type} : Outcome α → Outcome α
  | .ok value => .ok value
  | .error e => .error (asArtifactError e)

def checkResponseBudget (config : MaterializationConfig) (bytes : Nat) : Outcome Unit :=
  Outcome.failIf (bytes > config.maxResponseBytes)
    ((protocolError "aggregate response payload exceeds the configured byte limit").withDetail
      "maximum_bytes" (.integer config.maxResponseBytes))

/-- `windows(2).all(|pair| pair[0] < pair[1])`. -/
def increasing (indices : List Nat) : Bool := decide (indices.IsChain (· < ·))

def validateOutputSet (response : ImageResponse) (expectedCount : Nat)
    (expectedFailurePolicy : MultiImageFailurePolicy) : Outcome Unit := do
  let failures := response.failures.map ImageFailure.index
  let indices := response.data.map GeneratedImage.index
  Outcome.failIf (expectedFailurePolicy ≠ .bestEffort ∧ response.failures ≠ [])
    (protocolError "provider returned partial failures for a fail-fast request")
  let actual := saturatingAdd indices.length failures.length
  Outcome.failIf (actual ≠ expectedCount)
    (((protocolError
      "provider returned a different number of output results than negotiated").withDetail "expected"
      (.integer expectedCount)).withDetail "actual" (.integer actual))
  Outcome.failIf ((indices ++ failures).mergeSort ≠ List.range expectedCount)
    (protocolError "provider returned duplicate or missing output indices")
  Outcome.failIf (¬increasing indices ∨ ¬increasing failures)
    (protocolError "provider returned output results in unstable index order")

/-- The bytes of one provider image: decoded, or fetched when a fetcher exists. -/
def loadImage (config : MaterializationConfig) (world : World) :
    ImagePayload → Outcome (Bytes × ImageMetadata)
  | .b64Json b64Json => do
    Outcome.failIf (Text.len b64Json > config.maxBase64Chars)
      (protocolError "provider image base64 exceeds the configured limit")
    match world.decode b64Json with
    | none => .error (protocolError "provider returned malformed base64 image data")
    | some bytes => do
      let metadata ← verifiedBy (world.inspectImage bytes)
      .ok (bytes, metadata)
  | .url url =>
    if config.remoteOutputFetcher then verifiedBy (world.fetch url)
    else .error (configurationError "provider URL output retrieval is not configured")
  | .artifact .. | .metadata =>
    .error (protocolError "provider returned an unverifiable internal payload type")

def verify (config : MaterializationConfig) (world : World) (expectedFormat : OutputFormat)
    (image : GeneratedImage) : Outcome VerifiedImage := do
  let (bytes, metadata) ← loadImage config world image.payload
  Outcome.failIf (metadata.format ≠ expectedFormat)
    (protocolError "provider output format does not match the negotiated format")
  Outcome.failIf (image.format ≠ metadata.format ∨ image.width ≠ metadata.width
      ∨ image.height ≠ metadata.height ∨ image.bytes ≠ metadata.bytes
      ∨ image.sha256 ≠ metadata.sha256)
    (protocolError "provider output metadata does not match the decoded image")
  .ok { index := image.index, bytes, metadata, generationMs := image.generationMs }

def alphaNormalization (index : Nat) (alpha : AlphaSummary) (reason : String) : Normalization where
  field := s!"data[{index}].transparency.alpha"
  requested := none
  effective := some (.object [("total_pixels", .integer alpha.totalPixels),
    ("transparent_pixels", .integer alpha.transparentPixels),
    ("partial_pixels", .integer alpha.partialPixels),
    ("opaque_pixels", .integer alpha.opaquePixels),
    ("transparent_corners", .integer alpha.transparentCorners)])
  reason

/-- The alpha stage of one verified image: keyed locally, checked, or left alone. -/
def checkAlpha (world : World) (effective : ImageRequest) (transparency : Option TransparencyPlan)
    (image : VerifiedImage) : Outcome (VerifiedImage × List Normalization) :=
  match transparency with
  | some plan => do
    let detectedKey ← verifiedBy (world.detectBorderChromaKey image.bytes)
    let (bytes, metadata, alpha) ← verifiedBy (world.removeChromaKey image.bytes
      effective.parameters.outputFormat { plan.chroma with key := detectedKey })
    .ok ({ image with bytes, metadata },
      [⟨s!"data[{image.index}].transparency.key_color", some (.string plan.chroma.key.hex),
        some (.string detectedKey.hex), "sampled_provider_output_border"⟩,
       alphaNormalization image.index alpha "validated_chroma_key_alpha"])
  | none =>
    if effective.parameters.background = .transparent then do
      let alpha ← verifiedBy (world.inspectTransparentAlpha image.bytes)
      .ok (image, [alphaNormalization image.index alpha "validated_native_alpha"])
    else .ok (image, [])

/-- What the verification loop has built. -/
structure Verified where
  response : ImageResponse
  aggregateBytes : Nat
  images : List VerifiedImage

def verifyNext (config : MaterializationConfig) (world : World) (effective : ImageRequest)
    (transparency : Option TransparencyPlan) (s : Verified) (image : GeneratedImage) :
    Outcome Verified := do
  let loaded ← verify config world effective.parameters.outputFormat image
  let (checked, notes) ← checkAlpha world effective transparency loaded
  let aggregateBytes ← addBytes s.aggregateBytes checked.bytes.length
  checkResponseBudget config aggregateBytes
  .ok {
    response := { s.response with normalizations := s.response.normalizations ++ notes }
    aggregateBytes
    images := s.images ++ [checked] }

def sizeNormalization (field : String) (expected : ImageSize) (width height : Nat) :
    Normalization where
  field
  requested := some (.string expected.asStr)
  effective := some (.string (toString width ++ "x" ++ toString height))
  reason := "provider_output_dimensions_differed"

def dimensionsOf (image : VerifiedImage) : Nat × Nat := (image.metadata.width, image.metadata.height)

/-- One size for all images is reported as the effective one; otherwise each
differing image is noted. -/
def reportSize (response : ImageResponse) (expectedSize : ImageSize) (requested : Nat × Nat)
    (first : VerifiedImage) (rest : List VerifiedImage) : Outcome ImageResponse :=
  let actual := dimensionsOf first
  if rest.all (fun image => dimensionsOf image == actual) then do
    let size ← ImageSize.ofDimensions actual.1 actual.2
    let note := sizeNormalization "parameters.size" expectedSize actual.1 actual.2
    .ok { response with
      effective := { response.effective with size }
      normalizations := response.normalizations ++ [note] }
  else
    let differing := (first :: rest).filter (fun image => dimensionsOf image != requested)
    let notes := differing.map (fun image => sizeNormalization
      (s!"data[{image.index}].size") expectedSize image.metadata.width image.metadata.height)
    .ok { response with normalizations := response.normalizations ++ notes }

def warnOnce (response : ImageResponse) (warning : String) : ImageResponse :=
  if response.warnings.contains warning then response
  else { response with warnings := response.warnings ++ [warning] }

/-- Adjusts the reported size when the images have another one. -/
def reconcileDimensions (response : ImageResponse) (verified : List VerifiedImage)
    (expectedSize : ImageSize) : Outcome ImageResponse :=
  match expectedSize.dimensions, verified with
  | none, _ | _, [] => .ok response
  | some requested, first :: rest =>
    if (first :: rest).all (fun image => dimensionsOf image == requested) then .ok response
    else do
      let reported ← reportSize response expectedSize requested first rest
      .ok (warnOnce reported "provider_output_dimensions_differed")

def maxEmbeddedMetadataBytes : Nat := 40 * 1024

/-- The optional members of the embedded record, in the order they are given up. -/
def optionalFields (response : ImageResponse) : List String :=
  (if response.usage.isSome then ["usage"] else [])
    ++ (if response.session.isSome then ["session"] else [])
    ++ (if response.normalizations.isEmpty then [] else ["normalizations"])
    ++ (if response.warnings.isEmpty then [] else ["warnings"])
    ++ (if response.revisedPrompt.isSome then ["revised_prompt"] else [])

/-- Drops optional members one at a time until the record fits. -/
def trimEmbedded (encode : List String → Option Bytes) : List String → List String → Outcome Bytes
  | _, [] => .error (artifactError "embedded artifact metadata exceeds the portable 40 KiB limit")
  | omitted, field :: fields =>
    match encode (omitted ++ [field]) with
    | none => .error (artifactError "could not encode embedded artifact metadata")
    | some encoded =>
      if encoded.length ≤ maxEmbeddedMetadataBytes then .ok encoded
      else trimEmbedded encode (omitted ++ [field]) fields

def embeddedMetadata (world : World) (original effective : ImageRequest) (response : ImageResponse)
    (image : VerifiedImage) : Outcome Bytes :=
  let encode := world.encodeEmbedded original effective response image
  match encode [] with
  | none => .error (artifactError "could not encode embedded artifact metadata")
  | some encoded =>
    if encoded.length ≤ maxEmbeddedMetadataBytes then .ok encoded
    else trimEmbedded encode [] (optionalFields response)

def embed (world : World) (original effective : ImageRequest) (response : ImageResponse)
    (image : VerifiedImage) : Outcome VerifiedImage :=
  if effective.output.metadata.embeds then do
    let encoded ← embeddedMetadata world original effective response image
    let (bytes, metadata) ← ArtifactError.raised
      (world.embedImageMetadata image.bytes image.metadata.format encoded)
    .ok { image with bytes, metadata }
  else .ok image

/-- Publication through the store: an artifact, or its public URL. -/
def publish (config : MaterializationConfig) (world : World) (image : VerifiedImage)
    (output : OutputOptions) : Outcome ImagePayload := do
  Outcome.failIf (output.responseFormat = .url ∧ config.publicArtifactBaseUrl = none)
    (configurationError "public artifact base URL is not configured")
  Outcome.failIf (config.artifactStore = false)
    (configurationError "artifact output is not configured")
  let stored ← ArtifactError.raised (world.publishWithOptions image output)
  if output.responseFormat = .artifact then .ok (.artifact stored.id (some stored.name))
  else match config.publicArtifactBaseUrl.bind (world.joinUrl · stored.name) with
    | some url => .ok (.url url)
    | none => .error (configurationError "could not construct public artifact URL")

def deliver (config : MaterializationConfig) (world : World) (image : VerifiedImage)
    (output : OutputOptions) : Outcome ImagePayload :=
  match output.responseFormat with
  | .b64Json => .ok (.b64Json (world.encode image.bytes))
  | .metadata => .ok .metadata
  | .artifact | .url => publish config world image output

def project (config : MaterializationConfig) (world : World) (output : OutputOptions)
    (image : VerifiedImage) : Outcome GeneratedImage := do
  let payload ← deliver config world image output
  .ok {
    index := image.index, payload, format := image.metadata.format, width := image.metadata.width
    height := image.metadata.height, bytes := image.metadata.bytes, sha256 := image.metadata.sha256
    generationMs := image.generationMs, metadataName := none }

/-- What the projection loop has built. -/
structure Projected where
  aggregateBytes : Nat
  images : List GeneratedImage

def projectNext (config : MaterializationConfig) (world : World) (original effective : ImageRequest)
    (response : ImageResponse) (s : Projected) (image : VerifiedImage) : Outcome Projected := do
  let embedded ← embed world original effective response image
  let projected ← project config world effective.output embedded
  let aggregateBytes ← addBytes s.aggregateBytes (payloadBytes projected.payload)
  checkResponseBudget config aggregateBytes
  .ok { aggregateBytes, images := s.images ++ [projected] }

/-- The call of the materializer: what the provider returned, and for what. -/
structure Job where
  response : ImageResponse
  original : ImageRequest
  effective : ImageRequest
  transparency : Option TransparencyPlan

/-- The first half: the output set is complete and every image is what it says. -/
def verifyAll (config : MaterializationConfig) (world : World) (job : Job) : Outcome Verified := do
  validateOutputSet job.response job.effective.parameters.n job.effective.parameters.failurePolicy
  let aggregateBytes ← responsePayloadBytes job.response
  checkResponseBudget config aggregateBytes
  job.response.data.foldlM (verifyNext config world job.effective job.transparency)
    { response := { job.response with data := [] }, aggregateBytes, images := [] }

/-- The second half: every verified image is delivered as the caller asked. -/
def projectAll (config : MaterializationConfig) (world : World) (job : Job) (verified : Verified) :
    Outcome ImageResponse := do
  let response ← reconcileDimensions verified.response verified.images job.effective.parameters.size
  let projected ← verified.images.foldlM
    (projectNext config world job.original job.effective response)
    { aggregateBytes := verified.aggregateBytes, images := [] }
  .ok { response with data := projected.images }

def materialize (config : MaterializationConfig) (world : World) (job : Job) :
    Outcome ImageResponse := do
  let verified ← verifyAll config world job
  projectAll config world job verified

/-- One image's sidecar; only bridge artifacts can have one. -/
def attachNext (world : World) (original effective : ImageRequest) (snapshot : ImageResponse)
    (attached : List GeneratedImage) (image : GeneratedImage) : Outcome (List GeneratedImage) :=
  match image.payload with
  | .artifact id (some name) =>
    match world.encodeSidecar original effective snapshot image name with
    | none => .error (artifactError "could not encode artifact metadata")
    | some encoded => do
      let metadataName ← ArtifactError.raised (world.attachMetadata id name encoded)
      .ok (attached ++ [{ image with metadataName := some metadataName }])
  | _ => .error (protocolError "metadata sidecar policy requires bridge artifact output")

def attachMetadata (config : MaterializationConfig) (world : World)
    (original effective : ImageRequest) (response : ImageResponse) : Outcome ImageResponse := do
  if ¬effective.output.metadata.writesSidecar then return response
  Outcome.failIf (config.artifactStore = false)
    (configurationError "artifact output is not configured")
  let data ← response.data.foldlM (attachNext world original effective response) []
  .ok { response with data }

end ImagegenBridge.Materialize
