import ImagegenBridge.Core.JsonCodec
import ImagegenBridge.Core.Request
import ImagegenBridge.Core.SizeText

/-!
# The JSON form of requests

`crates/core/src/request.rs`: derived codecs for the option structs, and the hand-written decoders
of `ImageRequest` and `ImageInput`, which take an object apart before the derived ones read it.
-/

namespace ImagegenBridge

open JsonCodec JsonFields Decimal Outcome

/-! ## Parameters -/

/-- `ImageSize::from_str`, as the number pair that its text spells. -/
def ImageSize.fromStr (value : String) : Outcome ImageSize := do
  let size ← ImageSizeText.fromStr value
  match size.dimensions with
  | none => .ok .auto
  | some (width, height) => ImageSize.ofDimensions width height

/-- `AspectRatio::new`. -/
def AspectRatio.new (width height : Nat) : Outcome AspectRatio :=
  if positive : 0 < width ∧ 0 < height then
    have least := AspectRatioText.reduced width height positive.1 positive.2
    .ok ⟨width / gcd width height, height / gcd width height, least.widthPos, least.heightPos,
      least.coprime⟩
  else .error (.new .invalidRequest "aspect ratio terms must be greater than zero")

/-- `AspectRatio::from_str`, as the reduced terms that its text spells. -/
def AspectRatio.fromStr (value : String) : Outcome AspectRatio := do
  let ratio ← AspectRatioText.fromStr value
  let (width, height) := ratio.terms
  AspectRatio.new width height

/-- What fits Rust's `u32`. -/
def ImageSize.Fits (size : ImageSize) : Prop :=
  ∀ width height, size.dimensions = some (width, height) → width < u32Bound ∧ height < u32Bound

def AspectRatio.Fits (ratio : AspectRatio) : Prop :=
  ratio.width < u32Bound ∧ ratio.height < u32Bound

theorem ImageSize.fromStr_asStr (size : ImageSize) (fits : size.Fits) :
    ImageSize.fromStr size.asStr = .ok size := by
  cases size with
  | auto =>
    have read : ImageSizeText.fromStr "auto" = .ok ⟨"auto"⟩ :=
      ImageSizeText.fromStr_iff.mpr ⟨rfl, .inl rfl⟩
    exact bind_ok.mpr ⟨_, read, rfl⟩
  | exact width height widthPos heightPos =>
    obtain ⟨widthFits, heightFits⟩ := fits width height rfl
    have found : SizeMatches 'x' (printPair 'x' width height) _ _ :=
      printPair_matches widthPos heightPos widthFits heightFits
    have read : ImageSizeText.fromStr (printPair 'x' width height) = .ok ⟨printPair 'x' width height⟩ :=
      ImageSizeText.fromStr_iff.mpr ⟨rfl, .inr ⟨_, _, found⟩⟩
    have spells : ImageSizeText.dimensions ⟨printPair 'x' width height⟩ = some (width, height) := by
      rw [ImageSizeText.dimensions_matches found, value_toDigits, value_toDigits]
    rw [asStr, (printPair_append width height).1]
    refine bind_ok.mpr ⟨_, read, ?_⟩
    simp only [spells]
    exact dif_pos ⟨widthPos, heightPos⟩

theorem AspectRatio.fromStr_asStr (ratio : AspectRatio) (fits : ratio.Fits) :
    AspectRatio.fromStr ratio.asStr = .ok ratio := by
  obtain ⟨width, height, widthPos, heightPos, coprime⟩ := ratio
  obtain ⟨widthFits, heightFits⟩ := fits
  have one : gcd width height = 1 := (gcd_eq width height).trans coprime
  have read : AspectRatioText.fromStr (printPair ':' width height) = .ok ⟨printPair ':' width height⟩ := by
    refine AspectRatioText.fromStr_iff.mpr ⟨_, _, width, height, String.toList_ofList,
      AspectRatioText.term_print widthPos widthFits, AspectRatioText.term_print heightPos heightFits, ?_⟩
    rw [one, Nat.div_one, Nat.div_one]
  rw [asStr, (printPair_append width height).2]
  refine bind_ok.mpr ⟨_, read, ?_⟩
  rw [AspectRatioText.terms_print widthPos heightPos widthFits heightFits]
  simp only [AspectRatio.new, dif_pos (And.intro widthPos heightPos), one, Nat.div_one]

def sizeCodec : JsonCodec ImageSize :=
  parsed ImageSize.asStr ImageSize.fromStr ImageSize.Fits ImageSize.fromStr_asStr

def aspectRatioCodec : JsonCodec AspectRatio :=
  parsed AspectRatio.asStr AspectRatio.fromStr AspectRatio.Fits AspectRatio.fromStr_asStr

def qualityCodec : JsonCodec Quality :=
  enumeration [("auto", .auto), ("low", .low), ("medium", .medium), ("high", .high)] Quality.wire
    fun value => by cases value <;> decide

def outputFormatCodec : JsonCodec OutputFormat :=
  enumeration [("png", .png), ("jpeg", .jpeg), ("webp", .webp)] OutputFormat.wire
    fun value => by cases value <;> decide

def backgroundCodec : JsonCodec Background :=
  enumeration [("auto", .auto), ("opaque", .opaqueFill), ("transparent", .transparent)]
    Background.wire fun value => by cases value <;> decide

def transparencyModeCodec : JsonCodec TransparencyMode :=
  enumeration [("auto", .auto), ("native", .native), ("chroma_key", .chromaKey)]
    TransparencyMode.wire fun value => by cases value <;> decide

def fallbackPolicyCodec : JsonCodec FallbackPolicy :=
  enumeration [("on_unavailable", .onUnavailable), ("on_error", .onError)] FallbackPolicy.wire
    fun value => by cases value <;> decide

def batchExecutionCodec : JsonCodec BatchExecution :=
  enumeration [("auto", .auto), ("sequential", .sequential), ("parallel", .parallel)]
    BatchExecution.wire fun value => by cases value <;> decide

def moderationCodec : JsonCodec Moderation :=
  enumeration [("auto", .auto), ("low", .low)] Moderation.wire fun value => by cases value <;> decide

def failurePolicyCodec : JsonCodec MultiImageFailurePolicy :=
  enumeration [("fail_fast", .failFast), ("best_effort", .bestEffort)] MultiImageFailurePolicy.wire
    fun value => by cases value <;> decide

def inputFidelityCodec : JsonCodec InputFidelity :=
  enumeration [("low", .low), ("high", .high)] InputFidelity.wire
    fun value => by cases value <;> decide

def imageActionCodec : JsonCodec ImageAction :=
  enumeration [("auto", .auto), ("generate", .generate), ("edit", .edit)] ImageAction.wire
    fun value => by cases value <;> decide

def responseFormatCodec : JsonCodec ResponseFormat :=
  enumeration [("b64_json", .b64Json), ("url", .url), ("artifact", .artifact),
    ("metadata", .metadata)] ResponseFormat.wire fun value => by cases value <;> decide

def collisionCodec : JsonCodec ArtifactCollisionPolicy :=
  enumeration [("error", .error), ("suffix", .suffix)] ArtifactCollisionPolicy.wire
    fun value => by cases value <;> decide

def metadataPolicyCodec : JsonCodec ArtifactMetadataPolicy :=
  enumeration [("none", .none), ("sidecar", .sidecar), ("embedded", .embedded),
    ("sidecar_and_embedded", .sidecarAndEmbedded)] ArtifactMetadataPolicy.wire
    fun value => by cases value <;> decide

def compatibilityCodec : JsonCodec CompatibilityMode :=
  enumeration [("strict", .strict), ("normalize", .normalize), ("best_effort", .bestEffort)]
    CompatibilityMode.wire fun value => by cases value <;> decide

def negativePromptModeCodec : JsonCodec NegativePromptMode :=
  enumeration [("auto", .auto), ("native", .native), ("merge", .merge), ("reject", .reject)]
    NegativePromptMode.wire fun value => by cases value <;> decide

def revisedPromptCodec : JsonCodec RevisedPromptPolicy :=
  enumeration [("include", .include), ("omit", .omit), ("require", .require)]
    RevisedPromptPolicy.wire fun value => by cases value <;> decide

def sessionModeCodec : JsonCodec SessionMode :=
  enumeration [("isolated", .isolated), ("persistent", .persistent), ("thread", .thread)]
    SessionMode.wire fun value => by cases value <;> decide

def resolutionCodec : JsonCodec Resolution :=
  enumeration [("1k", .oneK), ("2k", .twoK), ("4k", .fourK)] Resolution.wire
    fun value => by cases value <;> decide

def optionText : JsonCodec (Option String) :=
  option text fun _ null => by cases null

/-- `#[serde(default, deny_unknown_fields)]`. -/
def parametersFields : JsonFields GenerationParameters GenerationParameters :=
  Records.Fields.start GenerationParameters.mk
    |>.ap (defaulted "n" u8 GenerationParameters.n 1) (by decide)
    |>.ap (defaulted "size" sizeCodec GenerationParameters.size .auto) (by decide)
    |>.ap (optional "aspect_ratio" (option aspectRatioCodec fun _ null => by cases null)
      GenerationParameters.aspectRatio (.ok none)) (by decide)
    |>.ap (optional "resolution" (option resolutionCodec fun _ null => by cases null)
      GenerationParameters.resolution (.ok none)) (by decide)
    |>.ap (defaulted "quality" qualityCodec GenerationParameters.quality .auto) (by decide)
    |>.ap (defaulted "output_format" outputFormatCodec GenerationParameters.outputFormat .png)
      (by decide)
    |>.ap (optional "output_compression" (option u8 fun _ null => by cases null)
      GenerationParameters.outputCompression (.ok none)) (by decide)
    |>.ap (defaulted "background" backgroundCodec GenerationParameters.background .auto) (by decide)
    |>.ap (defaulted "moderation" moderationCodec GenerationParameters.moderation .auto) (by decide)
    |>.ap (defaulted "partial_images" u8 GenerationParameters.partialImages 0) (by decide)
    |>.ap (defaulted "failure_policy" failurePolicyCodec GenerationParameters.failurePolicy .failFast)
      (by decide)
    |>.ap (optional "input_fidelity" (option inputFidelityCodec fun _ null => by cases null)
      GenerationParameters.inputFidelity (.ok none)) (by decide)
    |>.ap (defaulted "action" imageActionCodec GenerationParameters.action .auto) (by decide)

def parametersCodec : JsonCodec GenerationParameters :=
  struct "GenerationParameters" parametersFields fun _ => rfl

/-! ## Options -/

def routeFields : JsonFields ProviderRoute ProviderRoute :=
  Records.Fields.start ProviderRoute.mk
    |>.ap (required "provider" text ProviderRoute.provider
      (.invalidLength 0 "struct ProviderRoute with 2 elements")) (by decide)
    |>.ap (optional "model" optionText ProviderRoute.model
      (.error (.invalidLength 1 "struct ProviderRoute with 2 elements"))) (by decide)

def routeCodec : JsonCodec ProviderRoute :=
  struct "ProviderRoute" routeFields fun _ => rfl

def routingFields : JsonFields RoutingOptions RoutingOptions :=
  Records.Fields.start RoutingOptions.mk
    |>.ap (optional "provider" optionText RoutingOptions.provider (.ok none)) (by decide)
    |>.ap (optional "model" optionText RoutingOptions.model (.ok none)) (by decide)
    |>.ap (listed "fallbacks" (listOf routeCodec) RoutingOptions.fallbacks) (by decide)
    |>.ap (defaulted "fallback_policy" fallbackPolicyCodec RoutingOptions.fallbackPolicy
      .onUnavailable) (by decide)

def routingCodec : JsonCodec RoutingOptions :=
  struct "RoutingOptions" routingFields fun _ => rfl

def sessionFields : JsonFields SessionOptions SessionOptions :=
  Records.Fields.start SessionOptions.mk
    |>.ap (defaulted "mode" sessionModeCodec SessionOptions.mode .isolated) (by decide)
    |>.ap (optional "key" optionText SessionOptions.key (.ok none)) (by decide)
    |>.ap (optional "thread_id" optionText SessionOptions.threadId (.ok none)) (by decide)

def sessionCodec : JsonCodec SessionOptions :=
  struct "SessionOptions" sessionFields fun _ => rfl

def transparencyFields : JsonFields TransparencyOptions TransparencyOptions :=
  Records.Fields.start TransparencyOptions.mk
    |>.ap (defaulted "mode" transparencyModeCodec TransparencyOptions.mode .auto) (by decide)
    |>.ap (optional "key_color" optionText TransparencyOptions.keyColor (.ok none)) (by decide)
    |>.ap (defaulted "transparent_threshold" u8 TransparencyOptions.transparentThreshold 12)
      (by decide)
    |>.ap (defaulted "opaque_threshold" u8 TransparencyOptions.opaqueThreshold 96) (by decide)
    |>.ap (defaulted "despill" boolean TransparencyOptions.despill true) (by decide)

def transparencyCodec : JsonCodec TransparencyOptions :=
  struct "TransparencyOptions" transparencyFields fun _ => rfl

def outputFields : JsonFields OutputOptions OutputOptions :=
  Records.Fields.start OutputOptions.mk
    |>.ap (defaulted "response_format" responseFormatCodec OutputOptions.responseFormat .b64Json)
      (by decide)
    |>.ap (optional "filename_prefix" optionText OutputOptions.filenamePrefix (.ok none)) (by decide)
    |>.ap (optional "directory" optionText OutputOptions.directory (.ok none)) (by decide)
    |>.ap (optional "filename" optionText OutputOptions.filename (.ok none)) (by decide)
    |>.ap (defaulted "collision" collisionCodec OutputOptions.collision .error) (by decide)
    |>.ap (defaulted "metadata" metadataPolicyCodec OutputOptions.metadata .none) (by decide)
    |>.ap (defaulted "transparency" transparencyCodec OutputOptions.transparency {}) (by decide)

def outputCodec : JsonCodec OutputOptions :=
  struct "OutputOptions" outputFields fun _ => rfl

def policiesFields : JsonFields RequestPolicies RequestPolicies :=
  Records.Fields.start RequestPolicies.mk
    |>.ap (defaulted "compatibility" compatibilityCodec RequestPolicies.compatibility .strict)
      (by decide)
    |>.ap (defaulted "negative_prompt" negativePromptModeCodec RequestPolicies.negativePrompt .auto)
      (by decide)
    |>.ap (defaulted "revised_prompt" revisedPromptCodec RequestPolicies.revisedPrompt .include)
      (by decide)
    |>.ap (defaulted "batch_execution" batchExecutionCodec RequestPolicies.batchExecution .auto)
      (by decide)

def policiesCodec : JsonCodec RequestPolicies :=
  struct "RequestPolicies" policiesFields fun _ => rfl

/-! ## Inputs -/

/-- The tag of an internally tagged enum and the other entries. -/
def takeTag (tag : String) (entries : List (String × Json)) :
    Except DecodeError (String × List (String × Json)) :=
  match entries.lookup tag with
  | none => .error (.missingField tag)
  | some (.string name) => .ok (name, entries.filter fun entry => entry.1 ≠ tag)
  | some other => .error (.invalidType other "variant identifier")

/-- The one field of a source variant. -/
def sourceFields (key : String) : JsonFields String String :=
  Records.Fields.start (fun value => value)
    |>.ap (required key text (fun value => value) (.invalidLength 0 "struct variant with 1 element"))
      (fun _ none => by cases none)

def encodeSource : ImageSource → List (String × Json)
  | .file path => ("type", .string "file") :: (sourceFields "path").write path
  | .url url => ("type", .string "url") :: (sourceFields "url").write url
  | .dataUrl dataUrl => ("type", .string "data_url") :: (sourceFields "data_url").write dataUrl
  | .base64 data => ("type", .string "base64") :: (sourceFields "data").write data

def decodeSource (entries : List (String × Json)) : Except DecodeError ImageSource := do
  let (name, fields) ← takeTag "type" entries
  match name with
  | "file" => ((sourceFields "path").ofEntries .unknownField fields).map .file
  | "url" => ((sourceFields "url").ofEntries .unknownField fields).map .url
  | "data_url" => ((sourceFields "data_url").ofEntries .unknownField fields).map .dataUrl
  | "base64" => ((sourceFields "data").ofEntries .unknownField fields).map .base64
  | other => .error (.unknownVariant other ["file", "url", "data_url", "base64"])

/-- `fields.remove(..).map(from_value).transpose()`, flattened. -/
def removedText (key : String) (fields : List (String × Json)) :
    Except DecodeError (Option String) :=
  match fields.lookup key with
  | none => .ok none
  | some value => optionText.decode value

def writtenText (key : String) (value : Option String) : List (String × Json) :=
  (value.map fun value => (key, Json.string value)).toList

def encodeInput (input : ImageInput) : Json :=
  .object (encodeSource input.source ++ writtenText "media_type" input.mediaType ++
    writtenText "filename" input.filename)

def decodeInput : Json → Except DecodeError ImageInput
  | .object fields => do
    let mediaType ← removedText "media_type" fields
    let filename ← removedText "filename" fields
    let source ← decodeSource
      (fields.filter fun entry => entry.1 ≠ "media_type" ∧ entry.1 ≠ "filename")
    .ok { source, mediaType, filename }
  | other => .error (.invalidType other "a map")

theorem decodeInput_encodeInput (input : ImageInput) : decodeInput (encodeInput input) = .ok input := by
  obtain ⟨source, mediaType, filename⟩ := input
  cases source <;> cases mediaType <;> cases filename <;> rfl

theorem takeTag_ok {tag name : String} {entries rest : List (String × Json)}
    (taken : takeTag tag entries = .ok (name, rest)) :
    entries.lookup tag = some (.string name) ∧ rest = entries.filter fun entry => entry.1 ≠ tag := by
  unfold takeTag at taken
  split at taken
  · cases taken
  · rename_i there
    cases taken
    exact ⟨there, rfl⟩
  · cases taken

/-- The sources and the field that each of them has. -/
def sourceKeys : List (String × String) :=
  [("file", "path"), ("url", "url"), ("data_url", "data_url"), ("base64", "data")]

theorem decodeSource_strict {entries : List (String × Json)} {source : ImageSource}
    (decoded : decodeSource entries = .ok source) :
    ∃ name key, entries.lookup "type" = some (.string name) ∧ (name, key) ∈ sourceKeys ∧
      ∀ k value, entries.lookup k = some value → k ≠ "type" →
        k = key ∧ KeysWithin true .flat value := by
  obtain ⟨⟨name, rest⟩, taken, variant⟩ := Records.bind_ok.mp decoded
  obtain ⟨tells, rfl⟩ := takeTag_ok taken
  have single {α : Type} (key : String) (make : String → α) {a : α}
      (read : ((sourceFields key).ofEntries .unknownField
        (entries.filter fun entry => entry.1 ≠ "type")).map make = .ok a) :
      ∀ k value, entries.lookup k = some value → k ≠ "type" →
        k = key ∧ KeysWithin true .flat value := by
    intro k value found other
    obtain ⟨text, accepted, _⟩ := Records.map_ok.mp read
    have among : (k, value) ∈ entries.filter fun entry => entry.1 ≠ "type" := by
      rw [List.mem_filter]
      exact ⟨Records.lookup_mem found, by simpa using other⟩
    obtain ⟨shape, named, inside⟩ := (sourceFields key).ofEntries_strict _ accepted among
    have alone : (k, shape) ∈ [(key, Shape.flat)] := Records.lookup_mem named
    obtain ⟨rfl, rfl⟩ := Prod.mk.inj (List.mem_singleton.mp alone)
    exact ⟨rfl, inside⟩
  dsimp only at variant
  split at variant
  · exact ⟨_, "path", tells, by decide, single _ _ variant⟩
  · exact ⟨_, "url", tells, by decide, single _ _ variant⟩
  · exact ⟨_, "data_url", tells, by decide, single _ _ variant⟩
  · exact ⟨_, "data", tells, by decide, single _ _ variant⟩
  · cases variant

def inputCase (key : String) : List (String × Shape) :=
  [(key, .flat), ("media_type", .flat), ("filename", .flat)]

theorem inputCase_lookup {key name : String} (known : name ∈ [key, "media_type", "filename"]) :
    (inputCase key).lookup name = some .flat := by
  have named : name ∈ (inputCase key).map Prod.fst := by simpa [inputCase] using known
  obtain ⟨shape, found⟩ := Records.lookup_of_name named
  have among := Records.lookup_mem found
  have flat : shape = .flat := by
    simp only [inputCase, List.mem_cons, Prod.mk.injEq, List.not_mem_nil, or_false] at among
    obtain ⟨_, same⟩ | ⟨_, same⟩ | ⟨_, same⟩ := among
    · exact same
    · exact same
    · exact same
  rw [found, flat]

/-- The fields of one input image, by the type of its source. -/
def inputShape : Shape :=
  .tagged "type" [("file", inputCase "path"), ("url", inputCase "url"),
    ("data_url", inputCase "data_url"), ("base64", inputCase "data")]

theorem removedText_strict {key : String} {fields : List (String × Json)} {text : Option String}
    (removed : removedText key fields = .ok text) {value : Json}
    (found : fields.lookup key = some value) : KeysWithin true .flat value := by
  rw [removedText, found] at removed
  exact optionText.strict value text removed

theorem decodeInput_strict {json : Json} {input : ImageInput}
    (decoded : decodeInput json = .ok input) : KeysWithin true inputShape json := by
  unfold decodeInput at decoded
  split at decoded
  · rename_i fields
    obtain ⟨mediaType, media, next⟩ := Records.bind_ok.mp decoded
    obtain ⟨filename, named, next⟩ := Records.bind_ok.mp next
    obtain ⟨source, read, _⟩ := Records.bind_ok.mp next
    obtain ⟨name, key, tells, known, each⟩ := decodeSource_strict read
    have kept (k : String) (media : k ≠ "media_type") (file : k ≠ "filename") :
        (fields.filter fun entry => entry.1 ≠ "media_type" ∧ entry.1 ≠ "filename").lookup k =
          fields.lookup k := Records.lookup_filter fun _ => by simp [media, file]
    rw [kept "type" (by decide) (by decide)] at tells
    have chosen : (name, inputCase key) ∈ sourceKeys.map fun pair => (pair.1, inputCase pair.2) :=
      List.mem_map.mpr ⟨(name, key), known, rfl⟩
    refine KeysWithin.ofTagged tells chosen fun k value found other => ⟨.flat, ?_⟩
    by_cases isMedia : k = "media_type"
    · subst isMedia
      exact ⟨inputCase_lookup (by simp), removedText_strict media found⟩
    by_cases isFilename : k = "filename"
    · subst isFilename
      exact ⟨inputCase_lookup (by simp), removedText_strict named found⟩
    obtain ⟨rfl, inside⟩ := each k value ((kept k isMedia isFilename).trans found) other
    exact ⟨inputCase_lookup (by simp), inside⟩
  · cases decoded

def inputCodec : JsonCodec ImageInput where
  shape := inputShape
  Fits _ := True
  encode := encodeInput
  decode := decodeInput
  restores input _ := decodeInput_encodeInput input
  strict _ _ decoded := decodeInput_strict decoded

/-! ## Operations -/

def generateFields : JsonFields (List ImageInput) (List ImageInput) :=
  Records.Fields.start (fun references => references)
    |>.ap (listed "reference_images" (listOf inputCodec) fun references => references) (by decide)

/-- The fields of the variant `Edit`. -/
structure EditInputs where
  images : List ImageInput
  mask : Option ImageInput
  referenceImages : List ImageInput

def EditInputs.operation (inputs : EditInputs) : ImageOperation :=
  .edit inputs.images inputs.mask inputs.referenceImages

def editFields : JsonFields EditInputs EditInputs :=
  Records.Fields.start EditInputs.mk
    |>.ap (required "images" (listOf inputCodec) EditInputs.images
      (.invalidLength 0 "struct variant ImageOperation::Edit with 3 elements")) (by decide)
    |>.ap (optional "mask" (option inputCodec fun _ null => by cases null) EditInputs.mask
      (.error (.invalidLength 1 "struct variant ImageOperation::Edit with 3 elements"))) (by decide)
    |>.ap (listed "reference_images" (listOf inputCodec) EditInputs.referenceImages) (by decide)

def encodeOperation : ImageOperation → List (String × Json)
  | .generate references => ("operation", .string "generate") :: generateFields.write references
  | .edit images mask references =>
    ("operation", .string "edit") :: editFields.write ⟨images, mask, references⟩

def decodeOperation (entries : List (String × Json)) : Except DecodeError ImageOperation := do
  let (name, fields) ← takeTag "operation" entries
  match name with
  | "generate" => (generateFields.ofEntries .unknownField fields).map ImageOperation.generate
  | "edit" => (editFields.ofEntries .unknownField fields).map EditInputs.operation
  | other => .error (.unknownVariant other ["generate", "edit"])

/-! ## Requests -/

/-- The fields that every operation has. -/
structure RequestFields where
  version : String
  prompt : String
  negativePrompt : Option String
  parameters : GenerationParameters
  routing : RoutingOptions
  session : SessionOptions
  output : OutputOptions
  policies : RequestPolicies
  idempotencyKey : Option String
  timeoutMs : Option Nat
  user : Option String

def commonRequestFields : List String :=
  ["version", "prompt", "negative_prompt", "parameters", "routing", "session", "output", "policies",
    "idempotency_key", "timeout_ms", "user"]

def shortFields (index : Nat) : DecodeError :=
  .invalidLength index "struct RequestFields with 11 elements"

def requestFields : JsonFields RequestFields RequestFields :=
  Records.Fields.start RequestFields.mk
    |>.ap (defaulted "version" text RequestFields.version contractVersion) (by decide)
    |>.ap (required "prompt" text RequestFields.prompt (shortFields 1)) (by decide)
    |>.ap (optional "negative_prompt" optionText RequestFields.negativePrompt
      (.error (shortFields 2))) (by decide)
    |>.ap (defaulted "parameters" parametersCodec RequestFields.parameters {}) (by decide)
    |>.ap (defaulted "routing" routingCodec RequestFields.routing {}) (by decide)
    |>.ap (defaulted "session" sessionCodec RequestFields.session {}) (by decide)
    |>.ap (defaulted "output" outputCodec RequestFields.output {}) (by decide)
    |>.ap (defaulted "policies" policiesCodec RequestFields.policies {}) (by decide)
    |>.ap (optional "idempotency_key" optionText RequestFields.idempotencyKey
      (.error (shortFields 8))) (by decide)
    |>.ap (optional "timeout_ms" (option u64 fun _ null => by cases null) RequestFields.timeoutMs
      (.error (shortFields 9))) (by decide)
    |>.ap (optional "user" optionText RequestFields.user (.error (shortFields 10))) (by decide)

namespace ImageRequest

/-- The request without its operation. -/
def common (r : ImageRequest) : RequestFields where
  version := r.version
  prompt := r.prompt
  negativePrompt := r.negativePrompt
  parameters := r.parameters
  routing := r.routing
  session := r.session
  output := r.output
  policies := r.policies
  idempotencyKey := r.idempotencyKey
  timeoutMs := r.timeoutMs
  user := r.user

def withOperation (fields : RequestFields) (operation : ImageOperation) : ImageRequest where
  version := fields.version
  prompt := fields.prompt
  negativePrompt := fields.negativePrompt
  operation := operation
  parameters := fields.parameters
  routing := fields.routing
  session := fields.session
  output := fields.output
  policies := fields.policies
  idempotencyKey := fields.idempotencyKey
  timeoutMs := fields.timeoutMs
  user := fields.user

/-- `Serialize`: an object, whose entries have no order, with the operation flattened into it. -/
def encode (r : ImageRequest) : Json :=
  .object (requestFields.write r.common ++ encodeOperation r.operation)

/-- The fields of an operation beside its tag. -/
def operationFields (name : String) : Except DecodeError (List String) :=
  match name with
  | "generate" => .ok ["reference_images"]
  | "edit" => .ok ["images", "mask", "reference_images"]
  | other => .error (.unknownVariant other ["generate", "edit"])

def unknownField (field : String) : DecodeError :=
  .unknownField field ["version", "prompt", "negative_prompt", "operation", "reference_images",
    "images", "mask", "parameters", "routing", "session", "output", "policies", "idempotency_key",
    "timeout_ms", "user"]

def forbiddenField (field operation : String) : DecodeError :=
  .custom ("field '" ++ field ++ "' is invalid for operation '" ++ operation ++ "'")

/-- A key that some operation may have. -/
def knownField (field : String) : Bool :=
  field == "operation" || field == "reference_images" || field == "images" || field == "mask" ||
    commonRequestFields.contains field

def refuseIf (condition : Bool) (error : DecodeError) : Except DecodeError Unit :=
  if condition then .error error else .ok ()

def operationTag (object : List (String × Json)) : Except DecodeError String :=
  match object.lookup "operation" with
  | none => .error (.missingField "operation")
  | some (.string name) => .ok name
  | some _ => .error (.custom "operation must be a string")

/-- The entries of the operation and the common ones are decoded apart. -/
def decodeObject (object : List (String × Json)) : Except DecodeError ImageRequest := do
  forM object fun entry => refuseIf (!knownField entry.1) (unknownField entry.1)
  let name ← operationTag object
  let fields ← operationFields name
  forM ["images", "mask", "reference_images"] fun forbidden =>
    refuseIf ((object.lookup forbidden).isSome && !fields.contains forbidden)
      (forbiddenField forbidden name)
  let operation ← decodeOperation (("operation", .string name) :: Records.select fields object)
  let common ← requestFields.ofEntries .unknownField
    (object.filter fun entry => entry.1 != "operation" && !fields.contains entry.1)
  .ok (withOperation common operation)

/-- `Deserialize`. -/
def decode : Json → Except DecodeError ImageRequest
  | .object object => decodeObject object
  | other => .error (.invalidType other "a map")

end ImageRequest

end ImagegenBridge
