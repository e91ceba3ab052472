import ImagegenBridge.Core.RequestCodec
import ImagegenBridge.Core.Text
import ImagegenBridge.Lib.Base64
import Mathlib.Data.List.Perm.Basic

/-!
# Multipart edit forms, `edit_compatible` of `crates/server/src/compat.rs`

A form is read part by part into text fields and images, and the text fields are then read one by
one into a native request. `editRequest_iff` says which forms are accepted and for which request.
-/

namespace ImagegenBridge.Compat

open Text Outcome Decimal

def maxTextFieldBytes : Nat := 64 * 1024

/-- `ApiError::bad_request`. -/
def badRequest (message : String) : BridgeError := .new .invalidRequest message

/-! ## Fields -/

/-- The text fields of `EditFields`. -/
inductive TextField where
  | prompt | model | n | size | quality | outputFormat | outputCompression | background | moderation
  | inputFidelity | responseFormat | user | provider | negativePrompt | compatibility | revisedPrompt
  | sessionKey
  deriving DecidableEq

def TextField.names : List (String × TextField) :=
  [("prompt", .prompt), ("model", .model), ("n", .n), ("size", .size), ("quality", .quality),
    ("output_format", .outputFormat), ("output_compression", .outputCompression),
    ("background", .background), ("moderation", .moderation), ("input_fidelity", .inputFidelity),
    ("response_format", .responseFormat), ("user", .user), ("provider", .provider),
    ("negative_prompt", .negativePrompt), ("compatibility", .compatibility),
    ("revised_prompt", .revisedPrompt), ("session_key", .sessionKey)]

def TextField.named (name : String) : Option TextField := TextField.names.lookup name

structure EditFields where
  texts : TextField → Option String := fun _ => none
  images : List ImageInput := []
  references : List ImageInput := []
  mask : Option ImageInput := none

/-- One field as the multipart reader hands it out; `bytes` and `text` are none where reading the
rest of it fails. -/
structure Part where
  name : Option String
  fileName : Option String
  contentType : Option String
  bytes : Option (List UInt8)
  text : Option String

/-- `STANDARD.encode`. -/
def standardText (bytes : List UInt8) : String :=
  String.ofList ((Base64.encodePadded bytes).map fun b => Char.ofNat b.toNat)

def Part.input (part : Part) (bytes : List UInt8) : ImageInput where
  source := .base64 (standardText bytes)
  mediaType := part.contentType
  filename := part.fileName

def setTextField (fields : EditFields) (name value : String) : Outcome EditFields :=
  match TextField.named name with
  | none => .error (badRequest "multipart field is unsupported")
  | some target =>
    match fields.texts target with
    | some _ => .error (badRequest "multipart text field must not be repeated")
    | none => .ok { fields with texts := Function.update fields.texts target (some value) }

def addImage (fields : EditFields) (name : String) (input : ImageInput) : Outcome EditFields :=
  if name = "image" ∨ name = "image[]" then
    .ok { fields with images := fields.images ++ [input] }
  else if name = "reference_image" then
    .ok { fields with references := fields.references ++ [input] }
  else if name = "mask" then
    match fields.mask with
    | none => .ok { fields with mask := some input }
    | some _ => .error (badRequest "multipart mask field must not be repeated")
  else .error (badRequest "multipart image field is unsupported")

def imageFields : List String := ["image", "image[]", "reference_image", "mask"]

/-- One turn of the loop over the fields. -/
def addPart (fields : EditFields) (part : Part) : Outcome EditFields :=
  let name := part.name.getD ""
  if name ∈ imageFields then
    match part.bytes with
    | none => .error (badRequest "multipart image field is malformed")
    | some bytes => addImage fields name (part.input bytes)
  else
    match part.text with
    | none => .error (badRequest "multipart text field is malformed")
    | some value =>
      if len value > maxTextFieldBytes then
        .error (badRequest "multipart text field exceeds the byte limit")
      else setTextField fields name value

/-- The loop; none is a body that breaks off. -/
def readFields (fields : EditFields) : List (Option Part) → Outcome EditFields
  | [] => .ok fields
  | none :: _ => .error (badRequest "multipart body is malformed")
  | some part :: rest => do
    let fields ← addPart fields part
    readFields fields rest

/-! ## The request -/

def fieldInvalid (field : String) : BridgeError :=
  badRequest ("multipart " ++ field ++ " is invalid")

/-- `parse_enum`. -/
def parseEnum {α : Type} (codec : JsonCodec α) (field value : String) : Outcome α :=
  (codec.decode (.string value)).mapError fun _ => fieldInvalid field

/-- `text.parse::<u8>()`. -/
def parseU8 (text : List Char) : Option Nat :=
  if unsigned text = [] then none else accumulate (2 ^ 8) 0 (unsigned text)

/-- `parse_number::<u8>`. -/
def parseNumber (field value : String) : Outcome Nat :=
  match parseU8 value.toList with
  | some number => .ok number
  | none => .error (fieldInvalid field)

def parseSize (value : String) : Outcome ImageSize :=
  (ImageSize.fromStr value).mapError fun _ => badRequest "multipart size is invalid"

def parseResponseFormat (value : String) : Outcome ResponseFormat :=
  match value with
  | "b64_json" => .ok .b64Json
  | "url" => .ok .url
  | _ => .error (badRequest "multipart response_format is invalid")

/-- A place in a request: writing what is there changes nothing. -/
structure Setting (α : Type) where
  get : ImageRequest → α
  set : α → ImageRequest → ImageRequest
  same : ∀ request, set (get request) request = request

namespace Setting

/-- A place among the parameters. -/
def parameter {α : Type} (get : GenerationParameters → α)
    (set : α → GenerationParameters → GenerationParameters)
    (same : ∀ parameters, set (get parameters) parameters = parameters) : Setting α where
  get request := get request.parameters
  set value request := { request with parameters := set value request.parameters }
  same request := by rw [same]

def n : Setting Nat := parameter (·.n) (fun value p => { p with n := value }) fun _ => rfl
def size : Setting ImageSize := parameter (·.size) (fun value p => { p with size := value }) fun _ => rfl
def quality : Setting Quality :=
  parameter (·.quality) (fun value p => { p with quality := value }) fun _ => rfl
def outputFormat : Setting OutputFormat :=
  parameter (·.outputFormat) (fun value p => { p with outputFormat := value }) fun _ => rfl
def outputCompression : Setting (Option Nat) :=
  parameter (·.outputCompression) (fun value p => { p with outputCompression := value }) fun _ => rfl
def background : Setting Background :=
  parameter (·.background) (fun value p => { p with background := value }) fun _ => rfl
def moderation : Setting Moderation :=
  parameter (·.moderation) (fun value p => { p with moderation := value }) fun _ => rfl
def inputFidelity : Setting (Option InputFidelity) :=
  parameter (·.inputFidelity) (fun value p => { p with inputFidelity := value }) fun _ => rfl

def responseFormat : Setting ResponseFormat where
  get request := request.output.responseFormat
  set value request := { request with output := { request.output with responseFormat := value } }
  same _ := rfl

def compatibility : Setting CompatibilityMode where
  get request := request.policies.compatibility
  set value request :=
    { request with policies := { request.policies with compatibility := value } }
  same _ := rfl

def revisedPrompt : Setting RevisedPromptPolicy where
  get request := request.policies.revisedPrompt
  set value request :=
    { request with policies := { request.policies with revisedPrompt := value } }
  same _ := rfl

end Setting

/-- `if let Some(value) = text { place = parse(value)?; }`. -/
def applyText {α : Type} (text : Option String) (parse : String → Outcome α) (place : Setting α)
    (request : ImageRequest) : Outcome ImageRequest :=
  match text with
  | none => .ok request
  | some value => (parse value).map (place.set · request)

def applySession (key : Option String) (request : ImageRequest) : ImageRequest :=
  match key with
  | none => request
  | some key =>
    { request with session := { request.session with mode := .persistent, key := some key } }

def applyEditFields (request : ImageRequest) (fields : EditFields) : Outcome ImageRequest := do
  let request : ImageRequest :=
    { request with
      routing := { request.routing with
        model := fields.texts .model
        provider := fields.texts .provider }
      negativePrompt := fields.texts .negativePrompt
      user := fields.texts .user }
  let request ← applyText (fields.texts .n) (parseNumber "n") .n request
  let request ← applyText (fields.texts .size) parseSize .size request
  let request ← applyText (fields.texts .quality) (parseEnum qualityCodec "quality") .quality request
  let request ← applyText (fields.texts .outputFormat) (parseEnum outputFormatCodec "output_format")
    .outputFormat request
  let request ← applyText (fields.texts .outputCompression)
    (fun value => (parseNumber "output_compression" value).map some) .outputCompression request
  let request ← applyText (fields.texts .background) (parseEnum backgroundCodec "background")
    .background request
  let request ← applyText (fields.texts .moderation) (parseEnum moderationCodec "moderation")
    .moderation request
  let request ← applyText (fields.texts .inputFidelity)
    (fun value => (parseEnum inputFidelityCodec "input_fidelity" value).map some) .inputFidelity request
  let request ← applyText (fields.texts .responseFormat) parseResponseFormat .responseFormat request
  let request ← applyText (fields.texts .compatibility) (parseEnum compatibilityCodec "compatibility")
    .compatibility request
  let request ← applyText (fields.texts .revisedPrompt) (parseEnum revisedPromptCodec "revised_prompt")
    .revisedPrompt request
  .ok (applySession (fields.texts .sessionKey) request)

/-- `edit_compatible` up to the request it runs; none is a body that is no form. -/
def editRequest (multipart : Option (List (Option Part))) : Outcome ImageRequest :=
  match multipart with
  | none => .error (badRequest "request must be valid multipart/form-data")
  | some parts => do
    let fields ← readFields {} parts
    failIf (fields.images = []) (badRequest "multipart edit requires at least one image")
    match fields.texts .prompt with
    | none => .error (badRequest "multipart edit requires a prompt")
    | some prompt =>
      applyEditFields
        { ImageRequest.generate prompt with
          operation := .edit fields.images fields.mask fields.references } fields

/-! ## What the parsers read -/

/-- Digits after at most one plus, of a number that fits `u8`. -/
structure NumberText (number : Nat) (text : String) : Prop where
  nonempty : unsigned text.toList ≠ []
  digits : Digits (unsigned text.toList)
  spells : value (unsigned text.toList) = number
  fits : number < 2 ^ 8

theorem parseNumber_ok {field text : String} {number : Nat} :
    parseNumber field text = .ok number ↔ NumberText number text := by
  have reads : parseU8 text.toList = some number ↔ NumberText number text := by
    unfold parseU8
    by_cases empty : unsigned text.toList = []
    · rw [if_pos empty]
      constructor
      · intro impossible
        cases impossible
      · exact fun reads => absurd empty reads.nonempty
    · rw [if_neg empty, accumulate_iff (by decide)]
      constructor
      · rintro ⟨digits, spells, fits⟩
        exact ⟨empty, digits, spells, fits⟩
      · exact fun reads => ⟨reads.digits, reads.spells, reads.fits⟩
  rw [← reads, parseNumber]
  cases parseU8 text.toList with
  | none => simp
  | some read => simp

theorem mapError_ok {ε ε' α : Type} {x : Except ε α} {f : ε → ε'} {a : α} :
    x.mapError f = .ok a ↔ x = .ok a := by
  cases x with
  | error e => simp [Except.mapError]
  | ok a => simp [Except.mapError]

theorem parseSize_ok {text : String} {size : ImageSize} :
    parseSize text = .ok size ↔ size.Fits ∧ size.asStr = text := by
  rw [parseSize, mapError_ok]
  constructor
  · intro read
    obtain ⟨spelled, first, next⟩ := bind_ok.mp read
    obtain ⟨same, auto | ⟨width, height, found⟩⟩ := ImageSizeText.fromStr_iff.mp first
    · have plain : spelled = .auto := congrArg ImageSizeText.mk (same.symm.trans auto)
      subst plain
      cases next
      exact ⟨(fun _ _ impossible => nomatch impossible), auto.symm⟩
    · obtain rfl : spelled = ⟨text⟩ := congrArg ImageSizeText.mk same.symm
      have print := found.print
      rw [ImageSizeText.dimensions_matches found] at next
      have positive : 0 < value width ∧ 0 < value height :=
        ⟨numeral_positive found.first, numeral_positive found.second⟩
      have made : size = .exact (value width) (value height) positive.1 positive.2 :=
        (Except.ok.inj ((dif_pos positive).symm.trans next)).symm
      subst made
      refine ⟨?_, ((printPair_append _ _).1).trans print⟩
      intro w h same
      cases same
      exact ⟨found.widthFits, found.heightFits⟩
  · rintro ⟨fits, rfl⟩
    exact ImageSize.fromStr_asStr size fits

theorem parseEnum_ok {α : Type} {variants : List (String × α)} {wire : α → String}
    {spells : ∀ value, variants.lookup (wire value) = some value}
    (wires : ∀ entry ∈ variants, wire entry.2 = entry.1) {field text : String} {value : α} :
    parseEnum (JsonCodec.enumeration variants wire spells) field text = .ok value ↔
      wire value = text := by
  have reads : JsonCodec.variantOf variants text = .ok value ↔ wire value = text := by
    unfold JsonCodec.variantOf
    constructor
    · intro read
      split at read
      · rename_i there
        cases read
        exact wires _ (Records.lookup_mem there)
      · cases read
    · rintro rfl
      rw [spells]
  rw [← reads]
  exact mapError_ok

theorem parseResponseFormat_ok {text : String} {format : ResponseFormat} :
    parseResponseFormat text = .ok format ↔
      (format = .b64Json ∨ format = .url) ∧ format.wire = text := by
  unfold parseResponseFormat
  constructor
  · intro read
    split at read
    · cases read
      exact ⟨.inl rfl, rfl⟩
    · cases read
      exact ⟨.inr rfl, rfl⟩
    · cases read
  · rintro ⟨rfl | rfl, rfl⟩
    · rfl
    · rfl

/-! ## Forms -/

/-- What an edit form says: its images in their order, and a value for each text field it has. -/
structure EditForm where
  prompt : String
  images : List ImageInput
  references : List ImageInput := []
  mask : Option ImageInput := none
  model : Option String := none
  n : Option Nat := none
  size : Option ImageSize := none
  quality : Option Quality := none
  outputFormat : Option OutputFormat := none
  outputCompression : Option Nat := none
  background : Option Background := none
  moderation : Option Moderation := none
  inputFidelity : Option InputFidelity := none
  responseFormat : Option ResponseFormat := none
  user : Option String := none
  provider : Option String := none
  negativePrompt : Option String := none
  compatibility : Option CompatibilityMode := none
  revisedPrompt : Option RevisedPromptPolicy := none
  sessionKey : Option String := none

/-- The request that a form stands for. -/
def EditForm.request (form : EditForm) : ImageRequest where
  prompt := form.prompt
  negativePrompt := form.negativePrompt
  operation := .edit form.images form.mask form.references
  parameters := {
    n := form.n.getD 1
    size := form.size.getD .auto
    quality := form.quality.getD .auto
    outputFormat := form.outputFormat.getD .png
    outputCompression := form.outputCompression
    background := form.background.getD .auto
    moderation := form.moderation.getD .auto
    inputFidelity := form.inputFidelity }
  routing := { model := form.model, provider := form.provider }
  session := match form.sessionKey with
    | none => {}
    | some key => { mode := .persistent, key := some key }
  output := { responseFormat := form.responseFormat.getD .b64Json }
  policies := {
    compatibility := form.compatibility.getD .strict
    revisedPrompt := form.revisedPrompt.getD .include }
  user := form.user

/-- A text field is absent with its value, or spells it. -/
inductive Spelled {α : Type} (spells : α → String → Prop) : Option α → Option String → Prop
  | absent : Spelled spells none none
  | present {value : α} {text : String} (spelled : spells value text) :
      Spelled spells (some value) (some text)

/-- The texts that a form may have in its fields. -/
def EditForm.Says (form : EditForm) : TextField → Option String → Prop
  | .prompt => (· = some form.prompt)
  | .model => (· = form.model)
  | .n => Spelled NumberText form.n
  | .size => Spelled (fun size text => size.Fits ∧ size.asStr = text) form.size
  | .quality => Spelled (·.wire = ·) form.quality
  | .outputFormat => Spelled (·.wire = ·) form.outputFormat
  | .outputCompression => Spelled NumberText form.outputCompression
  | .background => Spelled (·.wire = ·) form.background
  | .moderation => Spelled (·.wire = ·) form.moderation
  | .inputFidelity => Spelled (·.wire = ·) form.inputFidelity
  | .responseFormat => Spelled (fun format text =>
      (format = .b64Json ∨ format = .url) ∧ format.wire = text) form.responseFormat
  | .user => (· = form.user)
  | .provider => (· = form.provider)
  | .negativePrompt => (· = form.negativePrompt)
  | .compatibility => Spelled (·.wire = ·) form.compatibility
  | .revisedPrompt => Spelled (·.wire = ·) form.revisedPrompt
  | .sessionKey => (· = form.sessionKey)

theorem applyText_ok {α : Type} {text : Option String} {parse : String → Outcome α}
    {place : Setting α} {request after : ImageRequest} {spells : α → String → Prop}
    (parses : ∀ {text value}, parse text = .ok value ↔ spells value text) :
    applyText text parse place request = .ok after ↔
      ∃ value, Spelled spells value text ∧ after = place.set (value.getD (place.get request)) request := by
  unfold applyText
  constructor
  · intro read
    cases text with
    | none =>
      cases read
      exact ⟨none, .absent, (place.same request).symm⟩
    | some text =>
      obtain ⟨value, parsed, rfl⟩ := Records.map_ok.mp read
      exact ⟨some value, .present (parses.mp parsed), rfl⟩
  · rintro ⟨value, spelled, rfl⟩
    cases spelled with
    | absent => exact congrArg Except.ok (place.same request).symm
    | present spelled => exact Records.map_ok.mpr ⟨_, parses.mpr spelled, rfl⟩

theorem applySome_ok {α : Type} {text : Option String} {parse : String → Outcome α}
    {place : Setting (Option α)} {request after : ImageRequest} {spells : α → String → Prop}
    (parses : ∀ {text value}, parse text = .ok value ↔ spells value text) :
    applyText text (fun text => (parse text).map some) place request = .ok after ↔
      ∃ value, Spelled spells value text ∧ after = place.set (value.or (place.get request)) request := by
  have wraps : ∀ {text value}, (parse text).map some = .ok value ↔
      ∃ inner, spells inner text ∧ value = some inner := by
    intro text value
    rw [Records.map_ok]
    simp only [parses, eq_comm]
  rw [applyText_ok wraps]
  constructor
  · rintro ⟨value, spelled, rfl⟩
    cases spelled with
    | absent => exact ⟨none, .absent, rfl⟩
    | present spelled =>
      obtain ⟨inner, spelled, rfl⟩ := spelled
      exact ⟨some inner, .present spelled, rfl⟩
  · rintro ⟨value, spelled, rfl⟩
    cases spelled with
    | absent => exact ⟨none, .absent, rfl⟩
    | present spelled => exact ⟨some (some _), .present ⟨_, spelled, rfl⟩, rfl⟩

/-- The text fields are those that a form may have, and the images are its own. -/
structure EditForm.Fields (form : EditForm) (fields : EditFields) : Prop where
  images : fields.images = form.images
  references : fields.references = form.references
  mask : fields.mask = form.mask
  texts : ∀ field, form.Says field (fields.texts field)

theorem applyEditFields_ok {fields : EditFields} {prompt : String} {request : ImageRequest}
    (prompted : fields.texts .prompt = some prompt) :
    applyEditFields
        { ImageRequest.generate prompt with
          operation := .edit fields.images fields.mask fields.references } fields = .ok request ↔
      ∃ form : EditForm, form.Fields fields ∧ request = form.request := by
  unfold applyEditFields
  constructor
  · intro read
    dsimp only at read
    obtain ⟨_, step, read⟩ := bind_ok.mp read
    obtain ⟨n, nSays, rfl⟩ := (applyText_ok parseNumber_ok).mp step
    obtain ⟨_, step, read⟩ := bind_ok.mp read
    obtain ⟨size, sizeSays, rfl⟩ := (applyText_ok parseSize_ok).mp step
    obtain ⟨_, step, read⟩ := bind_ok.mp read
    obtain ⟨quality, qualitySays, rfl⟩ := (applyText_ok (parseEnum_ok (by decide))).mp step
    obtain ⟨_, step, read⟩ := bind_ok.mp read
    obtain ⟨outputFormat, outputFormatSays, rfl⟩ := (applyText_ok (parseEnum_ok (by decide))).mp step
    obtain ⟨_, step, read⟩ := bind_ok.mp read
    obtain ⟨outputCompression, outputCompressionSays, rfl⟩ := (applySome_ok parseNumber_ok).mp step
    obtain ⟨_, step, read⟩ := bind_ok.mp read
    obtain ⟨background, backgroundSays, rfl⟩ := (applyText_ok (parseEnum_ok (by decide))).mp step
    obtain ⟨_, step, read⟩ := bind_ok.mp read
    obtain ⟨moderation, moderationSays, rfl⟩ := (applyText_ok (parseEnum_ok (by decide))).mp step
    obtain ⟨_, step, read⟩ := bind_ok.mp read
    obtain ⟨inputFidelity, inputFidelitySays, rfl⟩ := (applySome_ok (parseEnum_ok (by decide))).mp step
    obtain ⟨_, step, read⟩ := bind_ok.mp read
    obtain ⟨responseFormat, responseFormatSays, rfl⟩ := (applyText_ok parseResponseFormat_ok).mp step
    obtain ⟨_, step, read⟩ := bind_ok.mp read
    obtain ⟨compatibility, compatibilitySays, rfl⟩ := (applyText_ok (parseEnum_ok (by decide))).mp step
    obtain ⟨_, step, read⟩ := bind_ok.mp read
    obtain ⟨revisedPrompt, revisedPromptSays, rfl⟩ := (applyText_ok (parseEnum_ok (by decide))).mp step
    cases read
    refine ⟨⟨prompt, fields.images, fields.references, fields.mask, fields.texts .model, n, size, quality,
      outputFormat, outputCompression, background, moderation, inputFidelity, responseFormat,
      fields.texts .user, fields.texts .provider, fields.texts .negativePrompt, compatibility,
      revisedPrompt, fields.texts .sessionKey⟩, ⟨rfl, rfl, rfl, ?_⟩, ?_⟩
    · intro field
      cases field <;> first | assumption | rfl
    · generalize fields.texts .sessionKey = key
      cases outputCompression <;> cases inputFidelity <;> cases key <;> rfl
  · rintro ⟨⟨prompt', images, references, mask, model, n, size, quality, outputFormat,
      outputCompression, background, moderation, inputFidelity, responseFormat, user, provider,
      negativePrompt, compatibility, revisedPrompt, sessionKey⟩, ⟨rfl, rfl, rfl, texts⟩, rfl⟩
    obtain rfl : fields.texts .model = model := texts .model
    obtain rfl : fields.texts .user = user := texts .user
    obtain rfl : fields.texts .provider = provider := texts .provider
    obtain rfl : fields.texts .negativePrompt = negativePrompt := texts .negativePrompt
    obtain rfl : fields.texts .sessionKey = sessionKey := texts .sessionKey
    obtain rfl : prompt' = prompt := Option.some.inj ((texts .prompt).symm.trans prompted)
    dsimp only
    refine bind_ok.mpr ⟨_, (applyText_ok parseNumber_ok).mpr ⟨n, texts .n, rfl⟩, ?_⟩
    refine bind_ok.mpr ⟨_, (applyText_ok parseSize_ok).mpr ⟨size, texts .size, rfl⟩, ?_⟩
    refine bind_ok.mpr ⟨_, (applyText_ok (parseEnum_ok (by decide))).mpr ⟨quality, texts .quality, rfl⟩, ?_⟩
    refine bind_ok.mpr ⟨_, (applyText_ok (parseEnum_ok (by decide))).mpr ⟨outputFormat, texts .outputFormat, rfl⟩, ?_⟩
    refine bind_ok.mpr ⟨_, (applySome_ok parseNumber_ok).mpr ⟨outputCompression, texts .outputCompression, rfl⟩, ?_⟩
    refine bind_ok.mpr ⟨_, (applyText_ok (parseEnum_ok (by decide))).mpr ⟨background, texts .background, rfl⟩, ?_⟩
    refine bind_ok.mpr ⟨_, (applyText_ok (parseEnum_ok (by decide))).mpr ⟨moderation, texts .moderation, rfl⟩, ?_⟩
    refine bind_ok.mpr ⟨_, (applySome_ok (parseEnum_ok (by decide))).mpr ⟨inputFidelity, texts .inputFidelity, rfl⟩, ?_⟩
    refine bind_ok.mpr ⟨_, (applyText_ok parseResponseFormat_ok).mpr ⟨responseFormat, texts .responseFormat, rfl⟩, ?_⟩
    refine bind_ok.mpr ⟨_, (applyText_ok (parseEnum_ok (by decide))).mpr ⟨compatibility, texts .compatibility, rfl⟩, ?_⟩
    refine bind_ok.mpr ⟨_, (applyText_ok (parseEnum_ok (by decide))).mpr ⟨revisedPrompt, texts .revisedPrompt, rfl⟩, ?_⟩
    apply congrArg Except.ok
    generalize fields.texts .sessionKey = key
    cases outputCompression <;> cases inputFidelity <;> cases key <;> rfl

/-! ## The parts -/

/-- What one part says. -/
inductive Item where
  | image (input : ImageInput)
  | reference (input : ImageInput)
  | mask (input : ImageInput)
  | text (field : TextField) (value : String)

/-- A part that can be read by itself, and what it says. -/
inductive Part.Reads (part : Part) : Item → Prop
  | image {bytes : List UInt8} (named : part.name = some "image" ∨ part.name = some "image[]")
      (whole : part.bytes = some bytes) : Reads part (.image (part.input bytes))
  | reference {bytes : List UInt8} (named : part.name = some "reference_image")
      (whole : part.bytes = some bytes) : Reads part (.reference (part.input bytes))
  | mask {bytes : List UInt8} (named : part.name = some "mask") (whole : part.bytes = some bytes) :
      Reads part (.mask (part.input bytes))
  | text {name value : String} {field : TextField} (named : part.name = some name)
      (known : (name, field) ∈ TextField.names) (whole : part.text = some value)
      (short : len value ≤ maxTextFieldBytes) : Reads part (.text field value)

/-- The mask and each text field have one place. -/
def Item.place : Item → Option (Option TextField)
  | .image _ | .reference _ => none
  | .mask _ => some none
  | .text field _ => some (some field)

def EditFields.add (fields : EditFields) : Item → EditFields
  | .image input => { fields with images := fields.images ++ [input] }
  | .reference input => { fields with references := fields.references ++ [input] }
  | .mask input => { fields with mask := some input }
  | .text field value => { fields with texts := Function.update fields.texts field (some value) }

/-- What stands in the mask's place or in a text field's. -/
def EditFields.Taken (fields : EditFields) : Option TextField → Prop
  | none => fields.mask ≠ none
  | some field => fields.texts field ≠ none

theorem named_iff {name : String} {field : TextField} :
    TextField.named name = some field ↔ (name, field) ∈ TextField.names := by
  constructor
  · exact Records.lookup_mem
  · intro known
    have table : ∀ entry ∈ TextField.names, TextField.named entry.1 = some entry.2 := by decide
    exact table _ known

theorem names_apart {name : String} {field : TextField} (known : (name, field) ∈ TextField.names) :
    name ∉ imageFields := by
  have table : ∀ entry ∈ TextField.names, entry.1 ∉ imageFields := by decide
  exact table _ known

theorem setTextField_ok {fields after : EditFields} {name value : String} :
    setTextField fields name value = .ok after ↔ ∃ field, (name, field) ∈ TextField.names ∧
      ¬fields.Taken (some field) ∧ after = fields.add (.text field value) := by
  unfold setTextField
  constructor
  · intro set
    split at set
    · cases set
    · rename_i field named
      split at set
      · cases set
      · rename_i free
        cases set
        exact ⟨field, named_iff.mp named, not_not_intro free, rfl⟩
  · rintro ⟨field, known, free, rfl⟩
    rw [named_iff.mpr known]
    dsimp only
    rw [not_not.mp free]
    rfl

theorem getD_empty {name : Option String} {known : String} (filled : known ≠ "") :
    name.getD "" = known ↔ name = some known := by
  cases name with
  | none => simp [filled.symm]
  | some name => simp

/-- A part is added exactly if it can be read and its place is free. -/
theorem addPart_ok {fields after : EditFields} {part : Part} :
    addPart fields part = .ok after ↔ ∃ item, part.Reads item ∧
      (∀ place ∈ item.place, ¬fields.Taken place) ∧ after = fields.add item := by
  unfold addPart
  dsimp only
  constructor
  · intro added
    split at added
    · split at added
      · cases added
      · rename_i bytes whole
        unfold addImage at added
        split at added
        · rename_i named
          cases added
          refine ⟨_, .image ?_ whole, ?_, rfl⟩
          · exact named.imp (getD_empty (by decide)).mp (getD_empty (by decide)).mp
          · simp [Item.place]
        · split at added
          · rename_i named
            cases added
            exact ⟨_, .reference ((getD_empty (by decide)).mp named) whole, by simp [Item.place], rfl⟩
          · split at added
            · rename_i named
              split at added
              · rename_i free
                cases added
                refine ⟨_, .mask ((getD_empty (by decide)).mp named) whole, ?_, rfl⟩
                rintro _ ⟨⟩
                exact not_not_intro free
              · cases added
            · cases added
    · split at added
      · cases added
      · rename_i value whole
        split at added
        · cases added
        · rename_i short
          obtain ⟨field, known, free, rfl⟩ := setTextField_ok.mp added
          have filled : ∀ entry ∈ TextField.names, entry.1 ≠ "" := by decide
          refine ⟨_, .text ((getD_empty (filled _ known)).mp rfl) known whole (Nat.le_of_not_lt short),
            ?_, rfl⟩
          rintro _ ⟨⟩
          exact free
  · rintro ⟨item, reads, free, rfl⟩
    cases reads with
    | image named whole =>
      obtain named | named := named
      · rw [named, whole]
        rfl
      · rw [named, whole]
        rfl
    | reference named whole =>
      rw [named, whole]
      rfl
    | mask named whole =>
      rw [named, whole]
      have empty : fields.mask = none := not_not.mp (free none rfl)
      show addImage fields "mask" _ = _
      rw [addImage, if_neg (by decide), if_neg (by decide), if_pos rfl, empty]
      rfl
    | text named known whole short =>
      rw [named, whole, Option.getD_some, if_neg (names_apart known)]
      dsimp only
      rw [if_neg (Nat.not_lt.mpr short)]
      exact setTextField_ok.mpr ⟨_, known, free _ rfl, rfl⟩

/-! ## The whole form -/

theorem taken_add {fields : EditFields} {item : Item} {place : Option TextField} :
    (fields.add item).Taken place ↔ item.place = some place ∨ fields.Taken place := by
  cases item with
  | image input => cases place <;> simp [EditFields.add, EditFields.Taken, Item.place]
  | reference input => cases place <;> simp [EditFields.add, EditFields.Taken, Item.place]
  | mask input => cases place <;> simp [EditFields.add, EditFields.Taken, Item.place]
  | text field value =>
    cases place with
    | none => simp [EditFields.add, EditFields.Taken, Item.place]
    | some other =>
      by_cases same : other = field
      · subst same
        simp [EditFields.add, EditFields.Taken, Item.place]
      · simp [EditFields.add, EditFields.Taken, Item.place, Function.update_of_ne same, Ne.symm same]

/-- No place is taken twice. -/
structure EditFields.Apart (fields : EditFields) (items : List Item) : Prop where
  once : (items.filterMap Item.place).Nodup
  free : ∀ place ∈ items.filterMap Item.place, ¬fields.Taken place

theorem apart_cons {fields : EditFields} {item : Item} {items : List Item} :
    fields.Apart (item :: items) ↔
      (∀ place ∈ item.place, ¬fields.Taken place) ∧ (fields.add item).Apart items := by
  have added : ∀ place, (fields.add item).Taken place ↔ item.place = some place ∨ fields.Taken place :=
    fun _ => taken_add
  cases placed : item.place with
  | none =>
    rw [placed] at added
    constructor
    · rintro ⟨once, free⟩
      rw [List.filterMap_cons_none placed] at once free
      refine ⟨(fun _ impossible => nomatch impossible), once, fun place among taken => ?_⟩
      exact ((added place).mp taken).elim (fun impossible => nomatch impossible) (free place among)
    · rintro ⟨_, once, free⟩
      constructor
      · rwa [List.filterMap_cons_none placed]
      · rw [List.filterMap_cons_none placed]
        exact fun place among taken => free place among ((added place).mpr (.inr taken))
  | some own =>
    rw [placed] at added
    constructor
    · rintro ⟨once, free⟩
      rw [List.filterMap_cons_some placed] at once free
      obtain ⟨fresh, once⟩ := List.nodup_cons.mp once
      obtain ⟨here, free⟩ := List.forall_mem_cons.mp free
      refine ⟨?_, once, fun place among taken => ?_⟩
      · rintro _ ⟨⟩
        exact here
      · obtain same | taken := (added place).mp taken
        · cases same
          exact fresh among
        · exact free place among taken
    · rintro ⟨here, once, free⟩
      constructor
      · rw [List.filterMap_cons_some placed, List.nodup_cons]
        exact ⟨fun among => free own among ((added own).mpr (.inl rfl)), once⟩
      · rw [List.filterMap_cons_some placed, List.forall_mem_cons]
        exact ⟨here own rfl, fun place among taken => free place among ((added place).mpr (.inr taken))⟩

/-- The loop accepts the parts that can be read, as long as no place is taken twice. -/
theorem readFields_ok {fields after : EditFields} {body : List (Option Part)} :
    readFields fields body = .ok after ↔ ∃ parts items, body = parts.map some ∧
      List.Forall₂ Part.Reads parts items ∧ fields.Apart items ∧
      after = items.foldl EditFields.add fields := by
  induction body generalizing fields with
  | nil =>
    constructor
    · intro read
      cases read
      exact ⟨[], [], rfl, .nil, ⟨List.nodup_nil, List.forall_mem_nil _⟩, rfl⟩
    · rintro ⟨parts, items, same, reads, _, rfl⟩
      rw [List.map_eq_nil_iff.mp same.symm] at reads
      cases reads
      rfl
  | cons part rest ih =>
    cases part with
    | none =>
      constructor
      · intro impossible
        cases impossible
      · rintro ⟨parts, items, same, _⟩
        cases parts <;> cases same
    | some part =>
      rw [readFields, bind_ok]
      simp only [addPart_ok, ih]
      constructor
      · rintro ⟨_, ⟨item, reads, free, rfl⟩, parts, items, rfl, each, apart, rfl⟩
        exact ⟨part :: parts, item :: items, rfl, .cons reads each, apart_cons.mpr ⟨free, apart⟩, rfl⟩
      · rintro ⟨parts, items, same, each, apart, rfl⟩
        cases each with
        | nil => cases same
        | cons reads each =>
          cases same
          obtain ⟨free, apart⟩ := apart_cons.mp apart
          exact ⟨_, ⟨_, reads, free, rfl⟩, _, _, rfl, each, apart, rfl⟩

def Item.image? : Item → Option ImageInput
  | .image input => some input
  | _ => none

def Item.reference? : Item → Option ImageInput
  | .reference input => some input
  | _ => none

/-- The fields of some items: images in their order, and what stands in each place. -/
structure EditFields.Holds (fields : EditFields) (items : List Item) : Prop where
  images : fields.images = items.filterMap Item.image?
  references : fields.references = items.filterMap Item.reference?
  mask : ∀ input, fields.mask = some input ↔ .mask input ∈ items
  texts : ∀ field value, fields.texts field = some value ↔ .text field value ∈ items

theorem add_mask {fields : EditFields} {item : Item} {input : ImageInput}
    (free : ∀ place ∈ item.place, ¬fields.Taken place) :
    (fields.add item).mask = some input ↔ fields.mask = some input ∨ item = .mask input := by
  cases item with
  | mask own =>
    have empty : fields.mask = none := not_not.mp (free none rfl)
    simp [EditFields.add, empty]
  | _ => simp [EditFields.add]

theorem add_texts {fields : EditFields} {item : Item} {field : TextField} {value : String}
    (free : ∀ place ∈ item.place, ¬fields.Taken place) :
    (fields.add item).texts field = some value ↔
      fields.texts field = some value ∨ item = .text field value := by
  cases item with
  | text own text =>
    have empty : fields.texts own = none := not_not.mp (free _ rfl)
    by_cases same : field = own
    · subst same
      simp [EditFields.add, empty]
    · simp [EditFields.add, Function.update_of_ne same, Ne.symm same]
  | _ => simp [EditFields.add]

theorem add_images (fields : EditFields) (item : Item) :
    (fields.add item).images = fields.images ++ item.image?.toList ∧
      (fields.add item).references = fields.references ++ item.reference?.toList := by
  cases item <;> simp [EditFields.add, Item.image?, Item.reference?]

theorem filterMap_cons_toList {α β : Type} (f : α → Option β) (a : α) (rest : List α) :
    (a :: rest).filterMap f = (f a).toList ++ rest.filterMap f := by
  cases found : f a with
  | none => rw [List.filterMap_cons_none found]; rfl
  | some b => rw [List.filterMap_cons_some found]; rfl

/-- Adding items that are apart adds what they say. -/
theorem foldl_add {fields : EditFields} {items : List Item} (apart : fields.Apart items) :
    (items.foldl EditFields.add fields).images = fields.images ++ items.filterMap Item.image? ∧
      (items.foldl EditFields.add fields).references =
        fields.references ++ items.filterMap Item.reference? ∧
      (∀ input, (items.foldl EditFields.add fields).mask = some input ↔
        fields.mask = some input ∨ .mask input ∈ items) ∧
      ∀ field value, (items.foldl EditFields.add fields).texts field = some value ↔
        fields.texts field = some value ∨ .text field value ∈ items := by
  induction items generalizing fields with
  | nil => simp
  | cons item rest ih =>
    obtain ⟨free, later⟩ := apart_cons.mp apart
    obtain ⟨images, references, mask, texts⟩ := ih later
    obtain ⟨imagesHere, referencesHere⟩ := add_images fields item
    rw [List.foldl_cons]
    refine ⟨?_, ?_, fun input => ?_, fun field value => ?_⟩
    · rw [images, imagesHere, filterMap_cons_toList, List.append_assoc]
    · rw [references, referencesHere, filterMap_cons_toList, List.append_assoc]
    · rw [mask, add_mask free, List.mem_cons, or_assoc, eq_comm (b := item)]
    · rw [texts, add_texts free, List.mem_cons, or_assoc, eq_comm (b := item)]

theorem foldl_holds {items : List Item} (apart : EditFields.Apart {} items) :
    (items.foldl EditFields.add {}).Holds items := by
  obtain ⟨images, references, mask, texts⟩ := foldl_add apart
  constructor
  · simpa using images
  · simpa using references
  · intro input
    simpa using mask input
  · intro field value
    simpa using texts field value

/-! ## Accepted forms -/

/-- The items say what the form says, in any order but that of the images and the references. -/
structure EditForm.Spells (form : EditForm) (items : List Item) : Prop where
  once : (items.filterMap Item.place).Nodup
  images : items.filterMap Item.image? = form.images
  references : items.filterMap Item.reference? = form.references
  mask : ∀ input, .mask input ∈ items ↔ form.mask = some input
  texts : ∀ field, ∃ text, form.Says field text ∧
    ∀ value, .text field value ∈ items ↔ text = some value

theorem editRequest_ok {body : List (Option Part)} {request : ImageRequest} :
    editRequest (some body) = .ok request ↔ ∃ (fields : EditFields) (form : EditForm),
      readFields {} body = .ok fields ∧ form.Fields fields ∧ form.images ≠ [] ∧
      request = form.request := by
  constructor
  · intro accepted
    obtain ⟨fields, read, next⟩ := bind_ok.mp accepted
    obtain ⟨_, pictured, next⟩ := bind_ok.mp next
    rw [failIf_ok] at pictured
    split at next
    · cases next
    · rename_i prompt prompted
      obtain ⟨form, fits, rfl⟩ := (applyEditFields_ok prompted).mp next
      exact ⟨fields, form, read, fits, by rwa [← fits.images], rfl⟩
  · rintro ⟨fields, form, read, fits, pictured, rfl⟩
    have prompted : fields.texts .prompt = some form.prompt := fits.texts .prompt
    refine bind_ok.mpr ⟨fields, read, bind_ok.mpr ⟨(), ?_, ?_⟩⟩
    · rw [failIf_ok, fits.images]
      exact pictured
    · rw [prompted]
      exact (applyEditFields_ok prompted).mpr ⟨form, fits, rfl⟩

/-- A form's fields hold what its items say. -/
theorem EditFields.Holds.fits {fields : EditFields} {items : List Item} {form : EditForm}
    (holds : fields.Holds items) (once : (items.filterMap Item.place).Nodup) :
    form.Fields fields ↔ form.Spells items := by
  constructor
  · intro fits
    constructor
    · exact once
    · rw [← holds.images, fits.images]
    · rw [← holds.references, fits.references]
    · intro input
      rw [← holds.mask, fits.mask]
    · exact fun field => ⟨_, fits.texts field, fun value => (holds.texts field value).symm⟩
  · intro spells
    constructor
    · rw [holds.images, spells.images]
    · rw [holds.references, spells.references]
    · apply Option.ext
      intro input
      rw [holds.mask, spells.mask]
    · intro field
      obtain ⟨text, own, among⟩ := spells.texts field
      have equal : fields.texts field = text := by
        apply Option.ext
        intro value
        rw [holds.texts, among]
      rwa [equal]

/-- Exactly the bodies whose parts can be read, spell a form with an image and take no place twice
are accepted, each for its form's request. -/
theorem editRequest_iff (multipart : Option (List (Option Part))) (request : ImageRequest) :
    editRequest multipart = .ok request ↔
      ∃ (parts : List Part) (items : List Item) (form : EditForm),
        multipart = some (parts.map some) ∧ List.Forall₂ Part.Reads parts items ∧
        form.Spells items ∧ form.images ≠ [] ∧ request = form.request := by
  cases multipart with
  | none =>
    constructor
    · intro impossible
      cases impossible
    · rintro ⟨_, _, _, impossible, _⟩
      cases impossible
  | some body =>
    rw [editRequest_ok]
    constructor
    · rintro ⟨fields, form, read, fits, pictured, rfl⟩
      obtain ⟨parts, items, rfl, reads, apart, rfl⟩ := readFields_ok.mp read
      have spells := ((foldl_holds apart).fits apart.once).mp fits
      exact ⟨parts, items, form, rfl, reads, spells, pictured, rfl⟩
    · rintro ⟨parts, items, form, same, reads, spells, pictured, rfl⟩
      cases same
      have apart : EditFields.Apart {} items :=
        ⟨spells.once, fun place _ taken => by cases place <;> exact taken rfl⟩
      have fits := ((foldl_holds apart).fits apart.once).mpr spells
      exact ⟨_, form, readFields_ok.mpr ⟨parts, items, rfl, reads, apart, rfl⟩, fits, pictured, rfl⟩

/-! ## The order of the parts -/

def Part.isImage (part : Part) : Bool := part.name == some "image" || part.name == some "image[]"

def Part.isReference (part : Part) : Bool := part.name == some "reference_image"

/-- An image that has been read. -/
def Part.read (part : Part) : ImageInput := part.input (part.bytes.getD [])

theorem reads_pictures {part : Part} {item : Item} (reads : part.Reads item) :
    item.image? = (if part.isImage then some part.read else none) ∧
      item.reference? = (if part.isReference then some part.read else none) := by
  cases reads with
  | image named whole =>
    obtain named | named := named
    · simp [Item.image?, Item.reference?, Part.isImage, Part.isReference, Part.read, named, whole]
    · simp [Item.image?, Item.reference?, Part.isImage, Part.isReference, Part.read, named, whole]
  | reference named whole =>
    simp [Item.image?, Item.reference?, Part.isImage, Part.isReference, Part.read, named, whole]
  | mask named whole =>
    simp [Item.image?, Item.reference?, Part.isImage, Part.isReference, named]
  | text named known whole short =>
    have apart := names_apart known
    simp only [imageFields, List.mem_cons, List.not_mem_nil, or_false, not_or] at apart
    simp [Item.image?, Item.reference?, Part.isImage, Part.isReference, named, apart]

/-- The images and the references that are read stand in the order of their parts. -/
theorem reads_ordered {parts : List Part} {items : List Item}
    (each : List.Forall₂ Part.Reads parts items) :
    items.filterMap Item.image? = (parts.filter Part.isImage).map Part.read ∧
      items.filterMap Item.reference? = (parts.filter Part.isReference).map Part.read := by
  induction each with
  | nil => exact ⟨rfl, rfl⟩
  | @cons part item parts items reads each ih =>
    obtain ⟨image, reference⟩ := reads_pictures reads
    rw [filterMap_cons_toList, filterMap_cons_toList, image, reference, ih.1, ih.2, List.filter_cons,
      List.filter_cons]
    constructor
    · cases part.isImage <;> rfl
    · cases part.isReference <;> rfl

theorem EditFields.Holds.same {fields other : EditFields} {items items' : List Item}
    (first : fields.Holds items) (second : other.Holds items') (perm : items.Perm items')
    (images : fields.images = other.images) (references : fields.references = other.references) :
    fields = other := by
  have masks : fields.mask = other.mask := by
    apply Option.ext
    intro input
    rw [first.mask, second.mask, perm.mem_iff]
  have texts : fields.texts = other.texts := by
    funext field
    apply Option.ext
    intro value
    rw [first.texts, second.texts, perm.mem_iff]
  cases fields
  cases other
  cases images
  cases references
  cases masks
  cases texts
  rfl

/-- Reading the parts in another order that keeps that of the images and of the references gives
the same fields. -/
theorem readFields_reordered {parts parts' : List Part} {fields : EditFields}
    (perm : parts.Perm parts') (images : parts.filter Part.isImage = parts'.filter Part.isImage)
    (references : parts.filter Part.isReference = parts'.filter Part.isReference)
    (read : readFields {} (parts.map some) = .ok fields) :
    readFields {} (parts'.map some) = .ok fields := by
  obtain ⟨_, items, same, reads, apart, rfl⟩ := readFields_ok.mp read
  obtain rfl := List.map_injective_iff.mpr (Option.some_injective Part) same
  obtain ⟨items', reads', perm'⟩ := List.perm_comp_forall₂ perm.symm reads
  have apart' : EditFields.Apart {} items' := by
    have places := perm'.filterMap Item.place
    exact ⟨places.nodup_iff.mpr apart.once, fun place among => apart.free place (places.mem_iff.mp among)⟩
  have first := foldl_holds apart
  have second := foldl_holds apart'
  have equal := second.same first perm'
    (by rw [second.images, first.images, (reads_ordered reads').1, (reads_ordered reads).1, images])
    (by rw [second.references, first.references, (reads_ordered reads').2, (reads_ordered reads).2,
      references])
  exact readFields_ok.mpr ⟨parts', items', rfl, reads', apart', equal.symm⟩

/-- The order of the parts decides the order of the images and of the references, and which error
refuses a form, but neither whether a form is accepted nor for which request. -/
theorem editRequest_reordered {parts parts' : List Part} (perm : parts.Perm parts')
    (images : parts.filter Part.isImage = parts'.filter Part.isImage)
    (references : parts.filter Part.isReference = parts'.filter Part.isReference) :
    (editRequest (some (parts.map some))).toOption = (editRequest (some (parts'.map some))).toOption := by
  have along : ∀ {fields}, readFields {} (parts.map some) = .ok fields ↔
      readFields {} (parts'.map some) = .ok fields := fun {_} =>
    ⟨readFields_reordered perm images references,
      readFields_reordered perm.symm images.symm references.symm⟩
  unfold editRequest
  dsimp only
  cases first : readFields {} (parts.map some) with
  | ok fields => rw [along.mp first]
  | error e =>
    cases second : readFields {} (parts'.map some) with
    | ok fields => cases first.symm.trans (along.mpr second)
    | error e' => rfl

def textPart (name value : String) : Part := ⟨some name, none, none, some [], some value⟩

def pixelPart : Part := ⟨some "image", some "pixel.png", some "image/png", some [0x89], none⟩

/-- A prompt after its image, and before it. -/
theorem pixel_reordered :
    editRequest (some [some pixelPart, some (textPart "prompt" "brighter")]) =
        .ok (EditForm.request { prompt := "brighter", images := [pixelPart.read] }) ∧
      (editRequest (some [some pixelPart, some (textPart "prompt" "brighter")])).toOption =
        (editRequest (some [some (textPart "prompt" "brighter"), some pixelPart])).toOption :=
  ⟨rfl, @editRequest_reordered [pixelPart, textPart "prompt" "brighter"]
    [textPart "prompt" "brighter", pixelPart] (.swap ..) rfl rfl⟩

end ImagegenBridge.Compat
