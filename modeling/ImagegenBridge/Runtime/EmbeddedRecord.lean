import Mathlib.Algebra.Order.BigOperators.Group.List
import ImagegenBridge.Jobs.Encoding
import ImagegenBridge.Runtime.Fallback

/-!
# The embedded record

`EmbeddedArtifactMetadata` of `crates/runtime/src/materialize.rs` as `serde_json` writes
it, and how many bytes that takes. A character takes up to six bytes.
-/

namespace ImagegenBridge

namespace EmbeddedRecord

open Materialize Text
open Jobs (escape quote bracket objectText mapText encodeJson encodeItems encodeFields)

abbrev Fields := List (String × Json)

/-- `skip_serializing_if`: an absent member is not written. -/
def optionalField (name : String) (value : Option Json) : Fields :=
  (value.map fun value => (name, value)).toList

def optionalString (name : String) (value : Option String) : Fields :=
  optionalField name (value.map Json.string)

def optionalNumber (name : String) (value : Option Nat) : Fields :=
  optionalField name (value.map fun number => .integer number)

/-- A member that is not written when it is empty. -/
def listField (name : String) (items : List Json) : Fields :=
  if items.isEmpty then [] else [(name, .array items)]

def parametersJson (p : GenerationParameters) : Json :=
  .object ([("n", .integer p.n), ("size", .string p.size.asStr)]
    ++ optionalString "aspect_ratio" (p.aspectRatio.map AspectRatio.asStr)
    ++ optionalString "resolution" (p.resolution.map Resolution.wire)
    ++ [("quality", .string p.quality.wire), ("output_format", .string p.outputFormat.wire)]
    ++ optionalNumber "output_compression" p.outputCompression
    ++ [("background", .string p.background.wire), ("moderation", .string p.moderation.wire),
        ("partial_images", .integer p.partialImages),
        ("failure_policy", .string p.failurePolicy.wire)]
    ++ optionalString "input_fidelity" (p.inputFidelity.map InputFidelity.wire)
    ++ [("action", .string p.action.wire)])

def policiesJson (policies : RequestPolicies) : Json :=
  .object [("compatibility", .string policies.compatibility.wire),
    ("negative_prompt", .string policies.negativePrompt.wire),
    ("revised_prompt", .string policies.revisedPrompt.wire),
    ("batch_execution", .string policies.batchExecution.wire)]

/-- `operation_summary`: how many inputs there were, not which. -/
def operationSummary (operation : ImageOperation) : Json :=
  .object [("kind", .string (match operation with
      | .generate _ => "generate" | .edit .. => "edit")),
    ("input_images", .integer operation.editImages.length),
    ("reference_images", .integer operation.referenceImages.length),
    ("mask", .bool operation.mask.isSome)]

def normalizationJson (note : Normalization) : Json :=
  .object ([("field", .string note.field)]
    ++ optionalField "requested" note.requested
    ++ optionalField "effective" note.effective
    ++ [("reason", .string note.reason)])

def usageJson (usage : Usage) : Json :=
  .object (optionalNumber "input_tokens" usage.inputTokens
    ++ optionalNumber "output_tokens" usage.outputTokens
    ++ optionalNumber "total_tokens" usage.totalTokens
    ++ if usage.provider.isEmpty then []
      else [("provider", .object (usage.provider.map fun (name, count) => (name, .integer count)))])

def sessionJson (session : SessionMetadata) : Json :=
  .object (optionalString "key" session.key ++ optionalString "thread_id" session.threadId
    ++ [("reused", .bool session.reused)])

/-- The members of the record, in the order of the struct. -/
def recordFields (original effective : ImageRequest) (response : ImageResponse)
    (image : VerifiedImage) : Fields :=
  [("version", .integer 1), ("kind", .string "imagegen_bridge_generation"),
    ("request_id", .string response.id), ("created", .integer response.created),
    ("operation", operationSummary original.operation),
    ("original_prompt", .string original.prompt)]
    ++ optionalString "effective_prompt"
      (if original.prompt = effective.prompt then none else some effective.prompt)
    ++ optionalString "negative_prompt" original.negativePrompt
    ++ [("policies", policiesJson effective.policies), ("provider", .string response.provider),
      ("model", .string response.model), ("requested", parametersJson response.requested),
      ("effective", parametersJson response.effective)]
    ++ listField "normalizations" (response.normalizations.map normalizationJson)
    ++ optionalString "revised_prompt" response.revisedPrompt
    ++ optionalField "usage" (response.usage.map usageJson)
    ++ optionalField "session" (response.session.map sessionJson)
    ++ [("timings", .object ([("queue_ms", .integer response.timings.queueMs),
      ("provider_ms", .integer response.timings.providerMs)]
      ++ optionalNumber "generation_ms" image.generationMs))]
    ++ listField "warnings" (response.warnings.map Json.string)
    ++ [("image", .object [("index", .integer image.index),
      ("format", .string image.metadata.format.wire), ("width", .integer image.metadata.width),
      ("height", .integer image.metadata.height)])]

/-- The record without some members, which it names. -/
def withoutFields (fields : Fields) (omitted : List String) : Fields :=
  fields.filter (fun field => !omitted.contains field.1)
    ++ listField "omitted_fields" (omitted.map Json.string)

/-- The bytes of a text. -/
def utf8 (text : String) : Bytes := text.toList.flatMap String.utf8EncodeChar

def encodeRecord (original effective : ImageRequest) (response : ImageResponse)
    (image : VerifiedImage) (omitted : List String) : Option Bytes :=
  some (utf8 (encodeJson (.object (withoutFields (recordFields original effective response image)
    omitted))))

/-- A world with this encoder. -/
def recording (world : World) : World := { world with encodeEmbedded := encodeRecord }

/-! ## Sizes -/

/-- What one character takes inside quotes. -/
def charBytes (c : Char) : Nat :=
  if c.toNat = 0x22 ∨ c.toNat = 0x5C ∨ c.toNat = 0x08 ∨ c.toNat = 0x09 ∨ c.toNat = 0x0A
      ∨ c.toNat = 0x0C ∨ c.toNat = 0x0D then 2
  else if c.toNat < 0x20 then 6
  else c.utf8Size

def textBytes (text : String) : Nat := 2 + (text.toList.map charBytes).sum

mutual

def jsonBytes : Json → Nat
  | .null => 4
  | .bool value => if value then 4 else 5
  | .integer value => len (toString value)
  | .decimal text => len text
  | .string value => textBytes value
  | .array items => 2 + itemsBytes items + (items.length - 1)
  | .object fields => 2 + fieldsBytes fields + (fields.length - 1)

def itemsBytes : List Json → Nat
  | [] => 0
  | item :: rest => jsonBytes item + itemsBytes rest

/-- A member takes its quoted key, a colon and its value. -/
def fieldsBytes : List (String × Json) → Nat
  | [] => 0
  | (key, value) :: rest => textBytes key + 1 + jsonBytes value + fieldsBytes rest

end

theorem len_ofList (chars : List Char) :
    len (String.ofList chars) = (chars.map Char.utf8Size).sum := by
  induction chars with
  | nil => rfl
  | cons c rest ih =>
    rw [← List.singleton_append, String.ofList_append, len_append, ih, ← String.singleton_eq_ofList,
      len, String.utf8ByteSize_singleton, List.map_append, List.sum_append, List.map_singleton,
      List.sum_singleton]

@[simp] theorem length_utf8 (text : String) : (utf8 text).length = len text := by
  have whole := len_ofList text.toList
  rw [String.ofList_toList] at whole
  rw [whole, utf8, List.length_flatMap]
  simp only [String.length_utf8EncodeChar]

theorem len_join (parts : List String) : len (String.join parts) = (parts.map len).sum := by
  induction parts with
  | nil => rfl
  | cons part rest ih =>
    rw [String.join_cons, len_append, ih, List.map_cons, List.sum_cons]

theorem len_bracket (opening closing : String) (parts : List String) :
    len (bracket opening closing parts) =
      len opening + (parts.map len).sum + (parts.length - 1) + len closing := by
  have inner : len (",".intercalate parts) = (parts.map len).sum + (parts.length - 1) := by
    induction parts with
    | nil => rfl
    | cons part rest ih =>
      by_cases last : rest = []
      · subst last
        simp
      · have more : rest.length ≠ 0 := by simpa using last
        have comma : len "," = 1 := by decide
        rw [String.intercalate_cons_of_ne_nil last, len_append, len_append, ih, List.map_cons,
          List.sum_cons, List.length_cons]
        omega
  rw [bracket, len_append, len_append, inner]
  omega

theorem len_escape (c : Char) : len (escape c) = charBytes c := by
  unfold escape charBytes
  split
  case h_8 n quote backslash backspace tab newline feed carriage =>
    have plain : ¬(c.toNat = 0x22 ∨ c.toNat = 0x5C ∨ c.toNat = 0x08 ∨ c.toNat = 0x09
        ∨ c.toNat = 0x0A ∨ c.toNat = 0x0C ∨ c.toNat = 0x0D) := by
      rintro (same | same | same | same | same | same | same) <;> contradiction
    rw [if_neg plain]
    split
    · rename_i control
      have digit : ∀ d < 16, (Nat.digitChar d).utf8Size = 1 := by decide
      have opening : len "\\u00" = 4 := by decide
      rw [len_append, opening, len_ofList]
      simp only [List.map_cons, List.map_nil, List.sum_cons, List.sum_nil]
      rw [digit _ (by omega), digit _ (by omega)]
      rfl
    · rw [len_ofList]
      simp
  all_goals
    rw [if_pos (by omega)]
    decide

theorem len_quote (text : String) : len (quote text) = textBytes text := by
  have mark : len "\"" = 1 := by decide
  unfold quote textBytes
  rw [len_append, len_append, len_join, List.map_map, mark]
  have each : (len ∘ escape) = charBytes := funext len_escape
  rw [each]
  omega

theorem length_encodeFields (fields : Fields) : (encodeFields fields).length = fields.length := by
  induction fields with
  | nil => rfl
  | cons field rest ih =>
    obtain ⟨key, value⟩ := field
    rw [encodeFields, List.length_cons, ih, List.length_cons]

theorem length_encodeItems (items : List Json) : (encodeItems items).length = items.length := by
  induction items with
  | nil => rfl
  | cons item rest ih => rw [encodeItems, List.length_cons, ih, List.length_cons]

theorem len_objectText (fields : List (String × String)) : len (objectText fields) =
    2 + (fields.map fun field => textBytes field.1 + 1 + len field.2).sum + (fields.length - 1) := by
  have opening : len "\x7b" = 1 := by decide
  have closing : len "\x7d" = 1 := by decide
  have colon : len ":" = 1 := by decide
  unfold objectText
  rw [len_bracket, List.map_map, List.length_map, opening, closing]
  simp only [Function.comp_def, len_append, len_quote, colon]
  omega

/-- The order of its keys does not change the size of a map. -/
theorem len_mapText (fields : List (String × String)) : len (mapText fields) =
    2 + (fields.map fun field => textBytes field.1 + 1 + len field.2).sum + (fields.length - 1) := by
  have sorted := List.perm_insertionSort (fun a b : String × String => a.1 ≤ b.1) fields
  rw [mapText, len_objectText, sorted.length_eq, (sorted.map _).sum_nat]

mutual

/-- The encoding has the size that is computed. The induction follows the encoder. -/
theorem len_encodeJson : ∀ value : Json, len (encodeJson value) = jsonBytes value
  | .null => by decide
  | .bool true => by decide
  | .bool false => by decide
  | .integer value => rfl
  | .decimal text => rfl
  | .string value => by rw [encodeJson, len_quote, jsonBytes]
  | .array items => by
    have opening : len "[" = 1 := by decide
    have closing : len "]" = 1 := by decide
    rw [encodeJson, len_bracket, len_encodeItems items, length_encodeItems, jsonBytes, opening,
      closing]
    omega
  | .object fields => by
    rw [encodeJson, len_mapText, len_encodeFields fields, length_encodeFields, jsonBytes]

theorem len_encodeItems : ∀ items : List Json,
    ((encodeItems items).map len).sum = itemsBytes items
  | [] => rfl
  | item :: rest => by
    rw [encodeItems, List.map_cons, List.sum_cons, len_encodeJson item, len_encodeItems rest,
      itemsBytes]

theorem len_encodeFields : ∀ fields : List (String × Json),
    ((encodeFields fields).map fun field => textBytes field.1 + 1 + len field.2).sum =
      fieldsBytes fields
  | [] => rfl
  | (key, value) :: rest => by
    rw [encodeFields, List.map_cons, List.sum_cons, len_encodeJson value, len_encodeFields rest,
      fieldsBytes]

end

/-! ## The stages of the degradation -/

/-- What a member of the record takes, with the comma or brace that ends it. -/
def memberBytes (field : String × Json) : Nat := textBytes field.1 + 1 + jsonBytes field.2 + 1

/-- The members of an object and its opening brace. -/
def membersBytes (fields : Fields) : Nat := 1 + (fields.map memberBytes).sum

theorem jsonBytes_object {fields : Fields} (some : fields ≠ []) :
    jsonBytes (.object fields) = membersBytes fields := by
  have members : (fields.map memberBytes).sum = fieldsBytes fields + fields.length := by
    clear some
    induction fields with
    | nil => rfl
    | cons field rest ih =>
      obtain ⟨key, value⟩ := field
      rw [List.map_cons, List.sum_cons, ih, fieldsBytes, List.length_cons]
      dsimp only [memberBytes]
      omega
  have positive : 0 < fields.length := List.length_pos_iff.mpr some
  rw [jsonBytes, membersBytes, members]
  omega

/-- The members that are left when some are dropped fit into 40 KiB, with the list of
those dropped. -/
def FitsWithout (fields : Fields) (dropped : List String) : Prop :=
  membersBytes (withoutFields fields dropped) ≤ maxEmbeddedMetadataBytes

/-- At some stage the members left fit: nothing is dropped, or the first few of the
optional members there are. -/
def Degradable (fields : Fields) (optional : List String) : Prop :=
  ∃ dropped, dropped <+: optional ∧ FitsWithout fields dropped

theorem optionalFields_among (response : ImageResponse) : ∀ name ∈ optionalFields response,
    name ∈ ["usage", "session", "normalizations", "warnings", "revised_prompt"] := by
  intro name among
  simp only [optionalFields, List.mem_append] at among
  rcases among with (((among | among) | among) | among) | among <;> split at among <;>
    simp_all

/-- A member that is not optional is never dropped. -/
theorem mandatory_kept {original effective : ImageRequest} {response : ImageResponse}
    {image : VerifiedImage} {dropped : List String} {field : String × Json}
    (present : field ∈ recordFields original effective response image)
    (kept : ∀ name ∈ dropped, name ∈ optionalFields response)
    (mandatory : field.1 ∉ ["usage", "session", "normalizations", "warnings", "revised_prompt"]) :
    field ∈ withoutFields (recordFields original effective response image) dropped := by
  apply List.mem_append_left
  apply List.mem_filter.mpr
  refine ⟨present, ?_⟩
  rw [Bool.not_eq_true', List.contains_eq_mem, decide_eq_false_iff_not]
  intro among
  exact mandatory (optionalFields_among response _ (kept _ among))

theorem encodeRecord_length (original effective : ImageRequest) (response : ImageResponse)
    (image : VerifiedImage) (dropped : List String)
    (kept : ∀ name ∈ dropped, name ∈ optionalFields response) :
    ∃ encoded, encodeRecord original effective response image dropped = some encoded ∧
      encoded.length = membersBytes
        (withoutFields (recordFields original effective response image) dropped) := by
  refine ⟨_, rfl, ?_⟩
  rw [length_utf8, len_encodeJson, jsonBytes_object]
  have version : ("version", Json.integer 1) ∈ recordFields original effective response image := by
    simp [recordFields]
  exact List.ne_nil_of_mem (mandatory_kept version kept (by decide))

/-- The trimming loop succeeds when one of the stages it goes through fits. The induction
is on the members it has not dropped yet. -/
theorem trimEmbedded_ok {encode : List String → Option Bytes} (omitted rest : List String)
    (encodes : ∀ dropped, dropped <+: omitted ++ rest → ∃ encoded, encode dropped = some encoded) :
    (∃ bytes, trimEmbedded encode omitted rest = .ok bytes) ↔
      ∃ dropped, dropped ≠ [] ∧ dropped <+: rest ∧
        ∃ encoded, encode (omitted ++ dropped) = some encoded ∧
          encoded.length ≤ maxEmbeddedMetadataBytes := by
  induction rest generalizing omitted with
  | nil =>
    constructor
    · rintro ⟨bytes, impossible⟩
      cases impossible
    · rintro ⟨dropped, some, none, _⟩
      exact absurd (List.prefix_nil.mp none) some
  | cons field rest ih =>
    have here : omitted ++ [field] <+: omitted ++ field :: rest := by
      rw [List.append_cons omitted field rest]
      exact List.prefix_append ..
    obtain ⟨encoded, encodable⟩ := encodes (omitted ++ [field]) here
    have later := ih (omitted ++ [field]) (by
      rw [← List.append_cons omitted field rest]
      exact encodes)
    rw [trimEmbedded, encodable]
    dsimp only
    split
    · rename_i fits
      constructor
      · rintro _
        refine ⟨[field], by simp, ?_, encoded, encodable, fits⟩
        exact ⟨rest, rfl⟩
      · rintro _
        exact ⟨encoded, rfl⟩
    · rename_i large
      rw [later]
      constructor
      · rintro ⟨dropped, some, first, smaller⟩
        refine ⟨field :: dropped, by simp, List.cons_prefix_cons.mpr ⟨rfl, first⟩, ?_⟩
        rw [List.append_cons omitted field dropped]
        exact smaller
      · rintro ⟨dropped, some, first, encoded', same, fits⟩
        cases dropped with
        | nil => exact absurd rfl some
        | cons head dropped =>
          obtain ⟨rfl, among⟩ := List.cons_prefix_cons.mp first
          by_cases last : dropped = []
          · subst last
            rw [encodable] at same
            cases same
            exact absurd fits large
          · refine ⟨dropped, last, among, encoded', ?_, fits⟩
            rw [← List.append_cons omitted head dropped]
            exact same

/-- Embedding succeeds exactly for the records that some stage fits into 40 KiB. -/
theorem embedded_iff (world : World) (original effective : ImageRequest) (response : ImageResponse)
    (image : VerifiedImage) :
    (∃ bytes, embeddedMetadata (recording world) original effective response image = .ok bytes) ↔
      Degradable (recordFields original effective response image) (optionalFields response) := by
  have sized := encodeRecord_length original effective response image
  obtain ⟨whole, encodable, size⟩ := sized [] (by simp)
  have encodes : ∀ dropped, dropped <+: [] ++ optionalFields response →
      ∃ encoded, encodeRecord original effective response image dropped = some encoded := by
    intro dropped first
    obtain ⟨encoded, encodable, _⟩ := sized dropped fun name among => first.subset among
    exact ⟨encoded, encodable⟩
  have trimmed := trimEmbedded_ok [] (optionalFields response) encodes
  unfold embeddedMetadata
  dsimp only [recording]
  rw [encodable]
  dsimp only
  split
  · rename_i fits
    rw [size] at fits
    constructor
    · intro _
      exact ⟨[], List.nil_prefix, fits⟩
    · intro _
      exact ⟨whole, rfl⟩
  · rename_i large
    rw [size] at large
    rw [trimmed]
    constructor
    · rintro ⟨dropped, some, first, encoded, same, fits⟩
      obtain ⟨encoded', same', size'⟩ := sized dropped fun name among => first.subset among
      rw [List.nil_append, same'] at same
      cases same
      refine ⟨dropped, first, ?_⟩
      rw [FitsWithout, ← size']
      exact fits
    · rintro ⟨dropped, first, fits⟩
      have some : dropped ≠ [] := by
        rintro rfl
        exact large fits
      obtain ⟨encoded, same, size'⟩ := sized dropped fun name among => first.subset among
      refine ⟨dropped, some, first, encoded, same, ?_⟩
      rw [size']
      exact fits

/-- A prompt whose quoted text alone is larger than the limit is never embedded. -/
theorem large_prompt_refused (world : World) {original : ImageRequest} (effective : ImageRequest)
    (response : ImageResponse) (image : VerifiedImage)
    (large : maxEmbeddedMetadataBytes < textBytes original.prompt) :
    ∃ e, embeddedMetadata (recording world) original effective response image = .error e := by
  cases embedded : embeddedMetadata (recording world) original effective response image with
  | error e => exact ⟨e, rfl⟩
  | ok bytes =>
    obtain ⟨dropped, first, fits⟩ := (embedded_iff world original effective response image).mp
      ⟨bytes, embedded⟩
    have prompt : ("original_prompt", Json.string original.prompt) ∈
        recordFields original effective response image := by
      simp [recordFields]
    have kept := mandatory_kept prompt (fun name among => first.subset among) (by simp)
    have least := List.single_le_sum (by simp) _ (List.mem_map_of_mem (f := memberBytes) kept)
    simp only [memberBytes, jsonBytes] at least
    unfold FitsWithout membersBytes at fits
    omega

/-- A prompt of control characters. -/
def controlText (count : Nat) : String := String.ofList (List.replicate count (Char.ofNat 1))

theorem len_controlText (count : Nat) : len (controlText count) = count := by
  rw [controlText, len_ofList, List.map_replicate, List.sum_replicate]
  show count * 1 = count
  omega

theorem textBytes_controlText (count : Nat) : textBytes (controlText count) = 2 + count * 6 := by
  rw [textBytes, controlText, String.toList_ofList, List.map_replicate, List.sum_replicate]
  rfl

theorem isBlank_controlText {count : Nat} (some : count ≠ 0) :
    isBlank (controlText count) = false := by
  rw [isBlank, controlText, String.toList_ofList, List.all_replicate, if_neg some]
  decide

def embeddedControl (count : Nat) : ImageRequest where
  prompt := controlText count
  output := { metadata := .embedded }

theorem embeddedControl_valid {count : Nat} (some : count ≠ 0)
    (fits : count ≤ maxEmbeddedRequestTextBytes) :
    validateRequest (embeddedControl count) .default = .ok () := by
  have size : len (embeddedControl count).prompt = count := len_controlText count
  have blank : isBlank (embeddedControl count).prompt = false := isBlank_controlText some
  have within : len (embeddedControl count).prompt ≤ RequestLimits.default.maxPromptBytes := by
    rw [size]
    exact Nat.le_trans fits (by decide)
  have combined : Validation.metadataIssues (embeddedControl count).output
      (embeddedControl count).prompt (embeddedControl count).negativePrompt = [] := by
    simp only [Validation.metadataIssues, List.append_eq_nil_iff, issueIf_nil, size]
    refine ⟨⟨?_, ?_⟩, ?_⟩
    · rintro ⟨sidecar, _⟩
      cases sidecar
    · rintro ⟨_, metadata⟩
      cases metadata
    · rintro ⟨_, large⟩
      exact absurd large (Nat.not_lt.mpr fits)
  rw [Validation.validateRequest_ok, Validation.reported_nil, Validation.promptIssues_nil]
  exact ⟨rfl, ⟨blank, within⟩, rfl, rfl, rfl, rfl, rfl, rfl, combined, rfl, rfl⟩

/-- A validated prompt of seven thousand bytes takes forty-two thousand in the record. -/
theorem control_prompt_not_embedded : ∃ (original : ImageRequest) (world : World)
    (response : ImageResponse) (image : VerifiedImage) (e : BridgeError),
    validateRequest original .default = .ok () ∧ original.output.metadata.embeds = true ∧
      embeddedMetadata (recording world) original original response image = .error e := by
  have large : maxEmbeddedMetadataBytes < textBytes (embeddedControl 7000).prompt := by
    show maxEmbeddedMetadataBytes < textBytes (controlText 7000)
    rw [textBytes_controlText]
    decide
  obtain ⟨e, refused⟩ := large_prompt_refused Orchestrator.emptyWorld (embeddedControl 7000)
    Idempotency.plainResponse ⟨0, [], ⟨.png, 1, 1, 0, ""⟩, none⟩ large
  exact ⟨embeddedControl 7000, _, _, _, e, embeddedControl_valid (by decide) (by decide), rfl,
    refused⟩

end EmbeddedRecord

end ImagegenBridge
