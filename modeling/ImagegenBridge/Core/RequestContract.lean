import ImagegenBridge.Core.RequestCodec

/-!
# What request objects are read

The contract as a table of keys, the round trip of every request whose numbers fit Rust's types,
and the keys of every object that is read as a request.
-/

namespace ImagegenBridge.ImageRequest

open Records

/-! ## The contract -/

def parametersContract : List (String × Shape) :=
  [("n", .flat), ("size", .flat), ("aspect_ratio", .flat), ("resolution", .variants ["1k", "2k", "4k"]),
    ("quality", .variants ["auto", "low", "medium", "high"]),
    ("output_format", .variants ["png", "jpeg", "webp"]), ("output_compression", .flat),
    ("background", .variants ["auto", "opaque", "transparent"]),
    ("moderation", .variants ["auto", "low"]), ("partial_images", .flat),
    ("failure_policy", .variants ["fail_fast", "best_effort"]),
    ("input_fidelity", .variants ["low", "high"]), ("action", .variants ["auto", "generate", "edit"])]

def routeContract : List (String × Shape) := [("provider", .flat), ("model", .flat)]

def routingContract : List (String × Shape) :=
  [("provider", .flat), ("model", .flat), ("fallbacks", .list (.record routeContract)),
    ("fallback_policy", .variants ["on_unavailable", "on_error"])]

def sessionContract : List (String × Shape) :=
  [("mode", .variants ["isolated", "persistent", "thread"]), ("key", .flat), ("thread_id", .flat)]

def transparencyContract : List (String × Shape) :=
  [("mode", .variants ["auto", "native", "chroma_key"]), ("key_color", .flat),
    ("transparent_threshold", .flat), ("opaque_threshold", .flat), ("despill", .flat)]

def outputContract : List (String × Shape) :=
  [("response_format", .variants ["b64_json", "url", "artifact", "metadata"]),
    ("filename_prefix", .flat), ("directory", .flat), ("filename", .flat),
    ("collision", .variants ["error", "suffix"]),
    ("metadata", .variants ["none", "sidecar", "embedded", "sidecar_and_embedded"]),
    ("transparency", .record transparencyContract)]

def policiesContract : List (String × Shape) :=
  [("compatibility", .variants ["strict", "normalize", "best_effort"]),
    ("negative_prompt", .variants ["auto", "native", "merge", "reject"]),
    ("revised_prompt", .variants ["include", "omit", "require"]),
    ("batch_execution", .variants ["auto", "sequential", "parallel"])]

def commonContract : List (String × Shape) :=
  [("version", .flat), ("prompt", .flat), ("negative_prompt", .flat),
    ("parameters", .record parametersContract), ("routing", .record routingContract),
    ("session", .record sessionContract), ("output", .record outputContract),
    ("policies", .record policiesContract), ("idempotency_key", .flat), ("timeout_ms", .flat),
    ("user", .flat)]

def generateContract : List (String × Shape) := [("reference_images", .list inputShape)]

def editContract : List (String × Shape) :=
  [("images", .list inputShape), ("mask", inputShape), ("reference_images", .list inputShape)]

/-- The keys of a request object, by its operation. -/
def contract : Shape :=
  .tagged "operation"
    [("generate", commonContract ++ generateContract), ("edit", commonContract ++ editContract)]

theorem requestFields_shapes : requestFields.shapes = commonContract := rfl

theorem requestFields_names : requestFields.names = commonRequestFields := rfl

/-! ## Round trip -/

/-- The numbers of a request fit the types they have in Rust. -/
structure Representable (r : ImageRequest) : Prop where
  n : r.parameters.n < 2 ^ 8
  size : r.parameters.size.Fits
  aspectRatio : ∀ ratio, r.parameters.aspectRatio = some ratio → ratio.Fits
  compression : ∀ value, r.parameters.outputCompression = some value → value < 2 ^ 8
  partialImages : r.parameters.partialImages < 2 ^ 8
  transparentThreshold : r.output.transparency.transparentThreshold < 2 ^ 8
  opaqueThreshold : r.output.transparency.opaqueThreshold < 2 ^ 8
  timeout : ∀ timeout, r.timeoutMs = some timeout → timeout < 2 ^ 64

variable {r : ImageRequest}

/-- A request that only has a prompt. -/
theorem generate_representable (prompt : String) : Representable (.generate prompt) := by
  have counts : ({} : GenerationParameters).n < 2 ^ 8 ∧
      ({} : GenerationParameters).partialImages < 2 ^ 8 := by decide
  have thresholds : ({} : OutputOptions).transparency.transparentThreshold < 2 ^ 8 ∧
      ({} : OutputOptions).transparency.opaqueThreshold < 2 ^ 8 := by decide
  refine ⟨counts.1, ?_, ?_, ?_, counts.2, thresholds.1, thresholds.2, ?_⟩
  · intro width height auto
    cases auto
  · intro ratio absent
    cases absent
  · intro value absent
    cases absent
  · intro timeout absent
    cases absent

theorem parameters_fit (fits : Representable r) : parametersCodec.Fits r.parameters :=
  ⟨⟨⟨⟨⟨⟨⟨⟨⟨⟨⟨⟨⟨trivial, fits.n⟩, fits.size⟩, fits.aspectRatio⟩, fun _ _ => trivial⟩, trivial⟩, trivial⟩,
    fits.compression⟩, trivial⟩, trivial⟩, fits.partialImages⟩, trivial⟩, fun _ _ => trivial⟩, trivial⟩

theorem routing_fits (routing : RoutingOptions) : routingCodec.Fits routing :=
  ⟨⟨⟨⟨trivial, fun _ _ => trivial⟩, fun _ _ => trivial⟩,
    fun _ _ => ⟨⟨trivial, trivial⟩, fun _ _ => trivial⟩⟩, trivial⟩

theorem output_fits (fits : Representable r) : outputCodec.Fits r.output :=
  ⟨⟨⟨⟨⟨⟨⟨trivial, trivial⟩, fun _ _ => trivial⟩, fun _ _ => trivial⟩, fun _ _ => trivial⟩, trivial⟩,
    trivial⟩, ⟨⟨⟨⟨⟨trivial, trivial⟩, fun _ _ => trivial⟩, fits.transparentThreshold⟩,
      fits.opaqueThreshold⟩, trivial⟩⟩

theorem common_fits (fits : Representable r) : requestFields.Fits r.common :=
  ⟨⟨⟨⟨⟨⟨⟨⟨⟨⟨⟨trivial, trivial⟩, trivial⟩, fun _ _ => trivial⟩, parameters_fit fits⟩,
    routing_fits r.routing⟩, ⟨⟨⟨trivial, trivial⟩, fun _ _ => trivial⟩, fun _ _ => trivial⟩⟩,
    output_fits fits⟩, ⟨⟨⟨⟨trivial, trivial⟩, trivial⟩, trivial⟩, trivial⟩⟩, fun _ _ => trivial⟩,
    fits.timeout⟩, fun _ _ => trivial⟩

/-- The name and the keys of an operation. -/
def tagOf : ImageOperation → String
  | .generate _ => "generate"
  | .edit _ _ _ => "edit"

def keysOf : ImageOperation → List String
  | .generate _ => ["reference_images"]
  | .edit _ _ _ => ["images", "mask", "reference_images"]

def entriesOf : ImageOperation → List (String × Json)
  | .generate references => generateFields.write references
  | .edit images mask references => editFields.write ⟨images, mask, references⟩

theorem encodeOperation_eq (operation : ImageOperation) :
    encodeOperation operation = ("operation", .string (tagOf operation)) :: entriesOf operation := by
  cases operation <;> rfl

theorem operationFields_tagOf (operation : ImageOperation) :
    operationFields (tagOf operation) = .ok (keysOf operation) := by
  cases operation <;> rfl

theorem entriesOf_keys (operation : ImageOperation) :
    ∀ entry ∈ entriesOf operation, entry.1 ∈ keysOf operation := by
  cases operation with
  | generate references => exact generateFields.covered references
  | edit images mask references => exact editFields.covered _

/-- The operation is read from entries that list its own in some order. -/
theorem decodeOperation_restores (operation : ImageOperation) {entries : List (String × Json)}
    (ours : ∀ entry ∈ entries, entry ∈ entriesOf operation)
    (agrees : ∀ name ∈ keysOf operation, entries.lookup name = (entriesOf operation).lookup name) :
    decodeOperation (("operation", .string (tagOf operation)) :: entries) = .ok operation := by
  have untagged : (("operation", Json.string (tagOf operation)) :: entries).filter
      (fun entry => entry.1 ≠ "operation") = entries := by
    rw [List.filter_cons_of_neg (by simp), List.filter_eq_self]
    intro entry among
    have key := entriesOf_keys operation entry (ours entry among)
    have other : "operation" ∉ keysOf operation := by cases operation <;> simp [keysOf]
    have differs : entry.1 ≠ "operation" := fun same => other (same ▸ key)
    simpa using differs
  have taken : takeTag "operation" (("operation", .string (tagOf operation)) :: entries) =
      .ok (tagOf operation, entries) := by
    rw [takeTag, List.lookup_cons_self]
    exact congrArg (fun rest => Except.ok (tagOf operation, rest)) untagged
  refine bind_ok.mpr ⟨_, taken, ?_⟩
  cases operation with
  | generate references =>
    have fits : generateFields.Fits references := ⟨trivial, fun _ _ => trivial⟩
    exact map_ok.mpr ⟨references, generateFields.ofEntries_restores _ fits ours agrees, rfl⟩
  | edit images mask references =>
    have fits : editFields.Fits ⟨images, mask, references⟩ :=
      ⟨⟨⟨trivial, fun _ _ => trivial⟩, fun _ _ => trivial⟩, fun _ _ => trivial⟩
    exact map_ok.mpr ⟨_, editFields.ofEntries_restores _ fits ours agrees, rfl⟩

/-- Where each key of an encoded request comes from. -/
theorem encoded_lookup (r : ImageRequest) (key : String) :
    (requestFields.write r.common ++ encodeOperation r.operation).lookup key =
      ((requestFields.write r.common).lookup key).or ((encodeOperation r.operation).lookup key) :=
  List.lookup_append

theorem common_foreign (r : ImageRequest) {key : String} (other : key ∉ commonRequestFields) :
    (requestFields.write r.common).lookup key = none := by
  apply lookup_none
  intro written
  obtain ⟨entry, among, rfl⟩ := List.mem_map.mp written
  exact other (requestFields.covered r.common entry among)

theorem operation_foreign (operation : ImageOperation) {key : String} (untagged : key ≠ "operation")
    (other : key ∉ keysOf operation) : (encodeOperation operation).lookup key = none := by
  apply lookup_none
  rw [encodeOperation_eq]
  intro written
  obtain ⟨entry, among, rfl⟩ := List.mem_map.mp written
  obtain rfl | among := List.mem_cons.mp among
  · exact untagged rfl
  · exact other (entriesOf_keys operation entry among)

theorem special_apart : ∀ name ∈ ["images", "mask", "reference_images"],
    name ≠ "operation" ∧ name ∉ commonRequestFields ∧ knownField name = true := by decide

theorem keys_apart (operation : ImageOperation) {key : String} (among : key ∈ keysOf operation) :
    key ≠ "operation" ∧ key ∉ commonRequestFields ∧ knownField key = true := by
  apply special_apart
  cases operation with
  | generate references => exact List.mem_cons_of_mem _ (List.mem_cons_of_mem _ among)
  | edit images mask references => exact among

theorem common_apart {key : String} (among : key ∈ commonRequestFields) :
    key ≠ "operation" ∧ knownField key = true := by
  have each : ∀ name ∈ commonRequestFields, name ≠ "operation" ∧ knownField name = true := by decide
  exact each key among

theorem refuseIf_ok {condition : Bool} {error : DecodeError} :
    refuseIf condition error = .ok () ↔ condition = false := by
  cases condition <;> simp [refuseIf]

/-- Deserialization undoes serialization. -/
theorem decode_encode (fits : Representable r) : decode r.encode = .ok r := by
  have tag : (requestFields.write r.common ++ encodeOperation r.operation).lookup "operation" =
      some (.string (tagOf r.operation)) := by
    rw [encoded_lookup, common_foreign r (by decide), encodeOperation_eq, List.lookup_cons_self]
    rfl
  have own {key : String} (among : key ∈ keysOf r.operation) :
      (requestFields.write r.common ++ encodeOperation r.operation).lookup key =
        (entriesOf r.operation).lookup key := by
    obtain ⟨untagged, other, _⟩ := keys_apart r.operation among
    have differs : (key == "operation") = false := by simpa using untagged
    rw [encoded_lookup, common_foreign r other, encodeOperation_eq, List.lookup_cons, differs]
    rfl
  have placed (entry : String × Json)
      (among : entry ∈ requestFields.write r.common ++ encodeOperation r.operation) :
      entry ∈ requestFields.write r.common ∧ entry.1 ∈ commonRequestFields ∨
        entry = ("operation", .string (tagOf r.operation)) ∨
        entry ∈ entriesOf r.operation ∧ entry.1 ∈ keysOf r.operation := by
    rw [List.mem_append, encodeOperation_eq, List.mem_cons] at among
    obtain common | tagged | special := among
    · exact Or.inl ⟨common, requestFields.covered r.common entry common⟩
    · exact Or.inr (Or.inl tagged)
    · exact Or.inr (Or.inr ⟨special, entriesOf_keys r.operation entry special⟩)
  show decodeObject _ = _
  have known : forM (requestFields.write r.common ++ encodeOperation r.operation) (fun entry =>
      refuseIf (!knownField entry.1) (unknownField entry.1)) = .ok () := by
    refine forM_ok.mpr fun entry among => refuseIf_ok.mpr ?_
    obtain ⟨_, common⟩ | rfl | ⟨_, special⟩ := placed entry among
    · rw [(common_apart common).2]
      rfl
    · rfl
    · rw [(keys_apart r.operation special).2.2]
      rfl
  refine bind_ok.mpr ⟨(), known, ?_⟩
  have tells : operationTag (requestFields.write r.common ++ encodeOperation r.operation) =
      .ok (tagOf r.operation) := by
    rw [operationTag, tag]
  refine bind_ok.mpr ⟨tagOf r.operation, tells, ?_⟩
  refine bind_ok.mpr ⟨keysOf r.operation, operationFields_tagOf r.operation, ?_⟩
  have permitted : forM ["images", "mask", "reference_images"] (fun forbidden => refuseIf
      (((requestFields.write r.common ++ encodeOperation r.operation).lookup forbidden).isSome &&
        !(keysOf r.operation).contains forbidden) (forbiddenField forbidden (tagOf r.operation))) =
      .ok () := by
    refine forM_ok.mpr fun forbidden among => refuseIf_ok.mpr ?_
    by_cases special : forbidden ∈ keysOf r.operation
    · simp [special]
    · obtain ⟨untagged, other, _⟩ := special_apart forbidden among
      rw [encoded_lookup, common_foreign r other, operation_foreign r.operation untagged special]
      rfl
  refine bind_ok.mpr ⟨(), permitted, ?_⟩
  have operation : decodeOperation (("operation", .string (tagOf r.operation)) ::
      select (keysOf r.operation) (requestFields.write r.common ++ encodeOperation r.operation)) =
      .ok r.operation := by
    refine decodeOperation_restores r.operation ?_ fun key among => ?_
    · rintro ⟨key, value⟩ selected
      obtain ⟨among, found⟩ := mem_select.mp selected
      exact lookup_mem ((own among).symm.trans found)
    · rw [lookup_select among, own among]
  refine bind_ok.mpr ⟨r.operation, operation, ?_⟩
  have common : requestFields.ofEntries .unknownField
      ((requestFields.write r.common ++ encodeOperation r.operation).filter fun entry =>
        entry.1 != "operation" && !(keysOf r.operation).contains entry.1) = .ok r.common := by
    refine requestFields.ofEntries_restores _ (common_fits fits) ?_ fun name named => ?_
    · intro entry kept
      obtain ⟨among, apart⟩ := List.mem_filter.mp kept
      simp only [Bool.and_eq_true, bne_iff_ne, Bool.not_eq_true', List.contains_eq_mem,
        decide_eq_false_iff_not] at apart
      obtain ⟨common, _⟩ | rfl | ⟨_, special⟩ := placed entry among
      · exact common
      · exact absurd rfl apart.1
      · exact absurd special apart.2
    · rw [requestFields_names] at named
      have untagged := (common_apart named).1
      have other : name ∉ keysOf r.operation := fun special =>
        (keys_apart r.operation special).2.1 named
      rw [lookup_filter fun _ => by simp [untagged, other], encoded_lookup,
        operation_foreign r.operation untagged other, Option.or_none]
  exact bind_ok.mpr ⟨r.common, common, rfl⟩

/-! ## Strictness -/

theorem operationTag_ok {object : List (String × Json)} {name : String}
    (tells : operationTag object = .ok name) : object.lookup "operation" = some (.string name) := by
  unfold operationTag at tells
  split at tells
  · cases tells
  · rename_i found
    cases tells
    exact found
  · cases tells

theorem commonContract_foreign {key : String} (other : key ∉ commonRequestFields)
    {own : List (String × Shape)} {shape : Shape} (named : own.lookup key = some shape) :
    (commonContract ++ own).lookup key = some shape := by
  rw [List.lookup_append, lookup_none other, Option.none_or, named]

/-- The keys of an operation and what stands under them. -/
theorem decodeOperation_strict {name : String} {fields : List String}
    {object : List (String × Json)} {operation : ImageOperation}
    (taken : operationFields name = .ok fields)
    (decoded : decodeOperation (("operation", .string name) :: select fields object) = .ok operation) :
    ∃ own, (name, commonContract ++ own) ∈ [("generate", commonContract ++ generateContract),
        ("edit", commonContract ++ editContract)] ∧
      ∀ key value, key ∈ fields → object.lookup key = some value →
        ∃ shape, (commonContract ++ own).lookup key = some shape ∧ KeysWithin true shape value := by
  obtain ⟨⟨tag, rest⟩, split, variant⟩ := bind_ok.mp decoded
  obtain ⟨tells, rfl⟩ := takeTag_ok split
  obtain rfl : name = tag := by simpa using tells
  have among {key : String} {value : Json} (untagged : key ≠ "operation") (inside : key ∈ fields)
      (found : object.lookup key = some value) : (key, value) ∈
        (("operation", Json.string name) :: select fields object).filter
          fun entry => entry.1 ≠ "operation" := by
    rw [List.mem_filter]
    exact ⟨List.mem_cons_of_mem _ (mem_select.mpr ⟨inside, found⟩), by simpa using untagged⟩
  unfold operationFields at taken
  split at taken
  · cases taken
    obtain ⟨references, read, _⟩ := map_ok.mp variant
    refine ⟨generateContract, by simp, fun key value inside found => ?_⟩
    obtain ⟨untagged, other, _⟩ := keys_apart (.generate []) inside
    obtain ⟨shape, named, within⟩ :=
      generateFields.ofEntries_strict _ read (among untagged inside found)
    exact ⟨shape, commonContract_foreign other named, within⟩
  · cases taken
    obtain ⟨inputs, read, _⟩ := map_ok.mp variant
    refine ⟨editContract, by simp, fun key value inside found => ?_⟩
    obtain ⟨untagged, other, _⟩ := keys_apart (.edit [] none []) inside
    obtain ⟨shape, named, within⟩ := editFields.ofEntries_strict _ read (among untagged inside found)
    exact ⟨shape, commonContract_foreign other named, within⟩
  · cases taken

/-- Every key of an accepted object is one of the contract, at every level. -/
theorem decode_strict {json : Json} (decoded : decode json = .ok r) : KeysWithin true contract json := by
  cases json with
  | object object =>
    change decodeObject object = .ok r at decoded
    obtain ⟨_, known, decoded⟩ := bind_ok.mp decoded
    obtain ⟨name, tells, decoded⟩ := bind_ok.mp decoded
    obtain ⟨fields, taken, decoded⟩ := bind_ok.mp decoded
    obtain ⟨_, permitted, decoded⟩ := bind_ok.mp decoded
    obtain ⟨operation, special, decoded⟩ := bind_ok.mp decoded
    obtain ⟨common, read, _⟩ := bind_ok.mp decoded
    obtain ⟨own, chosen, each⟩ := decodeOperation_strict taken special
    refine KeysWithin.ofTagged (operationTag_ok tells) chosen fun key value found untagged => ?_
    by_cases inside : key ∈ fields
    · exact each key value inside found
    · have kept : (key, value) ∈ object.filter fun entry =>
          entry.1 != "operation" && !fields.contains entry.1 := by
        rw [List.mem_filter]
        exact ⟨lookup_mem found, by simp [untagged, inside]⟩
      obtain ⟨shape, named, within⟩ := requestFields.ofEntries_strict _ read kept
      rw [requestFields_shapes] at named
      exact ⟨shape, by rw [List.lookup_append, named, Option.some_or], within⟩
  | _ => cases decoded

/-- The codec of requests: what is written is read, and what is read has only known keys. -/
theorem request_codec_laws :
    (∀ r, Representable r → decode r.encode = .ok r) ∧
      ∀ json r, decode json = .ok r → KeysWithin true contract json :=
  ⟨fun _ fits => decode_encode fits, fun _ _ decoded => decode_strict decoded⟩

theorem request_codec_lighthouse : decode (encode (.generate "a lighthouse")) =
      .ok (.generate "a lighthouse") ∧
    KeysWithin true contract (encode (.generate "a lighthouse")) := by
  have fits : Representable (.generate "a lighthouse") := by
    refine ⟨by decide, ?_, ?_, ?_, by decide, by decide, by decide, ?_⟩
    · intro width height auto
      cases auto
    · intro ratio absent
      cases absent
    · intro value absent
      cases absent
    · intro timeout absent
      cases absent
  have read := request_codec_laws.1 _ fits
  exact ⟨read, request_codec_laws.2 _ _ read⟩

/-- A quality spelled as an object. -/
def spelledQuality : Json :=
  .object [("prompt", .string "a lighthouse"), ("operation", .string "generate"),
    ("parameters", .object [("quality", .object [("high", .null)])])]

theorem KeysWithin_record {fields : List (String × Shape)} {entries : List (String × Json)}
    {spelled : Bool} (within : KeysWithin spelled (.record fields) (.object entries)) {key : String}
    {value : Json} {shape : Shape} (found : entries.lookup key = some value)
    (named : fields.lookup key = some shape) : KeysWithin spelled shape value := by
  cases within with
  | atom plain => cases plain
  | record known each => exact each key value shape found named

/-- The key of a quality spelled so is no field of the contract. -/
theorem spelled_quality_read :
    (∃ r, decode spelledQuality = .ok r ∧ r.parameters.quality = .high) ∧
      ¬KeysWithin false contract spelledQuality := by
  refine ⟨⟨{ ImageRequest.generate "a lighthouse" with parameters := { quality := .high } }, rfl, rfl⟩,
    fun within => ?_⟩
  have parameters {fields : List (String × Shape)} {name : String} (chosen : (name, fields) ∈
      [("generate", commonContract ++ generateContract), ("edit", commonContract ++ editContract)]) :
      fields.lookup "parameters" = some (.record parametersContract) := by
    obtain same | same := List.mem_pair.mp chosen
    · obtain rfl := congrArg Prod.snd same
      rfl
    · obtain rfl := congrArg Prod.snd same
      rfl
  cases within with
  | atom plain => cases plain
  | tagged tells chosen known each =>
    have options := each "parameters" _ _ rfl (by decide) (parameters chosen)
    have quality := @KeysWithin_record _ _ _ options "quality" _ _ rfl rfl
    cases quality with
    | atom plain => cases plain
    | variant admitted known => cases admitted

end ImagegenBridge.ImageRequest
