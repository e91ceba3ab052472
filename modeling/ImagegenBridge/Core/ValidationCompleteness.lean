import Mathlib.Data.List.Nodup
import ImagegenBridge.Core.Validation

/-!
# The rules that validation checks

A valid request as a structure of rules, and what `validateRequest` decides of it. Inputs beyond
the detailed checks are where the two differ.
-/

namespace ImagegenBridge.Validation

open Text

/-! ## Rules -/

def IdentifierValid (limits : RequestLimits) (value : Option String) : Prop :=
  ∀ text, value = some text → isBlank text = false ∧ len text ≤ limits.maxIdentifierBytes ∧
    hasControl text = false

def SourceValid (limits : RequestLimits) : ImageSource → Prop
  | .file path => path.isEmpty = false
  | .url url => isBlank url = false
  | .dataUrl dataUrl => len dataUrl ≤ limits.maxInlineEncodedBytes ∧
      startsWith dataUrl.toList "data:image/".toList = true
  | .base64 data => len data ≤ limits.maxInlineEncodedBytes ∧ data.isEmpty = false

/-- A single safe path component. -/
def SafeName (name : String) : Prop :=
  name.isEmpty = false ∧ (∀ c ∈ name.toList, c ≠ '/' ∧ c ≠ '\\') ∧ hasControl name = false

structure InputValid (limits : RequestLimits) (input : ImageInput) : Prop where
  source : SourceValid limits input.source
  filename : ∀ name, input.filename = some name → SafeName name

structure RoutingValid (limits : RequestLimits) (routing : RoutingOptions) : Prop where
  provider : IdentifierValid limits routing.provider
  model : IdentifierValid limits routing.model
  few : routing.fallbacks.length ≤ 4
  fallbacks : ∀ route ∈ routing.fallbacks,
    IdentifierValid limits (some route.provider) ∧ IdentifierValid limits route.model
  unique : routing.fallbacks.Nodup
  differ : ∀ route ∈ routing.fallbacks,
    ¬(routing.provider = some route.provider ∧ routing.model = route.model)

/-- The fields a session mode needs and those it excludes. -/
def SessionMatches (session : SessionOptions) : Prop :=
  match session.mode with
  | .isolated => session.key = none ∧ session.threadId = none
  | .persistent => (∃ key, session.key = some key ∧ key.isEmpty = false) ∧ session.threadId = none
  | .thread => (∃ thread, session.threadId = some thread ∧ thread.isEmpty = false) ∧
      session.key = none

structure SessionValid (limits : RequestLimits) (session : SessionOptions) : Prop where
  fields : SessionMatches session
  key : IdentifierValid limits session.key
  thread : IdentifierValid limits session.threadId

structure OutputValid (r : ImageRequest) : Prop where
  thresholds : r.output.transparency.transparentThreshold < r.output.transparency.opaqueThreshold
  keyColor : ∀ key, r.output.transparency.keyColor = some key → validHexColor key = true
  delivered : artifactDelivery r.output.responseFormat = true ∨
    r.output.filenamePrefix = none ∧ r.output.directory = none ∧ r.output.filename = none
  named : ∀ filename, r.output.filename = some filename →
    r.output.filenamePrefix = none ∧ r.parameters.n = 1 ∧
      validOutputFilename filename r.parameters.outputFormat = true
  collision : r.output.filename = none → r.output.collision = .error
  sidecar : r.output.metadata.writesSidecar = true → r.output.responseFormat = .artifact
  embedded : r.output.metadata.embeds = true → r.output.responseFormat ≠ .metadata ∧
    len r.prompt + (r.negativePrompt.map len).getD 0 ≤ maxEmbeddedRequestTextBytes
  directory : ∀ directory, r.output.directory = some directory → validPortableDirectory directory = true

structure OperationValid (r : ImageRequest) (limits : RequestLimits) : Prop where
  sources : ∀ images mask references, r.operation = .edit images mask references → images ≠ []
  few : inputCount r.operation ≤ limits.maxInputs
  fidelity : r.parameters.inputFidelity ≠ none →
    r.operation.editImages ≠ [] ∨ r.operation.referenceImages ≠ []
  edits : r.parameters.action = .edit → r.operation ≠ .generate []
  generates : r.parameters.action = .generate →
    ∀ images mask references, r.operation ≠ .edit images mask references

/-- Every rule but those of single inputs. -/
structure RulesHold (r : ImageRequest) (limits : RequestLimits) : Prop where
  version : r.version = contractVersion
  prompt : isBlank r.prompt = false ∧ len r.prompt ≤ limits.maxPromptBytes
  negative : ∀ text, r.negativePrompt = some text → isBlank text = false ∧
    len text ≤ limits.maxNegativePromptBytes ∧ r.policies.negativePrompt ≠ .reject
  count : 0 < r.parameters.n ∧ r.parameters.n ≤ limits.maxOutputs
  size : edgeTooLarge r.parameters.size limits.maxEdge = false ∧
    (r.parameters.size = .auto ∨ r.parameters.aspectRatio = none ∧ r.parameters.resolution = none)
  compression : ∀ value, r.parameters.outputCompression = some value →
    value ≤ 100 ∧ compresses r.parameters.outputFormat = true
  partialImages : r.parameters.partialImages ≤ 3
  routing : RoutingValid limits r.routing
  isolated : r.routing.fallbacks ≠ [] ∨ r.policies.batchExecution = .parallel →
    r.session.mode = .isolated
  idempotencyKey : IdentifierValid limits r.idempotencyKey
  user : IdentifierValid limits r.user
  session : SessionValid limits r.session
  timeout : ∀ timeout, r.timeoutMs = some timeout → 0 < timeout ∧ timeout ≤ limits.maxTimeoutMs
  output : OutputValid r
  operation : OperationValid r limits

/-- The input images of an operation, in the order of the detailed checks. -/
def inputs (operation : ImageOperation) : List ImageInput :=
  operation.editImages ++ operation.mask.toList ++ operation.referenceImages

variable {limits : RequestLimits} {r : ImageRequest}

/-! ## One block at a time -/

theorem identifier_valid (value : Option String) (field : String) (limits : RequestLimits) :
    validateIdentifier value field limits = [] ↔ IdentifierValid limits value := by
  cases value with
  | none => simp [validateIdentifier, IdentifierValid]
  | some text =>
    cases blank : isBlank text with
    | true => simp [validateIdentifier, IdentifierValid, blank]
    | false =>
      by_cases long : limits.maxIdentifierBytes < len text
      · simp [validateIdentifier, IdentifierValid, blank, long, Nat.not_le.mpr long]
      · simp [validateIdentifier, IdentifierValid, blank, long, Nat.not_lt.mp long]

theorem sourceIssues_valid (source : ImageSource) (field : String) (limits : RequestLimits) :
    sourceIssues source field limits = [] ↔ SourceValid limits source := by
  cases source with
  | file path => simp [sourceIssues, SourceValid]
  | url url => simp [sourceIssues, SourceValid]
  | dataUrl dataUrl =>
    by_cases long : limits.maxInlineEncodedBytes < len dataUrl
    · simp [sourceIssues, SourceValid, long, Nat.not_le.mpr long]
    · simp [sourceIssues, SourceValid, long, Nat.not_lt.mp long]
  | base64 data =>
    by_cases long : limits.maxInlineEncodedBytes < len data
    · simp [sourceIssues, SourceValid, long, Nat.not_le.mpr long]
    · simp [sourceIssues, SourceValid, long, Nat.not_lt.mp long]

theorem validateInput_nil (input : ImageInput) (field : String) (limits : RequestLimits) :
    validateInput input field limits = [] ↔ InputValid limits input := by
  have filename : (input.filename.any (fun name => name.isEmpty ||
      name.toList.any (fun c => c == '/' || c == '\\') || hasControl name)) = false ↔
      ∀ name, input.filename = some name → SafeName name := by
    cases input.filename with
    | none => simp
    | some name => simp [SafeName, and_assoc]
  simp only [validateInput, List.append_eq_nil_iff, issueIf_nil, Bool.not_eq_true, sourceIssues_valid,
    filename]
  exact ⟨fun both => ⟨both.1, both.2⟩, fun valid => ⟨valid.source, valid.filename⟩⟩

theorem compressionIssues_nil (compression : Option Nat) (format : OutputFormat) :
    compressionIssues compression format = [] ↔ ∀ value, compression = some value →
      value ≤ 100 ∧ compresses format = true := by
  cases compression <;> simp [compressionIssues]

theorem timeoutIssues_nil (timeoutMs : Option Nat) (limits : RequestLimits) :
    timeoutIssues timeoutMs limits = [] ↔ ∀ timeout, timeoutMs = some timeout →
      0 < timeout ∧ timeout ≤ limits.maxTimeoutMs := by
  cases timeoutMs with
  | none => simp [timeoutIssues]
  | some timeout => simp [timeoutIssues, Nat.pos_iff_ne_zero]


/-! ## Blocks over several fields -/

theorem route_unseen_iff (routes : List ProviderRoute) :
    (∀ index route, routes[index]? = some route → route ∉ routes.take index) ↔ routes.Nodup := by
  rw [List.nodup_iff_getElem?_ne_getElem?]
  constructor
  · intro unseen i j earlier inside same
    have there : routes[j]? = some routes[j] := List.getElem?_eq_getElem inside
    refine unseen j _ there (List.mem_take_iff_getElem.mpr ⟨i, by omega, ?_⟩)
    rw [there, List.getElem?_eq_some_iff] at same
    exact same.2
  · intro distinct j route there seen
    obtain ⟨i, within, found⟩ := List.mem_take_iff_getElem.mp seen
    have inside := (List.getElem?_eq_some_iff.mp there).1
    refine distinct i j (by omega) inside ?_
    rw [there, List.getElem?_eq_some_iff]
    exact ⟨by omega, found⟩

/-- What the loop over a list reports nothing of. -/
theorem zipIdx_nil {α β : Type} (xs : List α) (f : α × Nat → List β) :
    xs.zipIdx.flatMap f = [] ↔ ∀ index x, xs[index]? = some x → f (x, index) = [] := by
  rw [List.flatMap_eq_nil_iff]
  constructor
  · intro silent index x there
    exact silent (x, index) (List.mem_zipIdx_iff_getElem?.mpr there)
  · rintro silent ⟨x, index⟩ among
    exact silent index x (List.mem_zipIdx_iff_getElem?.mp among)

theorem routingIssues_nil (routing : RoutingOptions) (limits : RequestLimits) :
    routingIssues routing limits = [] ↔ RoutingValid limits routing := by
  simp only [routingIssues, fallbackIssues, List.append_eq_nil_iff, identifier_valid,
    issueIf_nil, zipIdx_nil, Nat.not_lt]
  constructor
  · rintro ⟨⟨⟨provider, model⟩, few⟩, loop⟩
    refine ⟨provider, model, few, ?_, ?_, ?_⟩
    · intro route among
      obtain ⟨index, there⟩ := List.mem_iff_getElem?.mp among
      exact (loop index route there).1.1
    · exact (route_unseen_iff _).mp fun index route there => (loop index route there).1.2
    · intro route among
      obtain ⟨index, there⟩ := List.mem_iff_getElem?.mp among
      exact (loop index route there).2
  · intro valid
    refine ⟨⟨⟨valid.provider, valid.model⟩, valid.few⟩, ?_⟩
    intro index route there
    have among := List.mem_of_getElem? there
    exact ⟨⟨valid.fallbacks route among, (route_unseen_iff _).mpr valid.unique index route there⟩,
      valid.differ route among⟩

theorem isolationIssues_nil (routing : RoutingOptions) (batch : BatchExecution) (mode : SessionMode) :
    isolationIssues routing batch mode = [] ↔
      (routing.fallbacks ≠ [] ∨ batch = .parallel → mode = .isolated) := by
  simp only [isolationIssues, List.append_eq_nil_iff, issueIf_nil]
  tauto

theorem absentOrEmpty_false (value : Option String) :
    absentOrEmpty value = false ↔ ∃ text, value = some text ∧ text.isEmpty = false := by
  cases value <;> simp [absentOrEmpty]

theorem sessionIssues_nil (session : SessionOptions) (limits : RequestLimits) :
    sessionIssues session limits = [] ↔ SessionValid limits session := by
  have parts : SessionValid limits session ↔ (SessionMatches session ∧
      IdentifierValid limits session.key) ∧ IdentifierValid limits session.threadId :=
    ⟨fun valid => ⟨⟨valid.fields, valid.key⟩, valid.thread⟩, fun all => ⟨all.1.1, all.1.2, all.2⟩⟩
  rw [parts]
  simp only [sessionIssues, SessionMatches, List.append_eq_nil_iff, identifier_valid]
  apply and_congr_left
  intro _
  apply and_congr_left
  intro _
  cases session.mode with
  | isolated => simp [not_or]
  | persistent => simp [absentOrEmpty_false]
  | thread => simp [absentOrEmpty_false]

theorem transparencyIssues_nil (options : TransparencyOptions) :
    transparencyIssues options = [] ↔ options.transparentThreshold < options.opaqueThreshold ∧
      ∀ key, options.keyColor = some key → validHexColor key = true := by
  cases color : options.keyColor <;> simp [transparencyIssues, color]

theorem metadataIssues_nil (output : OutputOptions) (prompt : String) (negative : Option String) :
    metadataIssues output prompt negative = [] ↔
      (output.metadata.writesSidecar = true → output.responseFormat = .artifact) ∧
      (output.metadata.embeds = true → output.responseFormat ≠ .metadata ∧
        len prompt + (negative.map len).getD 0 ≤ maxEmbeddedRequestTextBytes) := by
  simp only [metadataIssues, List.append_eq_nil_iff, issueIf_nil, not_and, not_not, Nat.not_lt]
  tauto

theorem placementIssues_nil (output : OutputOptions) (format : OutputFormat) (n : Nat) :
    deliveryIssues output n = [] ∧ pathIssues output format = [] ↔
      (artifactDelivery output.responseFormat = true ∨
        output.filenamePrefix = none ∧ output.directory = none ∧ output.filename = none) ∧
      (∀ filename, output.filename = some filename → output.filenamePrefix = none ∧ n = 1 ∧
        validOutputFilename filename format = true) ∧
      (output.filename = none → output.collision = .error) ∧
      ∀ directory, output.directory = some directory → validPortableDirectory directory = true := by
  simp only [deliveryIssues, pathIssues, List.append_eq_nil_iff, issueIf_nil]
  cases output.filename <;> cases output.filenamePrefix <;> cases output.directory <;>
    cases artifactDelivery output.responseFormat <;> simp
  tauto

theorem outputIssues_nil (r : ImageRequest) : transparencyIssues r.output.transparency = [] ∧
    deliveryIssues r.output r.parameters.n = [] ∧
    metadataIssues r.output r.prompt r.negativePrompt = [] ∧
    pathIssues r.output r.parameters.outputFormat = [] ↔ OutputValid r := by
  have placement := placementIssues_nil r.output r.parameters.outputFormat r.parameters.n
  rw [transparencyIssues_nil, metadataIssues_nil]
  constructor
  · rintro ⟨⟨thresholds, keyColor⟩, delivery, ⟨sidecar, embedded⟩, path⟩
    obtain ⟨delivered, named, collision, directory⟩ := placement.mp ⟨delivery, path⟩
    exact ⟨thresholds, keyColor, delivered, named, collision, sidecar, embedded, directory⟩
  · intro valid
    obtain ⟨delivery, path⟩ := placement.mpr
      ⟨valid.delivered, valid.named, valid.collision, valid.directory⟩
    exact ⟨⟨valid.thresholds, valid.keyColor⟩, delivery, ⟨valid.sidecar, valid.embedded⟩, path⟩

/-! ## Input images -/

/-- The inputs that are checked one by one. -/
def detailed (operation : ImageOperation) : List ImageInput :=
  detailedImages operation ++ detailedMask operation ++ detailedReferences operation

/-- They are the first 64 inputs. -/
theorem detailed_take (operation : ImageOperation) :
    detailed operation = (inputs operation).take maxDetailedInputValidations := by
  have one : operation.mask.toList.length ≤ 1 := by cases operation.mask <;> simp
  have budget : maxDetailedInputValidations = 64 := rfl
  unfold detailed inputs
  rw [List.append_assoc, List.append_assoc, List.take_append, List.take_append]
  by_cases room : operation.editImages.length < 64
  · have images : (detailedImages operation).length = operation.editImages.length := by
      rw [detailedImages, List.length_take, budget]
      omega
    have mask : detailedMask operation = operation.mask.toList := by
      rw [detailedMask, images, budget, if_pos room]
    have whole : operation.mask.toList.take (64 - operation.editImages.length) =
        operation.mask.toList := List.take_of_length_le (by omega)
    rw [mask, detailedReferences, images, mask, budget, whole, Nat.sub_sub]
    rfl
  · have images : (detailedImages operation).length = 64 := by
      rw [detailedImages, List.length_take, budget]
      omega
    have mask : detailedMask operation = [] := by
      rw [detailedMask, images, budget, if_neg (Nat.lt_irrefl _)]
    have spent : 64 - operation.editImages.length = 0 := by omega
    rw [mask, detailedReferences, images, mask, budget, spent]
    simp [detailedImages, budget]

theorem inputIssues_nil (operation : ImageOperation) (limits : RequestLimits) :
    inputIssues operation limits = [] ↔ ∀ input ∈ detailed operation, InputValid limits input := by
  have numbered (xs : List ImageInput) (field : ImageInput × Nat → String) :
      xs.zipIdx.flatMap (fun entry => validateInput entry.1 (field entry) limits) = [] ↔
        ∀ input ∈ xs, InputValid limits input := by
    rw [zipIdx_nil]
    simp only [validateInput_nil]
    constructor
    · intro valid input among
      obtain ⟨index, there⟩ := List.mem_iff_getElem?.mp among
      exact valid index input there
    · intro valid index input there
      exact valid input (List.mem_of_getElem? there)
  have mask : (detailedMask operation).flatMap (fun input => validateInput input "mask" limits) = [] ↔
      ∀ input ∈ detailedMask operation, InputValid limits input := by
    simp only [List.flatMap_eq_nil_iff, validateInput_nil]
  unfold inputIssues
  rw [List.append_eq_nil_iff, List.append_eq_nil_iff, mask, numbered _ fun entry => _,
    numbered _ fun entry => _, detailed]
  simp only [List.forall_mem_append]

theorem operationValid_nil (r : ImageRequest) (limits : RequestLimits) :
    operationIssues r.operation limits = [] ∧
      fidelityIssues r.operation r.parameters.inputFidelity = [] ∧
      actionIssues r.operation r.parameters.action = [] ↔
    OperationValid r limits ∧ ∀ input ∈ detailed r.operation, InputValid limits input := by
  unfold operationIssues fidelityIssues
  rw [List.append_eq_nil_iff, List.append_eq_nil_iff, inputIssues_nil]
  simp only [issueIf_nil, Nat.not_lt]
  constructor
  · rintro ⟨⟨⟨sources, few⟩, valid⟩, fidelity, action⟩
    refine ⟨⟨?_, few, ?_, ?_, ?_⟩, valid⟩
    · intro images mask references edits
      rw [edits] at sources
      simpa using sources
    · intro wanted
      by_contra bare
      rw [not_or, not_not, not_not] at bare
      exact fidelity ⟨Option.isSome_iff_ne_none.mpr wanted, by simp [bare]⟩
    · intro edit nothing
      rw [nothing, edit] at action
      simp [actionIssues] at action
    · intro generate images mask references edits
      rw [edits, generate] at action
      simp [actionIssues] at action
  · rintro ⟨rules, valid⟩
    refine ⟨⟨⟨?_, rules.few⟩, valid⟩, ?_, ?_⟩
    · cases operation : r.operation with
      | generate references => rfl
      | edit images mask references => simpa using rules.sources images mask references operation
    · rintro ⟨wanted, bare⟩
      obtain edited | referred := rules.fidelity (Option.isSome_iff_ne_none.mp wanted)
      · exact edited (List.length_eq_zero_iff.mp (by omega))
      · exact referred (List.length_eq_zero_iff.mp (by omega))
    · unfold actionIssues
      split
      · rename_i operation action
        exact absurd operation (rules.edits action)
      · rename_i operation action
        exact absurd operation (rules.generates action _ _ _)
      · rfl

/-! ## The whole request -/

theorem reported_rules (r : ImageRequest) (limits : RequestLimits) :
    reported r limits = [] ↔
      RulesHold r limits ∧ ∀ input ∈ detailed r.operation, InputValid limits input := by
  have version : versionIssues r.version = [] ↔ r.version = contractVersion := by
    simp [versionIssues]
  have images : partialImagesIssues r.parameters.partialImages = [] ↔
      r.parameters.partialImages ≤ 3 := by simp [partialImagesIssues]
  unfold reported
  simp only [List.append_eq_nil_iff, and_assoc, version, promptIssues_nil, negativePromptIssues_nil,
    countIssues_nil, sizeIssues_nil, compressionIssues_nil, images, routingIssues_nil,
    isolationIssues_nil, identifier_valid, sessionIssues_nil, timeoutIssues_nil]
  constructor
  · rintro ⟨version, blank, short, negative, some_output, few, edges, hints, compression, images,
      routing, isolated, key, user, transparency, session, timeout, delivery, metadata, path,
      operation, fidelity, action⟩
    have output := (outputIssues_nil r).mp ⟨transparency, delivery, metadata, path⟩
    obtain ⟨rules, valid⟩ := (operationValid_nil r limits).mp ⟨operation, fidelity, action⟩
    exact ⟨⟨version, ⟨blank, short⟩, negative, ⟨some_output, few⟩, ⟨edges, hints⟩, compression,
      images, routing, isolated, key, user, session, timeout, output, rules⟩, valid⟩
  · rintro ⟨rules, valid⟩
    obtain ⟨transparency, delivery, metadata, path⟩ := (outputIssues_nil r).mpr rules.output
    obtain ⟨operation, fidelity, action⟩ := (operationValid_nil r limits).mpr ⟨rules.operation, valid⟩
    exact ⟨rules.version, rules.prompt.1, rules.prompt.2, rules.negative, rules.count.1,
      rules.count.2, rules.size.1, rules.size.2, rules.compression, rules.partialImages,
      rules.routing, rules.isolated, rules.idempotencyKey, rules.user, transparency, rules.session,
      rules.timeout, delivery, metadata, path, operation, fidelity, action⟩

/-- The order of issues: by field, then by code. -/
def Precedes (left right : ValidationIssue) : Prop :=
  left.field < right.field ∨ left.field = right.field ∧ ¬right.code < left.code

theorem issueLe_iff (left right : ValidationIssue) : issueLe left right = true ↔ Precedes left right := by
  simp only [issueLe, Precedes, Bool.or_eq_true, Bool.and_eq_true, decide_eq_true_eq, beq_iff_eq,
    Bool.not_eq_true', decide_eq_false_iff_not]

theorem Precedes.trans {a b c : ValidationIssue} (first : Precedes a b) (second : Precedes b c) :
    Precedes a c := by
  obtain before | ⟨same, least⟩ := first
  · obtain onward | ⟨equal, _⟩ := second
    · exact Or.inl (String.lt_trans before onward)
    · exact Or.inl (equal ▸ before)
  · obtain onward | ⟨equal, greatest⟩ := second
    · exact Or.inl (same ▸ onward)
    · have le : a.code ≤ c.code := String.le_trans least greatest
      exact Or.inr ⟨same.trans equal, le⟩

theorem Precedes.total (a b : ValidationIssue) : Precedes a b ∨ Precedes b a := by
  by_cases before : a.field < b.field
  · exact Or.inl (Or.inl before)
  by_cases after : b.field < a.field
  · exact Or.inr (Or.inl after)
  have same : a.field = b.field := String.le_antisymm after before
  obtain least | least := String.le_total a.code b.code
  · exact Or.inl (Or.inr ⟨same, least⟩)
  · exact Or.inr (Or.inr ⟨same.symm, least⟩)

theorem validationIssues_ordered (r : ImageRequest) (limits : RequestLimits) :
    (validationIssues r limits).Pairwise Precedes := by
  have sorted : (validationIssues r limits).Pairwise fun left right => issueLe left right = true := by
    refine List.pairwise_mergeSort ?_ ?_ _
    · intro a b c first second
      rw [issueLe_iff] at *
      exact first.trans second
    · intro a b
      rw [Bool.or_eq_true, issueLe_iff, issueLe_iff]
      exact Precedes.total a b
  exact sorted.imp fun {left right} le => (issueLe_iff left right).mp le

theorem validationIssues_bounded (r : ImageRequest) (limits : RequestLimits) :
    (validationIssues r limits).length ≤ maxValidationIssues := by
  rw [validationIssues, List.length_mergeSort]
  unfold truncated
  split
  · exact Nat.le_trans ‹_› (Nat.sub_le ..)
  · rw [List.length_append, List.length_take]
    simp only [List.length_singleton, maxValidationIssues]
    omega

theorem validateRequest_accepts (r : ImageRequest) (limits : RequestLimits) :
    validateRequest r limits = .ok () ↔ RulesHold r limits ∧
      ∀ input ∈ (inputs r.operation).take 64, InputValid limits input := by
  rw [validateRequest_ok, reported_rules, detailed_take]
  rfl

/-- What a successful validation promises, and how issues are listed. -/
structure Sound (r : ImageRequest) (limits : RequestLimits) : Prop where
  complete : validateRequest r limits = .ok () →
    RulesHold r limits ∧ ∀ input ∈ inputs r.operation, InputValid limits input
  bounded : (validationIssues r limits).length ≤ 64
  ordered : (validationIssues r limits).Pairwise Precedes

/-- The first 64 inputs and every other rule are right, and a later input is not. -/
def Overlooked (r : ImageRequest) (limits : RequestLimits) : Prop :=
  RulesHold r limits ∧ (∀ input ∈ (inputs r.operation).take 64, InputValid limits input) ∧
    ∃ input ∈ (inputs r.operation).drop 64, ¬InputValid limits input

/-- Validation misses what stands behind the detailed checks, and nothing else. -/
theorem validation_sound_iff (r : ImageRequest) (limits : RequestLimits) :
    Sound r limits ↔ ¬Overlooked r limits := by
  have accepted := validateRequest_accepts r limits
  constructor
  · rintro sound ⟨rules, first, input, later, invalid⟩
    have all := (sound.complete (accepted.mpr ⟨rules, first⟩)).2
    exact invalid (all input (List.mem_of_mem_drop later))
  · intro seen
    refine ⟨?_, validationIssues_bounded r limits, validationIssues_ordered r limits⟩
    intro ok
    obtain ⟨rules, first⟩ := accepted.mp ok
    refine ⟨rules, fun input among => ?_⟩
    by_contra invalid
    rw [← List.take_append_drop 64 (inputs r.operation)] at among
    obtain early | later := List.mem_append.mp among
    · exact invalid (first input early)
    · exact seen ⟨rules, first, input, later, invalid⟩

/-- Sixty-five references, the last of them without data. -/
def crowded : ImageRequest :=
  { ImageRequest.generate "a lighthouse" with
    operation := .generate (List.replicate 64 { source := .base64 "AA==" } ++
      [{ source := .base64 "" }]) }

theorem sixty_fifth_unchecked : ¬Sound crowded { maxInputs := 65 } := by
  intro sound
  have accepted : validateRequest crowded { maxInputs := 65 } = .ok () :=
    (validateRequest_ok _ _).mpr (by decide +kernel)
  have valid := (sound.complete accepted).2 { source := .base64 "" } (by decide)
  exact absurd valid.source.2 (by decide)

end ImagegenBridge.Validation
