import ImagegenBridge.Core.Validation

/-!
# One request under two sets of limits

Configured limits and built-in limits meet at the adapters. A request valid
under the first is valid under the second exactly when its sizes fit there.
-/

namespace ImagegenBridge.Validation

open Text

variable {r : ImageRequest} {limits other : RequestLimits}

/-- Every identifier of a request, wherever it stands. -/
def identifiers (r : ImageRequest) : List String :=
  r.routing.provider.toList ++ r.routing.model.toList ++
  r.routing.fallbacks.flatMap (fun route => route.provider :: route.model.toList) ++
  r.idempotencyKey.toList ++ r.user.toList ++ r.session.key.toList ++ r.session.threadId.toList

/-- The encoded size of an inline input, zero for a reference. -/
def inlineEncodedBytes : ImageSource → Nat
  | .file _ | .url _ => 0
  | .dataUrl dataUrl => len dataUrl
  | .base64 data => len data

/-- The inputs whose details are checked. -/
def detailedInputs (operation : ImageOperation) : List ImageInput :=
  detailedImages operation ++ detailedMask operation ++ detailedReferences operation

/-- What limits say about the fields of a request that negotiation leaves alone. -/
structure UntouchedFits (r : ImageRequest) (limits : RequestLimits) : Prop where
  identifiers : ∀ text ∈ identifiers r, len text ≤ limits.maxIdentifierBytes
  timeout : ∀ t, r.timeoutMs = some t → t ≤ limits.maxTimeoutMs
  inputs : inputCount r.operation ≤ limits.maxInputs
  inline : ∀ input ∈ detailedInputs r.operation,
    inlineEncodedBytes input.source ≤ limits.maxInlineEncodedBytes

theorem exists_mem_zipIdx {α : Type} {x : α} {xs : List α} (h : x ∈ xs) :
    ∃ index, (x, index) ∈ xs.zipIdx := by
  obtain ⟨index, bound, found⟩ := List.mem_iff_getElem.mp h
  exact ⟨index, List.mk_mem_zipIdx_iff_getElem?.mpr (List.getElem?_eq_some_iff.mpr ⟨bound, found⟩)⟩

theorem validateIdentifier_nil (value : Option String) (field : String) (limits : RequestLimits) :
    validateIdentifier value field limits = [] ↔ ∀ text, value = some text →
      isBlank text = false ∧ len text ≤ limits.maxIdentifierBytes ∧ hasControl text = false := by
  cases value with
  | none => simp [validateIdentifier]
  | some text =>
    cases blank : isBlank text
    · by_cases large : len text > limits.maxIdentifierBytes
      · simp [validateIdentifier, blank, large, Nat.not_le_of_gt large]
      · simp [validateIdentifier, blank, large, Nat.le_of_not_lt large]
    · simp [validateIdentifier, blank]

theorem identifier_nil_iff {value : Option String} {field : String}
    (h : validateIdentifier value field limits = []) :
    validateIdentifier value field other = [] ↔
      ∀ text, value = some text → len text ≤ other.maxIdentifierBytes := by
  rw [validateIdentifier_nil] at h ⊢
  constructor
  · intro valid text present
    exact (valid text present).2.1
  · intro fits text present
    obtain ⟨blank, _, control⟩ := h text present
    exact ⟨blank, fits text present, control⟩

theorem fallback_nil_iff {routing : RoutingOptions} {index : Nat} {route : ProviderRoute}
    {earlier : List ProviderRoute}
    (h : fallbackIssues routing limits index route earlier = []) :
    fallbackIssues routing other index route earlier = [] ↔
      len route.provider ≤ other.maxIdentifierBytes ∧
        ∀ text, route.model = some text → len text ≤ other.maxIdentifierBytes := by
  simp only [fallbackIssues, List.append_eq_nil_iff] at h ⊢
  obtain ⟨⟨⟨provider, model⟩, unique⟩, primary⟩ := h
  rw [identifier_nil_iff provider, identifier_nil_iff model, and_iff_left primary,
    and_iff_left unique]
  simp

theorem routing_nil_iff {routing : RoutingOptions} (h : routingIssues routing limits = []) :
    routingIssues routing other = [] ↔
      (∀ text, routing.provider = some text → len text ≤ other.maxIdentifierBytes) ∧
      (∀ text, routing.model = some text → len text ≤ other.maxIdentifierBytes) ∧
      ∀ route ∈ routing.fallbacks, len route.provider ≤ other.maxIdentifierBytes ∧
        ∀ text, route.model = some text → len text ≤ other.maxIdentifierBytes := by
  simp only [routingIssues, List.append_eq_nil_iff, List.flatMap_eq_nil_iff] at h ⊢
  obtain ⟨⟨⟨provider, model⟩, few⟩, routes⟩ := h
  rw [identifier_nil_iff provider, identifier_nil_iff model, and_assoc, and_assoc]
  simp only [few, true_and]
  have each : ∀ entry ∈ routing.fallbacks.zipIdx,
      (fallbackIssues routing other entry.2 entry.1 (routing.fallbacks.take entry.2) = [] ↔
        len entry.1.provider ≤ other.maxIdentifierBytes ∧
          ∀ text, entry.1.model = some text → len text ≤ other.maxIdentifierBytes) :=
    fun entry member => fallback_nil_iff (routes entry member)
  have indexed : (∀ entry ∈ routing.fallbacks.zipIdx,
        fallbackIssues routing other entry.2 entry.1 (routing.fallbacks.take entry.2) = []) ↔
      ∀ route ∈ routing.fallbacks, len route.provider ≤ other.maxIdentifierBytes ∧
        ∀ text, route.model = some text → len text ≤ other.maxIdentifierBytes := by
    constructor
    · intro valid route member
      obtain ⟨index, entry⟩ := exists_mem_zipIdx member
      exact (each _ entry).mp (valid _ entry)
    · intro fits entry member
      exact (each entry member).mpr (fits entry.1 (List.fst_mem_of_mem_zipIdx member))
  exact and_congr_right fun _ => and_congr_right fun _ => indexed

theorem timeout_nil_iff {timeoutMs : Option Nat} (h : timeoutIssues timeoutMs limits = []) :
    timeoutIssues timeoutMs other = [] ↔ ∀ t, timeoutMs = some t → t ≤ other.maxTimeoutMs := by
  cases timeoutMs with
  | none => simp [timeoutIssues]
  | some t =>
    simp only [timeoutIssues, issueIf_nil, Option.any_some, Bool.or_eq_true, decide_eq_true_eq,
      not_or] at h ⊢
    simp [h.1]

/-- What a source must be under any limits. -/
def wellFormedSource : ImageSource → Bool
  | .file path => !path.isEmpty
  | .url url => !isBlank url
  | .dataUrl dataUrl => startsWith dataUrl.toList "data:image/".toList
  | .base64 data => !data.isEmpty

theorem sourceIssues_nil (source : ImageSource) (field : String) (limits : RequestLimits) :
    sourceIssues source field limits = [] ↔
      inlineEncodedBytes source ≤ limits.maxInlineEncodedBytes ∧ wellFormedSource source = true := by
  cases source with
  | file path | url url => simp [sourceIssues, inlineEncodedBytes, wellFormedSource]
  | dataUrl text | base64 text =>
    by_cases large : len text > limits.maxInlineEncodedBytes
    · simp [sourceIssues, inlineEncodedBytes, large, Nat.not_le_of_gt large]
    · simp [sourceIssues, inlineEncodedBytes, wellFormedSource, large, Nat.le_of_not_lt large]

theorem input_nil_iff {input : ImageInput} {field : String}
    (h : validateInput input field limits = []) : validateInput input field other = [] ↔
      inlineEncodedBytes input.source ≤ other.maxInlineEncodedBytes := by
  simp only [validateInput, List.append_eq_nil_iff, sourceIssues_nil] at h ⊢
  rw [and_iff_left h.2, and_iff_left h.1.2]

/-- Enumeration only numbers the inputs it visits. -/
theorem enumerated_nil_iff {inputs : List ImageInput} (name : Nat → String)
    (h : inputs.zipIdx.flatMap (fun entry => validateInput entry.1 (name entry.2) limits) = []) :
    inputs.zipIdx.flatMap (fun entry => validateInput entry.1 (name entry.2) other) = [] ↔
      ∀ input ∈ inputs, inlineEncodedBytes input.source ≤ other.maxInlineEncodedBytes := by
  rw [List.flatMap_eq_nil_iff] at h ⊢
  constructor
  · intro valid input member
    obtain ⟨index, entry⟩ := exists_mem_zipIdx member
    exact (input_nil_iff (h _ entry)).mp (valid _ entry)
  · intro fits entry member
    exact (input_nil_iff (h _ member)).mpr (fits entry.1 (List.fst_mem_of_mem_zipIdx member))

theorem inputs_nil_iff {operation : ImageOperation} (h : inputIssues operation limits = []) :
    inputIssues operation other = [] ↔ ∀ input ∈ detailedInputs operation,
      inlineEncodedBytes input.source ≤ other.maxInlineEncodedBytes := by
  simp only [inputIssues, List.append_eq_nil_iff] at h ⊢
  obtain ⟨⟨images, mask⟩, references⟩ := h
  have mask_iff : (detailedMask operation).flatMap (fun input =>
      validateInput input "mask" other) = [] ↔
      ∀ input ∈ detailedMask operation,
        inlineEncodedBytes input.source ≤ other.maxInlineEncodedBytes := by
    rw [List.flatMap_eq_nil_iff] at mask ⊢
    exact forall₂_congr fun input member => input_nil_iff (mask input member)
  rw [enumerated_nil_iff (fun i => s!"images[{i}]") images, mask_iff,
    enumerated_nil_iff (fun i => s!"reference_images[{i}]") references]
  simp only [detailedInputs, List.mem_append, or_imp, forall_and]

theorem operation_nil_iff {operation : ImageOperation} (h : operationIssues operation limits = []) :
    operationIssues operation other = [] ↔ inputCount operation ≤ other.maxInputs ∧
      ∀ input ∈ detailedInputs operation,
        inlineEncodedBytes input.source ≤ other.maxInlineEncodedBytes := by
  simp only [operationIssues, List.append_eq_nil_iff, issueIf_nil, Nat.not_lt] at h ⊢
  rw [and_iff_right h.1.1, inputs_nil_iff h.2]

theorem session_nil_iff {session : SessionOptions} (h : sessionIssues session limits = []) :
    sessionIssues session other = [] ↔
      (∀ text, session.key = some text → len text ≤ other.maxIdentifierBytes) ∧
        ∀ text, session.threadId = some text → len text ≤ other.maxIdentifierBytes := by
  simp only [sessionIssues, List.append_eq_nil_iff] at h ⊢
  obtain ⟨⟨mode, key⟩, thread⟩ := h
  rw [identifier_nil_iff key, identifier_nil_iff thread, and_assoc, and_iff_right mode]

/-- The second limits accept the untouched fields exactly when their sizes fit. -/
theorem untouched_nil_iff (h : untouchedIssues r limits = []) :
    untouchedIssues r other = [] ↔ UntouchedFits r other := by
  simp only [untouchedIssues, List.append_eq_nil_iff, and_assoc] at h ⊢
  obtain ⟨version, routing, isolation, key, user, transparency, session, timeout, operation,
    fidelity⟩ := h
  rw [routing_nil_iff routing, identifier_nil_iff key, identifier_nil_iff user,
    session_nil_iff session, timeout_nil_iff timeout, operation_nil_iff operation,
    and_iff_left fidelity, and_iff_right version, and_iff_right isolation,
    and_iff_right transparency]
  constructor
  · rintro ⟨⟨provider, model, routes⟩, key, user, ⟨sessionKey, thread⟩, timeout, inputs, inline⟩
    refine ⟨?_, timeout, inputs, inline⟩
    intro text member
    simp only [identifiers, List.mem_append, Option.mem_toList, List.mem_flatMap,
      List.mem_cons] at member
    obtain (((((h | h) | ⟨route, listed, h⟩) | h) | h) | h) | h := member
    · exact provider text h
    · exact model text h
    · obtain rfl | h := h
      · exact (routes route listed).1
      · exact (routes route listed).2 text h
    · exact key text h
    · exact user text h
    · exact sessionKey text h
    · exact thread text h
  · rintro ⟨fits, timeout, inputs, inline⟩
    have fits : ∀ text, text ∈ identifiers r → len text ≤ other.maxIdentifierBytes := fits
    simp only [identifiers, List.mem_append, Option.mem_toList, List.mem_flatMap, List.mem_cons]
      at fits
    refine ⟨⟨fun t h => fits t (by simp [h]), fun t h => fits t (by simp [h]), ?_⟩,
      fun t h => fits t (by simp [h]), fun t h => fits t (by simp [h]),
      ⟨fun t h => fits t (by simp [h]), fun t h => fits t (by simp [h])⟩, timeout, inputs, inline⟩
    intro route listed
    refine ⟨fits _ ?_, fun text h => fits text ?_⟩
    · exact Or.inl (Or.inl (Or.inl (Or.inl (Or.inr ⟨route, listed, Or.inl rfl⟩))))
    · exact Or.inl (Or.inl (Or.inl (Or.inl (Or.inr ⟨route, listed, Or.inr h⟩))))

end ImagegenBridge.Validation
