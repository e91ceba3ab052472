import ImagegenBridge.Core.Negotiation
import ImagegenBridge.Lib.Rewriting

/-!
# Negotiation as a sequence of rewrites

Eleven of the thirteen generation parameters are rewritten, each by one stage.
A stage keeps the draft, or sets its own parameter and appends one normalization.
-/

namespace ImagegenBridge.Negotiation

open Rewriting

/-- The fields of `GenerationParameters`. -/
inductive Parameter where
  | n | size | aspectRatio | resolution | quality | outputFormat | outputCompression | background
  | moderation | partialImages | failurePolicy | inputFidelity | action
  deriving DecidableEq, Repr

def failurePolicyWire : MultiImageFailurePolicy → String
  | .failFast => "fail_fast" | .bestEffort => "best_effort"

namespace Parameter

/-- The field that a normalization of the parameter names. -/
def path : Parameter → String
  | .n => "parameters.n"
  | .size => "parameters.size"
  | .aspectRatio => "parameters.aspect_ratio"
  | .resolution => "parameters.resolution"
  | .quality => "parameters.quality"
  | .outputFormat => "parameters.output_format"
  | .outputCompression => "parameters.output_compression"
  | .background => "parameters.background"
  | .moderation => "parameters.moderation"
  | .partialImages => "parameters.partial_images"
  | .failurePolicy => "parameters.failure_policy"
  | .inputFidelity => "parameters.input_fidelity"
  | .action => "parameters.action"

/-- The value of the parameter as a normalization shows it. -/
def value : Parameter → GenerationParameters → Option Json
  | .n, p => some (.integer p.n)
  | .size, p => some (.string p.size.asStr)
  | .aspectRatio, p => p.aspectRatio.map fun ratio => .string ratio.asStr
  | .resolution, p => p.resolution.map fun resolution => .string resolution.wire
  | .quality, p => some (.string p.quality.wire)
  | .outputFormat, p => some (.string p.outputFormat.wire)
  | .outputCompression, p => p.outputCompression.map fun level => .integer level
  | .background, p => some (.string p.background.wire)
  | .moderation, p => some (.string p.moderation.wire)
  | .partialImages, p => some (.integer p.partialImages)
  | .failurePolicy, p => some (.string (failurePolicyWire p.failurePolicy))
  | .inputFidelity, p => p.inputFidelity.map fun fidelity => .string fidelity.wire
  | .action, p => some (.string p.action.wire)

/-- Whether two parameter sets agree on the parameter. -/
def Same : Parameter → GenerationParameters → GenerationParameters → Prop
  | .n, p, q => p.n = q.n
  | .size, p, q => p.size = q.size
  | .aspectRatio, p, q => p.aspectRatio = q.aspectRatio
  | .resolution, p, q => p.resolution = q.resolution
  | .quality, p, q => p.quality = q.quality
  | .outputFormat, p, q => p.outputFormat = q.outputFormat
  | .outputCompression, p, q => p.outputCompression = q.outputCompression
  | .background, p, q => p.background = q.background
  | .moderation, p, q => p.moderation = q.moderation
  | .partialImages, p, q => p.partialImages = q.partialImages
  | .failurePolicy, p, q => p.failurePolicy = q.failurePolicy
  | .inputFidelity, p, q => p.inputFidelity = q.inputFidelity
  | .action, p, q => p.action = q.action

instance (x : Parameter) (p q : GenerationParameters) : Decidable (x.Same p q) := by
  cases x <;> unfold Same <;> infer_instance

/-- The first set with the parameter of the second. -/
def assign : Parameter → GenerationParameters → GenerationParameters → GenerationParameters
  | .n, p, q => { p with n := q.n }
  | .size, p, q => { p with size := q.size }
  | .aspectRatio, p, q => { p with aspectRatio := q.aspectRatio }
  | .resolution, p, q => { p with resolution := q.resolution }
  | .quality, p, q => { p with quality := q.quality }
  | .outputFormat, p, q => { p with outputFormat := q.outputFormat }
  | .outputCompression, p, q => { p with outputCompression := q.outputCompression }
  | .background, p, q => { p with background := q.background }
  | .moderation, p, q => { p with moderation := q.moderation }
  | .partialImages, p, q => { p with partialImages := q.partialImages }
  | .failurePolicy, p, q => { p with failurePolicy := q.failurePolicy }
  | .inputFidelity, p, q => { p with inputFidelity := q.inputFidelity }
  | .action, p, q => { p with action := q.action }

/-- Whether a provider takes the parameter as it is. -/
def Inside (c : ProviderCapabilities) : Parameter → GenerationParameters → Prop
  | .n, p => c.count.contains p.n = true
  | .size, p => sizeSupported p.size c = true
  | .aspectRatio, p => p.aspectRatio ≠ none → c.aspectRatio ≠ .unsupported
  | .resolution, p => p.resolution ≠ none → c.resolution ≠ .unsupported
  | .quality, p => p.quality ∈ c.qualities
  | .outputFormat, p => p.outputFormat ∈ c.outputFormats
  | .outputCompression, p =>
    p.outputCompression ≠ none → p.outputFormat = .jpeg ∨ p.outputFormat = .webp
  | .background, p => p.background ∈ c.backgrounds
  | .moderation, p => p.moderation ∈ c.moderation
  | .partialImages, p => c.partialImages.contains p.partialImages = true
  | .failurePolicy, _ => True
  | .inputFidelity, p => ∀ fidelity, p.inputFidelity = some fidelity → fidelity ∈ c.inputFidelities
  | .action, p => p.action ∈ c.actions

variable {x y : Parameter} {p q : GenerationParameters}

theorem same_equivalence (x : Parameter) : Equivalence x.Same where
  refl p := by cases x <;> rfl
  symm held := by cases x <;> exact held.symm
  trans first second := by cases x <;> exact first.trans second

theorem same_value (same : x.Same p q) : x.value p = x.value q := by
  cases x <;> unfold Same at same <;> simp only [value, same]

theorem same_assign (other : y ≠ x) : y.Same p (x.assign p q) := by
  cases x <;> cases y <;> first | rfl | exact absurd rfl other

theorem path_injective (same : x.path = y.path) : x = y := by
  cases x <;> cases y <;> first | rfl | simp [path] at same

end Parameter

/-- The stage of one parameter. Two parameters are never rewritten. -/
def stage (c : ProviderCapabilities) : Parameter → Draft → Outcome Draft
  | .n => negotiateCount c
  | .size => negotiateSize c
  | .aspectRatio => negotiateRatio c
  | .resolution => negotiateResolution c
  | .quality => negotiateQuality c
  | .outputFormat => negotiateOutputFormat c
  | .outputCompression => negotiateCompression c
  | .background => negotiateBackground c
  | .moderation => negotiateModeration c
  | .partialImages => negotiatePartialImages c
  | .failurePolicy | .inputFidelity => fun draft => .ok draft
  | .action => negotiateAction c

/-- The parameters in the order of their stages. -/
def rewritten : List Parameter :=
  [.action, .n, .size, .aspectRatio, .resolution, .quality, .outputFormat, .outputCompression,
    .background, .moderation, .partialImages]

section

variable {c : ProviderCapabilities} {x : Parameter} {draft draft' : Draft} {r : ImageRequest}
  {plan : NegotiatedRequest}

/-- What comes before the first stage. -/
def precheck (r : ImageRequest) (c : ProviderCapabilities) : Outcome Unit := do
  c.validate
  checkModel r c
  checkOperation r c
  checkInputCounts r c
  checkSessions r c
  checkUserAttribution r c
  checkInputFidelity r c

theorem negotiateRequest_run : negotiateRequest r c = (do
    precheck r c
    let draft ← run (stage c) rewritten ⟨r, []⟩
    let draft ← negotiateNegativePrompt c draft
    Outcome.failIf (r.policies.revisedPrompt = .require ∧ c.revisedPrompt = .unsupported)
      (unsupported c "policies.revised_prompt" "provider cannot return a revised prompt")
    .ok ⟨r.parameters, draft.request, draft.normalizations⟩) := by
  simp only [negotiateRequest, precheck, rewritten, run, stage, negotiateHints, negotiateFormat,
    bind_assoc]
  rfl

/-- The one document whose fallback for `auto` is `auto` itself. -/
def RepeatsAuto (c : ProviderCapabilities) (size : ImageSize) : Prop :=
  size = .auto ∧ c.sizes.auto = false ∧ c.sizes.allowed.head? = some .auto

/-- A consistent document that lists explicit sizes only. -/
structure Regular (c : ProviderCapabilities) : Prop where
  valid : c.validate = .ok ()
  explicit : ∀ size ∈ c.sizes.allowed, size ≠ .auto

/-- What one stage does to a draft. A strict request keeps all but its action. -/
inductive Effect (c : ProviderCapabilities) (x : Parameter) (draft : Draft) : Draft → Prop
  | kept (inside : x.Inside c draft.parameters) : Effect c x draft draft
  | noted (p : GenerationParameters) (reason : String)
      (own : p = x.assign draft.parameters p)
      (moved : ¬x.Same draft.parameters p ∨ x = .size ∧ RepeatsAuto c draft.parameters.size)
      (lenient : isStrict draft = false ∨ x = .action ∧ p.action = .auto)
      (inside : Regular c → x.Inside c p) :
      Effect c x draft ((recordOptional draft x.path (x.value draft.parameters) (x.value p)
        reason).setParameters p)

theorem sizeFallback_same (unsupported : ¬sizeSupported draft.parameters.size c = true)
    (fallback : sizeFallback draft.parameters.size c = some draft.parameters.size) :
    RepeatsAuto c draft.parameters.size := by
  cases size : draft.parameters.size with
  | auto =>
    simp only [size, sizeSupported, Bool.not_eq_true] at unsupported
    simp only [size, sizeFallback, ImageSize.isAuto, Bool.not_true, Bool.false_and] at fallback
    exact ⟨rfl, unsupported, fallback⟩
  | exact width height widthPos heightPos =>
    simp only [size, sizeSupported, Bool.or_eq_true, decide_eq_true_eq, not_or] at unsupported
    simp only [size, sizeFallback] at fallback
    split at fallback
    · cases fallback
    · exact absurd (List.mem_of_mem_head? fallback) unsupported.1

/-- Among explicit sizes a fallback is supported. -/
theorem sizeFallback_supported {size effective : ImageSize}
    (explicit : ∀ size ∈ c.sizes.allowed, size ≠ .auto)
    (fallback : sizeFallback size c = some effective) : sizeSupported effective c = true := by
  unfold sizeFallback at fallback
  split at fallback
  · rename_i automatic
    cases fallback
    simp only [Bool.and_eq_true] at automatic
    exact automatic.2
  · have allowed : effective ∈ c.sizes.allowed := List.mem_of_mem_head? fallback
    cases effective with
    | auto => exact absurd rfl (explicit .auto allowed)
    | exact width height widthPos heightPos => simp [sizeSupported, allowed]

theorem valueFallback_mem {α : Type} [DecidableEq α] {declared : List α} {default v : α}
    (fallback : valueFallback declared default = some v) : v ∈ declared := by
  unfold valueFallback at fallback
  split at fallback
  · rename_i present
    cases fallback
    exact present
  · exact List.mem_of_mem_head? fallback

theorem clamp_moves {range : U8Range} {value : Nat} (outside : ¬range.contains value = true) :
    value ≠ range.clamp value := by
  simp only [U8Range.contains, Bool.and_eq_true, decide_eq_true_eq, not_and_or] at outside
  unfold U8Range.clamp
  split
  · omega
  · split <;> omega

theorem clamp_inside {range : U8Range} (ordered : range.min ≤ range.max) (value : Nat) :
    range.contains (range.clamp value) = true := by
  have least := U8Range.min_le_clamp ordered value
  have most := (U8Range.clamp_le_iff ordered value range.max).mpr ⟨ordered, Or.inr (Nat.le_refl _)⟩
  simp only [U8Range.contains, Bool.and_eq_true, decide_eq_true_eq]
  exact ⟨least, most⟩

/-- The one lemma of the four set-valued parameters. -/
theorem value_effect {α : Type} [DecidableEq α] {undeclared : String} {declared : List α}
    {default requested : α} {wire : α → String}
    {set : GenerationParameters → α → GenerationParameters}
    (ok : negotiateValue c draft x.path undeclared declared default requested wire set = .ok draft')
    (shown : x.value draft.parameters = some (.string (wire requested)))
    (shows : ∀ v, x.value (set draft.parameters v) = some (.string (wire v)))
    (own : ∀ v, set draft.parameters v = x.assign draft.parameters (set draft.parameters v))
    (moves : ∀ v, x.Same draft.parameters (set draft.parameters v) → requested = v)
    (here : requested ∈ declared → x.Inside c draft.parameters)
    (there : ∀ v ∈ declared, x.Inside c (set draft.parameters v)) :
    Effect c x draft draft' := by
  unfold negotiateValue at ok
  split at ok
  · rename_i present
    cases ok
    exact .kept (here present)
  · rename_i absent
    cases fallback : valueFallback declared default with
    | none =>
      rw [fallback] at ok
      cases ok
    | some v =>
      rw [fallback] at ok
      obtain ⟨noted, normalized, ok⟩ := Outcome.bind_ok.mp ok
      unfold normalizeOrReject at normalized
      have present : v ∈ declared := valueFallback_mem fallback
      split at normalized
      · cases normalized
      · rename_i lenient
        cases normalized
        cases ok
        unfold record
        rw [← shown, ← shows v]
        apply Effect.noted _ _ (own v) _ (Or.inl (by simpa using lenient))
        · exact fun _ => there v present
        · left
          intro same
          have unmoved : requested = v := moves v same
          subst unmoved
          exact absent present

/-- The one lemma of the three optional parameters: an unsupported value is dropped. -/
theorem dropped_effect {shown : Json} {p : GenerationParameters} {reason : String}
    (own : p = x.assign draft.parameters p) (value : x.value draft.parameters = some shown)
    (gone : x.value p = none) (inside : x.Inside c p) (lenient : ¬isStrict draft = true) :
    Effect c x draft ((recordOptional draft x.path (some shown) none reason).setParameters p) := by
  rw [← value, ← gone]
  apply Effect.noted p reason own _ (Or.inl (by simpa using lenient)) (fun _ => inside)
  left
  intro same
  have impossible : some shown = none := by
    rw [← value, Parameter.same_value same, gone]
  cases impossible

theorem action_effect (ok : negotiateAction c draft = .ok draft') :
    Effect c .action draft draft' := by
  simp only [negotiateAction] at ok
  split at ok
  · rename_i declared
    cases ok
    exact .kept declared
  · split at ok
    · rename_i automatic
      cases ok
      exact .noted { draft.parameters with action := .auto } _ rfl (Or.inl automatic.1)
        (Or.inr ⟨rfl, rfl⟩) (fun _ => automatic.2)
    · cases ok

theorem count_effect (ok : negotiateCount c draft = .ok draft') : Effect c .n draft draft' := by
  simp only [negotiateCount] at ok
  split at ok
  · rename_i inRange
    cases ok
    exact .kept inRange
  · rename_i outside
    split at ok
    · cases ok
    · rename_i lenient
      cases ok
      have inside : Regular c → c.count.contains (c.count.clamp draft.parameters.n) = true := by
        intro regular
        exact clamp_inside (ProviderCapabilities.validate_ranges regular.valid).2.1 _
      exact .noted { draft.parameters with n := c.count.clamp draft.parameters.n } _ rfl
        (Or.inl (clamp_moves outside)) (Or.inl (by simpa using lenient)) inside

theorem partialImages_effect (ok : negotiatePartialImages c draft = .ok draft') :
    Effect c .partialImages draft draft' := by
  simp only [negotiatePartialImages] at ok
  split at ok
  · rename_i inRange
    cases ok
    exact .kept inRange
  · rename_i outside
    split at ok
    · cases ok
    · rename_i lenient
      cases ok
      have inside : Regular c →
          c.partialImages.contains (c.partialImages.clamp draft.parameters.partialImages) = true := by
        intro regular
        exact clamp_inside (ProviderCapabilities.validate_ranges regular.valid).2.2 _
      exact .noted { draft.parameters with
        partialImages := c.partialImages.clamp draft.parameters.partialImages } _ rfl
        (Or.inl (clamp_moves outside)) (Or.inl (by simpa using lenient)) inside

theorem size_effect (ok : negotiateSize c draft = .ok draft') : Effect c .size draft draft' := by
  simp only [negotiateSize] at ok
  split at ok
  · rename_i supported
    cases ok
    exact .kept supported
  · rename_i unsupported
    split at ok
    · cases ok
    · rename_i lenient
      cases fallback : sizeFallback draft.parameters.size c with
      | none =>
        rw [fallback] at ok
        cases ok
      | some size =>
        rw [fallback] at ok
        cases ok
        apply Effect.noted { draft.parameters with size } _ rfl _ (Or.inl (by simpa using lenient))
        · intro regular
          exact sizeFallback_supported regular.explicit fallback
        · by_cases same : draft.parameters.size = size
          · subst same
            exact Or.inr ⟨rfl, sizeFallback_same unsupported fallback⟩
          · exact Or.inl same

theorem ratio_effect (ok : negotiateRatio c draft = .ok draft') :
    Effect c .aspectRatio draft draft' := by
  simp only [negotiateRatio] at ok
  split at ok
  · rename_i absent
    cases ok
    exact .kept fun present => absurd absent present
  · rename_i requested hint
    split at ok
    · rename_i supported
      cases ok
      exact .kept fun _ => supported
    · split at ok
      · cases ok
      · rename_i lenient
        cases ok
        exact dropped_effect rfl (by simp [Parameter.value, hint]) rfl (absurd rfl) lenient

theorem resolution_effect (ok : negotiateResolution c draft = .ok draft') :
    Effect c .resolution draft draft' := by
  simp only [negotiateResolution] at ok
  split at ok
  · rename_i absent
    cases ok
    exact .kept fun present => absurd absent present
  · rename_i requested hint
    split at ok
    · rename_i supported
      cases ok
      exact .kept fun _ => supported
    · split at ok
      · cases ok
      · rename_i lenient
        cases ok
        exact dropped_effect rfl (by simp [Parameter.value, hint]) rfl (absurd rfl) lenient

theorem compression_effect (ok : negotiateCompression c draft = .ok draft') :
    Effect c .outputCompression draft draft' := by
  simp only [negotiateCompression] at ok
  split at ok
  · rename_i absent
    cases ok
    exact .kept fun present => absurd absent present
  · rename_i requested level
    split at ok
    · rename_i compressed
      cases ok
      exact .kept fun _ => compressed
    · split at ok
      · cases ok
      · rename_i lenient
        cases ok
        exact dropped_effect rfl (by simp [Parameter.value, level]) rfl (absurd rfl) lenient

/-- Every stage keeps a draft whose parameter is inside, or notes what it sets. -/
theorem stage_effect (staged : x ∈ rewritten) (ok : stage c x draft = .ok draft') :
    Effect c x draft draft' := by
  cases x with
  | n => exact count_effect ok
  | size => exact size_effect ok
  | aspectRatio => exact ratio_effect ok
  | resolution => exact resolution_effect ok
  | quality =>
    unfold stage negotiateQuality at ok
    exact value_effect ok rfl (fun _ => rfl) (fun _ => rfl) (fun _ same => same) id fun _ => id
  | outputFormat =>
    unfold stage negotiateOutputFormat at ok
    exact value_effect ok rfl (fun _ => rfl) (fun _ => rfl) (fun _ same => same) id fun _ => id
  | outputCompression => exact compression_effect ok
  | background =>
    unfold stage negotiateBackground at ok
    exact value_effect ok rfl (fun _ => rfl) (fun _ => rfl) (fun _ same => same) id fun _ => id
  | moderation =>
    unfold stage negotiateModeration at ok
    exact value_effect ok rfl (fun _ => rfl) (fun _ => rfl) (fun _ same => same) id fun _ => id
  | partialImages => exact partialImages_effect ok
  | failurePolicy =>
    cases ok
    exact .kept trivial
  | inputFidelity => simp [rewritten] at staged
  | action => exact action_effect ok

end

end ImagegenBridge.Negotiation
