import ImagegenBridge.Core.NegotiationStages
import ImagegenBridge.Core.NegotiationValidity

/-!
# Negotiation as a projection

A successful negotiation ends inside the capabilities, and a request inside them
is the result of its own negotiation. The runtime, the fan-out decorator and the
providers negotiate one request in sequence for this reason.
-/

namespace ImagegenBridge.Negotiation

open Rewriting

/-- What the checks before the first stage accept. -/
structure Accepted (r : ImageRequest) (c : ProviderCapabilities) : Prop where
  model : ∀ requested effective, r.routing.model = some requested → c.model = some effective →
    requested = effective
  generates : ∀ references, r.operation = .generate references → c.generation = true
  edits : ∀ images mask references, r.operation = .edit images mask references → c.edits = true ∧
    images.length ≤ c.editImages.maxCount ∧ c.editImages.support ≠ .unsupported ∧
    (mask ≠ none → c.masks.support ≠ .unsupported ∧ c.masks.maxCount ≠ 0)
  references : r.operation.referenceImages.length ≤ c.referenceImages.maxCount ∧
    (r.operation.referenceImages ≠ [] → c.referenceImages.support ≠ .unsupported)
  persistent : r.session.mode = .persistent → c.persistentSessions = true
  thread : r.session.mode = .thread → c.explicitThreads = true
  user : r.user ≠ none → c.userAttribution ≠ .unsupported
  fidelity : ∀ fidelity, r.parameters.inputFidelity = some fidelity → fidelity ∈ c.inputFidelities

/-- A request that the provider honors as it is. -/
structure Inside (r : ImageRequest) (c : ProviderCapabilities) : Prop extends Accepted r c where
  parameters : ∀ x : Parameter, x.Inside c r.parameters
  negative : r.negativePrompt ≠ none → c.negativePrompt = .native ∧
    (r.policies.negativePrompt = .native ∨ r.policies.negativePrompt = .auto)
  revised : r.policies.revisedPrompt = .require → c.revisedPrompt ≠ .unsupported

section

variable {c : ProviderCapabilities} {r : ImageRequest} {draft : Draft} {x : Parameter}
  {plan : NegotiatedRequest}

theorem checkModel_iff : checkModel r c = .ok () ↔ ∀ requested effective,
    r.routing.model = some requested → c.model = some effective → requested = effective := by
  cases requested : r.routing.model with
  | none => simp [checkModel, requested]
  | some a =>
    cases effective : c.model with
    | none => simp [checkModel, requested, effective]
    | some b => by_cases same : a = b <;> simp [checkModel, requested, effective, same]

theorem checkFidelity_iff : checkInputFidelity r c = .ok () ↔
    ∀ fidelity, r.parameters.inputFidelity = some fidelity → fidelity ∈ c.inputFidelities := by
  cases requested : r.parameters.inputFidelity with
  | none => simp [checkInputFidelity, requested]
  | some fidelity => simp [checkInputFidelity, requested]

theorem checkSessions_iff : checkSessions r c = .ok () ↔
    (r.session.mode = .persistent → c.persistentSessions = true) ∧
      (r.session.mode = .thread → c.explicitThreads = true) := by
  cases mode : r.session.mode <;> simp [checkSessions, mode]

theorem checkUser_iff :
    checkUserAttribution r c = .ok () ↔ (r.user ≠ none → c.userAttribution ≠ .unsupported) := by
  simp [checkUserAttribution, Option.isSome_iff_ne_none]

/-- The operation and the counts of its inputs. -/
theorem checkInputs_iff : (checkOperation r c = .ok () ∧ checkInputCounts r c = .ok ()) ↔
    (∀ references, r.operation = .generate references → c.generation = true) ∧
      (∀ images mask references, r.operation = .edit images mask references → c.edits = true ∧
        images.length ≤ c.editImages.maxCount ∧ c.editImages.support ≠ .unsupported ∧
        (mask ≠ none → c.masks.support ≠ .unsupported ∧ c.masks.maxCount ≠ 0)) ∧
      r.operation.referenceImages.length ≤ c.referenceImages.maxCount ∧
      (r.operation.referenceImages ≠ [] → c.referenceImages.support ≠ .unsupported) := by
  cases operation : r.operation with
  | generate references =>
    simp [checkOperation, checkInputCounts, operation, Outcome.bind_ok,
      ImageOperation.referenceImages, List.length_pos_iff]
  | edit images mask references =>
    simp only [checkOperation, checkInputCounts, operation, Outcome.bind_ok, Outcome.failIf_ok,
      ImageOperation.referenceImages, List.length_pos_iff]
    grind [Option.isSome_iff_ne_none]

theorem precheck_iff : precheck r c = .ok () ↔ c.validate = .ok () ∧ Accepted r c := by
  simp only [precheck, Outcome.bind_ok]
  constructor
  · rintro ⟨_, valid, _, model, _, operation, _, counts, _, sessions, _, user, fidelity⟩
    obtain ⟨generates, edits, references⟩ := checkInputs_iff.mp ⟨operation, counts⟩
    obtain ⟨persistent, thread⟩ := checkSessions_iff.mp sessions
    exact ⟨valid, checkModel_iff.mp model, generates, edits, references, persistent, thread,
      checkUser_iff.mp user, checkFidelity_iff.mp fidelity⟩
  · rintro ⟨valid, accepted⟩
    obtain ⟨operation, counts⟩ :=
      checkInputs_iff.mpr ⟨accepted.generates, accepted.edits, accepted.references⟩
    exact ⟨(), valid, (), checkModel_iff.mpr accepted.model, (), operation, (), counts, (),
      checkSessions_iff.mpr ⟨accepted.persistent, accepted.thread⟩, (),
      checkUser_iff.mpr accepted.user, checkFidelity_iff.mpr accepted.fidelity⟩

/-- A stage leaves a draft whose parameter is inside alone. -/
theorem stage_fixed (inside : x.Inside c draft.parameters) : stage c x draft = .ok draft := by
  cases x with
  | failurePolicy | inputFidelity => rfl
  | aspectRatio =>
    cases hint : draft.parameters.aspectRatio with
    | none => simp [stage, negotiateRatio, hint]
    | some ratio =>
      have supported : c.aspectRatio ≠ .unsupported := inside (by simp [hint])
      simp [stage, negotiateRatio, hint, supported]
  | resolution =>
    cases hint : draft.parameters.resolution with
    | none => simp [stage, negotiateResolution, hint]
    | some resolution =>
      have supported : c.resolution ≠ .unsupported := inside (by simp [hint])
      simp [stage, negotiateResolution, hint, supported]
  | outputCompression =>
    cases level : draft.parameters.outputCompression with
    | none => simp [stage, negotiateCompression, level]
    | some level' =>
      have compressed : draft.parameters.outputFormat = .jpeg ∨
          draft.parameters.outputFormat = .webp := inside (by simp [level])
      simp [stage, negotiateCompression, level, compressed]
  | n => exact if_pos inside
  | size => exact if_pos inside
  | partialImages => exact if_pos inside
  | action => exact if_pos inside
  | quality => exact if_pos inside
  | outputFormat => exact if_pos inside
  | background => exact if_pos inside
  | moderation => exact if_pos inside

/-- A rewrite of another parameter keeps a parameter inside; a compression also
looks at the format. -/
theorem inside_kept {p q : GenerationParameters} (same : x.Same p q)
    (format : x = .outputCompression → p.outputFormat = q.outputFormat) (inside : x.Inside c p) :
    x.Inside c q := by
  cases x with
  | outputCompression =>
    simp only [Parameter.Same] at same
    simp only [Parameter.Inside] at inside ⊢
    rw [← format rfl, ← same]
    exact inside
  | failurePolicy => trivial
  | _ =>
    simp only [Parameter.Same] at same
    simp only [Parameter.Inside] at inside ⊢
    rw [← same]
    exact inside

/-- A stage disturbs its own parameter, and the format stage the compression. -/
def Disturbs (x y : Parameter) : Prop :=
  x = y ∨ x = .outputFormat ∧ y = .outputCompression

instance (x y : Parameter) : Decidable (Disturbs x y) := by
  unfold Disturbs
  infer_instance

theorem effect_others {y : Parameter} {draft' : Draft} (effect : Effect c x draft draft')
    (other : x ≠ y) : y.Same draft.parameters draft'.parameters := by
  cases effect with
  | kept => exact (Parameter.same_equivalence y).refl _
  | noted p reason own =>
    show y.Same draft.parameters p
    rw [own]
    exact Parameter.same_assign fun back => other back.symm

theorem stage_keeps {y : Parameter} {draft' : Draft} (staged : x ∈ rewritten)
    (undisturbed : ¬Disturbs x y) (ok : stage c x draft = .ok draft')
    (inside : y.Inside c draft.parameters) : y.Inside c draft'.parameters := by
  have effect : Effect c x draft draft' := stage_effect staged ok
  apply inside_kept (effect_others effect _) _ inside
  · exact fun same => undisturbed (Or.inl same)
  · intro compression
    apply effect_others (y := .outputFormat) effect
    exact fun format => undisturbed (Or.inr ⟨format, compression⟩)

theorem stage_inside (regular : Regular c) {draft' : Draft} (staged : x ∈ rewritten)
    (ok : stage c x draft = .ok draft') : x.Inside c draft'.parameters := by
  have effect : Effect c x draft draft' := stage_effect staged ok
  cases effect with
  | kept inside => exact inside
  | noted p reason own moved lenient inside => exact inside regular

/-- After the last stage every rewritten parameter is inside. -/
theorem run_inside (regular : Regular c) {draft' : Draft}
    (ok : run (stage c) rewritten draft = .ok draft') :
    ∀ x ∈ rewritten, x.Inside c draft'.parameters := by
  let holds (x : Parameter) (d : Draft) : Prop := x.Inside c d.parameters
  have own : ∀ x ∈ rewritten, ∀ d d', stage c x d = .ok d' → holds x d' := by
    intro x staged d d' taken
    exact stage_inside regular staged taken
  have kept : ∀ x ∈ rewritten, ∀ y d d', ¬Disturbs x y → stage c x d = .ok d' → holds y d →
      holds y d' := by
    intro x staged y d d' undisturbed taken inside
    exact stage_keeps staged undisturbed taken inside
  have ordered : rewritten.Pairwise fun x y => ¬Disturbs y x := by decide
  have inside := run_establishes own kept ordered ok
  exact inside

theorem mem_rewritten (moved : x ≠ .failurePolicy) (settable : x ≠ .inputFidelity) :
    x ∈ rewritten := by
  cases x <;> simp_all [rewritten]

/-- A negative prompt that negotiation leaves in place is native. -/
theorem kept_negative {mode : NegativePromptMode} (decided : mergesNegative mode c = .ok false) :
    c.negativePrompt = .native ∧ (mode = .native ∨ mode = .auto) := by
  cases mode with
  | reject => cases decided
  | merge => cases decided
  | native =>
    simp only [mergesNegative] at decided
    split at decided
    · cases decided
    · rename_i native
      exact ⟨Decidable.of_not_not native, Or.inl rfl⟩
  | auto => cases support : c.negativePrompt <;> simp_all [mergesNegative]

theorem native_keeps {mode : NegativePromptMode} (native : c.negativePrompt = .native)
    (modes : mode = .native ∨ mode = .auto) : mergesNegative mode c = .ok false := by
  obtain rfl | rfl := modes <;> simp [mergesNegative, native]

theorem negotiateNegativePrompt_inside {draft' : Draft}
    (ok : negotiateNegativePrompt c draft = .ok draft') (kept : draft'.request.negativePrompt ≠ none) :
    c.negativePrompt = .native ∧ (draft.request.policies.negativePrompt = .native ∨
      draft.request.policies.negativePrompt = .auto) := by
  unfold negotiateNegativePrompt at ok
  split at ok
  · rename_i absent
    cases ok
    exact absurd absent kept
  · obtain ⟨merge, decided, ok⟩ := Outcome.bind_ok.mp ok
    cases merge with
    | true =>
      cases ok
      exact absurd rfl kept
    | false => exact kept_negative decided

theorem negotiateNegativePrompt_fixed (native : draft.request.negativePrompt ≠ none →
    c.negativePrompt = .native ∧ (draft.request.policies.negativePrompt = .native ∨
      draft.request.policies.negativePrompt = .auto)) :
    negotiateNegativePrompt c draft = .ok draft := by
  unfold negotiateNegativePrompt
  cases present : draft.request.negativePrompt with
  | none => rfl
  | some text =>
    obtain ⟨support, modes⟩ := native (by simp [present])
    simp only [native_keeps support modes]
    rfl

/-- A request inside the capabilities is the result of its own negotiation. -/
theorem inside_negotiates (valid : c.validate = .ok ()) (inside : Inside r c) :
    negotiateRequest r c = .ok ⟨r.parameters, r, []⟩ := by
  have checked : precheck r c = .ok () := precheck_iff.mpr ⟨valid, inside.toAccepted⟩
  have staged : run (stage c) rewritten ⟨r, []⟩ = .ok ⟨r, []⟩ := by
    apply run_fixed
    intro x _
    exact stage_fixed (inside.parameters x)
  have negative : negotiateNegativePrompt c ⟨r, []⟩ = .ok ⟨r, []⟩ :=
    negotiateNegativePrompt_fixed inside.negative
  have revised : ¬(r.policies.revisedPrompt = .require ∧ c.revisedPrompt = .unsupported) := by
    rintro ⟨required, unsupported⟩
    exact inside.revised required unsupported
  rw [negotiateRequest_run]
  simp only [Outcome.bind_ok, Outcome.failIf_ok]
  exact ⟨(), checked, _, staged, _, negative, (), revised, rfl⟩

/-- Every successful negotiation ends inside the capabilities. -/
theorem negotiated_inside (explicit : ∀ size ∈ c.sizes.allowed, size ≠ .auto)
    (ok : negotiateRequest r c = .ok plan) : Inside plan.effectiveRequest c := by
  have effective : plan.effectiveRequest = effectiveRequest r c := negotiateRequest_effective ok
  rw [negotiateRequest_run] at ok
  simp only [Outcome.bind_ok, Outcome.failIf_ok] at ok
  obtain ⟨_, checked, draft, staged, final, negative, _, revised, ok⟩ := ok
  cases ok
  obtain ⟨valid, accepted⟩ := precheck_iff.mp checked
  have settled : final.request = { draft.request with
      prompt := effectivePrompt draft.request c
      negativePrompt := effectiveNegative draft.request c } := negotiateNegativePrompt_ok negative
  have policies : final.request.policies = draft.request.policies := by rw [settled]
  have parameters : final.request.parameters = draft.parameters := by rw [settled]; rfl
  have inside : ∀ x ∈ rewritten, x.Inside c final.request.parameters := by
    rw [parameters]
    exact run_inside ⟨valid, explicit⟩ staged
  have native : final.request.negativePrompt ≠ none → c.negativePrompt = .native ∧
      (final.request.policies.negativePrompt = .native ∨
        final.request.policies.negativePrompt = .auto) := by
    rw [policies]
    exact negotiateNegativePrompt_inside negative
  simp only at effective
  rw [effective] at inside native ⊢
  refine ⟨⟨accepted.model, accepted.generates, accepted.edits, accepted.references,
    accepted.persistent, accepted.thread, accepted.user, accepted.fidelity⟩, ?_, native, ?_⟩
  · intro x
    cases x with
    | failurePolicy => trivial
    | inputFidelity => exact accepted.fidelity
    | _ => exact inside _ (mem_rewritten (by simp) (by simp))
  · intro required unsupported
    exact revised ⟨required, unsupported⟩

/-- Negotiation is a projection onto the requests inside the capabilities. -/
theorem negotiation_projects (explicit : ∀ size ∈ c.sizes.allowed, size ≠ .auto)
    (ok : negotiateRequest r c = .ok plan) : Inside plan.effectiveRequest c ∧
      negotiateRequest plan.effectiveRequest c =
        .ok ⟨plan.effectiveRequest.parameters, plan.effectiveRequest, []⟩ := by
  have inside : Inside plan.effectiveRequest c := negotiated_inside explicit ok
  have valid : c.validate = .ok () := by
    rw [negotiateRequest_run] at ok
    obtain ⟨_, checked, _⟩ := Outcome.bind_ok.mp ok
    exact (precheck_iff.mp checked).1
  exact ⟨inside, inside_negotiates valid inside⟩

end

/-- The effective request of `namedJpeg` is inside the document that rewrote its format. -/
theorem named_jpeg_projects : ∃ plan, negotiateRequest namedJpeg pngOnly = .ok plan ∧
    plan.normalizations ≠ [] ∧ Inside plan.effectiveRequest pngOnly ∧
    negotiateRequest plan.effectiveRequest pngOnly =
      .ok ⟨plan.effectiveRequest.parameters, plan.effectiveRequest, []⟩ := by
  have ok : negotiateRequest namedJpeg pngOnly = .ok ⟨_, _, _⟩ := rfl
  exact ⟨_, ok, List.cons_ne_nil _ _, negotiation_projects (by simp [pngOnly]) ok⟩

end ImagegenBridge.Negotiation
