import ImagegenBridge.Core.ValidationCompleteness

/-!
# Presets

`crates/core/src/preset.rs`. The check before a preset is stored validates a copy of its request
with a placeholder prompt and a placeholder image. The rules that read neither carry over to every
later application; those that read the prompt do not.
-/

namespace ImagegenBridge

/-- Operation selected by a preset without source image bytes. -/
inductive PresetOperation where
  | generate | edit
  deriving DecidableEq, Repr

/-- Reusable request configuration without image inputs and idempotency keys. -/
structure ImagePresetTemplate where
  prompt : Option String := none
  negativePrompt : Option String := none
  operation : PresetOperation := .generate
  parameters : GenerationParameters := {}
  routing : RoutingOptions := {}
  session : SessionOptions := {}
  output : OutputOptions := {}
  policies : RequestPolicies := {}
  timeoutMs : Option Nat := none
  user : Option String := none
  deriving DecidableEq

/-- Full replacement payload for a preset. -/
structure ImagePresetWrite where
  description : Option String := none
  template : ImagePresetTemplate
  deriving DecidableEq

namespace PresetOperation

/-- The operation without any input. -/
def empty : PresetOperation → ImageOperation
  | .generate => .generate []
  | .edit => .edit [] none []

def of : ImageOperation → PresetOperation
  | .generate _ => .generate
  | .edit _ _ _ => .edit

end PresetOperation

namespace ImagePresetTemplate

/-- Keeps the configuration of a request and drops its inputs and its idempotency key. -/
def fromRequest (request : ImageRequest) : ImagePresetTemplate where
  prompt := if request.prompt.isEmpty then none else some request.prompt
  negativePrompt := request.negativePrompt
  operation := .of request.operation
  parameters := request.parameters
  routing := request.routing
  session := request.session
  output := request.output
  policies := request.policies
  timeoutMs := request.timeoutMs
  user := request.user

/-- The request of a template with a given prompt. -/
def withPrompt (template : ImagePresetTemplate) (prompt : String) : ImageRequest where
  version := contractVersion
  prompt := prompt
  negativePrompt := template.negativePrompt
  operation := template.operation.empty
  parameters := template.parameters
  routing := template.routing
  session := template.session
  output := template.output
  policies := template.policies
  idempotencyKey := none
  timeoutMs := template.timeoutMs
  user := template.user

def promptRequired : BridgeError :=
  (BridgeError.new .invalidRequest
    "preset application requires a prompt or a stored preset prompt").withDetail
    "field" (.string "prompt")

/-- Builds an input-free request; `prompt` goes before the stored one. -/
def request (template : ImagePresetTemplate) (prompt : Option String) : Outcome ImageRequest :=
  match (prompt.or template.prompt).filter fun value => !Text.isBlank value with
  | none => .error promptRequired
  | some prompt => .ok (template.withPrompt prompt)

theorem request_given (template : ImagePresetTemplate) {prompt : String}
    (shown : Text.isBlank prompt = false) :
    template.request (some prompt) = .ok (template.withPrompt prompt) := by
  simp [request, Option.filter, shown]

theorem request_stored (template : ImagePresetTemplate) {prompt : String}
    (stored : template.prompt = some prompt) (shown : Text.isBlank prompt = false) :
    template.request none = .ok (template.withPrompt prompt) := by
  simp [request, Option.filter, stored, shown]

/-- A captured request comes back without its inputs and its idempotency key. -/
theorem request_fromRequest (r : ImageRequest) (shown : Text.isBlank r.prompt = false)
    (current : r.version = contractVersion) :
    (fromRequest r).request none =
      .ok { r with operation := (PresetOperation.of r.operation).empty, idempotencyKey := none } := by
  have kept : (fromRequest r).prompt = some r.prompt := by
    have full : r.prompt.isEmpty = false := by
      by_contra none
      have nothing : r.prompt = "" := by simpa using none
      simp [nothing, Text.isBlank] at shown
    simp [fromRequest, full]
  rw [request_stored _ kept shown, withPrompt, ← current]
  rfl

end ImagePresetTemplate

namespace Preset

def maxDescriptionBytes : Nat := 512

def descriptionInvalid : BridgeError :=
  (BridgeError.new .invalidRequest
    "preset description must contain at most 512 bytes and no control characters").withDetail
    "field" (.string "description")

def promptBlank : BridgeError :=
  (BridgeError.new .invalidRequest "stored preset prompt cannot be empty").withDetail
    "field" (.string "template.prompt")

def placeholder : ImageInput where
  source := .base64 "AA=="
  mediaType := some "image/png"
  filename := some "preset-input.png"

def placeholderPrompt : String := "preset validation"

/-- Whether a generation needs a reference image. -/
def needsReference (parameters : GenerationParameters) : Bool :=
  parameters.inputFidelity.isSome || parameters.action == .edit

/-- The operation that the write check validates. -/
def placeholderOperation (template : ImagePresetTemplate) : ImageOperation :=
  match template.operation with
  | .generate => .generate (if needsReference template.parameters then [placeholder] else [])
  | .edit => .edit [placeholder] none []

end Preset

open Preset in
/-- Validates bounded preset metadata independent of provider capabilities. -/
def validatePresetWrite (write : ImagePresetWrite) : Outcome Unit := do
  Outcome.failIf (write.description.any fun description =>
    decide (Text.len description > maxDescriptionBytes) || Text.hasControl description)
    descriptionInvalid
  Outcome.failIf (write.template.prompt.any Text.isBlank) promptBlank
  let request ← write.template.request (some placeholderPrompt)
  validateRequest { request with operation := placeholderOperation write.template } .default

namespace Preset

open Validation Text

/-- Valid inputs that the operation, the fidelity and the action of a template need. -/
structure Completion (template : ImagePresetTemplate) (operation : ImageOperation) : Prop where
  kind : PresetOperation.of operation = template.operation
  source : template.operation = .edit → operation.editImages ≠ []
  reference : template.operation = .generate → needsReference template.parameters = true →
    operation.referenceImages ≠ []
  few : inputCount operation ≤ RequestLimits.default.maxInputs
  valid : ∀ input ∈ inputs operation, InputValid .default input

/-- The template as it stands can be applied, and no completed application fails validation. -/
structure Applicable (template : ImagePresetTemplate) : Prop where
  passes : ∀ operation, Completion template operation →
    ∃ r, template.request none = .ok r ∧
      validateRequest { r with operation := operation } .default = .ok ()
  possible : ∃ operation, Completion template operation

/-- The stored prompt is within the limit of prompts and of embedded texts. -/
def PromptFits (template : ImagePresetTemplate) (prompt : String) : Prop :=
  len prompt ≤ RequestLimits.default.maxPromptBytes ∧
    (template.output.metadata.embeds = true →
      len prompt + (template.negativePrompt.map len).getD 0 ≤ maxEmbeddedRequestTextBytes)

theorem placeholder_valid : InputValid .default placeholder := by
  rw [← validateInput_nil placeholder ""]
  decide

theorem placeholder_completes (template : ImagePresetTemplate) :
    Completion template (placeholderOperation template) := by
  unfold placeholderOperation
  cases operation : template.operation with
  | generate =>
    cases needed : needsReference template.parameters with
    | true =>
      refine ⟨operation.symm, by simp [operation], by simp [ImageOperation.referenceImages],
        by decide, ?_⟩
      simpa [inputs, ImageOperation.editImages, ImageOperation.mask,
        ImageOperation.referenceImages] using placeholder_valid
    | false =>
      refine ⟨operation.symm, by simp [operation], by simp [needed], by decide, ?_⟩
      simp [inputs, ImageOperation.editImages, ImageOperation.mask, ImageOperation.referenceImages]
  | edit =>
    have one : inputCount (.edit [placeholder] none []) ≤ RequestLimits.default.maxInputs := by decide
    refine ⟨operation.symm, by simp [ImageOperation.editImages], by simp [operation], one, ?_⟩
    simpa [inputs, ImageOperation.editImages, ImageOperation.mask,
      ImageOperation.referenceImages] using placeholder_valid

/-! ## Applications -/

/-- What the application of a template to a prompt and to inputs validates. -/
def applied (template : ImagePresetTemplate) (prompt : String) (operation : ImageOperation) :
    ImageRequest :=
  { template.withPrompt prompt with operation := operation }

variable {template : ImagePresetTemplate} {prompt other : String}
  {operation placed : ImageOperation}

theorem completed_operation (completion : Completion template operation)
    (generates : template.operation = .edit → template.parameters.action ≠ .generate) :
    OperationValid (applied template prompt operation) .default := by
  have needed : template.parameters.inputFidelity ≠ none ∨ template.parameters.action = .edit →
      needsReference template.parameters = true := by
    rintro (wanted | edit)
    · simp [needsReference, Option.isSome_iff_ne_none.mpr wanted]
    · simp [needsReference, edit]
  cases operation with
  | generate references =>
    have kind : template.operation = .generate := completion.kind.symm
    have supplied (reason) : references ≠ [] := completion.reference kind (needed reason)
    refine ⟨?_, completion.few, ?_, ?_, ?_⟩
    · intro _ _ _ edits
      cases edits
    · intro wanted
      exact Or.inr (supplied (Or.inl wanted))
    · intro edit nothing
      obtain rfl : references = [] := ImageOperation.generate.inj nothing
      exact supplied (Or.inr edit) rfl
    · intro _ _ _ _ edits
      cases edits
  | edit images mask references =>
    have kind : template.operation = .edit := completion.kind.symm
    have supplied : images ≠ [] := completion.source kind
    refine ⟨?_, completion.few, fun _ => Or.inl supplied, ?_, ?_⟩
    · intro _ _ _ edits
      obtain ⟨rfl, rfl, rfl⟩ := ImageOperation.edit.inj edits
      exact supplied
    · intro _ nothing
      cases nothing
    · intro generate
      exact absurd generate (generates kind)

/-- Only the prompt and the operation differ between two applications of a template. -/
theorem rules_carry (rules : RulesHold (applied template other placed) .default)
    (shown : isBlank prompt = false) (fits : PromptFits template prompt)
    (ready : OperationValid (applied template prompt operation) .default) :
    RulesHold (applied template prompt operation) .default := by
  have output : OutputValid (applied template prompt operation) :=
    { rules.output with embedded := fun embeds => ⟨(rules.output.embedded embeds).1, fits.2 embeds⟩ }
  exact { rules with prompt := ⟨shown, fits.1⟩, output := output, operation := ready }

theorem rules_fit (rules : RulesHold (applied template prompt operation) .default) :
    PromptFits template prompt :=
  ⟨rules.prompt.2, fun embeds => (rules.output.embedded embeds).2⟩

theorem inputs_few (few : inputCount operation ≤ RequestLimits.default.maxInputs) :
    (inputs operation).take 64 = inputs operation := by
  apply List.take_of_length_le
  have sixteen : RequestLimits.default.maxInputs = 16 := rfl
  rw [sixteen] at few
  cases operation with
  | generate references =>
    simp [inputs, inputCount, ImageOperation.editImages, ImageOperation.mask,
      ImageOperation.referenceImages] at few ⊢
    omega
  | edit images mask references =>
    cases mask <;> simp [inputs, inputCount, ImageOperation.editImages, ImageOperation.mask,
      ImageOperation.referenceImages] at few ⊢ <;> omega

/-- What the write check establishes of a template. -/
theorem write_accepted {write : ImagePresetWrite} (accepted : validatePresetWrite write = .ok ()) :
    (∀ prompt, write.template.prompt = some prompt → isBlank prompt = false) ∧
      RulesHold (applied write.template placeholderPrompt (placeholderOperation write.template))
        .default := by
  simp only [validatePresetWrite, Outcome.bind_ok, Outcome.failIf_ok] at accepted
  obtain ⟨_, _, _, blank, request, built, valid⟩ := accepted
  rw [ImagePresetTemplate.request_given _ (by decide)] at built
  obtain rfl := Except.ok.inj built
  refine ⟨?_, ((validateRequest_accepts _ _).mp valid).1⟩
  intro prompt stored
  simpa [stored] using blank

theorem applicable_fits (applicable : Applicable template) (stored : template.prompt = some prompt)
    (shown : isBlank prompt = false) : PromptFits template prompt := by
  have built := ImagePresetTemplate.request_stored _ stored shown
  obtain ⟨operation, completion⟩ := applicable.possible
  obtain ⟨r, again, valid⟩ := applicable.passes operation completion
  obtain rfl := Except.ok.inj (built.symm.trans again)
  exact rules_fit ((validateRequest_accepts _ _).mp valid).1

/-- A stored preset can be applied exactly when its own prompt fits. -/
theorem write_applicable_iff (write : ImagePresetWrite) (prompt : String)
    (accepted : validatePresetWrite write = .ok ()) (stored : write.template.prompt = some prompt) :
    Applicable write.template ↔ PromptFits write.template prompt := by
  obtain ⟨shown, rules⟩ := write_accepted accepted
  have built := ImagePresetTemplate.request_stored _ stored (shown prompt stored)
  constructor
  · intro applicable
    exact applicable_fits applicable stored (shown prompt stored)
  · intro fits
    refine ⟨?_, _, placeholder_completes write.template⟩
    intro operation completion
    refine ⟨_, built, (validateRequest_accepts _ _).mpr ⟨?_, ?_⟩⟩
    · have generates : write.template.operation = .edit →
          write.template.parameters.action ≠ .generate := by
        intro edit generate
        have edits : placeholderOperation write.template = .edit [placeholder] none [] := by
          simp [placeholderOperation, edit]
        exact rules.operation.generates generate _ _ _ edits
      exact rules_carry rules (shown prompt stored) fits (completed_operation completion generates)
    · rw [inputs_few (completion.few)]
      exact completion.valid

def portrait : ImagePresetWrite where
  template := { prompt := some "portrait" }

theorem portrait_applicable :
    Applicable portrait.template ↔ PromptFits portrait.template "portrait" :=
  write_applicable_iff portrait "portrait" ((validateRequest_ok _ _).mpr (by decide)) rfl

def repeated (n : Nat) : String := String.ofList (List.replicate n 'a')

theorem repeated_len (n : Nat) : len (repeated n) = n := by
  induction n with
  | zero => rfl
  | succ n ih =>
    have longer : repeated (n + 1) = "a" ++ repeated n := by
      simp [repeated, List.replicate_succ, String.ofList_cons]
    have one : len "a" = 1 := rfl
    rw [longer, len_append, ih, one]
    omega

theorem repeated_shown (n : Nat) : isBlank (repeated (n + 1)) = false := by
  simp [repeated, isBlank, List.replicate_succ, isWhitespace]

/-- One byte more than a prompt may have. -/
def endless : String := repeated (128 * 1024 + 1)

/-- The write check accepts a stored prompt that no request may have. -/
theorem endless_inapplicable :
    validatePresetWrite { template := { prompt := some endless } } = .ok () ∧
      ¬Applicable { prompt := some endless } := by
  constructor
  · have shown : ¬Option.any isBlank (some endless) = true := by
      rw [Option.any_some, endless, repeated_shown]
      decide
    simp only [validatePresetWrite, Outcome.bind_ok, Outcome.failIf_ok]
    refine ⟨(), by simp, (), shown, _, ImagePresetTemplate.request_given _ (by decide), ?_⟩
    exact (validateRequest_ok _ _).mpr (by decide)
  · intro applicable
    have fits := (applicable_fits applicable rfl (repeated_shown _)).1
    rw [endless, repeated_len] at fits
    exact absurd fits (by decide)

end Preset

end ImagegenBridge
