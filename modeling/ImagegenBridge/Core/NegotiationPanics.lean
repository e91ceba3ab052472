import ImagegenBridge.Core.NegotiationStages
import ImagegenBridge.Core.NegotiationValidity

/-!
# Where negotiation can panic

The operations of `crates/core/src/negotiation.rs` that panic on some argument, and the
negotiation with them.
-/

namespace ImagegenBridge

namespace Negotiation

/-- A computation that may panic, with no result. -/
abbrev Guarded (α : Type) := ExceptT BridgeError Option α

def total {α : Type} (outcome : Outcome α) : Guarded α := ExceptT.mk (some outcome)

def panicked {α : Type} : Guarded α := ExceptT.mk none

def orPanic {α : Type} : Option α → Guarded α
  | some a => total (.ok a)
  | none => panicked

/-! ## Operations -/

/-- `Ord::clamp`. -/
def clampChecked (range : U8Range) (value : Nat) : Option Nat :=
  if range.min ≤ range.max then some (range.clamp value) else none

/-- `%`. -/
def remainder (dividend divisor : Nat) : Option Nat :=
  if divisor = 0 then none else some (dividend % divisor)

/-- `*` of two 64-bit numbers. -/
def product (left right : Nat) : Option Nat :=
  if left * right < 2 ^ 64 then some (left * right) else none

/-- `width % multiple == 0 && height % multiple == 0`. -/
def multiplesChecked (multiple width height : Nat) : Option Bool := do
  if (← remainder width multiple) = 0 then some (decide ((← remainder height multiple) = 0))
  else some false

/-- The two conditions before the division. -/
def EdgesFit (sizes : SizeCapabilities) (width height : Nat) : Prop :=
  sizes.minEdge.all (fun least => decide (min width height ≥ least)) = true ∧
    sizes.maxEdge.all (fun most => decide (max width height ≤ most)) = true

instance (sizes : SizeCapabilities) (width height : Nat) :
    Decidable (EdgesFit sizes width height) := inferInstanceAs (Decidable (_ ∧ _))

def dimensionsChecked (sizes : SizeCapabilities) (width height : Nat) : Option Bool := do
  let short := min width height
  let long := max width height
  let pixels ← product width height
  if EdgesFit sizes width height then do
    let divides ← match sizes.edgeMultiple with
      | none => some true
      | some multiple => multiplesChecked multiple width height
    some (divides
      && sizes.minPixels.all (fun least => decide (pixels ≥ least))
      && sizes.maxPixels.all (fun most => decide (pixels ≤ most))
      && sizes.maxAspectRatio.all (fun most => decide (Float.ofNat long / Float.ofNat short ≤ most)))
  else some false

def sizeSupportedChecked (size : ImageSize) (c : ProviderCapabilities) : Option Bool :=
  match size with
  | .auto => some c.sizes.auto
  | .exact width height _ _ =>
    if size ∈ c.sizes.allowed then some true
    else if c.sizes.arbitrary = false then some false
    else dimensionsChecked c.sizes width height

/-! ## Steps -/

def negotiateCountChecked (c : ProviderCapabilities) (draft : Draft) : Guarded Draft := do
  let requested := draft.parameters.n
  if c.count.contains requested then total (.ok draft)
  else if isStrict draft then
    total (.error (unsupported c "parameters.n" "output count is outside provider capability"))
  else do
    let effective ← orPanic (clampChecked c.count requested)
    total (.ok ((record draft "parameters.n" (.integer requested) (.integer effective)
      "clamped_to_provider_range").setParameters { draft.parameters with n := effective }))

def negotiateSizeChecked (c : ProviderCapabilities) (draft : Draft) : Guarded Draft := do
  let requested := draft.parameters.size
  if ← orPanic (sizeSupportedChecked requested c) then total (.ok draft)
  else if isStrict draft then
    total (.error
      (unsupported c "parameters.size" "requested size is outside provider capability"))
  else match sizeFallback requested c with
    | none => total (.error (unsupported c "parameters.size" "provider has no usable size fallback"))
    | some effective =>
      total (.ok ((record draft "parameters.size" (.string requested.asStr) (.string effective.asStr)
        "normalized_to_provider_size").setParameters { draft.parameters with size := effective }))

def negotiatePartialImagesChecked (c : ProviderCapabilities) (draft : Draft) : Guarded Draft := do
  let requested := draft.parameters.partialImages
  if c.partialImages.contains requested then total (.ok draft)
  else if isStrict draft then
    total (.error (unsupported c "parameters.partial_images"
      "partial image count is outside provider capability"))
  else do
    let effective ← orPanic (clampChecked c.partialImages requested)
    total (.ok ((record draft "parameters.partial_images" (.integer requested)
      (.integer effective) "clamped_to_provider_range").setParameters
      { draft.parameters with partialImages := effective }))

/-- `debug_assert_eq!(mode, effective_request.policies.compatibility)`. -/
def assertMode (mode : CompatibilityMode) (draft : Draft) : Guarded Unit :=
  if mode = draft.request.policies.compatibility then total (.ok ()) else panicked

end Negotiation

open Negotiation in
def negotiateRequestChecked (request : ImageRequest) (c : ProviderCapabilities) :
    Guarded NegotiatedRequest := do
  total c.validate
  total (checkModel request c)
  total (checkOperation request c)
  total (checkInputCounts request c)
  total (checkSessions request c)
  total (checkUserAttribution request c)
  total (checkInputFidelity request c)
  let draft ← total (negotiateAction c ⟨request, []⟩)
  let draft ← negotiateCountChecked c draft
  let draft ← negotiateSizeChecked c draft
  let draft ← total (negotiateHints c draft)
  let draft ← total (negotiateQuality c draft)
  let draft ← total (negotiateFormat c draft)
  let draft ← total (negotiateBackground c draft)
  let draft ← total (negotiateModeration c draft)
  let draft ← negotiatePartialImagesChecked c draft
  let draft ← total (negotiateNegativePrompt c draft)
  total (Outcome.failIf (request.policies.revisedPrompt = .require ∧ c.revisedPrompt = .unsupported)
    (unsupported c "policies.revised_prompt" "provider cannot return a revised prompt"))
  assertMode request.policies.compatibility draft
  total (.ok ⟨request.parameters, draft.request, draft.normalizations⟩)

namespace Negotiation

variable {α β : Type} {c : ProviderCapabilities} {r : ImageRequest} {draft : Draft}

/-! ## Computations that do not panic -/

@[simp] theorem total_ok_bind (a : α) (f : α → Guarded β) : (total (.ok a) >>= f) = f a := rfl

@[simp] theorem total_error_bind (e : BridgeError) (f : α → Guarded β) :
    (total (.error e) >>= f) = total (.error e) := rfl

theorem total_bind (x : Outcome α) (f : α → Outcome β) :
    (total x >>= fun a => total (f a)) = total (x >>= f) := by
  cases x <;> rfl

theorem total_bind_congr {x : Outcome α} {f g : α → Guarded β}
    (agree : ∀ a, x = .ok a → f a = g a) : (total x >>= f) = (total x >>= g) := by
  cases x with
  | error e => rfl
  | ok a => exact agree a rfl

theorem clampChecked_ordered {range : U8Range} (ordered : range.min ≤ range.max) (value : Nat) :
    clampChecked range value = some (range.clamp value) := if_pos ordered

theorem countChecked_eq (ordered : c.count.min ≤ c.count.max) (draft : Draft) :
    negotiateCountChecked c draft = total (negotiateCount c draft) := by
  simp only [negotiateCountChecked, negotiateCount, clampChecked_ordered ordered]
  split
  · rfl
  · split <;> rfl

theorem partialImagesChecked_eq (ordered : c.partialImages.min ≤ c.partialImages.max)
    (draft : Draft) :
    negotiatePartialImagesChecked c draft = total (negotiatePartialImages c draft) := by
  simp only [negotiatePartialImagesChecked, negotiatePartialImages, clampChecked_ordered ordered]
  split
  · rfl
  · split <;> rfl

/-! ## Sizes -/

/-- An explicit size that is not listed, between the edges, under a multiple of zero. -/
def ZeroDivision (c : ProviderCapabilities) : ImageSize → Prop
  | .auto => False
  | .exact width height widthPos heightPos =>
    .exact width height widthPos heightPos ∉ c.sizes.allowed ∧ c.sizes.arbitrary = true ∧
      EdgesFit c.sizes width height ∧ c.sizes.edgeMultiple = some 0

instance (c : ProviderCapabilities) : (size : ImageSize) → Decidable (ZeroDivision c size)
  | .auto => inferInstanceAs (Decidable False)
  | .exact .. => inferInstanceAs (Decidable (_ ∧ _))

/-- Both dimensions are 32-bit numbers. -/
def ThirtyTwoBit : ImageSize → Prop
  | .auto => True
  | .exact width height _ _ => width < 2 ^ 32 ∧ height < 2 ^ 32

theorem product_fits {width height : Nat} (widthFits : width < 2 ^ 32)
    (heightFits : height < 2 ^ 32) : product width height = some (width * height) := by
  refine if_pos ?_
  calc width * height < 2 ^ 32 * 2 ^ 32 := Nat.mul_lt_mul'' widthFits heightFits
    _ = 2 ^ 64 := by decide

theorem multiplesChecked_eq (multiple width height : Nat) :
    multiplesChecked multiple width height =
      if multiple = 0 then none
      else some (width % multiple == 0 && height % multiple == 0) := by
  unfold multiplesChecked remainder
  by_cases zero : multiple = 0
  · simp [zero]
  · by_cases first : width % multiple = 0
    · simp [zero, first]
      rfl
    · simp [zero, first]

theorem dimensionsChecked_eq {width height : Nat} (sizes : SizeCapabilities)
    (widthFits : width < 2 ^ 32) (heightFits : height < 2 ^ 32) :
    dimensionsChecked sizes width height =
      if EdgesFit sizes width height ∧ sizes.edgeMultiple = some 0 then none
      else some (dimensionsSupported sizes width height) := by
  unfold dimensionsChecked
  rw [product_fits widthFits heightFits]
  by_cases edges : EdgesFit sizes width height
  · have supported : dimensionsSupported sizes width height =
        (sizes.edgeMultiple.all (fun multiple => width % multiple == 0 && height % multiple == 0)
          && sizes.minPixels.all (fun least => decide (width * height ≥ least))
          && sizes.maxPixels.all (fun most => decide (width * height ≤ most))
          && sizes.maxAspectRatio.all (fun most =>
            decide (Float.ofNat (max width height) / Float.ofNat (min width height) ≤ most))) := by
      simp only [dimensionsSupported, edges.1, edges.2, Bool.true_and]
    rw [supported]
    cases multiple : sizes.edgeMultiple with
    | none => simp [edges]
    | some m =>
      by_cases zero : m = 0
      · simp [edges, multiplesChecked_eq, zero]
      · simp [edges, multiplesChecked_eq, zero]
  · have outside : dimensionsSupported sizes width height = false := by
      rw [Bool.eq_false_iff]
      intro supported
      simp only [dimensionsSupported, Bool.and_eq_true] at supported
      exact edges ⟨supported.1.1.1.1.1, supported.1.1.1.1.2⟩
    rw [outside, if_neg fun both => edges both.1]
    exact if_neg edges

theorem sizeSupportedChecked_eq {size : ImageSize} (fits : ThirtyTwoBit size) :
    sizeSupportedChecked size c =
      if ZeroDivision c size then none else some (sizeSupported size c) := by
  cases size with
  | auto => rfl
  | exact width height widthPos heightPos =>
    by_cases listed : ImageSize.exact width height widthPos heightPos ∈ c.sizes.allowed
    · simp [sizeSupportedChecked, sizeSupported, ZeroDivision, listed]
    · by_cases arbitrary : c.sizes.arbitrary = true
      · simp [sizeSupportedChecked, sizeSupported, ZeroDivision, listed, arbitrary,
          dimensionsChecked_eq c.sizes fits.1 fits.2]
      · simp [sizeSupportedChecked, sizeSupported, ZeroDivision, listed, arbitrary]

theorem sizeChecked_eq (fits : ThirtyTwoBit draft.parameters.size) :
    negotiateSizeChecked c draft =
      if ZeroDivision c draft.parameters.size then panicked else total (negotiateSize c draft) := by
  simp only [negotiateSizeChecked, negotiateSize, sizeSupportedChecked_eq fits]
  by_cases zero : ZeroDivision c draft.parameters.size
  · rw [if_pos zero, if_pos zero]
    rfl
  · rw [if_neg zero, if_neg zero]
    simp only [orPanic, total_ok_bind]
    by_cases supported : sizeSupported draft.parameters.size c = true
    · rw [if_pos supported, if_pos supported]
    · rw [if_neg supported, if_neg supported]
      by_cases strict : isStrict draft = true
      · rw [if_pos strict, if_pos strict]
      · rw [if_neg strict, if_neg strict]
        cases sizeFallback draft.parameters.size c <;> rfl

/-! ## The way to the size -/

/-- The steps before the size. -/
def beforeSize (r : ImageRequest) (c : ProviderCapabilities) : Outcome Draft := do
  precheck r c
  let draft ← negotiateAction c ⟨r, []⟩
  negotiateCount c draft

/-- No step before the size rejects the request. -/
structure ReachesSize (r : ImageRequest) (c : ProviderCapabilities) : Prop where
  checked : precheck r c = .ok ()
  action : r.parameters.action ∈ c.actions ∨ ImageAction.auto ∈ c.actions
  count : c.count.contains r.parameters.n = true ∨ r.policies.compatibility ≠ .strict

theorem negotiateAction_total :
    (∃ draft', negotiateAction c draft = .ok draft') ↔
      draft.parameters.action ∈ c.actions ∨ ImageAction.auto ∈ c.actions := by
  simp only [negotiateAction]
  by_cases declared : draft.parameters.action ∈ c.actions
  · simp [declared]
  · rw [if_neg declared]
    by_cases automatic : ImageAction.auto ∈ c.actions
    · have other : draft.parameters.action ≠ .auto := by
        intro same
        rw [same] at declared
        exact declared automatic
      simp [other, automatic]
    · simp [declared, automatic]

theorem negotiateCount_total :
    (∃ draft', negotiateCount c draft = .ok draft') ↔
      c.count.contains draft.parameters.n = true ∨ draft.request.policies.compatibility ≠ .strict := by
  simp only [negotiateCount, isStrict]
  by_cases inside : c.count.contains draft.parameters.n = true
  · simp [inside]
  · by_cases strict : draft.request.policies.compatibility = .strict
    · simp [inside, strict]
    · simp [inside, strict]

/-- What the count sees of a request is what the request came with. -/
theorem counted_after_action {draft' : Draft} (action : negotiateAction c draft = .ok draft') :
    (∃ counted, negotiateCount c draft' = .ok counted) ↔
      c.count.contains draft.parameters.n = true ∨
        draft.request.policies.compatibility ≠ .strict := by
  rw [negotiateCount_total, Draft.parameters, negotiateAction_ok action]

theorem beforeSize_total : (∃ draft, beforeSize r c = .ok draft) ↔ ReachesSize r c := by
  simp only [beforeSize, Outcome.bind_ok]
  constructor
  · rintro ⟨counted, ⟨⟩, checked, acted, action, count⟩
    exact ⟨checked, negotiateAction_total.mp ⟨acted, action⟩,
      (counted_after_action action).mp ⟨counted, count⟩⟩
  · intro reaches
    obtain ⟨acted, action⟩ : ∃ acted, negotiateAction c ⟨r, []⟩ = .ok acted :=
      negotiateAction_total.mpr reaches.action
    obtain ⟨counted, count⟩ := (counted_after_action action).mpr reaches.count
    exact ⟨counted, (), reaches.checked, acted, action, count⟩

/-- Neither the size nor the policies change before the size. -/
theorem beforeSize_ok (ok : beforeSize r c = .ok draft) :
    draft.parameters.size = r.parameters.size ∧ draft.request.policies = r.policies := by
  simp only [beforeSize, Outcome.bind_ok] at ok
  obtain ⟨⟨⟩, _, acted, action, count⟩ := ok
  rw [Draft.parameters, negotiateCount_ok count, Draft.parameters, negotiateAction_ok action]
  exact ⟨rfl, rfl⟩

/-! ## The way from the size -/

def afterSize (r : ImageRequest) (c : ProviderCapabilities) (draft : Draft) :
    Outcome NegotiatedRequest := do
  let draft ← negotiateHints c draft
  let draft ← negotiateQuality c draft
  let draft ← negotiateFormat c draft
  let draft ← negotiateBackground c draft
  let draft ← negotiateModeration c draft
  let draft ← negotiatePartialImages c draft
  let draft ← negotiateNegativePrompt c draft
  Outcome.failIf (r.policies.revisedPrompt = .require ∧ c.revisedPrompt = .unsupported)
    (unsupported c "policies.revised_prompt" "provider cannot return a revised prompt")
  .ok ⟨r.parameters, draft.request, draft.normalizations⟩

def afterSizeChecked (r : ImageRequest) (c : ProviderCapabilities) (draft : Draft) :
    Guarded NegotiatedRequest := do
  let draft ← total (negotiateHints c draft)
  let draft ← total (negotiateQuality c draft)
  let draft ← total (negotiateFormat c draft)
  let draft ← total (negotiateBackground c draft)
  let draft ← total (negotiateModeration c draft)
  let draft ← negotiatePartialImagesChecked c draft
  let draft ← total (negotiateNegativePrompt c draft)
  total (Outcome.failIf (r.policies.revisedPrompt = .require ∧ c.revisedPrompt = .unsupported)
    (unsupported c "policies.revised_prompt" "provider cannot return a revised prompt"))
  assertMode r.policies.compatibility draft
  total (.ok ⟨r.parameters, draft.request, draft.normalizations⟩)

theorem negotiateRequest_size : negotiateRequest r c = (do
    let draft ← beforeSize r c
    let draft ← negotiateSize c draft
    afterSize r c draft) := by
  simp only [negotiateRequest, beforeSize, precheck, afterSize, bind_assoc]

theorem negotiateRequestChecked_size : negotiateRequestChecked r c = (do
    total (precheck r c)
    let draft ← total (negotiateAction c ⟨r, []⟩)
    let draft ← negotiateCountChecked c draft
    let draft ← negotiateSizeChecked c draft
    afterSizeChecked r c draft) := by
  simp only [negotiateRequestChecked, precheck, afterSizeChecked, ← total_bind, bind_assoc]

theorem policies_kept {draft' : Draft} {p : GenerationParameters}
    (framed : draft'.request = { draft.request with parameters := p })
    (policies : draft.request.policies = r.policies) : draft'.request.policies = r.policies := by
  rw [framed]
  exact policies

theorem afterSizeChecked_eq (ordered : c.partialImages.min ≤ c.partialImages.max)
    (policies : draft.request.policies = r.policies) :
    afterSizeChecked r c draft = total (afterSize r c draft) := by
  unfold afterSizeChecked afterSize
  simp only [partialImagesChecked_eq ordered, ← total_bind]
  refine total_bind_congr fun hinted hints => total_bind_congr fun graded quality =>
    total_bind_congr fun formatted format => total_bind_congr fun backed background =>
    total_bind_congr fun moderated moderation => total_bind_congr fun previewed previews =>
    total_bind_congr fun merged negative => total_bind_congr fun _ _ => ?_
  obtain ⟨rated, ratio, resolution⟩ := Outcome.bind_ok.mp hints
  obtain ⟨shaped, shape, compression⟩ := Outcome.bind_ok.mp format
  have kept := policies_kept (negotiatePartialImages_ok previews)
    (policies_kept (negotiateValue_ok rfl moderation) (policies_kept (negotiateValue_ok rfl background)
    (policies_kept (negotiateCompression_ok compression) (policies_kept (negotiateValue_ok rfl shape)
    (policies_kept (negotiateValue_ok rfl quality) (policies_kept (negotiateResolution_ok resolution)
    (policies_kept (negotiateRatio_ok ratio) policies)))))))
  have mode : r.policies.compatibility = merged.request.policies.compatibility := by
    rw [negotiateNegativePrompt_ok negative, ← kept]
  rw [assertMode, if_pos mode]
  rfl

/-! ## Negotiation -/

theorem precheck_ordered (checked : precheck r c = .ok ()) :
    c.count.min ≤ c.count.max ∧ c.partialImages.min ≤ c.partialImages.max := by
  obtain ⟨⟨⟩, declared, _⟩ := Outcome.bind_ok.mp checked
  exact (ProviderCapabilities.validate_ranges declared).2

/-- Every clamp is ordered and the pixel product fits; the division is all that is left. -/
theorem negotiateRequestChecked_eq (fits : ThirtyTwoBit r.parameters.size) :
    negotiateRequestChecked r c = (do
      let draft ← total (beforeSize r c)
      if ZeroDivision c r.parameters.size then panicked
      else total (negotiateSize c draft >>= afterSize r c)) := by
  rw [negotiateRequestChecked_size]
  simp only [beforeSize, ← total_bind, bind_assoc]
  refine total_bind_congr fun ⟨⟩ checked => total_bind_congr fun acted action => ?_
  have ordered := precheck_ordered checked
  rw [countChecked_eq ordered.1]
  refine total_bind_congr fun counted count => ?_
  have reached : beforeSize r c = .ok counted :=
    Outcome.bind_ok.mpr ⟨(), checked, Outcome.bind_ok.mpr ⟨acted, action, count⟩⟩
  have kept := beforeSize_ok reached
  rw [sizeChecked_eq (by rw [kept.1]; exact fits), kept.1]
  by_cases zero : ZeroDivision c r.parameters.size
  · rw [if_pos zero, if_pos zero]
    rfl
  · rw [if_neg zero, if_neg zero]
    refine total_bind_congr fun sized size => ?_
    exact afterSizeChecked_eq ordered.2 (policies_kept (negotiateSize_ok size) kept.2)

/-- What does not panic is the negotiation. -/
theorem checked_total (fits : ThirtyTwoBit r.parameters.size)
    (avoids : ¬(ReachesSize r c ∧ ZeroDivision c r.parameters.size)) :
    negotiateRequestChecked r c = total (negotiateRequest r c) := by
  rw [negotiateRequestChecked_eq fits, negotiateRequest_size]
  cases reached : beforeSize r c with
  | error e => rfl
  | ok draft =>
    have reaches := beforeSize_total.mp ⟨draft, reached⟩
    rw [total_ok_bind, if_neg fun zero => avoids ⟨reaches, zero⟩]
    rfl

theorem checked_panics (fits : ThirtyTwoBit r.parameters.size) (reaches : ReachesSize r c)
    (zero : ZeroDivision c r.parameters.size) : negotiateRequestChecked r c = panicked := by
  obtain ⟨draft, reached⟩ := beforeSize_total.mpr reaches
  rw [negotiateRequestChecked_eq fits, reached, total_ok_bind, if_pos zero]

/-- Negotiation panics exactly where it divides an explicit size by a declared multiple of zero. -/
theorem negotiation_panics_iff (r : ImageRequest) (c : ProviderCapabilities)
    (fits : ThirtyTwoBit r.parameters.size) :
    (∃ outcome, (negotiateRequestChecked r c).run = some outcome) ↔
      ¬(ReachesSize r c ∧ ZeroDivision c r.parameters.size) := by
  constructor
  · rintro ⟨outcome, finished⟩ ⟨reaches, zero⟩
    rw [checked_panics fits reaches zero] at finished
    cases finished
  · intro avoids
    exact ⟨negotiateRequest r c, by rw [checked_total fits avoids]; rfl⟩

/-- A document that takes every size whose edges are multiples of zero. -/
def zeroMultiple : ProviderCapabilities :=
  { pngOnly with sizes := { auto := true, arbitrary := true, edgeMultiple := some 0 } }

def squareRequest : ImageRequest where
  prompt := "a lighthouse"
  parameters := { size := .exact 64 64 (by decide) (by decide) }

theorem negotiation_panics_square :
    (∃ outcome, (negotiateRequestChecked squareRequest pngOnly).run = some outcome) ↔
      ¬(ReachesSize squareRequest pngOnly ∧
        ZeroDivision pngOnly squareRequest.parameters.size) :=
  negotiation_panics_iff squareRequest pngOnly ⟨by decide, by decide⟩

theorem squareRequest_valid : validateRequest squareRequest .default = .ok () :=
  (Validation.validateRequest_ok _ _).mpr (by decide)

/-- An explicit size is divided by the multiple of zero. -/
theorem square_divides_by_zero : validateRequest squareRequest .default = .ok () ∧
    zeroMultiple.validate = .ok () ∧
    (negotiateRequestChecked squareRequest zeroMultiple).run = none :=
  ⟨squareRequest_valid, rfl, rfl⟩

end Negotiation

end ImagegenBridge
