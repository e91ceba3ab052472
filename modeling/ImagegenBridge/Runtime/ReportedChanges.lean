import ImagegenBridge.Core.NegotiationJournal
import ImagegenBridge.Runtime.Orchestrator

/-!
# What a response says about the changes to its request

Transparency planning and negotiation rewrite a request one after the other. Each
change should be a chain of normalizations from the caller's value to the one the
response reports. The chroma-key workflow replaces jpeg by png, and loses the
compression level without a record.
-/

namespace ImagegenBridge.ReportedChanges

open Negotiation Rewriting Transparency Orchestrator

/-- The chroma-key workflow is what serves the request. -/
def Keyed (request : ImageRequest) (c : ProviderCapabilities) : Prop :=
  request.parameters.background = .transparent ∧
    chosenMode request.output.transparency.mode (c.transparentBackground == .native) ≠ .native

def KeysJpeg (request : ImageRequest) (c : ProviderCapabilities) : Prop :=
  Keyed request c ∧ request.parameters.outputFormat = .jpeg

/-- The parameters a response calls effective. -/
def reportedParameters (prepared : PreparedTransparency) (plan : NegotiatedRequest) :
    GenerationParameters :=
  if prepared.plan.isSome then { plan.effectiveRequest.parameters with background := .transparent }
  else plan.effectiveRequest.parameters

/-- A changed parameter has a chain of normalizations from the old value to the new one. -/
def Accounted (x : Parameter) (p q : GenerationParameters) (notes : List Normalization) : Prop :=
  ¬x.Same p q → about x notes ≠ [] ∧
    Linked Normalization.requested Normalization.effective (x.value p) (about x notes) (x.value q)

/-- The changes a strict request may see. -/
structure StrictChanges (request : ImageRequest) (prepared : PreparedTransparency)
    (plan : NegotiatedRequest) : Prop where
  action : (reportedParameters prepared plan).action = request.parameters.action ∨
    (reportedParameters prepared plan).action = .auto
  others : ∀ x : Parameter, x ≠ .action →
    x.Same request.parameters (reportedParameters prepared plan)
  negative : plan.effectiveRequest.negativePrompt = request.negativePrompt ∨
    ∃ text, request.negativePrompt = some text ∧ plan.effectiveRequest.negativePrompt = none ∧
      plan.effectiveRequest.prompt = prepared.providerRequest.prompt ++ negativeSeparator ++ text
  prompt : prepared.plan = none → plan.effectiveRequest.negativePrompt = request.negativePrompt →
    plan.effectiveRequest.prompt = request.prompt
  rest : plan.effectiveRequest = { request with
    prompt := plan.effectiveRequest.prompt
    negativePrompt := plan.effectiveRequest.negativePrompt
    parameters := plan.effectiveRequest.parameters }

/-- Every change is reported, and nothing else is. -/
structure EveryChangeReported (request : ImageRequest) (prepared : PreparedTransparency)
    (plan : NegotiatedRequest) : Prop where
  accounted : ∀ x, Accounted x request.parameters (reportedParameters prepared plan)
    (prepared.normalizations ++ plan.normalizations)
  merged : plan.effectiveRequest.prompt ≠ prepared.providerRequest.prompt ∨
    plan.effectiveRequest.negativePrompt ≠ request.negativePrompt →
      ∃ note ∈ plan.normalizations, note.field = "negative_prompt"
  rekeyed : prepared.providerRequest.prompt ≠ request.prompt →
    ∃ note ∈ prepared.normalizations, note.field = "output.transparency.key_color"
  named : ∀ note ∈ plan.normalizations,
    (∃ x : Parameter, note.field = x.path ∧
      ¬x.Same request.parameters (reportedParameters prepared plan)) ∨
    note.field = "negative_prompt" ∧
      plan.effectiveRequest.negativePrompt ≠ request.negativePrompt
  strict : request.policies.compatibility = .strict → StrictChanges request prepared plan

/-- No jpeg to key with a compression level or with a provider that answers jpeg
for png, and no document whose only size is `auto` without supporting it. -/
def Reportable (request : ImageRequest) (c : ProviderCapabilities) : Prop :=
  (KeysJpeg request c → request.parameters.outputCompression = none ∧
    (.png ∈ c.outputFormats ∨ c.outputFormats.head? ≠ some .jpeg)) ∧
  ¬RepeatsAuto c request.parameters.size

section

variable {request : ImageRequest} {c : ProviderCapabilities} {prepared : PreparedTransparency}
  {plan : NegotiatedRequest} {x : Parameter}

/-- The two ends of transparency planning. -/
theorem prepareTransparency_cases (ok : prepareTransparency request c = .ok prepared) :
    (¬Keyed request c ∧ prepared.plan = none ∧ prepared.providerRequest = request ∧
      ∀ x, about x prepared.normalizations = []) ∨
    Keyed request c ∧ ∃ mode formatNotes parameters background plan key keyNote,
      alphaFormat request c = .ok (parameters, formatNotes) ∧ background ∈ c.backgrounds ∧
      keyNote.field = "output.transparency.key_color" ∧ prepared.plan = some plan ∧
      prepared.providerRequest = { request with
        prompt := request.prompt ++ workflowPrompt key
        parameters := { parameters with background } } ∧
      prepared.normalizations = [modeNormalization request.output.transparency.mode mode] ++
        formatNotes ++ [⟨"parameters.background", some (.string Background.transparent.wire),
          some (.string Background.transparent.wire),
          "transparent_result_via_chroma_key_postprocessing"⟩, keyNote] := by
  unfold prepareTransparency at ok
  split at ok
  · rename_i solid
    cases ok
    exact Or.inl ⟨fun keyed => solid keyed.1, rfl, rfl, fun _ => rfl⟩
  · rename_i transparent
    obtain ⟨_, _, ok⟩ := Outcome.bind_ok.mp ok
    dsimp only at ok
    split at ok
    · rename_i native
      obtain ⟨_, _, ok⟩ := Outcome.bind_ok.mp ok
      cases ok
      refine Or.inl ⟨fun keyed => keyed.2 native, rfl, rfl, fun x => about_other ?_⟩
      cases x <;> simp [modeNormalization, Parameter.path]
    · rename_i keying
      right
      refine ⟨⟨Decidable.of_not_not transparent, keying⟩, ?_⟩
      unfold prepareChromaKey at ok
      obtain ⟨⟨parameters, formatNotes⟩, format, ok⟩ := Outcome.bind_ok.mp ok
      obtain ⟨key, _, ok⟩ := Outcome.bind_ok.mp ok
      obtain ⟨background, keyable, ok⟩ := Outcome.bind_ok.mp ok
      cases ok
      refine ⟨_, formatNotes, parameters, background, _, key.hex, _, format, ?_, rfl, rfl, rfl,
        rfl⟩
      unfold keyableBackground at keyable
      split at keyable
      · rename_i present
        cases keyable
        simpa using present
      · split at keyable
        · rename_i present
          cases keyable
          simpa using present
        · cases keyable

theorem alphaFormat_cases {parameters : GenerationParameters} {notes : List Normalization}
    (ok : alphaFormat request c = .ok (parameters, notes)) :
    (request.parameters.outputFormat = .jpeg ∧ request.policies.compatibility ≠ .strict ∧
      parameters = { request.parameters with outputFormat := .png, outputCompression := none } ∧
      ∃ reason, notes = [⟨"parameters.output_format", some (.string OutputFormat.jpeg.wire),
        some (.string OutputFormat.png.wire), reason⟩]) ∨
    request.parameters.outputFormat ≠ .jpeg ∧ parameters = request.parameters ∧ notes = [] := by
  unfold alphaFormat at ok
  split at ok
  · rename_i jpeg
    split at ok
    · cases ok
    · rename_i lenient
      cases ok
      exact Or.inl ⟨jpeg, lenient, rfl, _, rfl⟩
  · rename_i other
    cases ok
    exact Or.inr ⟨other, rfl, rfl⟩

/-- How the caller's value of one parameter becomes the reported one. -/
inductive Trail (request : ImageRequest) (c : ProviderCapabilities) (prepared : PreparedTransparency)
    (plan : NegotiatedRequest) (x : Parameter) : Prop
  /-- Transparency planning leaves the parameter to negotiation. -/
  | carried (own : KeysJpeg request c → x ≠ .outputFormat ∧ x ≠ .outputCompression)
      (quiet : about x prepared.normalizations = [])
      (recorded : Recorded c x request.parameters (reportedParameters prepared plan)
        (about x plan.normalizations))
  /-- The background is another one only while the provider generates the image. -/
  | restored (solid : x = .background)
      (same : x.Same request.parameters (reportedParameters prepared plan))
      (quiet : about x plan.normalizations = [])
  | encoded (format : x = .outputFormat) (jpeg : KeysJpeg request c) (reason : String)
      (noted : about x prepared.normalizations = [⟨x.path, x.value request.parameters,
        x.value { request.parameters with outputFormat := .png }, reason⟩])
      (answered : (reportedParameters prepared plan).outputFormat =
        effectiveValue c.outputFormats .png .png)
      (recorded : Recorded c x { request.parameters with outputFormat := .png }
        (reportedParameters prepared plan) (about x plan.normalizations))
  | stripped (level : x = .outputCompression) (jpeg : KeysJpeg request c)
      (gone : (reportedParameters prepared plan).outputCompression = none)
      (quiet : about x prepared.normalizations = []) (silent : about x plan.normalizations = [])

/-- A record that changes nothing is none, unless `auto` repeats itself. -/
theorem recorded_silent {p q : GenerationParameters} {notes : List Normalization}
    (recorded : Recorded c x p q notes) (same : x.Same p q)
    (settled : ¬(x = .size ∧ RepeatsAuto c p.size)) : notes = [] := by
  cases recorded with
  | unchanged => rfl
  | noted reason moved =>
    obtain changed | repeats := moved
    · exact absurd same changed
    · exact absurd repeats settled

theorem recorded_noted {p q : GenerationParameters} {notes : List Normalization}
    (recorded : Recorded c x p q notes)
    (moved : ¬x.Same p q ∨ x = .size ∧ RepeatsAuto c p.size) : notes ≠ [] := by
  cases recorded with
  | unchanged same settled =>
    obtain changed | repeats := moved
    · exact absurd same changed
    · exact absurd repeats settled
  | noted => exact List.cons_ne_nil _ _

/-- A record of a plain plan, or of a parameter the plan does not restore. -/
theorem reported_same (other : prepared.plan = none ∨ x ≠ .background) :
    x.Same plan.effectiveRequest.parameters (reportedParameters prepared plan) := by
  unfold reportedParameters
  split
  · rename_i keyed
    obtain plain | other := other
    · simp [plain] at keyed
    · exact Parameter.same_assign (x := .background)
        (q := { plan.effectiveRequest.parameters with background := .transparent }) other
  · exact (Parameter.same_equivalence x).refl _

/-- Around the format's note a plan notes its mode, the background and its key. -/
theorem about_planned {mode : Normalization} {formatNotes : List Normalization}
    {background key : Normalization} (modeField : mode.field = "output.transparency.mode")
    (keyField : key.field = "output.transparency.key_color")
    (backgroundField : background.field = "parameters.background") (other : x ≠ .background) :
    about x ([mode] ++ formatNotes ++ [background, key]) = about x formatNotes := by
  have modeOther : mode.field ≠ x.path := by
    rw [modeField]
    cases x <;> simp [Parameter.path]
  have keyOther : key.field ≠ x.path := by
    rw [keyField]
    cases x <;> simp [Parameter.path]
  have backgroundOther : background.field ≠ x.path := by
    rw [backgroundField]
    exact fun named => other (Parameter.path_injective named.symm)
  simp [about, modeOther, keyOther, backgroundOther]

/-- A chroma-key plan leaves every parameter but three to negotiation. -/
theorem planned_same {format : OutputFormat} {level : Option Nat} {background : Background}
    (solid : x ≠ .background) (encoded : x ≠ .outputFormat) (leveled : x ≠ .outputCompression) :
    x.Same request.parameters { request.parameters with
      outputFormat := format, outputCompression := level, background } := by
  cases x <;> first | rfl | contradiction

theorem trail (ok : prepareTransparency request c = .ok prepared)
    (negotiated : negotiateRequest prepared.providerRequest c = .ok plan) (x : Parameter) :
    Trail request c prepared plan x := by
  have journal := (negotiated_journal negotiated).recorded x
  have effective := negotiateRequest_effective negotiated
  have refl := (Parameter.same_equivalence x).refl
  obtain ⟨unkeyed, plain, kept, quiet⟩ | ⟨keyed, mode, formatNotes, parameters, background, chroma,
    key, keyNote, format, keyable, keyField, planned, sent, noted⟩ := prepareTransparency_cases ok
  · rw [kept] at journal
    exact .carried (fun jpeg => absurd jpeg.1 unkeyed) (quiet x)
      (journal.moved (refl _) (reported_same (Or.inl plain)))
  · by_cases solid : x = .background
    · subst solid
      apply Trail.restored rfl
      · show request.parameters.background = (reportedParameters prepared plan).background
        rw [keyed.1, reportedParameters, planned]
        rfl
      · apply recorded_silent journal _ (by simp)
        show prepared.providerRequest.parameters.background = _
        rw [effective, sent]
        simp [effectiveRequest, effectiveParameters, effectiveValue, replacedValue, keyable]
    · have quiet : about x prepared.normalizations = about x formatNotes := by
        rw [noted]
        exact about_planned rfl keyField rfl solid
      have recorded : Recorded c x prepared.providerRequest.parameters
          (reportedParameters prepared plan) (about x plan.normalizations) :=
        journal.moved (refl _) (reported_same (Or.inr solid))
      rw [sent] at recorded
      obtain ⟨jpeg, lenient, rfl, reason, rfl⟩ | ⟨other, rfl, rfl⟩ := alphaFormat_cases format
      · by_cases encoded : x = .outputFormat
        · subst encoded
          apply Trail.encoded rfl ⟨keyed, jpeg⟩ reason
          · rw [quiet]
            simp [about, Parameter.path, Parameter.value, jpeg]
          · have same : Parameter.outputFormat.Same plan.effectiveRequest.parameters
                (reportedParameters prepared plan) := reported_same (Or.inr solid)
            rw [← show plan.effectiveRequest.parameters.outputFormat = _ from same, effective, sent]
            rfl
          · exact recorded.moved rfl (refl _)
        · by_cases leveled : x = .outputCompression
          · subst leveled
            have gone : plan.effectiveRequest.parameters.outputCompression = none := by
              rw [effective, sent]
              simp [effectiveRequest, effectiveParameters, effectiveCompression]
            apply Trail.stripped rfl ⟨keyed, jpeg⟩
            · rw [← gone]
              exact (reported_same (Or.inr solid)).symm
            · rw [quiet]
              rfl
            · apply recorded_silent journal _ (by simp)
              rw [sent]
              exact gone.symm
          · apply Trail.carried fun _ => ⟨encoded, leveled⟩
            · rw [quiet]
              exact about_other fun named => encoded (Parameter.path_injective named.symm)
            · exact recorded.moved (planned_same solid encoded leveled) (refl _)
      · apply Trail.carried fun jpeg => absurd jpeg.2 other
        · rw [quiet]
          rfl
        · apply recorded.moved _ (refl _)
          exact Parameter.same_assign (x := .background)
            (q := { request.parameters with background }) solid

/-- Along every trail a changed parameter is accounted for, the stripped one apart. -/
theorem Trail.accounted (way : Trail request c prepared plan x)
    (kept : KeysJpeg request c → request.parameters.outputCompression = none) :
    Accounted x request.parameters (reportedParameters prepared plan)
      (prepared.normalizations ++ plan.normalizations) := by
  intro changed
  rw [about_append]
  cases way with
  | carried own quiet recorded =>
    rw [quiet, List.nil_append]
    revert recorded
    generalize about x plan.normalizations = notes
    intro recorded
    cases recorded with
    | unchanged same => exact absurd same changed
    | noted reason => exact ⟨List.cons_ne_nil _ _, linked_single⟩
  | restored solid same => exact absurd same changed
  | encoded format jpeg reason noted answered recorded =>
    rw [noted]
    refine ⟨by simp, rfl, ?_⟩
    revert recorded
    generalize about x plan.normalizations = notes
    intro recorded
    cases recorded with
    | unchanged same => exact Parameter.same_value same
    | noted reason => exact linked_single
  | stripped level jpeg gone =>
    subst level
    exact absurd ((kept jpeg).trans gone.symm) changed

theorem mem_about {note : Normalization} {notes : List Normalization} (present : note ∈ notes)
    (named : note.field = x.path) : note ∈ about x notes := by
  simp [about, present, named]

/-- Negotiation answers png by itself, or by the first format of a document without it. -/
theorem effective_png {formats : List OutputFormat} :
    effectiveValue formats .png .png =
      if OutputFormat.png ∈ formats then .png else formats.head?.getD .png := by
  by_cases present : OutputFormat.png ∈ formats <;>
    simp [effectiveValue, replacedValue, valueFallback, present]

/-- A normalization of negotiation names a changed parameter. -/
theorem Trail.named (way : Trail request c prepared plan x) (reportable : Reportable request c)
    (noted : about x plan.normalizations ≠ []) :
    ¬x.Same request.parameters (reportedParameters prepared plan) := by
  intro same
  cases way with
  | carried own quiet recorded =>
    apply noted (recorded_silent recorded same _)
    exact fun repeats => reportable.2 repeats.2
  | restored solid _ quiet => exact noted quiet
  | stripped level jpeg gone _ silent => exact noted silent
  | encoded format jpeg reason _ answered recorded =>
    subst format
    apply noted (recorded_silent recorded _ (by simp))
    have returns : OutputFormat.jpeg = effectiveValue c.outputFormats .png .png := by
      rw [← answered, ← jpeg.2]
      exact same
    show OutputFormat.png = _
    rw [answered]
    obtain present | first := (reportable.1 jpeg).2
    · simp [effective_png, present]
    · cases head : c.outputFormats.head? with
      | none => simp [effective_png, head]
      | some format =>
        rw [effective_png, head] at returns ⊢
        split at returns
        · cases returns
        · rw [head] at first
          exact absurd (congrArg some returns.symm) first

/-- The prompt rewrites have their own records, whatever the parameters do. -/
theorem prompts_reported (ok : prepareTransparency request c = .ok prepared)
    (negotiated : negotiateRequest prepared.providerRequest c = .ok plan) :
    (plan.effectiveRequest.prompt ≠ prepared.providerRequest.prompt ∨
      plan.effectiveRequest.negativePrompt ≠ request.negativePrompt →
        ∃ note ∈ plan.normalizations, note.field = "negative_prompt") ∧
    (prepared.providerRequest.prompt ≠ request.prompt →
      ∃ note ∈ prepared.normalizations, note.field = "output.transparency.key_color") := by
  have journal := negotiated_journal negotiated
  obtain ⟨_, _, kept, _⟩ | ⟨_, mode, formatNotes, parameters, background, chroma, key, keyNote,
    _, _, keyField, _, sent, noted⟩ := prepareTransparency_cases ok
  · constructor
    · rw [← show prepared.providerRequest.negativePrompt = request.negativePrompt by rw [kept]]
      exact journal.merged
    · exact fun moved => absurd (by rw [kept]) moved
  · constructor
    · rw [← show prepared.providerRequest.negativePrompt = request.negativePrompt by rw [sent]]
      exact journal.merged
    · intro _
      exact ⟨keyNote, by simp [noted], keyField⟩

/-- Under strict compatibility no jpeg is keyed, so every other parameter stays. -/
theorem strict_changes (strict : request.policies.compatibility = .strict)
    (ok : prepareTransparency request c = .ok prepared)
    (negotiated : negotiateRequest prepared.providerRequest c = .ok plan) :
    StrictChanges request prepared plan := by
  have equal := Parameter.same_equivalence
  have effective := negotiateRequest_effective negotiated
  have carried : ∀ x : Parameter, x ≠ .background →
      x.Same request.parameters prepared.providerRequest.parameters := by
    intro x solid
    obtain ⟨_, _, kept, _⟩ | ⟨_, _, _, _, background, _, _, _, format, _, _, _, sent, _⟩ :=
      prepareTransparency_cases ok
    · rw [kept]
      exact (equal x).refl _
    · obtain ⟨_, lenient, _⟩ | ⟨_, rfl, rfl⟩ := alphaFormat_cases format
      · exact absurd strict lenient
      · rw [sent]
        exact Parameter.same_assign (x := .background)
          (q := { request.parameters with background }) solid
  have sent : prepared.providerRequest = { request with
      prompt := prepared.providerRequest.prompt
      parameters := prepared.providerRequest.parameters } := by
    obtain ⟨_, _, kept, _⟩ | ⟨_, _, _, _, _, _, _, _, _, _, _, _, sent, _⟩ :=
      prepareTransparency_cases ok
    · rw [kept]
    · rw [sent]
  have policies : prepared.providerRequest.policies = request.policies := by rw [sent]
  obtain ⟨action, others⟩ := negotiated_strict (by rw [policies, strict]) negotiated
  have negative : prepared.providerRequest.negativePrompt = request.negativePrompt := by rw [sent]
  constructor
  · have same : Parameter.action.Same plan.effectiveRequest.parameters
        (reportedParameters prepared plan) := reported_same (Or.inr (by simp))
    rw [← show plan.effectiveRequest.parameters.action = _ from same]
    obtain kept | automatic := action
    · left
      exact kept.trans (carried .action (by simp)).symm
    · exact Or.inr automatic
  · intro x other
    by_cases solid : x = .background
    · obtain ⟨_, _, kept, _⟩ | ⟨keyed, _, _, _, _, _, _, _, _, _, _, planned, _⟩ :=
        prepareTransparency_cases ok
      · rename_i plain _
        rw [← kept]
        exact (equal x).trans (others x other) (reported_same (Or.inl plain))
      · subst solid
        show request.parameters.background = (reportedParameters prepared plan).background
        rw [keyed.1, reportedParameters, planned]
        rfl
    · exact (equal x).trans (carried x solid)
        ((equal x).trans (others x other) (reported_same (Or.inr solid)))
  · cases merged : mergedText prepared.providerRequest c with
    | none =>
      left
      rw [← negative, effective]
      show effectiveNegative prepared.providerRequest c = _
      simp only [effectiveNegative, mergedText] at merged ⊢
      split at merged
      · rename_i merges
        rw [if_pos merges, merged]
      · rename_i keeps
        rw [if_neg keeps]
    | some text =>
      right
      obtain ⟨present, gone⟩ := mergedText_some merged
      exact ⟨text, negative ▸ present, by rw [effective]; exact gone,
        by rw [effective]; exact effectivePrompt_merged merged⟩
  · intro plain unmerged
    have kept : prepared.providerRequest.prompt = request.prompt := by
      obtain ⟨_, _, kept, _⟩ | ⟨_, _, _, _, _, _, _, _, _, _, _, planned, _⟩ :=
        prepareTransparency_cases ok
      · rw [kept]
      · simp [plain] at planned
    rw [effective] at unmerged ⊢
    rw [← kept]
    apply effectivePrompt_kept
    cases merged : mergedText prepared.providerRequest c with
    | none => rfl
    | some text =>
      obtain ⟨present, gone⟩ := mergedText_some merged
      have impossible : none = request.negativePrompt := gone.symm.trans unmerged
      rw [← negative, present] at impossible
      cases impossible
  · rw [effective]
    exact congrArg (fun base : ImageRequest => { base with
      prompt := (effectiveRequest prepared.providerRequest c).prompt
      negativePrompt := (effectiveRequest prepared.providerRequest c).negativePrompt
      parameters := (effectiveRequest prepared.providerRequest c).parameters }) sent

theorem prepared_size (ok : prepareTransparency request c = .ok prepared) :
    prepared.providerRequest.parameters.size = request.parameters.size := by
  obtain ⟨_, _, kept, _⟩ | ⟨_, _, _, _, _, _, _, _, format, _, _, _, sent, _⟩ :=
    prepareTransparency_cases ok
  · rw [kept]
  · rw [sent]
    obtain ⟨_, _, rfl, _⟩ | ⟨_, rfl, _⟩ := alphaFormat_cases format <;> rfl

theorem repeated_size {size : ImageSize} (repeats : RepeatsAuto c size) :
    effectiveSize c size = size := by
  obtain ⟨rfl, unsupported, first⟩ := repeats
  simp [effectiveSize, replacedSize, sizeSupported, unsupported, sizeFallback, first]

theorem EveryChangeReported.names (reported : EveryChangeReported request prepared plan)
    (noted : about x plan.normalizations ≠ []) :
    ¬x.Same request.parameters (reportedParameters prepared plan) := by
  obtain ⟨note, among⟩ := List.exists_mem_of_ne_nil _ noted
  obtain ⟨present, named⟩ : note ∈ plan.normalizations ∧ note.field = x.path := by
    simpa [about] using among
  obtain ⟨y, path, changed⟩ | ⟨merge, _⟩ := reported.named note present
  · rw [Parameter.path_injective (named.symm.trans path)]
    exact changed
  · have impossible : about x [note] = [] := about_merge merge
    rw [about_own named] at impossible
    cases impossible

/-- Every change is reported exactly for the requests that lose nothing to the
chroma-key workflow. -/
theorem changes_reported_iff (ok : prepareTransparency request c = .ok prepared)
    (negotiated : negotiateRequest prepared.providerRequest c = .ok plan) :
    EveryChangeReported request prepared plan ↔ Reportable request c := by
  have journal := negotiated_journal negotiated
  have effective := negotiateRequest_effective negotiated
  have negative : prepared.providerRequest.negativePrompt = request.negativePrompt := by
    obtain ⟨_, _, kept, _⟩ | ⟨_, _, _, _, _, _, _, _, _, _, _, _, sent, _⟩ :=
      prepareTransparency_cases ok
    · rw [kept]
    · rw [sent]
  constructor
  · intro reported
    constructor
    · intro jpeg
      constructor
      · cases trail ok negotiated .outputCompression with
        | carried own => exact absurd rfl (own jpeg).2
        | restored solid => cases solid
        | encoded format => cases format
        | stripped _ _ gone quiet silent =>
          by_contra level
          have changed : ¬Parameter.outputCompression.Same request.parameters
              (reportedParameters prepared plan) := fun same => level (same.trans gone)
          apply (reported.accounted .outputCompression changed).1
          rw [about_append, quiet, silent, List.append_nil]
      · cases trail ok negotiated .outputFormat with
        | carried own => exact absurd rfl (own jpeg).1
        | restored solid => cases solid
        | stripped level => cases level
        | encoded _ _ reason noted answered recorded =>
          by_contra returns
          simp only [not_or, Decidable.not_not] at returns
          have back : (reportedParameters prepared plan).outputFormat = .jpeg := by
            rw [answered, effective_png, if_neg returns.1, returns.2]
            rfl
          have noted : about .outputFormat plan.normalizations ≠ [] := by
            apply recorded_noted recorded
            left
            intro same
            have impossible : OutputFormat.png = .jpeg := same.trans back
            cases impossible
          exact reported.names noted (jpeg.2.trans back.symm)
    · intro repeats
      have noted : about .size plan.normalizations ≠ [] := by
        cases trail ok negotiated .size with
        | carried own quiet recorded => exact recorded_noted recorded (Or.inr ⟨rfl, repeats⟩)
        | restored solid => cases solid
        | encoded format => cases format
        | stripped level => cases level
      apply reported.names noted
      have reported : plan.effectiveRequest.parameters.size =
          (reportedParameters prepared plan).size := reported_same (x := .size) (Or.inr (by simp))
      show request.parameters.size = _
      rw [← reported, effective]
      show request.parameters.size = effectiveSize c prepared.providerRequest.parameters.size
      rw [prepared_size ok]
      exact (repeated_size repeats).symm
  · intro reportable
    obtain ⟨merged, rekeyed⟩ := prompts_reported ok negotiated
    refine ⟨?_, merged, rekeyed, ?_, fun strict => strict_changes strict ok negotiated⟩
    · intro x
      exact (trail ok negotiated x).accounted fun jpeg => (reportable.1 jpeg).1
    · intro note present
      obtain ⟨x, named⟩ | ⟨named, present, gone⟩ := journal.named note present
      · have noted : about x plan.normalizations ≠ [] :=
          List.ne_nil_of_mem (mem_about present named)
        exact Or.inl ⟨x, named, (trail ok negotiated x).named reportable noted⟩
      · right
        refine ⟨named, ?_⟩
        rw [gone, ← negative]
        exact present.symm

/-- What a route's response says is what the two steps reported. -/
theorem prepareRoute_reports {rt : Runtime} {route : ProviderRoute} {name : String}
    {discovered : Outcome ProviderCapabilities} {prepared : PreparedRoute}
    (ok : prepareRoute rt request route name discovered = .ok prepared) :
    ∃ transparency plan, prepareTransparency (routedRequest request route) prepared.capabilities =
        .ok transparency ∧
      negotiateRequest transparency.providerRequest prepared.capabilities = .ok plan ∧
      ∀ response requestId queueMs providerMs,
        (describeResponse response requestId name request prepared.effective prepared.plan.isSome
          prepared.normalizations queueMs providerMs).effective =
            reportedParameters transparency plan ∧
        (describeResponse response requestId name request prepared.effective prepared.plan.isSome
          prepared.normalizations queueMs providerMs).normalizations =
            transparency.normalizations ++ plan.normalizations ++ response.normalizations := by
  unfold prepareRoute at ok
  obtain ⟨c, _, ok⟩ := Outcome.bind_ok.mp ok
  obtain ⟨_, _, ok⟩ := Outcome.bind_ok.mp ok
  obtain ⟨transparency, keyed, ok⟩ := Outcome.bind_ok.mp ok
  obtain ⟨_, _, ok⟩ := Outcome.bind_ok.mp ok
  obtain ⟨plan, negotiated, ok⟩ := Outcome.bind_ok.mp ok
  cases ok
  exact ⟨transparency, plan, keyed, negotiated, fun _ _ _ _ => ⟨rfl, rfl⟩⟩

end

/-- A document of a provider that keys transparency locally. -/
def pngKeyed : ProviderCapabilities := { pngOnly with transparentBackground := .emulated }

/-- A transparent jpeg with a compression level. -/
def keyedJpeg : ImageRequest where
  prompt := "a lighthouse"
  parameters := { outputFormat := .jpeg, outputCompression := some 80, background := .transparent }
  output := { transparency := { keyColor := some "#00ff00" } }
  policies := { compatibility := .normalize }

/-- What the provider is asked for in its place. -/
def keyedJpegSent : ImageRequest := { keyedJpeg with
  prompt := keyedJpeg.prompt ++ workflowPrompt "#00ff00"
  parameters := {} }

set_option maxRecDepth 2000 in
theorem keyedJpegSent_short : Text.len keyedJpegSent.prompt ≤ RequestLimits.default.maxPromptBytes :=
  (Text.len_append_le (Text.len_le _) (Text.len_append_le (Text.len_append_le (Text.len_append_le
    (Text.len_append_le (Text.len_le _) (Text.len_le _)) (Text.len_le _)) (Text.len_le _))
    (Text.len_le _))).trans (by decide)

theorem keyedJpegSent_valid : validateRequest keyedJpegSent .default = .ok () := by
  rw [Validation.validateRequest_ok, Validation.reported_nil, Validation.promptIssues_nil]
  have blank : Text.isBlank keyedJpegSent.prompt = false := Text.isBlank_append _ (by decide)
  exact ⟨by decide, ⟨blank, keyedJpegSent_short⟩, by decide, by decide, by decide, by decide, by decide, by decide,
    by decide, by decide, by decide⟩

def keyedPng : ImageRequest := { keyedJpeg with parameters := { background := .transparent } }

/-- A transparent png loses nothing. -/
theorem keyed_png_reported : ∃ prepared plan,
    prepareTransparency keyedPng pngKeyed = .ok prepared ∧
    negotiateRequest prepared.providerRequest pngKeyed = .ok plan ∧
    (EveryChangeReported keyedPng prepared plan ↔ Reportable keyedPng pngKeyed) :=
  ⟨⟨_, _, _⟩, ⟨_, _, _⟩, rfl, rfl, changes_reported_iff rfl rfl⟩

/-- The compression level disappears with the jpeg, and no normalization says so. -/
theorem keyed_jpeg_level_unreported : ∃ prepared plan,
    validateRequest keyedJpeg .default = .ok () ∧
    prepareTransparency keyedJpeg pngKeyed = .ok prepared ∧
    validateRequest prepared.providerRequest .default = .ok () ∧
    negotiateRequest prepared.providerRequest pngKeyed = .ok plan ∧
    ¬EveryChangeReported keyedJpeg prepared plan := by
  refine ⟨⟨keyedJpegSent, _, _⟩, ⟨_, _, _⟩, (Validation.validateRequest_ok _ _).mpr (by decide), rfl,
    keyedJpegSent_valid, rfl, ?_⟩
  intro reported
  have changed := reported.accounted .outputCompression (by decide)
  exact changed.1 rfl

end ImagegenBridge.ReportedChanges
