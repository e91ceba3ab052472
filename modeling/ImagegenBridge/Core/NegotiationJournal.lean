import ImagegenBridge.Core.NegotiationStages
import ImagegenBridge.Core.NegotiationValidity

/-!
# The normalizations of a negotiation

Every generation parameter passes one stage, so at most one normalization names
it, and that one shows the value before and after.
-/

namespace ImagegenBridge.Negotiation

open Rewriting

/-- The normalizations that name a parameter. -/
def about (x : Parameter) (notes : List Normalization) : List Normalization :=
  notes.filter fun note => note.field == x.path

/-- What negotiation notes about a parameter: nothing, or the one change it makes. -/
inductive Recorded (c : ProviderCapabilities) (x : Parameter) (p q : GenerationParameters) :
    List Normalization → Prop
  | unchanged (same : x.Same p q) (settled : ¬(x = .size ∧ RepeatsAuto c p.size)) :
      Recorded c x p q []
  | noted (reason : String) (moved : ¬x.Same p q ∨ x = .size ∧ RepeatsAuto c p.size) :
      Recorded c x p q [⟨x.path, x.value p, x.value q, reason⟩]

section

variable {c : ProviderCapabilities} {x y : Parameter} {draft draft' : Draft} {r : ImageRequest}
  {plan : NegotiatedRequest} {notes more : List Normalization} {note : Normalization}

@[simp] theorem about_append : about x (notes ++ more) = about x notes ++ about x more :=
  List.filter_append ..

theorem about_own (named : note.field = x.path) : about x [note] = [note] := by
  simp [about, named]

theorem about_other (named : note.field ≠ x.path) : about x [note] = [] := by
  simp [about, named]

/-- The parameter and what the draft notes about it. -/
def Unseen (x : Parameter) (draft draft' : Draft) : Prop :=
  x.Same draft.parameters draft'.parameters ∧
    about x draft.normalizations = about x draft'.normalizations

theorem unseen_equivalence (x : Parameter) : Equivalence (Unseen x) where
  refl _ := ⟨(Parameter.same_equivalence x).refl _, rfl⟩
  symm held := ⟨(Parameter.same_equivalence x).symm held.1, held.2.symm⟩
  trans first second :=
    ⟨(Parameter.same_equivalence x).trans first.1 second.1, first.2.trans second.2⟩

theorem effect_unseen (effect : Effect c x draft draft') (other : x ≠ y) : Unseen y draft draft' := by
  cases effect with
  | kept => exact (unseen_equivalence y).refl _
  | noted p reason own =>
    constructor
    · show y.Same draft.parameters p
      rw [own]
      exact Parameter.same_assign fun back => other back.symm
    · show about y draft.normalizations = about y (draft.normalizations ++ [_])
      rw [about_append, about_other fun named => other (Parameter.path_injective named),
        List.append_nil]

theorem stage_unseen (staged : y ∈ rewritten) (x : Parameter) (draft draft' : Draft) (other : y ≠ x)
    (ok : stage c y draft = .ok draft') : Unseen x draft draft' :=
  effect_unseen (stage_effect staged ok) other

/-- The stage of a parameter on a draft that notes nothing about it. -/
theorem effect_recorded (effect : Effect c x draft draft')
    (fresh : about x draft.normalizations = []) :
    Recorded c x draft.parameters draft'.parameters (about x draft'.normalizations) := by
  cases effect with
  | kept inside =>
    rw [fresh]
    apply Recorded.unchanged ((Parameter.same_equivalence x).refl _)
    rintro ⟨rfl, automatic, unsupported, _⟩
    simp [Parameter.Inside, sizeSupported, automatic, unsupported] at inside
  | noted p reason own moved =>
    show Recorded c x draft.parameters p (about x (draft.normalizations ++ [_]))
    rw [about_append, fresh, about_own rfl, List.nil_append]
    exact .noted reason moved

/-- A record speaks of the values at its two ends only. -/
theorem Recorded.moved {p q p' q' : GenerationParameters} (recorded : Recorded c x p q notes)
    (first : x.Same p' p) (last : x.Same q q') : Recorded c x p' q' notes := by
  have equal := Parameter.same_equivalence x
  have repeats : x = .size ∧ RepeatsAuto c p'.size ↔ x = .size ∧ RepeatsAuto c p.size := by
    apply and_congr_right
    rintro rfl
    rw [show p'.size = p.size from first]
  cases recorded with
  | unchanged same settled =>
    exact .unchanged (equal.trans first (equal.trans same last)) fun again =>
      settled (repeats.mp again)
  | noted reason moved =>
    rw [← Parameter.same_value first, Parameter.same_value last]
    apply Recorded.noted reason
    obtain changed | again := moved
    · left
      intro same
      exact changed (equal.trans (equal.symm first) (equal.trans same (equal.symm last)))
    · exact Or.inr (repeats.mpr again)

theorem run_recorded (ok : run (stage c) rewritten ⟨r, []⟩ = .ok draft) (x : Parameter) :
    Recorded c x r.parameters draft.parameters (about x draft.normalizations) := by
  by_cases staged : x ∈ rewritten
  · obtain ⟨t, t', before, taken, after⟩ := run_passes unseen_equivalence
      (fun y among x => stage_unseen among x) (by decide) staged ok
    have recorded : Recorded c x t.parameters t'.parameters (about x t'.normalizations) :=
      effect_recorded (stage_effect staged taken) before.2.symm
    rw [← after.2]
    exact recorded.moved before.1 after.1
  · have untouched : Unseen x ⟨r, []⟩ draft := run_untouched unseen_equivalence
      (fun y among x => stage_unseen among x) staged ok
    rw [← untouched.2]
    apply Recorded.unchanged untouched.1
    rintro ⟨rfl, _⟩
    exact staged (by decide)

/-- Every normalization of the stages names a parameter. -/
theorem run_names (ok : run (stage c) rewritten ⟨r, []⟩ = .ok draft) :
    ∀ note ∈ draft.normalizations, ∃ x : Parameter, note.field = x.path := by
  have grows : ∀ note ∈ draft.normalizations,
      note ∈ ([] : List Normalization) ∨ ∃ x : Parameter, note.field = x.path := by
    apply run_relates (R := fun s s' => ∀ note ∈ s'.normalizations,
      note ∈ s.normalizations ∨ ∃ x : Parameter, note.field = x.path) _ _ _ ok
    · exact fun s note present => Or.inl present
    · intro s t u first second note present
      obtain earlier | named := second note present
      · exact first note earlier
      · exact Or.inr named
    · intro x staged s s' taken note present
      cases stage_effect staged taken with
      | kept => exact Or.inl present
      | noted p reason =>
        obtain earlier | rfl : note ∈ s.normalizations ∨ note = _ := by
          simpa [Draft.setParameters, recordOptional] using present
        · exact Or.inl earlier
        · exact Or.inr ⟨x, rfl⟩
  intro note present
  obtain impossible | named := grows note present
  · simp at impossible
  · exact named

/-- Negotiation notes each changed parameter once, and the merge of a negative prompt. -/
structure Journal (r : ImageRequest) (c : ProviderCapabilities) (plan : NegotiatedRequest) :
    Prop where
  recorded : ∀ x, Recorded c x r.parameters plan.effectiveRequest.parameters
    (about x plan.normalizations)
  named : ∀ note ∈ plan.normalizations, (∃ x : Parameter, note.field = x.path) ∨
    note.field = "negative_prompt" ∧ r.negativePrompt ≠ none ∧
      plan.effectiveRequest.negativePrompt = none
  merged : plan.effectiveRequest.prompt ≠ r.prompt ∨
    plan.effectiveRequest.negativePrompt ≠ r.negativePrompt →
      ∃ note ∈ plan.normalizations, note.field = "negative_prompt"

/-- What the last step adds to the journal of the stages. -/
theorem negotiateNegativePrompt_notes (ok : negotiateNegativePrompt c draft = .ok draft') :
    draft' = draft ∨ draft.request.negativePrompt ≠ none ∧ draft'.request.negativePrompt = none ∧
      draft'.request.parameters = draft.request.parameters ∧ ∃ note : Normalization,
        note.field = "negative_prompt" ∧ draft'.normalizations = draft.normalizations ++ [note] := by
  unfold negotiateNegativePrompt at ok
  split at ok
  · cases ok
    exact Or.inl rfl
  · rename_i text present
    obtain ⟨merge, decided, ok⟩ := Outcome.bind_ok.mp ok
    cases merge with
    | false =>
      cases ok
      exact Or.inl rfl
    | true =>
      cases ok
      exact Or.inr ⟨by simp [present], rfl, rfl, _, rfl, rfl⟩

theorem about_merge (named : note.field = "negative_prompt") : about x [note] = [] := by
  apply about_other
  rw [named]
  cases x <;> simp [Parameter.path]

/-- A stage rewrites parameters only. -/
theorem run_frame (ok : run (stage c) rewritten draft = .ok draft') :
    draft'.request = { draft.request with parameters := draft'.request.parameters } := by
  apply run_relates (R := fun s s' : Draft =>
    s'.request = { s.request with parameters := s'.request.parameters }) _ _ _ ok
  · exact fun s => rfl
  · intro s t u first second
    rw [second, first]
  · intro x staged s s' taken
    cases stage_effect staged taken <;> rfl

/-- The steps of a successful negotiation. -/
theorem negotiateRequest_stages (ok : negotiateRequest r c = .ok plan) :
    ∃ draft draft' : Draft, run (stage c) rewritten ⟨r, []⟩ = .ok draft ∧
      negotiateNegativePrompt c draft = .ok draft' ∧
      plan = ⟨r.parameters, draft'.request, draft'.normalizations⟩ := by
  rw [negotiateRequest_run] at ok
  simp only [Outcome.bind_ok] at ok
  obtain ⟨_, _, draft, staged, draft', negative, _, _, ok⟩ := ok
  cases ok
  exact ⟨draft, draft', staged, negative, rfl⟩

theorem negotiated_journal (ok : negotiateRequest r c = .ok plan) : Journal r c plan := by
  obtain ⟨draft, draft', staged, negative, rfl⟩ := negotiateRequest_stages ok
  have recorded := run_recorded staged
  have named := run_names staged
  have frame : draft.request = { r with parameters := draft.request.parameters } :=
    run_frame staged
  obtain rfl | ⟨present, gone, parameters, note, merge, added⟩ :=
    negotiateNegativePrompt_notes negative
  · refine ⟨recorded, fun note among => Or.inl (named note among), ?_⟩
    rintro (moved | moved)
    · exact absurd (by rw [frame]) moved
    · exact absurd (by rw [frame]) moved
  · refine ⟨?_, ?_, fun _ => ⟨note, by simp [added], merge⟩⟩
    · intro x
      show Recorded c x r.parameters draft'.request.parameters (about x draft'.normalizations)
      rw [parameters, added, about_append, about_merge merge, List.append_nil]
      exact recorded x
    · intro other among
      obtain earlier | rfl : other ∈ draft.normalizations ∨ other = note := by
        simpa [added] using among
      · exact Or.inl (named other earlier)
      · rw [frame] at present
        exact Or.inr ⟨merge, present, gone⟩

/-- Under strict compatibility the stages change no parameter but the action. -/
theorem run_strict (strict : isStrict draft = true)
    (ok : run (stage c) rewritten draft = .ok draft') : isStrict draft' = true ∧
      (draft'.parameters.action = draft.parameters.action ∨ draft'.parameters.action = .auto) ∧
      ∀ x : Parameter, x ≠ .action → x.Same draft.parameters draft'.parameters := by
  apply run_relates (R := fun s s' : Draft => isStrict s = true → isStrict s' = true ∧
    (s'.parameters.action = s.parameters.action ∨ s'.parameters.action = .auto) ∧
    ∀ x : Parameter, x ≠ .action → x.Same s.parameters s'.parameters) _ _ _ ok strict
  · exact fun s strict => ⟨strict, Or.inl rfl, fun x _ => (Parameter.same_equivalence x).refl _⟩
  · intro s t u first second strict
    obtain ⟨strict, firstAction, firstSame⟩ := first strict
    obtain ⟨strict, secondAction, secondSame⟩ := second strict
    refine ⟨strict, ?_, fun x other =>
      (Parameter.same_equivalence x).trans (firstSame x other) (secondSame x other)⟩
    obtain kept | automatic := secondAction
    · rw [kept]
      exact firstAction
    · exact Or.inr automatic
  · intro x staged s s' taken strict
    have effect := stage_effect staged taken
    have unseen : ∀ y, x ≠ y → Unseen y s s' := fun y other => effect_unseen effect other
    cases effect with
    | kept => exact ⟨strict, Or.inl rfl, fun x _ => (Parameter.same_equivalence x).refl _⟩
    | noted p reason own moved lenient =>
      obtain lenient | ⟨rfl, automatic⟩ := lenient
      · simp [strict] at lenient
      · exact ⟨strict, Or.inr automatic, fun y other => (unseen y other.symm).1⟩

theorem negotiated_strict (strict : r.policies.compatibility = .strict)
    (ok : negotiateRequest r c = .ok plan) :
    (plan.effectiveRequest.parameters.action = r.parameters.action ∨
        plan.effectiveRequest.parameters.action = .auto) ∧
      ∀ x : Parameter, x ≠ .action → x.Same r.parameters plan.effectiveRequest.parameters := by
  obtain ⟨draft, draft', staged, negative, rfl⟩ := negotiateRequest_stages ok
  have kept : draft'.request.parameters = draft.request.parameters := by
    rw [negotiateNegativePrompt_ok negative]
  obtain ⟨_, action, others⟩ := run_strict (by simp [isStrict, strict]) staged
  show (draft'.request.parameters.action = _ ∨ _) ∧ _
  rw [kept]
  exact ⟨action, others⟩

end

end ImagegenBridge.Negotiation
