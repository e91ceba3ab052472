import ImagegenBridge.Runtime.AbandonedLeaders
import ImagegenBridge.Runtime.MaterializeErrors

/-!
# What a successful response delivers

The materializer counts images and failures together and delivers one image for
each image the provider returned. A replayed response is one that was delivered.
-/

namespace ImagegenBridge.Materialize

open Outcome Transparency Idempotency

/-- The images and the failures have the negotiated indices, each once. -/
def Covers (n : Nat) (response : ImageResponse) : Prop :=
  (response.data.map GeneratedImage.index ++ response.failures.map ImageFailure.index).Perm
    (List.range n)

/-- Every output failed, and the request lets outputs fail. -/
def AllFailed (parameters : GenerationParameters) (response : ImageResponse) : Prop :=
  response.data = [] ∧ response.failures.map ImageFailure.index = List.range parameters.n ∧
    (parameters.failurePolicy = .bestEffort ∨ response.failures = [])

/-- The response without its images is within the configured size. -/
def WithinBudget (config : MaterializationConfig) (response : ImageResponse) : Prop :=
  ∃ bytes, responsePayloadBytes response = .ok bytes ∧ bytes ≤ config.maxResponseBytes

/-- Two responses with the same outputs: what delivery may change is the rest. -/
structure SameOutputs (a b : ImageResponse) : Prop where
  images : a.data.map GeneratedImage.index = b.data.map GeneratedImage.index
  failures : a.failures = b.failures
  count : a.effective.n = b.effective.n

variable {config : MaterializationConfig} {world : World}

theorem SameOutputs.covers {a b : ImageResponse} {n : Nat} (same : SameOutputs a b) :
    Covers n a ↔ Covers n b := by
  unfold Covers
  rw [same.images, same.failures]

theorem SameOutputs.empty {a b : ImageResponse} (same : SameOutputs a b) :
    a.data = [] ↔ b.data = [] := by
  rw [← List.map_eq_nil_iff (f := GeneratedImage.index), same.images, List.map_eq_nil_iff]

theorem validateOutputSet_ok {response : ImageResponse} {n : Nat} {policy : MultiImageFailurePolicy}
    (ok : validateOutputSet response n policy = .ok ()) :
    Covers n response ∧ (policy = .bestEffort ∨ response.failures = []) ∧
      (response.failures.map ImageFailure.index).IsChain (· < ·) := by
  unfold validateOutputSet at ok
  obtain ⟨_, lenient, ok⟩ := bind_ok.mp ok
  obtain ⟨_, _, ok⟩ := bind_ok.mp ok
  obtain ⟨_, sorted, ok⟩ := bind_ok.mp ok
  rw [failIf_ok] at lenient sorted ok
  rw [not_not] at sorted
  rw [not_or, not_not, not_not] at ok
  refine ⟨?_, ?_, of_decide_eq_true ok.2⟩
  · unfold Covers
    rw [← sorted]
    exact (List.mergeSort_perm ..).symm
  · by_cases best : policy = .bestEffort
    · exact Or.inl best
    · right
      by_contra some
      exact lenient ⟨best, some⟩

theorem validateOutputSet_allFailed {response : ImageResponse} {parameters : GenerationParameters}
    (byte : parameters.n < 256) (failed : AllFailed parameters response) :
    validateOutputSet response parameters.n parameters.failurePolicy = .ok () := by
  obtain ⟨none, every, lenient⟩ := failed
  have sorted : (List.range parameters.n).mergeSort = List.range parameters.n := by
    apply List.mergeSort_of_pairwise
    exact List.pairwise_le_range.imp fun le => decide_eq_true le
  have increases : increasing (List.range parameters.n) = true := by
    apply decide_eq_true
    exact List.isChain_iff_pairwise.mpr List.pairwise_lt_range
  have actual : saturatingAdd 0 parameters.n = parameters.n := by
    unfold saturatingAdd
    have large : 256 ≤ usizeMax := by decide
    omega
  have allowed : ¬(parameters.failurePolicy ≠ .bestEffort ∧ response.failures ≠ []) := by
    rintro ⟨strict, some⟩
    exact lenient.elim strict some
  unfold validateOutputSet
  rw [none, every]
  simp only [List.map_nil, List.nil_append, List.length_nil, List.length_range, actual, sorted,
    increases, failIf, if_neg allowed, ne_eq, not_true_eq_false, if_false, or_false]
  rfl

/-! ## The two halves of a materialization -/

theorem verify_index {format : OutputFormat} {image : GeneratedImage} {loaded : VerifiedImage}
    (ok : verify config world format image = .ok loaded) : loaded.index = image.index := by
  unfold verify at ok
  obtain ⟨⟨bytes, metadata⟩, _, ok⟩ := bind_ok.mp ok
  obtain ⟨_, _, ok⟩ := bind_ok.mp ok
  obtain ⟨_, _, ok⟩ := bind_ok.mp ok
  cases ok
  rfl

theorem checkAlpha_index {effective : ImageRequest} {transparency : Option TransparencyPlan}
    {image checked : VerifiedImage} {notes : List Normalization}
    (ok : checkAlpha world effective transparency image = .ok (checked, notes)) :
    checked.index = image.index := by
  cases transparency with
  | some plan =>
    obtain ⟨key, _, ok⟩ := bind_ok.mp ok
    obtain ⟨⟨bytes, metadata, alpha⟩, _, ok⟩ := bind_ok.mp ok
    cases ok
    rfl
  | none =>
    simp only [checkAlpha] at ok
    split at ok
    · obtain ⟨alpha, _, ok⟩ := bind_ok.mp ok
      cases ok
      rfl
    · cases ok
      rfl

/-- What a round of the verification loop leaves: the images so far, in order. -/
structure Loaded (response : ImageResponse) (before : List GeneratedImage) (s : Verified) : Prop where
  images : s.images.map VerifiedImage.index = before.map GeneratedImage.index
  failures : s.response.failures = response.failures
  effective : s.response.effective = response.effective

theorem verifyNext_loaded {effective : ImageRequest} {transparency : Option TransparencyPlan}
    {response : ImageResponse} {before : List GeneratedImage} {s s' : Verified}
    {image : GeneratedImage} (loaded : Loaded response before s)
    (ok : verifyNext config world effective transparency s image = .ok s') :
    Loaded response (before ++ [image]) s' := by
  unfold verifyNext at ok
  obtain ⟨verified, verifies, ok⟩ := bind_ok.mp ok
  obtain ⟨⟨checked, notes⟩, checks, ok⟩ := bind_ok.mp ok
  obtain ⟨_, _, ok⟩ := bind_ok.mp ok
  obtain ⟨_, _, ok⟩ := bind_ok.mp ok
  cases ok
  have index : checked.index = image.index := (checkAlpha_index checks).trans (verify_index verifies)
  constructor
  · simp [loaded.images, index]
  · exact loaded.failures
  · exact loaded.effective

theorem embed_index {original effective : ImageRequest} {response : ImageResponse}
    {image embedded : VerifiedImage}
    (ok : embed world original effective response image = .ok embedded) :
    embedded.index = image.index := by
  unfold embed at ok
  split at ok
  · obtain ⟨_, _, ok⟩ := bind_ok.mp ok
    obtain ⟨⟨_, _⟩, _, ok⟩ := bind_ok.mp ok
    cases ok
    rfl
  · cases ok
    rfl

theorem projectNext_index {original effective : ImageRequest} {response : ImageResponse}
    {before : List VerifiedImage} {s s' : Projected} {image : VerifiedImage}
    (projected : s.images.map GeneratedImage.index = before.map VerifiedImage.index)
    (ok : projectNext config world original effective response s image = .ok s') :
    s'.images.map GeneratedImage.index = (before ++ [image]).map VerifiedImage.index := by
  unfold projectNext at ok
  obtain ⟨embedded, embeds, ok⟩ := bind_ok.mp ok
  obtain ⟨generated, projects, ok⟩ := bind_ok.mp ok
  obtain ⟨_, _, ok⟩ := bind_ok.mp ok
  obtain ⟨_, _, ok⟩ := bind_ok.mp ok
  cases ok
  have index : generated.index = embedded.index := by
    unfold project at projects
    obtain ⟨payload, _, projects⟩ := bind_ok.mp projects
    cases projects
    rfl
  simp [projected, index, embed_index embeds]

theorem warnOnce_outputs (response : ImageResponse) (warning : String) :
    SameOutputs (warnOnce response warning) response := by
  unfold warnOnce
  split <;> exact ⟨rfl, rfl, rfl⟩

theorem reportSize_outputs {response reported : ImageResponse} {expected : ImageSize}
    {requested : Nat × Nat} {first : VerifiedImage} {rest : List VerifiedImage}
    (ok : reportSize response expected requested first rest = .ok reported) :
    SameOutputs reported response := by
  unfold reportSize at ok
  dsimp only at ok
  split at ok
  · obtain ⟨size, _, ok⟩ := bind_ok.mp ok
    cases ok
    exact ⟨rfl, rfl, rfl⟩
  · cases ok
    exact ⟨rfl, rfl, rfl⟩

theorem reconcileDimensions_outputs {response reconciled : ImageResponse}
    {verified : List VerifiedImage} {expected : ImageSize}
    (ok : reconcileDimensions response verified expected = .ok reconciled) :
    SameOutputs reconciled response := by
  unfold reconcileDimensions at ok
  split at ok
  · cases ok
    exact ⟨rfl, rfl, rfl⟩
  · cases ok
    exact ⟨rfl, rfl, rfl⟩
  · split at ok
    · cases ok
      exact ⟨rfl, rfl, rfl⟩
    · obtain ⟨reported, reports, ok⟩ := bind_ok.mp ok
      cases ok
      have first := warnOnce_outputs reported "provider_output_dimensions_differed"
      have second := reportSize_outputs reports
      exact ⟨first.images.trans second.images, first.failures.trans second.failures,
        first.count.trans second.count⟩

/-- A materialized response has the outputs the provider returned. -/
theorem materialize_outputs {job : Job} {response : ImageResponse}
    (ok : materialize config world job = .ok response) : SameOutputs response job.response := by
  obtain ⟨verified, verifies, ok⟩ := bind_ok.mp ok
  obtain ⟨_, _, verifies⟩ := bind_ok.mp verifies
  obtain ⟨_, _, verifies⟩ := bind_ok.mp verifies
  obtain ⟨_, _, verifies⟩ := bind_ok.mp verifies
  have loaded : Loaded job.response job.response.data verified := by
    apply foldlM_relates (R := Loaded job.response) ⟨rfl, rfl, rfl⟩ _ verifies
    intro before s image s' loaded next
    exact verifyNext_loaded loaded next
  obtain ⟨reconciled, reconciles, ok⟩ := bind_ok.mp ok
  obtain ⟨projected, projects, ok⟩ := bind_ok.mp ok
  cases ok
  have same := reconcileDimensions_outputs reconciles
  have images : projected.images.map GeneratedImage.index =
      verified.images.map VerifiedImage.index := by
    apply foldlM_relates (R := fun before (s : Projected) =>
      s.images.map GeneratedImage.index = before.map VerifiedImage.index) rfl _ projects
    intro before s image s' projected next
    exact projectNext_index projected next
  exact ⟨images.trans loaded.images, same.failures.trans loaded.failures,
    same.count.trans (by rw [loaded.effective])⟩

theorem materialize_covers {job : Job} {response : ImageResponse}
    (ok : materialize config world job = .ok response) :
    Covers job.effective.parameters.n response ∧
      (response.data = [] → AllFailed job.effective.parameters job.response) := by
  have same := materialize_outputs ok
  obtain ⟨verified, verifies, _⟩ := bind_ok.mp ok
  obtain ⟨_, validated, _⟩ := bind_ok.mp verifies
  obtain ⟨covers, lenient, increases⟩ := validateOutputSet_ok validated
  refine ⟨same.covers.mpr covers, ?_⟩
  intro none
  have none := same.empty.mp none
  refine ⟨none, ?_, lenient⟩
  unfold Covers at covers
  rw [none, List.map_nil, List.nil_append] at covers
  have sorted := List.isChain_iff_pairwise.mp increases
  apply covers.eq_of_pairwise _ sorted List.pairwise_lt_range
  intro a b _ _ less more
  exact absurd less (Nat.lt_asymm more)

theorem materialize_fits {job : Job} {response : ImageResponse}
    (ok : materialize config world job = .ok response) : WithinBudget config job.response := by
  obtain ⟨verified, verifies, _⟩ := bind_ok.mp ok
  obtain ⟨_, _, verifies⟩ := bind_ok.mp verifies
  obtain ⟨bytes, counted, verifies⟩ := bind_ok.mp verifies
  obtain ⟨_, within, _⟩ := bind_ok.mp verifies
  unfold checkResponseBudget at within
  rw [failIf_ok] at within
  exact ⟨bytes, counted, Nat.le_of_not_lt within⟩

/-- With nothing to verify or deliver, only the size of the response is checked. -/
theorem materialize_allFailed {job : Job} (byte : job.effective.parameters.n < 256)
    (failed : AllFailed job.effective.parameters job.response)
    (fits : WithinBudget config job.response) :
    ∃ response, materialize config world job = .ok response ∧ response.data = [] := by
  obtain ⟨bytes, counted, within⟩ := fits
  have budget : checkResponseBudget config bytes = .ok () := by
    unfold checkResponseBudget
    rw [failIf_ok]
    omega
  have verifies : verifyAll config world job =
      .ok { response := { job.response with data := [] }, aggregateBytes := bytes, images := [] } := by
    unfold verifyAll
    rw [validateOutputSet_allFailed byte failed, counted, failed.1]
    simp only [bind, Except.bind, budget, List.foldlM_nil]
    rfl
  refine ⟨{ job.response with data := [] }, ?_, rfl⟩
  unfold materialize
  rw [verifies]
  unfold projectAll reconcileDimensions
  cases job.effective.parameters.size.dimensions <;> rfl

/-- Sidecars are attached to the images there are. -/
theorem attachMetadata_outputs {original effective : ImageRequest} {response attached : ImageResponse}
    (ok : attachMetadata config world original effective response = .ok attached) :
    SameOutputs attached response := by
  unfold attachMetadata at ok
  split at ok
  · cases ok
    exact ⟨rfl, rfl, rfl⟩
  · obtain ⟨_, _, ok⟩ := bind_ok.mp ok
    obtain ⟨data, attaches, ok⟩ := bind_ok.mp ok
    cases ok
    refine ⟨?_, rfl, rfl⟩
    apply foldlM_relates (R := fun before (done : List GeneratedImage) =>
      done.map GeneratedImage.index = before.map GeneratedImage.index) rfl _ attaches
    intro before done image done' same next
    unfold attachNext at next
    split at next
    · split at next
      · cases next
      · obtain ⟨name, _, next⟩ := bind_ok.mp next
        cases next
        simp [same]
    · cases next

end ImagegenBridge.Materialize

namespace ImagegenBridge.Orchestrator

open Idempotency IdempotencyState Materialize Program Snapshot

/-- A response with the negotiated outputs, and with an image when `imaged` says so. -/
structure Delivers (imaged : Prop) (response : ImageResponse) : Prop where
  covers : Covers response.effective.n response
  image : imaged → response.data ≠ []

theorem Delivers.same {imaged : Prop} {a b : ImageResponse} (same : SameOutputs a b)
    (delivers : Delivers imaged b) : Delivers imaged a where
  covers := by
    rw [same.covers, same.count]
    exact delivers.covers
  image := fun required empty => delivers.image required (same.empty.mp empty)

/-- The provider's result does not fail every output. -/
def SomeSucceeds (request : ImageRequest) (finish : ProviderEnd ImageResponse) : Prop :=
  ∀ response, finish.returned = some response → ¬AllFailed request.parameters response

variable {Fingerprint : Type}

/-- What a call stores is delivered, as long as what it replays or waits for is, and
as its providers do not fail every output. -/
abbrev deliveryContract (Fingerprint : Type) (imaged : Prop) : Contract (callMonitor Fingerprint) where
  Allow := fun _ op => match op with
    | .complete _ response => Delivers imaged response
    | _ => True
  Expect := fun _ op answer => match op, answer with
    | .begin .., .ok (.cached response) => Delivers imaged response
    | .wait _, .finished (.ok response) => Delivers imaged response
    | .execute _ _ request, finish => imaged → SomeSucceeds request finish
    | _, _ => True

section Calls

variable {imaged : Prop} {s : Phase Fingerprint} {β : Type} {rt : Runtime} {request : ImageRequest}
  {requestId : String}

/-- An operation after which the call may go on whatever it is answered. -/
theorem tries_any {op : Op Fingerprint} {f : op.Ans → Task Fingerprint β}
    {ok : β → Phase Fingerprint → Prop} {failed : BridgeError → Phase Fingerprint → Prop}
    (allowed : (deliveryContract Fingerprint imaged).Allow s op)
    (rest : ∀ answer t, (deliveryContract Fingerprint imaged).Expect s op answer →
      Tries (deliveryContract Fingerprint imaged) (f answer) t ok failed) :
    Tries (deliveryContract Fingerprint imaged) (call op >>= f) s ok failed := by
  rw [tries_bind, tries_call]
  refine ⟨allowed, ?_⟩
  intro answer expected
  exact rest answer _ expected

/-- A check whose failure ends the call. -/
theorem tries_checked {α : Type} {outcome : Outcome α} {f : α → Task Fingerprint β}
    {ok : β → Phase Fingerprint → Prop}
    (rest : ∀ a, outcome = .ok a → Tries (deliveryContract Fingerprint imaged) (f a) s ok
      fun _ _ => True) :
    Tries (deliveryContract Fingerprint imaged) (require outcome >>= f) s ok fun _ _ => True := by
  rw [tries_bind, tries_require]
  exact ⟨rest, fun _ _ => trivial⟩

theorem tries_result {outcome : Outcome β} {ok : β → Phase Fingerprint → Prop}
    (held : ∀ b, outcome = .ok b → ok b s) :
    Tries (deliveryContract Fingerprint imaged) (require outcome) s ok fun _ _ => True := by
  rw [tries_require]
  exact ⟨held, fun _ _ => trivial⟩

theorem executeRouteAdmitted_delivers (index : Nat) (route : ProviderRoute) (name : String)
    (queueMs : Nat) :
    Tries (deliveryContract Fingerprint imaged)
      (executeRouteAdmitted rt request requestId index route name queueMs) s
      (fun execution _ => Delivers imaged execution.response) fun _ _ => True := by
  unfold executeRouteAdmitted
  apply tries_any trivial
  intro discovered t _
  apply tries_checked
  intro prepared _
  apply tries_any trivial
  intro finish t succeeds
  apply tries_any trivial
  intro providerMs t _
  apply tries_checked
  intro returned ok
  have value := awaitProviderExecution_ok.mp (fromProvider_ok ok)
  apply tries_checked
  intro _ _
  apply tries_any trivial
  intro world t _
  apply tries_checked
  intro response delivered
  apply tries_any trivial
  intro artifactMs t _
  rw [tries_pure]
  cases world with
  | elapsed => cases delivered
  | interrupted interruption => cases interruption <;> cases delivered
  | finished world =>
    obtain ⟨covers, empty⟩ := materialize_covers delivered
    have same := materialize_outputs delivered
    have count : response.effective.n = prepared.effective.parameters.n := by
      rw [same.count]
      simp only [routeJob, describeResponse]
      split <;> rfl
    constructor
    · show Covers response.effective.n response
      rw [count]
      exact covers
    · intro required none
      exact succeeds required returned value (empty none)

theorem executeRoute_delivers (index : Nat) (route : ProviderRoute) :
    Tries (deliveryContract Fingerprint imaged) (executeRoute rt request requestId index route) s
      (fun execution _ => Delivers imaged execution.response) fun _ _ => True := by
  unfold executeRoute
  apply tries_checked
  intro name _
  apply tries_checked
  intro _ _
  apply tries_any trivial
  intro permit t _
  apply tries_checked
  intro _ _
  apply tries_any trivial
  intro admitted t _
  apply tries_checked
  intro _ _
  apply tries_any trivial
  intro queueMs t _
  rw [tries_attempt]
  apply (executeRouteAdmitted_delivers index route name queueMs).mono
  · intro execution t delivers
    apply tries_any trivial
    intro _ t _
    apply tries_result
    intro execution' same
    cases same
    exact delivers
  · intro e t _
    apply tries_any trivial
    intro _ t _
    apply tries_result
    intro _ impossible
    cases impossible

/-- The induction is on the routes left. -/
theorem tryRoutes_delivers {primaryProvider : String} {globalQueueMs : Nat}
    (rest : List ProviderRoute) : ∀ (index : Nat) (attempts : List ProviderAttempt)
      (t : Phase Fingerprint), Tries (deliveryContract Fingerprint imaged)
        (tryRoutes rt request requestId primaryProvider globalQueueMs index rest attempts) t
        (fun response _ => Delivers imaged response) fun _ _ => True := by
  induction rest with
  | nil =>
    intro index attempts t
    rw [tryRoutes, tries_throw]
    trivial
  | cons route rest ih =>
    intro index attempts t
    rw [tryRoutes]
    apply tries_any trivial
    intro _ t _
    rw [tries_attempt]
    apply (executeRoute_delivers index route).mono
    · intro execution t delivers
      apply tries_any trivial
      intro durationMs t _
      apply tries_any trivial
      intro totalMs t _
      apply tries_any trivial
      intro world t _
      apply tries_result
      intro response attached
      have same := attachMetadata_outputs attached
      apply delivers.same
      exact ⟨same.images, same.failures, same.count⟩
    · intro e t _
      apply tries_any trivial
      intro durationMs t _
      dsimp only
      split
      · rw [tries_throw]
        trivial
      · exact ih _ _ t

theorem executeLeader_delivers :
    Tries (deliveryContract Fingerprint imaged) (executeLeader rt request requestId) s
      (fun response _ => Delivers imaged response) fun _ _ => True := by
  unfold executeLeader
  apply tries_any trivial
  intro admitted t _
  apply tries_checked
  intro _ _
  apply tries_any trivial
  intro globalQueueMs t _
  apply tries_checked
  intro _ _
  exact tryRoutes_delivers _ 0 [] t

theorem lead_delivers (token : Option (IdempotencyToken Fingerprint)) :
    Tries (deliveryContract Fingerprint imaged) (lead rt request requestId token) s
      (fun response _ => Delivers imaged response) fun _ _ => True := by
  unfold lead
  rw [tries_attempt]
  apply executeLeader_delivers.mono
  · intro response t delivers
    cases token with
    | none =>
      apply tries_result
      intro response' same
      cases same
      exact delivers
    | some token =>
      apply tries_any delivers
      intro _ t _
      apply tries_result
      intro response' same
      cases same
      exact delivers
  · intro e t _
    cases token with
    | none =>
      apply tries_result
      intro _ impossible
      cases impossible
    | some token =>
      apply tries_any trivial
      intro _ t _
      apply tries_result
      intro _ impossible
      cases impossible

theorem coordinate_delivers {context : ExecutionContext} :
    Tries (deliveryContract Fingerprint imaged) (coordinate rt request context requestId) s
      (fun response _ => Delivers imaged response) fun _ _ => True := by
  unfold coordinate
  split
  · exact lead_delivers none
  · apply tries_any trivial
    intro began t known
    apply tries_checked
    intro action answered
    subst answered
    cases action with
    | leader token => exact lead_delivers (some token)
    | cached response =>
      rw [tries_pure]
      exact known
    | wait receiver =>
      apply tries_any trivial
      intro waited t known
      apply tries_result
      intro response ok
      cases waited with
      | elapsed => cases ok
      | interrupted interruption => cases interruption <;> cases ok
      | finished result =>
        cases ok
        exact known

theorem executeWith_delivers {context : ExecutionContext} :
    Tries (deliveryContract Fingerprint imaged) (executeWith rt request context) s
      (fun response _ => Delivers imaged response) fun _ _ => True := by
  unfold executeWith
  apply tries_any trivial
  intro early t _
  apply tries_checked
  intro _ _
  apply tries_any trivial
  intro entered t _
  apply tries_checked
  intro _ _
  apply tries_checked
  intro _ _
  have rest : ∀ requestId t, Tries (deliveryContract Fingerprint imaged) (do
      let overflows ← call (.deadlineOverflows (request.timeoutMs.getD rt.defaultTimeoutMs))
      require (Outcome.failIf (overflows = true) (configurationError "request deadline overflowed"))
      coordinate rt request context requestId) t
      (fun response _ => Delivers imaged response) fun _ _ => True := by
    intro requestId t
    apply tries_any trivial
    intro overflows t _
    apply tries_checked
    intro _ _
    exact coordinate_delivers
  split
  · apply tries_any trivial
    intro requestId t _
    exact rest requestId t
  · apply tries_checked
    intro requestId _
    exact rest requestId t

end Calls

/-! ## Every returned response -/

variable [DecidableEq Fingerprint] {imaged : Prop} {rt : Runtime} {codec : Codec Fingerprint}
  {config : IdempotencyConfig} {v v' : View Fingerprint} {event : PoolEvent (calls Fingerprint)}

/-- A replayed response is one a channel announced. -/
theorem begin_cached {c : IdempotencyState Fingerprint} {now : Nat} {scope key : String}
    {request : ImageRequest} {response : ImageResponse}
    (cached : (begin codec config now scope key request c).1 = .ok (.cached response)) :
    ∃ g, c.channels g = .completed response := by
  unfold begin at cached
  split at cached
  · cases cached
  · cases cached
  · unfold beginLocked at cached
    dsimp only at cached
    split at cached
    · rename_i entry found
      split at cached
      · cases cached
      · unfold answer at cached
        split at cached
        · rename_i announced
          cases cached
          obtain same | expired := enter_channels c config now entry.sender
          · exact ⟨entry.sender, same.symm.trans announced⟩
          · rw [announced] at expired
            cases expired
        · cases cached
        · cases cached
        · cases cached
    · split at cached <;> cases cached

/-- Every announced response was delivered. -/
def Replays (imaged : Prop) (v : View Fingerprint) : Prop :=
  ∀ g response, v.shared.coordinator.channels g = .completed response → Delivers imaged response

/-- No provider result fails every output. -/
def Succeeding (_ : View Fingerprint) : PoolEvent (calls Fingerprint) → Prop
  | .exchanged _ ⟨.execute _ _ request, finish⟩ => SomeSucceeds request finish
  | _ => True

theorem succeeding_justifies :
    Pool.Justifies (fun v event => Replays imaged v ∧ (imaged → Succeeding v event))
      (Unhurried codec config) (deliveryContract Fingerprint imaged) := by
  intro v id phase op answer after live performs ⟨replays, succeeding⟩
  cases op with
  | begin scope key request =>
    obtain ⟨now, _, answered, _⟩ := performs
    cases answer with
    | error e => trivial
    | ok action =>
      cases action with
      | leader token => trivial
      | wait receiver => trivial
      | cached response =>
        obtain ⟨g, announced⟩ := begin_cached answered.symm
        exact replays g response announced
  | wait receiver =>
    cases answer with
    | elapsed => trivial
    | interrupted interruption => trivial
    | finished result =>
      cases result with
      | error e => trivial
      | ok response =>
        have observes : Observes v.shared.coordinator receiver (.finished (.ok response)) :=
          performs.1
        simp only [Observes] at observes
        split at observes
        · rename_i announced completed
          cases observes
          exact replays receiver _ completed
        · cases observes
        · cases observes
        · obtain ⟨e, impossible, _⟩ := observes
          cases impossible
  | execute index name request => exact succeeding
  | _ => trivial

omit [DecidableEq Fingerprint] in
/-- A settlement announces what its call delivered, or nothing new. -/
theorem announces_replays {before after : IdempotencyState Fingerprint}
    {token : IdempotencyToken Fingerprint} {report : Report}
    (announces : Announces before token report after)
    (delivered : ∀ response, report = .completed response → Delivers imaged response)
    (replays : ∀ g response, before.channels g = .completed response → Delivers imaged response) :
    ∀ g response, after.channels g = .completed response → Delivers imaged response := by
  intro g response announced
  obtain ⟨_, ⟨_, same⟩ | ⟨entry, _, others, leaves⟩⟩ := announces
  · rw [same] at announced
    exact replays g response announced
  · by_cases own : g = entry.sender
    · subst own
      rw [announced] at leaves
      cases report with
      | completed reported =>
        obtain same | impossible := leaves
        · cases same
          exact delivered _ rfl
        · cases impossible
      | failed e =>
        have left : EntryOutcome.completed response =
          if e.outcomeUnknown then .unknown (unknownError e) else .failed e := leaves
        split at left <;> cases left
    · rw [others g own] at announced
      exact replays g response announced

theorem step_replays (replays : Replays imaged v)
    (step : Snapshot.Step (deliveryContract Fingerprint imaged) (Unhurried codec config) Phase.start
      v event v') : Replays imaged v' := by
  cases step with
  | spawn => exact replays
  | drop live allowed abandons =>
    intro g response announced
    apply replays g response
    rw [← (abandons_keeps abandons).1]
    exact announced
  | @exchange id phase op answer shared live allowed expected performs =>
    cases op with
    | begin scope key request =>
      obtain ⟨now, _, _, rfl⟩ := performs
      intro g response announced
      obtain ⟨channels, _, _⟩ := begin_channels codec config v.shared.coordinator now scope key
        request
      have announced : (begin codec config now scope key request
          v.shared.coordinator).2.channels g = .completed response := announced
      obtain same | expired | opened := channels g
      · rw [same] at announced
        exact replays g response announced
      · rw [expired] at announced
        cases announced
      · rw [opened] at announced
        cases announced
    | complete token response =>
      obtain ⟨now, rfl⟩ := performs
      apply announces_replays (complete_announces codec config v.shared.coordinator now token response)
        _ replays
      intro completed same
      cases same
      exact allowed
    | fail token e =>
      obtain ⟨now, rfl⟩ := performs
      apply announces_replays (fail_announces config v.shared.coordinator now token e) _ replays
      intro completed impossible
      cases impossible
    | execute index name request =>
      cases performs
      exact replays
    | wait receiver =>
      obtain ⟨_, rfl⟩ := performs
      exact replays
    | _ =>
      cases performs
      exact replays

/-- A call of the pool has returned a response. -/
def Returned (pool : Calls Fingerprint) (response : ImageResponse) : Prop :=
  ∃ id phase, pool.view.phase id = some phase ∧ pool.code id = .done (.ok response)

theorem run_delivers {pool : Calls Fingerprint} {response : ImageResponse}
    (run : Pool.Run (AnyCall rt) (Unhurried codec config) Phase.start Shared.initial
      (fun v event => imaged → Succeeding v event) pool) (returned : Returned pool response) :
    Delivers imaged response := by
  have start_kept : ∀ p : Program (calls Fingerprint) (Outcome ImageResponse), AnyCall rt p →
      p.Keeps (deliveryContract Fingerprint imaged) Phase.start fun result _ =>
        ∀ response, result = .ok response → Delivers imaged response := by
    rintro p ⟨request, context, rfl⟩
    apply Keeps.mono executeWith_delivers
    intro result t held response same
    subst same
    exact held
  have initial : Replays imaged (Snapshot.empty Shared.initial : View Fingerprint) := by
    intro g response impossible
    cases impossible
  have preserved : ∀ (v : View Fingerprint) event v', Replays imaged v →
      Snapshot.Step (deliveryContract Fingerprint imaged) (Unhurried codec config) Phase.start v event
        v' → (imaged → Succeeding v event) → Replays imaged v' := by
    intro v event v' replays step _
    exact step_replays replays step
  obtain ⟨_, kept⟩ := Pool.run_invariant_justifies start_kept succeeding_justifies initial preserved run
  obtain ⟨id, phase, live, ended⟩ := returned
  have own := kept id phase live
  rw [ended] at own
  exact own response rfl

/-- A materialized response covers the negotiated indices and has an image, unless every
output failed and the response fits. In every run each returned response covers its
indices, replayed ones included, and has an image as long as no provider result fails
every output. -/
theorem delivered_outputs :
    (∀ (config : MaterializationConfig) (world : World) (job : Job),
      job.effective.parameters.n < 2 ^ 8 →
      ((∀ response, materialize config world job = .ok response →
          Covers job.effective.parameters.n response ∧ response.data ≠ []) ↔
        ¬(AllFailed job.effective.parameters job.response ∧ WithinBudget config job.response))) ∧
    (∀ (rt : Runtime) (codec : Codec Fingerprint) (config : IdempotencyConfig)
      (pool : Calls Fingerprint) (response : ImageResponse), CallRun rt codec config pool →
        Returned pool response → Covers response.effective.n response) ∧
    ∀ (rt : Runtime) (codec : Codec Fingerprint) (config : IdempotencyConfig)
      (pool : Calls Fingerprint) (response : ImageResponse),
      Pool.Run (AnyCall rt) (Unhurried codec config) Phase.start Shared.initial Succeeding pool →
        Returned pool response → response.data ≠ [] := by
  refine ⟨?_, ?_, ?_⟩
  · intro config world job byte
    constructor
    · rintro delivers ⟨failed, fits⟩
      have empty : ∃ response, materialize config world job = .ok response ∧ response.data = [] :=
        materialize_allFailed byte failed fits
      obtain ⟨response, ok, none⟩ := empty
      exact (delivers response ok).2 none
    · intro served response ok
      obtain ⟨covers, empty⟩ := materialize_covers ok
      refine ⟨covers, ?_⟩
      intro none
      obtain ⟨bytes, counted, within⟩ := materialize_fits ok
      exact served ⟨empty none, bytes, counted, within⟩
  · intro rt codec config pool response run returned
    have relaxed : Pool.Run (AnyCall rt) (Unhurried codec config) Phase.start Shared.initial
        (fun v event => False → Succeeding v event) pool :=
      Pool.run_mono (fun _ _ _ impossible => impossible.elim) run
    exact (run_delivers relaxed returned).covers
  · intro rt codec config pool response run returned
    have every : Pool.Run (AnyCall rt) (Unhurried codec config) Phase.start Shared.initial
        (fun v event => True → Succeeding v event) pool :=
      Pool.run_mono (fun _ _ met _ => met) run
    exact (run_delivers every returned).image trivial

def bestEffort : ImageRequest := { lighthouse with parameters.failurePolicy := .bestEffort }

/-- A provider that fails the one output it was asked for. -/
def emptyHanded : ImageResponse :=
  { plainResponse with model := "test-image", failures := [⟨0, .new .upstream "no image", 1⟩] }

def emptyHandedRun : List (Exchange (calls Unit)) × Outcome ImageResponse :=
  (executeWith plainRuntime bestEffort {}).run.drive (serves emptyHanded)

theorem emptyHandedRun_succeeds :
    (emptyHandedRun.2.toOption.any fun response => response.data.isEmpty) = true := by
  decide +kernel

/-- The runtime returns a success without an image. -/
theorem failed_outputs_succeed : ∃ (rt : Runtime) (request : ImageRequest)
    (trace : List (Exchange (calls Unit))) (response : ImageResponse),
    Follows (executeWith rt request {}).run trace (.done (.ok response)) ∧ response.data = [] := by
  have follows := drive_follows (serves emptyHanded) (executeWith plainRuntime bestEffort {}).run
  have ended : emptyHandedRun.2 = ((executeWith plainRuntime bestEffort {}).run.drive
    (serves emptyHanded)).2 := rfl
  rw [← ended] at follows
  obtain ⟨response, found, none⟩ := (Option.any_eq_true ..).mp emptyHandedRun_succeeds
  have served : emptyHandedRun.2 = .ok response := by
    cases result : emptyHandedRun.2 with
    | error e =>
      rw [result] at found
      cases found
    | ok value =>
      rw [result] at found
      cases found
      rfl
  rw [served] at follows
  exact ⟨plainRuntime, bestEffort, _, response, follows, List.isEmpty_iff.mp none⟩

end ImagegenBridge.Orchestrator
