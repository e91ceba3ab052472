import ImagegenBridge.Core.NegotiationValidity
import ImagegenBridge.Runtime.DeliveredOutputs
import ImagegenBridge.Runtime.PaidCalls

/-!
# Whose answer a call gets

Calls share one coordinator, and a replayed or awaited response was produced for another call.
It still is what the call's own request asked for, as long as no two requests have one
fingerprint.
-/

namespace ImagegenBridge.Materialize

open Outcome Transparency Idempotency

/-- The payload a response format asks for. -/
def carries : ResponseFormat → ImagePayload → Bool
  | .b64Json, .b64Json _ | .url, .url _ | .artifact, .artifact .. | .metadata, .metadata => true
  | _, _ => false

def Carried (format : ResponseFormat) (images : List GeneratedImage) : Prop :=
  ∀ image ∈ images, carries format image.payload = true

variable {config : MaterializationConfig} {world : World}

theorem Carried.nil {format : ResponseFormat} : Carried format [] := List.forall_mem_nil _

theorem Carried.snoc {format : ResponseFormat} {images : List GeneratedImage} {image : GeneratedImage}
    (carried : Carried format images) (last : carries format image.payload = true) :
    Carried format (images ++ [image]) :=
  List.forall_mem_append.mpr ⟨carried, List.forall_mem_singleton.mpr last⟩

theorem publish_carries {image : VerifiedImage} {output : OutputOptions} {payload : ImagePayload}
    (stored : output.responseFormat = .artifact ∨ output.responseFormat = .url)
    (ok : publish config world image output = .ok payload) :
    carries output.responseFormat payload = true := by
  unfold publish at ok
  obtain ⟨_, _, ok⟩ := bind_ok.mp ok
  obtain ⟨_, _, ok⟩ := bind_ok.mp ok
  obtain ⟨artifact, _, ok⟩ := bind_ok.mp ok
  obtain format | format := stored
  · rw [if_pos format] at ok
    cases ok
    rw [format]
    rfl
  · rw [format, if_neg (by decide)] at ok
    split at ok
    · cases ok
      rw [format]
      rfl
    · cases ok

theorem deliver_carries {image : VerifiedImage} {output : OutputOptions} {payload : ImagePayload}
    (ok : deliver config world image output = .ok payload) :
    carries output.responseFormat payload = true := by
  unfold deliver at ok
  split at ok
  · rename_i format
    cases ok
    rw [format]
    rfl
  · rename_i format
    cases ok
    rw [format]
    rfl
  · rename_i format
    exact publish_carries (.inl format) ok
  · rename_i format
    exact publish_carries (.inr format) ok

theorem projectNext_carries {original effective : ImageRequest} {response : ImageResponse}
    {s s' : Projected} {image : VerifiedImage}
    (carried : Carried effective.output.responseFormat s.images)
    (ok : projectNext config world original effective response s image = .ok s') :
    Carried effective.output.responseFormat s'.images := by
  unfold projectNext at ok
  obtain ⟨embedded, _, ok⟩ := bind_ok.mp ok
  obtain ⟨generated, projects, ok⟩ := bind_ok.mp ok
  obtain ⟨_, _, ok⟩ := bind_ok.mp ok
  obtain ⟨_, _, ok⟩ := bind_ok.mp ok
  cases ok
  obtain ⟨payload, delivers, projects⟩ := bind_ok.mp projects
  cases projects
  exact carried.snoc (deliver_carries delivers)

theorem verifyNext_requested {effective : ImageRequest} {transparency : Option TransparencyPlan}
    {s s' : Verified} {image : GeneratedImage}
    (ok : verifyNext config world effective transparency s image = .ok s') :
    s'.response.requested = s.response.requested := by
  unfold verifyNext at ok
  obtain ⟨verified, _, ok⟩ := bind_ok.mp ok
  obtain ⟨⟨checked, notes⟩, _, ok⟩ := bind_ok.mp ok
  obtain ⟨_, _, ok⟩ := bind_ok.mp ok
  obtain ⟨_, _, ok⟩ := bind_ok.mp ok
  cases ok
  rfl

theorem reportSize_requested {response reported : ImageResponse} {expected : ImageSize}
    {requested : Nat × Nat} {first : VerifiedImage} {rest : List VerifiedImage}
    (ok : reportSize response expected requested first rest = .ok reported) :
    reported.requested = response.requested := by
  unfold reportSize at ok
  dsimp only at ok
  split at ok
  · obtain ⟨size, _, ok⟩ := bind_ok.mp ok
    cases ok
    rfl
  · cases ok
    rfl

theorem reconcileDimensions_requested {response reconciled : ImageResponse}
    {verified : List VerifiedImage} {expected : ImageSize}
    (ok : reconcileDimensions response verified expected = .ok reconciled) :
    reconciled.requested = response.requested := by
  unfold reconcileDimensions at ok
  split at ok
  · cases ok
    rfl
  · cases ok
    rfl
  · split at ok
    · cases ok
      rfl
    · obtain ⟨reported, reports, ok⟩ := bind_ok.mp ok
      cases ok
      have same := reportSize_requested reports
      unfold warnOnce
      split <;> exact same

/-- Every delivered image is in the format of the output options, and the parameters asked for
are the ones the provider's answer was described with. -/
theorem materialize_answers {job : Job} {response : ImageResponse}
    (ok : materialize config world job = .ok response) :
    response.requested = job.response.requested ∧
      Carried job.effective.output.responseFormat response.data := by
  obtain ⟨verified, verifies, ok⟩ := bind_ok.mp ok
  obtain ⟨_, _, verifies⟩ := bind_ok.mp verifies
  obtain ⟨_, _, verifies⟩ := bind_ok.mp verifies
  obtain ⟨_, _, verifies⟩ := bind_ok.mp verifies
  have requested : verified.response.requested = job.response.requested := by
    apply foldlM_relates (R := fun _ (s : Verified) =>
      s.response.requested = job.response.requested) rfl _ verifies
    intro before s image s' same next
    exact (verifyNext_requested next).trans same
  obtain ⟨reconciled, reconciles, ok⟩ := bind_ok.mp ok
  obtain ⟨projected, projects, ok⟩ := bind_ok.mp ok
  cases ok
  refine ⟨(reconcileDimensions_requested reconciles).trans requested, ?_⟩
  apply foldlM_relates (R := fun _ (s : Projected) =>
    Carried job.effective.output.responseFormat s.images) .nil _ projects
  intro before s image s' carried next
  exact projectNext_carries carried next

/-- A sidecar leaves the payloads as they are. -/
theorem attachMetadata_answers {original effective : ImageRequest} {response attached : ImageResponse}
    {format : ResponseFormat}
    (ok : attachMetadata config world original effective response = .ok attached)
    (carried : Carried format response.data) :
    attached.requested = response.requested ∧ Carried format attached.data := by
  unfold attachMetadata at ok
  split at ok
  · cases ok
    exact ⟨rfl, carried⟩
  · obtain ⟨_, _, ok⟩ := bind_ok.mp ok
    obtain ⟨data, attaches, ok⟩ := bind_ok.mp ok
    cases ok
    refine ⟨rfl, ?_⟩
    have payloads : data.map GeneratedImage.payload = response.data.map GeneratedImage.payload := by
      apply foldlM_relates (R := fun before (done : List GeneratedImage) =>
        done.map GeneratedImage.payload = before.map GeneratedImage.payload) rfl _ attaches
      intro before done image done' same next
      unfold attachNext at next
      split at next
      · split at next
        · cases next
        · obtain ⟨name, _, next⟩ := bind_ok.mp next
          cases next
          simp [same]
      · cases next
    intro image member
    have among := List.mem_map_of_mem (f := GeneratedImage.payload) member
    rw [payloads] at among
    obtain ⟨other, present, same⟩ := List.mem_map.mp among
    rw [← same]
    exact carried other present

end ImagegenBridge.Materialize

namespace ImagegenBridge.Idempotency

open IdempotencyState

variable {Fingerprint : Type} {c c' t : IdempotencyState Fingerprint} {config : IdempotencyConfig}
  {now : Nat}

/-- Every entry of the second state has the channel and the fingerprint of one of the first. -/
def Descends (c c' : IdempotencyState Fingerprint) : Prop :=
  ∀ key entry, c'.entries.lookup key = some entry → ∃ before, c.entries.lookup key = some before ∧
    before.sender = entry.sender ∧ before.fingerprint = entry.fingerprint

theorem Within.descends (within : Within c c') : Descends c c' :=
  fun key entry there => ⟨entry, within key entry there, rfl, rfl⟩

theorem Descends.rewritten (within : Within c t) {key : RecordKey} {old new : Entry Fingerprint}
    (found : c.entries.lookup key = some old) (entries : c'.entries = t.entries.insert key new)
    (sender : old.sender = new.sender) (fingerprint : old.fingerprint = new.fingerprint) :
    Descends c c' := by
  intro k e there
  rw [entries] at there
  obtain ⟨rfl, rfl⟩ | ⟨_, before⟩ := AssocTotals.lookup_insert_cases there
  · exact ⟨old, found, sender, fingerprint⟩
  · exact ⟨e, within k e before, rfl, rfl⟩

variable [DecidableEq Fingerprint] {codec : Codec Fingerprint} {token : IdempotencyToken Fingerprint}

theorem complete_descends (response : ImageResponse) :
    Descends c (complete codec config now token response c) := by
  rcases complete_cases (P := Within c) token (fun _ victim _ held => held.remove victim) now response
      (fun _ _ before => before) with ⟨_, same⟩ | ⟨found, reserved, matched, kept, _, outcome⟩
  · rw [same]
    exact Within.descends fun _ _ before => before
  · obtain unreplayable | ⟨_, recorded⟩ := outcome
    · rw [unreplayable]
      exact Descends.rewritten kept matched.1 rfl rfl rfl
    · rw [recorded]
      exact Descends.rewritten kept matched.1 rfl rfl rfl

theorem fail_descends (e : BridgeError) : Descends c (fail config now token e c) := by
  obtain ⟨_, same⟩ | ⟨found, matched, ⟨_, kept⟩ | ⟨_, freed⟩⟩ := fail_cases now token e
  · rw [same]
    exact Within.descends fun _ _ before => before
  · rw [kept]
    exact Descends.rewritten (fun _ _ before => before) matched.1 rfl rfl rfl
  · rw [freed]
    exact Within.descends (Within.remove (fun _ _ before => before) _)

/-- What a begin answers belongs to an entry of the request's fingerprint. -/
def Grounds (codec : Codec Fingerprint) (request : ImageRequest) (c : IdempotencyState Fingerprint) :
    IdempotencyAction Fingerprint → Prop
  | .leader token => requestFingerprint codec request = .ok token.fingerprint
  | .cached response => ∃ key entry, c.entries.lookup key = some entry ∧
      requestFingerprint codec request = .ok entry.fingerprint ∧
      c.channels entry.sender = .completed response
  | .wait receiver => ∃ key entry, c.entries.lookup key = some entry ∧
      requestFingerprint codec request = .ok entry.fingerprint ∧ entry.sender = receiver

theorem begin_grounds {scope name : String} {request : ImageRequest}
    {action : IdempotencyAction Fingerprint}
    (answered : (begin codec config now scope name request c).1 = .ok action) :
    Grounds codec request c action := by
  have entered := enter_within c config now
  unfold Idempotency.begin at answered
  split at answered
  · cases answered
  · cases answered
  · rename_i fingerprint digested
    unfold beginLocked at answered
    dsimp only at answered
    split at answered
    · rename_i entry found
      split at answered
      · cases answered
      · rename_i same
        have own : requestFingerprint codec request = .ok entry.fingerprint := by
          rw [digested, Decidable.not_not.mp same]
        have live := entered _ _ found
        unfold answer at answered
        split at answered
        · rename_i announced
          cases answered
          obtain before | expired := enter_channels c config now entry.sender
          · exact ⟨_, entry, live, own, before.symm.trans announced⟩
          · rw [announced] at expired
            cases expired
        · cases answered
        · cases answered
        · cases answered
          exact ⟨_, entry, live, own, rfl⟩
    · split at answered
      · cases answered
      · cases answered
        exact digested

/-- The entries after a begin: those there were, and the one of an elected leader. -/
theorem begin_entries {scope name : String} {request : ImageRequest} {key : RecordKey}
    {entry : Entry Fingerprint}
    (there : (begin codec config now scope name request c).2.entries.lookup key = some entry) :
    (∃ before, c.entries.lookup key = some before ∧ before.sender = entry.sender ∧
      before.fingerprint = entry.fingerprint) ∨
    (∃ token, (begin codec config now scope name request c).1 = .ok (.leader token) ∧
      token.fingerprint = entry.fingerprint ∧ entry.sender = c.nextSender) := by
  have entered := enter_within c config now
  unfold Idempotency.begin at there ⊢
  split at there
  · exact .inl ⟨entry, there, rfl, rfl⟩
  · exact .inl ⟨entry, there, rfl, rfl⟩
  · unfold beginLocked at there ⊢
    dsimp only at there ⊢
    split at there
    · rename_i live found
      split at there
      · exact .inl ⟨entry, entered _ _ there, rfl, rfl⟩
      · left
        obtain ⟨rfl, rfl⟩ | ⟨_, before⟩ := AssocTotals.lookup_insert_cases there
        · exact ⟨live, entered _ _ found, rfl, rfl⟩
        · exact ⟨entry, entered _ _ before, rfl, rfl⟩
    · split at there
      · exact .inl ⟨entry, entered _ _ there, rfl, rfl⟩
      · rename_i roomy room
        obtain ⟨rfl, rfl⟩ | ⟨_, before⟩ := AssocTotals.lookup_insert_cases there
        · refine .inr ⟨_, rfl, rfl, ?_⟩
          rw [(makeCapacity_same room).2, enter_nextSender]
        · exact .inl ⟨entry, entered _ _ (makeCapacity_within room _ _ before), rfl, rfl⟩

end ImagegenBridge.Idempotency

namespace ImagegenBridge.Orchestrator

open Idempotency IdempotencyState Materialize Program Snapshot

/-- A response to a request: it repeats its parameters, and its images are in its format. -/
structure Matches (request : ImageRequest) (response : ImageResponse) : Prop where
  requested : response.requested = request.parameters
  carried : Carried request.output.responseFormat response.data

/-- The request a call began its key with, and the channel it was told to wait on. -/
structure Asked where
  request : ImageRequest
  receiver : Option Nat

variable {Fingerprint : Type}

abbrev askMonitor (Fingerprint : Type) : Monitor (calls Fingerprint) where
  State := Option Asked
  next := fun asked op answer => match op, answer with
    | .begin _ _ request, .ok (.wait receiver) => some ⟨request, some receiver⟩
    | .begin _ _ request, _ => some ⟨request, none⟩
    | _, _ => asked

/-- A call stores answers to requests of its token's fingerprint, as long as what it replays or
waits for answers its own. -/
abbrev answerContract (codec : Codec Fingerprint) : Contract (askMonitor Fingerprint) where
  Allow := fun _ op => match op with
    | .complete token response => ∃ request,
        requestFingerprint codec request = .ok token.fingerprint ∧ Matches request response
    | _ => True
  Expect := fun asked op answer => match op, answer with
    | .begin _ _ request, .ok (.leader token) =>
        requestFingerprint codec request = .ok token.fingerprint
    | .begin _ _ request, .ok (.cached response) => Matches request response
    | .wait receiver, .finished (.ok response) => ∀ request,
        asked = some ⟨request, some receiver⟩ → Matches request response
    | _, _ => True

section Calls

variable {codec : Codec Fingerprint} {asked : Option Asked} {β : Type} {rt : Runtime}
  {request : ImageRequest} {requestId : String}

/-- An operation after which the call may go on whatever it is answered. -/
theorem tries_next {op : Op Fingerprint} {f : op.Ans → Task Fingerprint β}
    {ok : β → Option Asked → Prop} {failed : BridgeError → Option Asked → Prop}
    (allowed : (answerContract codec).Allow asked op)
    (rest : ∀ answer t, (answerContract codec).Expect asked op answer →
      Tries (answerContract codec) (f answer) t ok failed) :
    Tries (answerContract codec) (call op >>= f) asked ok failed := by
  rw [tries_bind, tries_call]
  exact ⟨allowed, fun answer expected => rest answer _ expected⟩

theorem tries_passed {α : Type} {outcome : Outcome α} {f : α → Task Fingerprint β}
    {ok : β → Option Asked → Prop}
    (rest : ∀ a, outcome = .ok a → Tries (answerContract codec) (f a) asked ok fun _ _ => True) :
    Tries (answerContract codec) (require outcome >>= f) asked ok fun _ _ => True := by
  rw [tries_bind, tries_require]
  exact ⟨rest, fun _ _ => trivial⟩

theorem tries_last {outcome : Outcome β} {ok : β → Option Asked → Prop}
    (held : ∀ b, outcome = .ok b → ok b asked) :
    Tries (answerContract codec) (require outcome) asked ok fun _ _ => True := by
  rw [tries_require]
  exact ⟨held, fun _ _ => trivial⟩

/-- Preparation rewrites no output option. -/
theorem prepareRoute_output {route : ProviderRoute} {name : String}
    {discovered : Outcome ProviderCapabilities} {prepared : PreparedRoute}
    (ok : prepareRoute rt request route name discovered = .ok prepared) :
    prepared.effective.output = request.output := by
  unfold prepareRoute at ok
  obtain ⟨capabilities, _, ok⟩ := Outcome.bind_ok.mp ok
  obtain ⟨_, _, ok⟩ := Outcome.bind_ok.mp ok
  obtain ⟨transparency, prepares, ok⟩ := Outcome.bind_ok.mp ok
  obtain ⟨_, _, ok⟩ := Outcome.bind_ok.mp ok
  obtain ⟨negotiated, negotiates, ok⟩ := Outcome.bind_ok.mp ok
  cases ok
  show negotiated.effectiveRequest.output = request.output
  rw [Negotiation.negotiateRequest_effective negotiates]
  exact (Transparency.prepareTransparency_ok prepares).1

theorem executeRouteAdmitted_answers (index : Nat) (route : ProviderRoute) (name : String)
    (queueMs : Nat) :
    Tries (answerContract codec)
      (executeRouteAdmitted rt request requestId index route name queueMs) asked
      (fun execution _ => Matches request execution.response) fun _ _ => True := by
  unfold executeRouteAdmitted
  apply tries_next trivial
  intro discovered t _
  apply tries_passed
  intro prepared ready
  apply tries_next trivial
  intro finish t _
  apply tries_next trivial
  intro providerMs t _
  apply tries_passed
  intro returned _
  apply tries_passed
  intro _ _
  apply tries_next trivial
  intro world t _
  apply tries_passed
  intro response delivered
  apply tries_next trivial
  intro artifactMs t _
  rw [tries_pure]
  cases world with
  | elapsed => cases delivered
  | interrupted interruption => cases interruption <;> cases delivered
  | finished world =>
    obtain ⟨requested, carried⟩ := materialize_answers delivered
    have output : prepared.effective.output = request.output := prepareRoute_output ready
    rw [show (routeJob requestId name request prepared returned queueMs providerMs).effective.output
      = request.output from output] at carried
    exact ⟨requested, carried⟩

theorem executeRoute_answers (index : Nat) (route : ProviderRoute) :
    Tries (answerContract codec) (executeRoute rt request requestId index route) asked
      (fun execution _ => Matches request execution.response) fun _ _ => True := by
  unfold executeRoute
  apply tries_passed
  intro name _
  apply tries_passed
  intro _ _
  apply tries_next trivial
  intro permit t _
  apply tries_passed
  intro _ _
  apply tries_next trivial
  intro admitted t _
  apply tries_passed
  intro _ _
  apply tries_next trivial
  intro queueMs t _
  rw [tries_attempt]
  apply (executeRouteAdmitted_answers index route name queueMs).mono
  · intro execution t answers
    apply tries_next trivial
    intro _ t _
    apply tries_last
    intro execution' same
    cases same
    exact answers
  · intro e t _
    apply tries_next trivial
    intro _ t _
    apply tries_last
    intro _ impossible
    cases impossible

/-- The induction is on the routes left. -/
theorem tryRoutes_answers {primaryProvider : String} {globalQueueMs : Nat}
    (rest : List ProviderRoute) : ∀ (index : Nat) (attempts : List ProviderAttempt)
      (t : Option Asked), Tries (answerContract codec)
        (tryRoutes rt request requestId primaryProvider globalQueueMs index rest attempts) t
        (fun response _ => Matches request response) fun _ _ => True := by
  induction rest with
  | nil =>
    intro index attempts t
    rw [tryRoutes, tries_throw]
    trivial
  | cons route rest ih =>
    intro index attempts t
    rw [tryRoutes]
    apply tries_next trivial
    intro _ t _
    rw [tries_attempt]
    apply (executeRoute_answers index route).mono
    · intro execution t answers
      apply tries_next trivial
      intro durationMs t _
      apply tries_next trivial
      intro totalMs t _
      apply tries_next trivial
      intro world t _
      apply tries_last
      intro response attached
      obtain ⟨requested, carried⟩ := attachMetadata_answers attached answers.carried
      exact ⟨requested.trans answers.requested, carried⟩
    · intro e t _
      apply tries_next trivial
      intro durationMs t _
      dsimp only
      split
      · rw [tries_throw]
        trivial
      · exact ih _ _ t

theorem executeLeader_answers :
    Tries (answerContract codec) (executeLeader rt request requestId) asked
      (fun response _ => Matches request response) fun _ _ => True := by
  unfold executeLeader
  apply tries_next trivial
  intro admitted t _
  apply tries_passed
  intro _ _
  apply tries_next trivial
  intro globalQueueMs t _
  apply tries_passed
  intro _ _
  exact tryRoutes_answers _ 0 [] t

theorem lead_answers {token : Option (IdempotencyToken Fingerprint)}
    (own : ∀ held, token = some held → requestFingerprint codec request = .ok held.fingerprint) :
    Tries (answerContract codec) (lead rt request requestId token) asked
      (fun response _ => Matches request response) fun _ _ => True := by
  unfold lead
  rw [tries_attempt]
  apply executeLeader_answers.mono
  · intro response t answers
    cases token with
    | none =>
      apply tries_last
      intro response' same
      cases same
      exact answers
    | some held =>
      have allowed : (answerContract codec).Allow t (.complete held response) :=
        ⟨request, own held rfl, answers⟩
      apply tries_next allowed
      intro _ t _
      apply tries_last
      intro response' same
      cases same
      exact answers
  · intro e t _
    cases token with
    | none =>
      apply tries_last
      intro _ impossible
      cases impossible
    | some held =>
      apply tries_next trivial
      intro _ t _
      apply tries_last
      intro _ impossible
      cases impossible

/-- A waiting call waits on the channel its begin named. -/
theorem coordinate_answers {context : ExecutionContext} :
    Tries (answerContract codec) (coordinate rt request context requestId) asked
      (fun response _ => Matches request response) fun _ _ => True := by
  unfold coordinate
  split
  · exact lead_answers fun _ impossible => nomatch impossible
  · rw [tries_bind, tries_call]
    refine ⟨trivial, fun began known => ?_⟩
    apply tries_passed
    intro action answered
    subst answered
    cases action with
    | leader token =>
      apply lead_answers
      intro held same
      cases same
      exact known
    | cached response =>
      rw [tries_pure]
      exact known
    | wait receiver =>
      apply tries_next trivial
      intro waited t known
      apply tries_last
      intro response ok
      cases waited with
      | elapsed => cases ok
      | interrupted interruption => cases interruption <;> cases ok
      | finished result =>
        cases ok
        exact known request rfl

theorem executeWith_answers {context : ExecutionContext} :
    Tries (answerContract codec) (executeWith rt request context) asked
      (fun response _ => Matches request response) fun _ _ => True := by
  unfold executeWith
  apply tries_next trivial
  intro early t _
  apply tries_passed
  intro _ _
  apply tries_next trivial
  intro entered t _
  apply tries_passed
  intro _ _
  apply tries_passed
  intro _ _
  have rest : ∀ requestId t, Tries (answerContract codec) (do
      let overflows ← call (.deadlineOverflows (request.timeoutMs.getD rt.defaultTimeoutMs))
      require (Outcome.failIf (overflows = true) (configurationError "request deadline overflowed"))
      coordinate rt request context requestId) t
      (fun response _ => Matches request response) fun _ _ => True := by
    intro requestId t
    apply tries_next trivial
    intro overflows t _
    apply tries_passed
    intro _ _
    exact coordinate_answers
  split
  · apply tries_next trivial
    intro requestId t _
    exact rest requestId t
  · apply tries_passed
    intro requestId _
    exact rest requestId t

end Calls

/-! ## Every answered call -/

/-- A call with the request it is made for. -/
def answered (rt : Runtime) (request : ImageRequest) (context : ExecutionContext) :
    Program (calls Fingerprint) (ImageRequest × Outcome ImageResponse) := do
  let result ← (executeWith rt request context).run
  .done (request, result)

theorem answered_keeps {codec : Codec Fingerprint} {asked : Option Asked} (rt : Runtime)
    (request : ImageRequest) (context : ExecutionContext) :
    (answered rt request context).Keeps (answerContract codec) asked fun answer _ =>
      ∀ response, answer.2 = .ok response → Matches answer.1 response := by
  unfold answered
  rw [keeps_bind]
  have kept : Tries (answerContract codec) (executeWith rt request context) asked
      (fun response _ => Matches request response) fun _ _ => True := executeWith_answers
  apply Keeps.mono kept
  intro result t held response same
  subst same
  exact held

variable [DecidableEq Fingerprint]

/-- Two requests of one fingerprint differ in nothing but their key and their timeout. -/
def Codec.CollisionFree (codec : Codec Fingerprint) : Prop :=
  ∀ a b fingerprint, codec.digest a = some fingerprint → codec.digest b = some fingerprint → a = b

omit [DecidableEq Fingerprint] in
/-- The answer to a request answers every other of its fingerprint. -/
theorem Matches.shared {codec : Codec Fingerprint} (collisionFree : Codec.CollisionFree codec)
    {request other : ImageRequest} {fingerprint : Fingerprint} {response : ImageResponse}
    (first : requestFingerprint codec request = .ok fingerprint)
    (second : requestFingerprint codec other = .ok fingerprint)
    (answers : Matches request response) : Matches other response := by
  have digested : ∀ {r : ImageRequest}, requestFingerprint codec r = .ok fingerprint →
      codec.digest { r with idempotencyKey := none, timeoutMs := none } = some fingerprint := by
    intro r own
    unfold requestFingerprint at own
    dsimp only at own
    split at own
    · rename_i found
      cases own
      exact found
    · cases own
  have same := collisionFree _ _ _ (digested first) (digested second)
  have parameters := congrArg ImageRequest.parameters same
  have output := congrArg ImageRequest.output same
  refine ⟨answers.requested.trans parameters, ?_⟩
  rw [← show request.output = other.output from output]
  exact answers.carried

abbrev Asks (Fingerprint : Type) := Snapshot (askMonitor Fingerprint) (Shared Fingerprint)

/-- Every channel opened so far belongs to one fingerprint: its entry's, that of the calls waiting
on it, and that of the requests its announced response answers. -/
structure Labelled (codec : Codec Fingerprint) (v : Asks Fingerprint)
    (label : Nat → Option Fingerprint) : Prop where
  unopened : ∀ g, v.shared.coordinator.nextSender ≤ g → label g = none ∧
    ∀ response, v.shared.coordinator.channels g ≠ .completed response
  entries : ∀ key entry, v.shared.coordinator.entries.lookup key = some entry →
    label entry.sender = some entry.fingerprint
  announced : ∀ g response fingerprint request,
    v.shared.coordinator.channels g = .completed response → label g = some fingerprint →
      requestFingerprint codec request = .ok fingerprint → Matches request response
  waiting : ∀ id request g, v.phase id = some (some ⟨request, some g⟩) →
    ∃ fingerprint, label g = some fingerprint ∧ requestFingerprint codec request = .ok fingerprint

def Traced (codec : Codec Fingerprint) (v : Asks Fingerprint) : Prop :=
  ∃ label, Labelled codec v label

variable {codec : Codec Fingerprint} {config : IdempotencyConfig} {rt : Runtime}
  {timely : Nat → IdempotencyState Fingerprint → Prop} {v v' : Asks Fingerprint}
  {event : PoolEvent (calls Fingerprint)}

theorem traced_justifies :
    Pool.Justifies (fun v _ => Traced codec v ∧ True) (behavior codec config timely)
      (answerContract codec) := by
  intro v id asked op answer after live performs ⟨⟨label, labelled⟩, _⟩
  cases op with
  | begin scope key request =>
    obtain ⟨now, _, replied, _⟩ := performs
    cases answer with
    | error e => trivial
    | ok action =>
      have grounds := begin_grounds replied.symm
      cases action with
      | leader token => exact grounds
      | wait receiver => trivial
      | cached response =>
        obtain ⟨key, entry, found, own, announced⟩ := grounds
        exact labelled.announced _ response _ request announced (labelled.entries key entry found) own
  | wait receiver =>
    cases answer with
    | elapsed => trivial
    | interrupted interruption => trivial
    | finished result =>
      cases result with
      | error e => trivial
      | ok response =>
        intro request waits
        subst waits
        obtain ⟨fingerprint, own, asks⟩ := labelled.waiting id request receiver live
        have observes : Observes v.shared.coordinator receiver (.finished (.ok response)) :=
          performs.1
        simp only [Observes] at observes
        split at observes
        · rename_i announced completed
          cases observes
          exact labelled.announced _ response _ request completed own asks
        · cases observes
        · cases observes
        · obtain ⟨e, impossible, _⟩ := observes
          cases impossible
  | _ => trivial

omit [DecidableEq Fingerprint] in
theorem Labelled.opened {label : Nat → Option Fingerprint} {g : Nat} {fingerprint : Fingerprint}
    (labelled : Labelled codec v label) (own : label g = some fingerprint) :
    g < v.shared.coordinator.nextSender := by
  apply Nat.lt_of_not_le
  intro beyond
  rw [(labelled.unopened g beyond).1] at own
  cases own

omit [DecidableEq Fingerprint] in
/-- A settlement announces an answer to the requests of its entry, or no answer. -/
theorem Labelled.settle (collisionFree : Codec.CollisionFree codec)
    {label : Nat → Option Fingerprint} {token : IdempotencyToken Fingerprint} {report : Report}
    {after : IdempotencyState Fingerprint} (labelled : Labelled codec v label)
    (announces : Announces v.shared.coordinator token report after)
    (descends : Descends v.shared.coordinator after)
    (answers : ∀ response, report = .completed response → ∃ request,
      requestFingerprint codec request = .ok token.fingerprint ∧ Matches request response)
    (id : Nat) (asked : Option Asked) (live : v.phase id = some asked) :
    Labelled codec (v.exchange id asked { v.shared with coordinator := after }) label := by
  obtain ⟨sender, effect⟩ := announces
  have entries : ∀ key entry, after.entries.lookup key = some entry →
      label entry.sender = some entry.fingerprint := by
    intro key entry there
    obtain ⟨before, found, own, fingerprint⟩ := descends key entry there
    rw [← own, ← fingerprint]
    exact labelled.entries key before found
  have completed : ∀ g response, after.channels g = .completed response →
      v.shared.coordinator.channels g = .completed response ∨ 
        ∃ (request : ImageRequest) (entry : Entry Fingerprint),
          requestFingerprint codec request = .ok entry.fingerprint ∧ Matches request response ∧
            label g = some entry.fingerprint := by
    intro g response announced
    obtain ⟨_, same⟩ | ⟨entry, matched, others, leaves⟩ := effect
    · rw [same] at announced
      exact .inl announced
    · by_cases here : g = entry.sender
      · subst here
        rw [announced] at leaves
        cases report with
        | completed reported =>
          obtain same | impossible := leaves
          · cases same
            obtain ⟨request, digested, first⟩ := answers _ rfl
            rw [← matched.2] at digested
            exact .inr ⟨request, entry, digested, first, labelled.entries _ entry matched.1⟩
          · cases impossible
        | failed e =>
          have left : EntryOutcome.completed response =
            if e.outcomeUnknown then .unknown (unknownError e) else .failed e := leaves
          split at left <;> cases left
      · rw [others g here] at announced
        exact .inl announced
  constructor
  · intro g beyond
    have before : v.shared.coordinator.nextSender ≤ g := Nat.le_trans (Nat.le_of_eq sender.symm) beyond
    obtain ⟨unlabelled, silent⟩ := labelled.unopened g before
    refine ⟨unlabelled, fun response announced => ?_⟩
    obtain old | ⟨_, _, _, _, own⟩ := completed g response announced
    · exact silent response old
    · rw [unlabelled] at own
      cases own
  · exact entries
  · intro g response fingerprint request announced own asks
    obtain old | ⟨first, entry, digested, answers, labels⟩ := completed g response announced
    · exact labelled.announced g response fingerprint request old own asks
    · rw [own, Option.some.injEq] at labels
      subst labels
      exact answers.shared collisionFree digested asks
  · intro other request g waits
    obtain ⟨rfl, same⟩ | ⟨_, same⟩ := live_exchange waits
    · exact labelled.waiting other request g (live.trans (congrArg some same.symm))
    · exact labelled.waiting other request g same

/-- The channel of an elected leader is the only one that a begin labels. -/
def relabelled (label : Nat → Option Fingerprint) (opened : Nat)
    (answer : Outcome (IdempotencyAction Fingerprint)) (g : Nat) : Option Fingerprint :=
  match answer with
  | .ok (.leader token) => if g = opened then some token.fingerprint else label g
  | _ => label g

omit [DecidableEq Fingerprint] in
theorem relabelled_old (label : Nat → Option Fingerprint) {g opened : Nat}
    (answer : Outcome (IdempotencyAction Fingerprint)) (before : g ≠ opened) :
    relabelled label opened answer g = label g := by
  unfold relabelled
  split
  · exact if_neg before
  · rfl

/-- Only the call that begins may wait anew. -/
theorem Labelled.begins {label : Nat → Option Fingerprint} (labelled : Labelled codec v label)
    (now id : Nat) (scope name : String) (request : ImageRequest) (asked : Option Asked) :
    Traced codec (v.exchange id
      ((askMonitor Fingerprint).next asked (.begin scope name request)
        (Idempotency.begin codec config now scope name request v.shared.coordinator).1)
      (v.shared.began id ⟨scope, name⟩
        (Idempotency.begin codec config now scope name request v.shared.coordinator))) := by
  obtain ⟨channels, opens, grows⟩ := begin_channels codec config v.shared.coordinator now scope name
    request
  have entries := fun key entry => @begin_entries _ v.shared.coordinator config now _ codec scope name
    request key entry
  have grounds := fun action => @begin_grounds _ v.shared.coordinator config now _ codec scope name
    request action
  generalize Idempotency.begin codec config now scope name request v.shared.coordinator = result at *
  obtain ⟨answer, after⟩ := result
  dsimp only at channels opens grows entries grounds
  have completed : ∀ g response, after.channels g = .completed response →
      v.shared.coordinator.channels g = .completed response := by
    intro g response announced
    obtain same | expired | opened := channels g
    · exact same.symm.trans announced
    · rw [announced] at expired
      cases expired
    · rw [announced] at opened
      cases opened
  have old : ∀ g, g < v.shared.coordinator.nextSender →
      relabelled label v.shared.coordinator.nextSender answer g = label g :=
    fun g before => relabelled_old label answer (Nat.ne_of_lt before)
  refine ⟨relabelled label v.shared.coordinator.nextSender answer, ?_, ?_, ?_, ?_⟩
  · intro g beyond
    have beyond : after.nextSender ≤ g := beyond
    have before : v.shared.coordinator.nextSender ≤ g := Nat.le_trans grows beyond
    refine ⟨?_, fun response announced =>
      (labelled.unopened g before).2 response (completed g response announced)⟩
    unfold relabelled
    split
    · rename_i token
      have next := opens token rfl
      rw [if_neg (by omega)]
      exact (labelled.unopened g before).1
    · exact (labelled.unopened g before).1
  · intro key entry there
    obtain ⟨before, found, sender, fingerprint⟩ | ⟨token, led, fingerprint, sender⟩ :=
      entries key entry there
    · have own := labelled.entries key before found
      rw [← sender, ← fingerprint, old _ (labelled.opened own)]
      exact own
    · subst led
      unfold relabelled
      dsimp only
      rw [if_pos sender, fingerprint]
  · intro g response fingerprint asking announced own asks
    have before := completed g response announced
    have opened : g < v.shared.coordinator.nextSender := by
      apply Nat.lt_of_not_le
      intro beyond
      exact (labelled.unopened g beyond).2 response before
    rw [old g opened] at own
    exact labelled.announced g response fingerprint asking before own asks
  · intro other asking g waits
    obtain ⟨rfl, same⟩ | ⟨_, same⟩ := live_exchange waits
    · cases answer with
      | error e => cases same
      | ok action =>
        cases action with
        | leader token => cases same
        | cached response => cases same
        | wait receiver =>
          cases same
          obtain ⟨key, entry, found, asks, sender⟩ := grounds _ rfl
          have own := labelled.entries key entry found
          subst sender
          exact ⟨entry.fingerprint, (old _ (labelled.opened own)).trans own, asks⟩
    · obtain ⟨fingerprint, own, asks⟩ := labelled.waiting other asking g same
      exact ⟨fingerprint, (old g (labelled.opened own)).trans own, asks⟩

omit [DecidableEq Fingerprint] in
theorem Labelled.unasked {label : Nat → Option Fingerprint} (labelled : Labelled codec v label)
    {after : Asks Fingerprint} (coordinator : after.shared.coordinator = v.shared.coordinator)
    (waiting : ∀ id request g, after.phase id = some (some ⟨request, some g⟩) →
      v.phase id = some (some ⟨request, some g⟩)) : Labelled codec after label := by
  constructor
  · rw [coordinator]
    exact labelled.unopened
  · rw [coordinator]
    exact labelled.entries
  · rw [coordinator]
    exact labelled.announced
  · intro id request g waits
    exact labelled.waiting id request g (waiting id request g waits)

omit [DecidableEq Fingerprint] in
theorem initial_traced : Traced codec (Snapshot.empty Shared.initial : Asks Fingerprint) :=
  ⟨fun _ => none, fun _ _ => ⟨rfl, fun _ impossible => nomatch impossible⟩,
    (fun _ _ impossible => nomatch impossible), (fun _ _ _ _ impossible => nomatch impossible),
    fun _ _ _ impossible => nomatch impossible⟩

theorem step_traced (collisionFree : Codec.CollisionFree codec) (traced : Traced codec v)
    (step : Snapshot.Step (answerContract codec) (behavior codec config timely) none v event v') :
    Traced codec v' := by
  obtain ⟨label, labelled⟩ := traced
  cases step with
  | spawn =>
    refine ⟨label, labelled.unasked rfl fun id request g waits => ?_⟩
    obtain impossible | old := live_spawn waits
    · cases impossible
    · exact old
  | drop live allowed abandons =>
    exact ⟨label, labelled.unasked (abandons_keeps abandons).1
      fun id request g waits => (live_drop waits).2⟩
  | @exchange id asked op answer shared live allowed expected performs =>
    -- what follows an operation that is no begin is the state the call was in
    have still : ∀ after : Shared Fingerprint, after.coordinator = v.shared.coordinator →
        Traced codec (v.exchange id asked after) := fun after same =>
      ⟨label, labelled.unasked same fun other request g waits => by
        obtain ⟨rfl, own⟩ | ⟨_, old⟩ := live_exchange waits
        · exact live.trans (congrArg some own.symm)
        · exact old⟩
    cases op with
    | begin scope name request =>
      obtain ⟨now, _, rfl, rfl⟩ := performs
      exact labelled.begins now id scope name request asked
    | complete token response =>
      obtain ⟨now, rfl⟩ := performs
      refine ⟨label, labelled.settle collisionFree
        (complete_announces codec config v.shared.coordinator now token response)
        (complete_descends response) ?_ id asked live⟩
      intro reported same
      cases same
      exact allowed
    | fail token e =>
      obtain ⟨now, rfl⟩ := performs
      exact ⟨label, labelled.settle collisionFree
        (fail_announces config v.shared.coordinator now token e) (fail_descends e)
        (fun _ impossible => nomatch impossible) id asked live⟩
    | wait receiver =>
      obtain ⟨_, rfl⟩ := performs
      exact still _ rfl
    | execute index name request =>
      cases performs
      exact still _ rfl
    | _ =>
      cases performs
      exact still _ rfl

/-- Calls of any requests, each with the request it is made for. -/
def AnyAnswered (rt : Runtime) (p : Program (calls Fingerprint) (ImageRequest × Outcome ImageResponse)) :
    Prop :=
  ∃ request context, p = answered rt request context

abbrev AnsweredCalls (Fingerprint : Type) :=
  Pool (askMonitor Fingerprint) (Shared Fingerprint) (ImageRequest × Outcome ImageResponse)

/-- Whatever the calls of a runtime are made for, and whichever of them lead, replay, wait or are
dropped: a response that a call returns answers the call's own request. -/
theorem every_answer_is_own {pool : AnsweredCalls Fingerprint}
    (collisionFree : Codec.CollisionFree codec)
    (run : Pool.Run (AnyAnswered rt) (behavior codec config timely) none Shared.initial
      (fun _ _ => True) pool) {id : Nat} {asked : Option Asked} {request : ImageRequest}
    {response : ImageResponse} (live : pool.view.phase id = some asked)
    (returned : pool.code id = .done (request, .ok response)) : Matches request response := by
  have kept : ∀ p, AnyAnswered rt p → p.Keeps (answerContract codec) none fun answer _ =>
      ∀ response, answer.2 = .ok response → Matches answer.1 response := by
    rintro p ⟨request, context, rfl⟩
    exact answered_keeps rt request context
  have reached := Pool.run_invariant_justifies kept traced_justifies initial_traced
    (fun _ _ _ traced step _ => step_traced collisionFree traced step) run
  have own := reached.2 id asked live
  rw [returned] at own
  exact own response rfl

/-! ## A replayed answer -/

/-- The fingerprint of one request. -/
def lighthouseCodec : Codec Unit where
  digest := fun request => if request = lighthouse then some () else none
  encodedLength := fun _ => some 44

theorem lighthouseCodec_collisionFree : Codec.CollisionFree lighthouseCodec := by
  have only : ∀ {r : ImageRequest} {fingerprint : Unit},
      lighthouseCodec.digest r = some fingerprint → r = lighthouse := by
    intro r fingerprint digested
    by_contra other
    cases digested.symm.trans (if_neg other)
  exact fun a b fingerprint first second => (only first).trans (only second).symm

/-- The same request with a timeout of its own. -/
def patientLighthouse : ImageRequest := { keyedLighthouse with timeoutMs := some 5000 }

def lighthouseContext : ExecutionContext := { idempotencyScope := "scope" }

def unasked : AnsweredCalls Unit :=
  ⟨Snapshot.empty Shared.initial, fun _ => answered plainRuntime keyedLighthouse lighthouseContext⟩

/-- The first call is served; the second begins the same key afterwards. -/
def lighthouseMoves : List (Pool.Move (calls Unit) (ImageRequest × Outcome ImageResponse)) :=
  .spawn (answered plainRuntime keyedLighthouse lighthouseContext) ::
    (List.replicate 21 (.go 0) ++
      .spawn (answered plainRuntime patientLighthouse lighthouseContext) :: List.replicate 5 (.go 1))

def lighthousePlay : Option (AnsweredCalls Unit) :=
  Pool.schedule (fun id op s => some (answers lighthouseCodec {} 0 id delivered op s))
    (fun _ _ _ => none) none lighthouseMoves unasked

/-- What the second call has returned, when only the first dispatched. -/
def replayedTo (pool : AnsweredCalls Unit) : Option (ImageRequest × ImageResponse) :=
  match pool.view.phase 1, pool.code 1, pool.view.shared.dispatches with
  | some _, .done (request, .ok response), [_] => some (request, response)
  | _, _, _ => none

theorem lighthouse_replayed :
    (lighthousePlay.bind replayedTo).map Prod.fst = some patientLighthouse := by
  decide +kernel

theorem replayed_answer_is_own : ∃ (pool : AnsweredCalls Unit) (response : ImageResponse),
    Pool.Run (AnyAnswered plainRuntime) (behavior lighthouseCodec {} fun _ _ => True) none
      Shared.initial (fun _ _ => True) pool ∧
    replayedTo pool = some (patientLighthouse, response) ∧ Matches patientLighthouse response := by
  obtain ⟨⟨request, response⟩, replayed, rfl⟩ := Option.map_eq_some_iff.mp lighthouse_replayed
  obtain ⟨pool, played, replayed⟩ := Option.bind_eq_some_iff.mp replayed
  have path : Pool.Path (AnyAnswered plainRuntime) (behavior lighthouseCodec {} fun _ _ => True) none
      (fun _ _ => True) unasked pool := by
    refine Pool.schedule_path ?_ ?_ ?_ .here played
    · intro id op s answer s' same
      have performs : Performs lighthouseCodec {} (fun _ _ => True) id op
          (answers lighthouseCodec {} 0 id delivered op s).1 s
          (answers lighthouseCodec {} 0 id delivered op s).2 :=
        answers_performs delivered op s trivial
      rw [Option.some.inj same] at performs
      exact performs
    · intro id op s s' impossible
      cases impossible
    · intro p spawned
      simp only [lighthouseMoves, List.mem_cons, List.mem_append, List.mem_replicate,
        Pool.Move.spawn.injEq, reduceCtorEq, and_false, false_or, or_false] at spawned
      obtain rfl | rfl := spawned
      · exact ⟨keyedLighthouse, lighthouseContext, rfl⟩
      · exact ⟨patientLighthouse, lighthouseContext, rfl⟩
  have run : Pool.Run (AnyAnswered plainRuntime) (behavior lighthouseCodec {} fun _ _ => True) none
      Shared.initial (fun _ _ => True) pool := ⟨_, path⟩
  refine ⟨pool, response, run, replayed, ?_⟩
  unfold replayedTo at replayed
  split at replayed
  · rename_i asked request' response' _ live returned _
    cases replayed
    exact every_answer_is_own lighthouseCodec_collisionFree run live returned
  · cases replayed

end ImagegenBridge.Orchestrator
