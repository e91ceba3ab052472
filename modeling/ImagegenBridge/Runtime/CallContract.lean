import ImagegenBridge.Runtime.Orchestrator

/-!
# What one call does with its idempotency token

The monitor of a call remembers whether it leads, what its provider was
discovered to be and whether a provider call was paid. The contract says when a
call may dispatch and how it settles; a careful call's stages after a paid result
do not fail.
-/

namespace ImagegenBridge.Orchestrator

open Idempotency Materialize Program

/-- Where a call stands: it has not begun its key, runs without one, leads, or is done. -/
inductive Stage (Fingerprint : Type) where
  | fresh
  | unkeyed
  | leading (token : IdempotencyToken Fingerprint)
  | settled

/-- What the provider calls so far amount to. -/
inductive Progress where
  | clean | paid | ambiguous
  deriving DecidableEq, Repr

structure Phase (Fingerprint : Type) where
  stage : Stage Fingerprint
  expectedModel : Option String
  progress : Progress

def Progress.after {α : Type} (progress : Progress) (finish : ProviderEnd α) : Progress :=
  if finish.returned.isSome then .paid
  else if finish.ambiguous then .ambiguous
  else progress

variable {Fingerprint : Type}

namespace Phase

def start : Phase Fingerprint := ⟨.fresh, none, .clean⟩

def begun (s : Phase Fingerprint) (answer : Outcome (IdempotencyAction Fingerprint)) :
    Phase Fingerprint :=
  { s with stage := match answer with
    | .ok (.leader token) => .leading token
    | _ => .settled }

/-- A call that enters the pipeline without having begun a key has none. -/
def admitted (s : Phase Fingerprint) : Phase Fingerprint :=
  { s with stage := match s.stage with
    | .fresh => .unkeyed
    | stage => stage }

def discovered (s : Phase Fingerprint) (answer : Controlled (Outcome ProviderCapabilities)) :
    Phase Fingerprint :=
  { s with expectedModel := match answer with
    | .finished (.ok c) => c.model
    | _ => s.expectedModel }

def settle (s : Phase Fingerprint) : Phase Fingerprint := { s with stage := .settled }

def next (s : Phase Fingerprint) : (op : Op Fingerprint) → op.Ans → Phase Fingerprint
  | .begin .., answer => s.begun answer
  | .acquireGlobal, _ => s.admitted
  | .capabilities .., answer => s.discovered answer
  | .execute .., finish => { s with progress := s.progress.after finish }
  | .complete .., _ | .fail .., _ => s.settle
  | _, _ => s

theorem admitted_leading {s : Phase Fingerprint} {token : IdempotencyToken Fingerprint}
    (leads : s.stage = .leading token) : s.admitted = s := by
  obtain ⟨stage, model, progress⟩ := s
  subst leads
  rfl

/-- Entering the pipeline hands nobody a token. -/
theorem leading_of_admitted {s : Phase Fingerprint} {token : IdempotencyToken Fingerprint}
    (leads : s.admitted.stage = .leading token) : s.stage = .leading token := by
  unfold admitted at leads
  dsimp only at leads
  split at leads
  · cases leads
  · exact leads

end Phase

abbrev callMonitor (Fingerprint : Type) : Monitor (calls Fingerprint) where
  State := Phase Fingerprint
  next := Phase.next

/-- No stage after a returned provider result fails: the model is the discovered
one, materialization is neither interrupted nor refused, and sidecars attach. -/
def untroubled (config : MaterializationConfig) (s : Phase Fingerprint) :
    (op : Op Fingerprint) → op.Ans → Bool
  | .execute .., finish => finish.returned.all fun response =>
      s.expectedModel.all (· == response.model)
  | .materialize _ job, answer => match answer with
    | .finished world => (materialize config world job).toBool
    | _ => false
  | .attachMetadata _ original effective response, world =>
    (Materialize.attachMetadata config world original effective response).toBool
  | _, _ => true

/-- What a contract depends on: whether calls are careful, and the keys they use. -/
structure Terms where
  careful : Prop
  admits : String → String → Prop
  config : MaterializationConfig

/-- A call may dispatch a provider. -/
structure MayDispatch (terms : Terms) (s : Phase Fingerprint) : Prop where
  live : s.stage ≠ .fresh ∧ s.stage ≠ .settled
  known : s.progress ≠ .ambiguous
  careful : terms.careful → (∃ token, s.stage = .leading token) ∧ s.progress = .clean

/-- A call may report an error. -/
structure MayFail (terms : Terms) (s : Phase Fingerprint) (e : BridgeError) : Prop where
  unknown : s.progress = .ambiguous → e.outcomeUnknown = true
  careful : terms.careful → s.progress ≠ .paid

abbrev callContract (Fingerprint : Type) (terms : Terms) : Contract (callMonitor Fingerprint) where
  Allow := fun s op => match op with
    | .begin scope key _ => s.stage = .fresh ∧ s.progress = .clean ∧ terms.admits scope key
    | .execute .. => MayDispatch terms s
    | .complete token _ => s.stage = .leading token ∧ s.progress = .paid
    | .fail token e => s.stage = .leading token ∧ MayFail terms s e
    | _ => True
  Expect := fun s op answer => terms.careful → untroubled terms.config s op answer = true

section Rules

variable {terms : Terms} {s t : Phase Fingerprint} {α β : Type}

/-- Operations that change no phase. -/
def idle : Op Fingerprint → Bool
  | .begin .. | .acquireGlobal | .capabilities .. | .execute .. | .complete .. | .fail .. => false
  | _ => true

theorem tries_idle {op : Op Fingerprint} (idles : idle op = true) {f : op.Ans → Task Fingerprint β}
    {ok : β → Phase Fingerprint → Prop} {failed : BridgeError → Phase Fingerprint → Prop}
    (rest : ∀ answer, (terms.careful → untroubled terms.config s op answer = true) →
      Tries (callContract Fingerprint terms) (f answer) s ok failed) :
    Tries (callContract Fingerprint terms) (call op >>= f) s ok failed := by
  rw [tries_bind, tries_call]
  refine ⟨?_, fun answer expected => ?_⟩
  · cases op <;> first
      | exact absurd idles Bool.false_ne_true
      | trivial
  · have same : (callMonitor Fingerprint).next s op answer = s := by
      cases op <;> first
        | exact absurd idles Bool.false_ne_true
        | rfl
    rw [same]
    exact rest answer expected

/-- A route was served: a result was returned and every later stage passed. -/
structure Served (s t : Phase Fingerprint) : Prop where
  stage : t.stage = s.stage
  paid : t.progress = .paid

structure FailedWith (terms : Terms) (s : Phase Fingerprint) (e : BridgeError)
    (t : Phase Fingerprint) : Prop where
  stage : t.stage = s.stage
  reports : MayFail terms t e

theorem MayDispatch.fails (may : MayDispatch terms s) (same : t.stage = s.stage)
    (progress : t.progress = s.progress) (e : BridgeError) : FailedWith terms s e t where
  stage := same
  reports := {
    unknown := fun ambiguous => absurd (progress ▸ ambiguous) may.known
    careful := fun careful => by
      rw [progress, (may.careful careful).2]
      decide }

/-- A failure that permits another route leaves the call able to dispatch. -/
theorem FailedWith.retries {e : BridgeError} {policy : FallbackPolicy} (may : MayDispatch terms s)
    (failed : FailedWith terms s e t) (falls : shouldFallback e policy = true) :
    MayDispatch terms t := by
  have known : t.progress ≠ .ambiguous := by
    intro ambiguous
    rw [unknown_never_falls_back policy (failed.reports.unknown ambiguous)] at falls
    cases falls
  refine ⟨?_, known, fun careful => ?_⟩
  · rw [failed.stage]
    exact may.live
  · refine ⟨?_, ?_⟩
    · rw [failed.stage]
      exact (may.careful careful).1
    · cases progress : t.progress with
      | clean => rfl
      | paid => exact absurd progress (failed.reports.careful careful)
      | ambiguous => exact absurd progress known

/-- Details other than the outcome keep an error reportable. -/
theorem FailedWith.detailed {e : BridgeError} {key : String} (value : Json) (other : key ≠ "outcome")
    (failed : FailedWith terms s e t) : FailedWith terms s (e.withDetail key value) t where
  stage := failed.stage
  reports := {
    unknown := fun ambiguous => by
      rw [BridgeError.withDetail_outcome_ne e value other]
      exact failed.reports.unknown ambiguous
    careful := failed.reports.careful }

theorem prepareRoute_capabilities {rt : Runtime} {request : ImageRequest} {route : ProviderRoute}
    {name message : String} {answer : Controlled (Outcome ProviderCapabilities)}
    {prepared : PreparedRoute}
    (ok : prepareRoute rt request route name (awaitControlled message answer) = .ok prepared) :
    answer = .finished (.ok prepared.capabilities) := by
  unfold prepareRoute at ok
  obtain ⟨c, found, ok⟩ := Outcome.bind_ok.mp ok
  obtain ⟨_, _, ok⟩ := Outcome.bind_ok.mp ok
  obtain ⟨_, _, ok⟩ := Outcome.bind_ok.mp ok
  obtain ⟨_, _, ok⟩ := Outcome.bind_ok.mp ok
  obtain ⟨_, _, ok⟩ := Outcome.bind_ok.mp ok
  cases ok
  cases answer with
  | elapsed => cases found
  | interrupted interruption => cases interruption <;> cases found
  | finished result =>
    cases result with
    | error e => cases found
    | ok c' =>
      cases found
      rfl

/-- A failed provider call is ambiguous only when its error says so. -/
theorem after_failed {name : String} {finish : ProviderEnd ImageResponse} {e : BridgeError}
    (failed : fromProvider name (awaitProviderExecution finish) = .error e) (progress : Progress) :
    finish.returned = none ∧
      (progress.after finish = .ambiguous ∧ e.outcomeUnknown = true ∨
        progress.after finish = progress) := by
  cases original : awaitProviderExecution finish with
  | ok value =>
    rw [original] at failed
    cases failed
  | error e' =>
    rw [original] at failed
    cases failed
    have none : finish.returned = none := by
      cases returned : finish.returned with
      | none => rfl
      | some value =>
        rw [awaitProviderExecution_ok.mpr returned] at original
        cases original
    refine ⟨none, ?_⟩
    cases ambiguous : finish.ambiguous with
    | false =>
      right
      simp [Progress.after, none, ambiguous]
    | true =>
      left
      refine ⟨by simp [Progress.after, none, ambiguous], ?_⟩
      rw [attachProvider_outcome]
      cases finish with
      | elapsed => cases ambiguous
      | finished result => simpa [ProviderEnd.ambiguous, original] using ambiguous
      | interrupted interruption late => simpa [ProviderEnd.ambiguous, original] using ambiguous

variable {rt : Runtime} {request : ImageRequest} {requestId : String}

theorem executeRouteAdmitted_keeps (delivers : terms.config = rt.materializer.config) (index : Nat)
    (route : ProviderRoute) (name : String) (queueMs : Nat) (may : MayDispatch terms s) :
    Tries (callContract Fingerprint terms)
      (executeRouteAdmitted rt request requestId index route name queueMs) s
      (fun _ t => Served s t) (FailedWith terms s) := by
  unfold executeRouteAdmitted
  rw [tries_bind, tries_call]
  refine ⟨trivial, fun answer _ => ?_⟩
  rw [tries_bind, tries_require]
  refine ⟨fun prepared ready => ?_, fun e _ => may.fails (t := s.discovered answer) rfl rfl e⟩
  have found := prepareRoute_capabilities ready
  subst found
  rw [tries_bind, tries_call]
  have still : MayDispatch terms (s.discovered (.finished (.ok prepared.capabilities))) :=
    ⟨may.live, may.known, may.careful⟩
  refine ⟨still, fun finish modelled => tries_idle rfl fun providerMs _ => ?_⟩
  rw [tries_bind, tries_require]
  constructor
  · intro returned ok
    have value := awaitProviderExecution_ok.mp (fromProvider_ok ok)
    have served : Served s { s.discovered (.finished (.ok prepared.capabilities)) with
        progress := s.progress.after finish } :=
      ⟨rfl, by simp [Progress.after, value]⟩
    have paid : ∀ e, (terms.careful → False) → FailedWith terms s e
        { s.discovered (.finished (.ok prepared.capabilities)) with
          progress := s.progress.after finish } := by
      intro e careless
      refine ⟨rfl, ?_, fun careful => (careless careful).elim⟩
      intro ambiguous
      rw [served.paid] at ambiguous
      cases ambiguous
    rw [tries_bind, tries_require]
    refine ⟨fun _ _ => ?_, fun e mismatch => paid e fun careful => ?_⟩
    · dsimp only
      refine tries_idle rfl fun world delivered => ?_
      rw [tries_bind, tries_require]
      refine ⟨fun response _ => tries_idle rfl fun artifactMs _ => served, fun e failed => ?_⟩
      refine paid e fun careful => ?_
      have fine := delivered careful
      rw [delivers] at fine
      cases world with
      | elapsed => cases fine
      | interrupted interruption => cases fine
      | finished world =>
        have raised : materialize rt.materializer.config world _ = .error e := failed
        simp only [untroubled, raised] at fine
        cases fine
    · have expected := modelled careful
      unfold checkResponseModel at mismatch
      split at mismatch
      · rename_i model discovered
        obtain ⟨differs, _⟩ := (Outcome.failIf_error ..).mp mismatch
        simp only [untroubled, value, Option.all_some] at expected
        have same : prepared.capabilities.model.all (· == returned.model) = true := expected
        rw [discovered, Option.all_some, beq_iff_eq] at same
        exact differs same.symm
      · cases mismatch
  · intro e failed
    obtain ⟨none, ⟨ambiguous, unknown⟩ | unchanged⟩ := after_failed failed s.progress
    · refine ⟨rfl, fun _ => unknown, fun _ => ?_⟩
      show s.progress.after finish ≠ .paid
      rw [ambiguous]
      decide
    · exact may.fails (t := { s.discovered (.finished (.ok prepared.capabilities)) with
        progress := s.progress.after finish }) rfl unchanged e

theorem executeRoute_keeps (delivers : terms.config = rt.materializer.config) (index : Nat)
    (route : ProviderRoute) (may : MayDispatch terms s) :
    Tries (callContract Fingerprint terms) (executeRoute rt request requestId index route) s
      (fun _ t => Served s t) (FailedWith terms s) := by
  unfold executeRoute
  rw [tries_bind, tries_require]
  refine ⟨fun name _ => ?_, fun e _ => may.fails rfl rfl e⟩
  rw [tries_bind, tries_require]
  refine ⟨fun _ _ => ?_, fun e _ => may.fails rfl rfl e⟩
  refine tries_idle rfl fun permit _ => ?_
  rw [tries_bind, tries_require]
  refine ⟨fun _ _ => ?_, fun e _ => may.fails rfl rfl e⟩
  refine tries_idle rfl fun admitted _ => ?_
  rw [tries_bind, tries_require]
  refine ⟨fun _ _ => ?_, fun e _ => may.fails rfl rfl e⟩
  refine tries_idle rfl fun queueMs _ => ?_
  rw [tries_attempt]
  refine (executeRouteAdmitted_keeps delivers index route name queueMs may).mono ?_ ?_
  · intro execution t served
    exact tries_idle rfl fun _ _ => tries_require.mpr
      ⟨fun _ _ => served, fun e impossible => nomatch impossible⟩
  · intro e t failed
    exact tries_idle rfl fun _ _ => tries_require.mpr
      ⟨(fun _ impossible => nomatch impossible), fun e' same => Except.error.inj same ▸ failed⟩

/-- The induction is on the routes left; between two routes the call may dispatch. -/
theorem tryRoutes_keeps (delivers : terms.config = rt.materializer.config) {primaryProvider : String}
    {globalQueueMs : Nat} (rest : List ProviderRoute) :
    ∀ (index : Nat) (attempts : List ProviderAttempt) (t : Phase Fingerprint), t.stage = s.stage →
      MayDispatch terms t →
      Tries (callContract Fingerprint terms)
        (tryRoutes rt request requestId primaryProvider globalQueueMs index rest attempts) t
        (fun _ t => Served s t) (FailedWith terms s) := by
  have moved : ∀ {t u : Phase Fingerprint} {e : BridgeError}, t.stage = s.stage →
      FailedWith terms t e u → FailedWith terms s e u :=
    fun same failed => ⟨failed.stage.trans same, failed.reports⟩
  induction rest with
  | nil =>
    intro index attempts t same may
    rw [tryRoutes, tries_throw]
    exact moved same ((may.fails rfl rfl _).detailed _ (by decide))
  | cons route rest ih =>
    intro index attempts t same may
    rw [tryRoutes]
    refine tries_idle rfl fun _ _ => ?_
    rw [tries_attempt]
    refine (executeRoute_keeps delivers index route may).mono ?_ ?_
    · intro execution u served
      refine tries_idle rfl fun durationMs _ => tries_idle rfl fun totalMs _ => ?_
      dsimp only
      refine tries_idle rfl fun world attaches => tries_require.mpr ⟨fun _ _ => ?_, fun e failed => ?_⟩
      · exact ⟨served.stage.trans same, served.paid⟩
      · refine ⟨served.stage.trans same, fun ambiguous => ?_, fun careful => ?_⟩
        · rw [served.paid] at ambiguous
          cases ambiguous
        · have fine := attaches careful
          rw [delivers] at fine
          simp only [untroubled, failed] at fine
          cases fine
    · intro e u failed
      refine tries_idle rfl fun durationMs _ => ?_
      dsimp only
      split
      · rw [tries_throw]
        exact moved same (failed.detailed _ (by decide))
      · rename_i continues
        simp only [Bool.or_eq_true, Bool.not_eq_true', not_or, Bool.not_eq_false] at continues
        exact ih (index + 1) _ u (failed.stage.trans same) (failed.retries may continues.2)

theorem executeLeader_keeps (delivers : terms.config = rt.materializer.config)
    (may : MayDispatch terms s.admitted) :
    Tries (callContract Fingerprint terms) (executeLeader rt request requestId) s
      (fun _ t => Served s.admitted t) (FailedWith terms s.admitted) := by
  unfold executeLeader
  rw [tries_bind, tries_call]
  refine ⟨trivial, fun admitted _ => ?_⟩
  have entered : (callMonitor Fingerprint).next s .acquireGlobal admitted = s.admitted := rfl
  rw [entered]
  rw [tries_bind, tries_require]
  refine ⟨fun _ _ => ?_, fun e _ => may.fails rfl rfl e⟩
  refine tries_idle rfl fun globalQueueMs _ => ?_
  dsimp only
  rw [tries_bind, tries_require]
  refine ⟨fun _ _ => ?_, fun e _ => may.fails rfl rfl e⟩
  exact tryRoutes_keeps delivers _ 0 [] s.admitted rfl may

/-- The call ends without a token in its hand. -/
def HandsFree (s : Phase Fingerprint) : Prop := ∀ token, s.stage ≠ .leading token

theorem settle_handsFree (s : Phase Fingerprint) : HandsFree s.settle :=
  fun _ impossible => nomatch impossible

theorem lead_keeps (delivers : terms.config = rt.materializer.config)
    (token : IdempotencyToken Fingerprint) (leads : s.stage = .leading token)
    (may : MayDispatch terms s) :
    Tries (callContract Fingerprint terms) (lead rt request requestId (some token)) s
      (fun _ t => HandsFree t) (fun _ t => HandsFree t) := by
  have same := Phase.admitted_leading leads
  unfold lead
  rw [tries_attempt]
  refine (executeLeader_keeps delivers (same.symm ▸ may)).mono ?_ ?_ <;> rw [same]
  · intro response t served
    unfold settle
    rw [tries_bind, tries_call]
    refine ⟨⟨served.stage.trans leads, served.paid⟩, fun _ _ => ?_⟩
    exact tries_require.mpr ⟨fun _ _ => settle_handsFree t, fun _ _ => settle_handsFree t⟩
  · intro e t failed
    unfold settle
    rw [tries_bind, tries_call]
    refine ⟨⟨failed.stage.trans leads, failed.reports⟩, fun _ _ => ?_⟩
    exact tries_require.mpr ⟨fun _ _ => settle_handsFree t, fun _ _ => settle_handsFree t⟩

theorem lead_without_token_keeps (delivers : terms.config = rt.materializer.config)
    (fresh : s.stage = .fresh) (may : MayDispatch terms s.admitted) :
    Tries (callContract Fingerprint terms) (lead rt request requestId none) s
      (fun _ t => HandsFree t) (fun _ t => HandsFree t) := by
  have free : ∀ {t : Phase Fingerprint}, t.stage = s.admitted.stage → HandsFree t := by
    intro t same token leads
    rw [same] at leads
    have impossible := Phase.leading_of_admitted leads
    rw [fresh] at impossible
    cases impossible
  unfold lead
  rw [tries_attempt]
  refine (executeLeader_keeps delivers may).mono ?_ ?_
  · intro response t served
    exact tries_require.mpr ⟨fun _ _ => free served.stage, fun _ _ => free served.stage⟩
  · intro e t failed
    exact tries_require.mpr ⟨fun _ _ => free failed.stage, fun _ _ => free failed.stage⟩

variable {context : ExecutionContext}

theorem coordinate_keeps (delivers : terms.config = rt.materializer.config)
    (keyed : terms.careful → request.idempotencyKey ≠ none)
    (admitted : ∀ key, request.idempotencyKey = some key →
      terms.admits context.idempotencyScope key) :
    Tries (callContract Fingerprint terms) (coordinate rt request context requestId) Phase.start
      (fun _ t => HandsFree t) (fun _ t => HandsFree t) := by
  unfold coordinate
  split
  · rename_i keyless
    refine lead_without_token_keeps delivers rfl ⟨⟨?_, ?_⟩, ?_, fun careful => ?_⟩
    · intro fresh
      cases fresh
    · intro settled
      cases settled
    · intro ambiguous
      cases ambiguous
    · exact absurd keyless (keyed careful)
  · rename_i key present
    rw [tries_bind, tries_call]
    refine ⟨⟨rfl, rfl, admitted key present⟩, fun answer _ => ?_⟩
    rw [tries_bind, tries_require]
    constructor
    · intro action began
      subst began
      cases action with
      | leader token =>
        refine lead_keeps delivers token rfl ⟨⟨?_, ?_⟩, ?_, fun _ => ⟨⟨token, rfl⟩, rfl⟩⟩
        · intro fresh
          cases fresh
        · intro settled
          cases settled
        · intro ambiguous
          cases ambiguous
      | cached response => exact settle_handsFree Phase.start
      | wait receiver =>
        refine tries_idle rfl fun waited _ => ?_
        exact tries_require.mpr ⟨fun _ _ => settle_handsFree _, fun _ _ => settle_handsFree _⟩
    · intro e refused
      subst refused
      exact settle_handsFree Phase.start

/-- Every call keeps the contract. -/
theorem executeWith_keeps (delivers : terms.config = rt.materializer.config)
    (keyed : terms.careful → request.idempotencyKey ≠ none)
    (admitted : ∀ key, request.idempotencyKey = some key →
      terms.admits context.idempotencyScope key) :
    Tries (callContract Fingerprint terms) (executeWith rt request context) Phase.start
      (fun _ t => HandsFree t) (fun _ t => HandsFree t) := by
  have free : HandsFree (Phase.start : Phase Fingerprint) := fun token impossible => nomatch impossible
  unfold executeWith
  refine tries_idle rfl fun early _ => ?_
  rw [tries_bind, tries_require]
  refine ⟨fun _ _ => ?_, fun _ _ => free⟩
  refine tries_idle rfl fun entered _ => ?_
  rw [tries_bind, tries_require]
  refine ⟨fun _ _ => ?_, fun _ _ => free⟩
  rw [tries_bind, tries_require]
  refine ⟨fun _ _ => ?_, fun _ _ => free⟩
  have rest : ∀ requestId, Tries (callContract Fingerprint terms) (do
      let overflows ← call (.deadlineOverflows (request.timeoutMs.getD rt.defaultTimeoutMs))
      require (Outcome.failIf (overflows = true) (configurationError "request deadline overflowed"))
      coordinate rt request context requestId) Phase.start
      (fun _ t => HandsFree t) (fun _ t => HandsFree t) := by
    intro requestId
    refine tries_idle rfl fun overflows _ => ?_
    rw [tries_bind, tries_require]
    exact ⟨fun _ _ => coordinate_keeps delivers keyed admitted, fun _ _ => free⟩
  split
  · exact tries_idle rfl fun id _ => rest id
  · rw [tries_bind, tries_require]
    exact ⟨fun id _ => rest id, fun _ _ => free⟩

end Rules

end ImagegenBridge.Orchestrator
