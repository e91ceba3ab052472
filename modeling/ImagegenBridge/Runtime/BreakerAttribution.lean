import ImagegenBridge.Runtime.CallContract
import ImagegenBridge.Runtime.CircuitBreaker
import ImagegenBridge.Runtime.Fallback
import ImagegenBridge.Runtime.MaterializeFaults

/-!
# What a route reports to its breaker

The permit of a route is finished with the result of the whole admitted pipeline.
After a returned result the breaker counts a failure exactly when the model differs,
the deadline wins during materialization, or the materializer ends with a counted code.
-/

namespace ImagegenBridge.Orchestrator

open Materialize Program
open CircuitBreaker (CircuitBreakerConfig Inner PermitKind complete abandon countsAsFailure)

variable {Fingerprint : Type} {config : MaterializationConfig}

/-- What a route has seen: the discovered model, the returned result with the request
it answers, and the materialization of it. -/
structure Observed where
  expectedModel : Option String := none
  returned : Option (ImageResponse × ImageRequest) := none
  delivery : Option (Job × Controlled World) := none

def Observed.next (s : Observed) : (op : Op Fingerprint) → op.Ans → Observed
  | .capabilities .., .finished (.ok capabilities) => { s with expectedModel := capabilities.model }
  | .execute _ _ effective, finish => { s with returned := finish.returned.map (·, effective) }
  | .materialize _ job, answer => { s with delivery := some (job, answer) }
  | _, _ => s

abbrev observer (Fingerprint : Type) : Monitor (calls Fingerprint) where
  State := Observed
  next := Observed.next

/-- The deadline won against the materialization. -/
def Late : Controlled World → Prop
  | .elapsed | .interrupted .deadline => True
  | _ => False

/-- What the materialization of a complete output set may be blamed on the provider for. -/
def Blamed (config : MaterializationConfig) (job : Job) : Controlled World → Prop
  | .finished world => VerificationFails config world job ∨ DeliveryFails config world job
  | _ => False

/-- A stage after a returned result ends as the breaker counts it. -/
def Faulted (config : MaterializationConfig) (s : Observed) (response : ImageResponse) : Prop :=
  (∃ expected, s.expectedModel = some expected ∧ response.model ≠ expected) ∨
    ∃ job answer, s.delivery = some (job, answer) ∧ (Late answer ∨ Blamed config job answer)

/-- The result of the pipeline is counted as a failure. -/
def CountedFailure (failure : Option BridgeError) : Prop := ∃ e, failure = some e ∧ Counted e

/-- After a complete output set was returned, the result is counted exactly when a
later stage faulted. -/
def Judged (config : MaterializationConfig) (s : Observed) (failure : Option BridgeError) : Prop :=
  ∀ response effective, s.returned = some (response, effective) →
    ValidOutputSet response effective → (CountedFailure failure ↔ Faulted config s response)

abbrev reportContract (Fingerprint : Type) (config : MaterializationConfig) :
    Contract (observer Fingerprint) where
  Allow := fun s op => match op with
    | .finishBreaker _ _ failure => Judged config s failure
    | _ => True
  Expect := fun _ _ _ => True

section Rules

variable {α β : Type} {s : Observed}

theorem tries_unobserved {op : Op Fingerprint} {f : op.Ans → Task Fingerprint β}
    {ok : β → Observed → Prop} {failed : BridgeError → Observed → Prop}
    (allowed : (reportContract Fingerprint config).Allow s op)
    (unseen : ∀ answer, s.next op answer = s)
    (rest : ∀ answer, Tries (reportContract Fingerprint config) (f answer) s ok failed) :
    Tries (reportContract Fingerprint config) (call op >>= f) s ok failed := by
  rw [tries_bind, tries_call]
  refine ⟨allowed, fun answer _ => ?_⟩
  rw [show (observer Fingerprint).next s op answer = s from unseen answer]
  exact rest answer

/-- Nothing is judged before a result is returned. -/
theorem judged_before (unreturned : s.returned = none) (failure : Option BridgeError) :
    Judged config s failure := by
  intro response effective returned
  rw [unreturned] at returned
  cases returned

theorem timeout_counted : Counted timeoutError := rfl

theorem cancelled_uncounted (message : String) : ¬Counted (cancelledError message) :=
  Bool.false_ne_true

end Rules

theorem materialized_counted_iff {job : Job} {answer : Controlled World}
    (valid : ValidOutputSet job.response job.effective) :
    CountedFailure (failureOf (awaitControlled "request was cancelled during output materialization"
      (answer.map (materialize config · job)))) ↔ Late answer ∨ Blamed config job answer := by
  cases answer with
  | elapsed => exact iff_of_true ⟨_, rfl, timeout_counted⟩ (Or.inl trivial)
  | interrupted interruption =>
    cases interruption with
    | deadline => exact iff_of_true ⟨_, rfl, timeout_counted⟩ (Or.inl trivial)
    | cancelled =>
      refine iff_of_false ?_ (by simp [Late, Blamed])
      rintro ⟨e, same, counted⟩
      cases same
      exact cancelled_uncounted _ counted
    | shutdown =>
      refine iff_of_false ?_ (by simp [Late, Blamed])
      rintro ⟨e, same, counted⟩
      cases same
      exact cancelled_uncounted _ counted
  | finished world =>
    simp only [Late, Blamed, false_or]
    rw [← materialize_counted_iff valid]
    simp only [Controlled.map, awaitControlled]
    cases materialize config world job with
    | ok response => simp [failureOf, CountedFailure]
    | error e => simp [failureOf, CountedFailure]

variable {rt : Runtime} {request : ImageRequest} {requestId : String}

/-- The two ways a route's pipeline ends, judged. -/
abbrev JudgedOk (config : MaterializationConfig) (_ : RouteExecution) (t : Observed) : Prop :=
  Judged config t none

abbrev JudgedError (config : MaterializationConfig) (e : BridgeError) (t : Observed) : Prop :=
  Judged config t (some e)

/-- The materializer's answer is judged like the result it is turned into. -/
theorem judged_delivery {s : Observed} {job : Job} {answer : Controlled World}
    {failure : Option BridgeError} (returned : ImageResponse)
    (only : ∀ response effective, s.returned = some (response, effective) →
      response = returned ∧ effective = job.effective)
    (matches_ : ∀ expected, s.expectedModel = some expected → returned.model = expected)
    (shown : ∀ effective, ValidOutputSet returned effective → ValidOutputSet job.response effective)
    (delivered : s.delivery = some (job, answer))
    (result : failure = failureOf (awaitControlled
      "request was cancelled during output materialization"
      (answer.map (materialize config · job)))) : Judged config s failure := by
  intro response effective found valid
  obtain ⟨rfl, rfl⟩ := only response effective found
  rw [result, materialized_counted_iff (shown _ valid)]
  constructor
  · intro faulted
    exact Or.inr ⟨job, answer, delivered, faulted⟩
  · rintro (⟨expected, known, differs⟩ | ⟨job', answer', same, faulted⟩)
    · exact absurd (matches_ expected known) differs
    · rw [delivered] at same
      cases same
      exact faulted

/-- A model that differs is counted. -/
theorem checkResponseModel_judged {name : String} {c : ProviderCapabilities}
    {response : ImageResponse} :
    (checkResponseModel name c response = .ok () ↔
      ∀ expected, c.model = some expected → response.model = expected) ∧
      ∀ e, checkResponseModel name c response = .error e → Counted e := by
  unfold checkResponseModel
  cases c.model with
  | none => exact ⟨⟨fun _ _ impossible => (nomatch impossible), fun _ => rfl⟩,
      fun _ impossible => nomatch impossible⟩
  | some expected =>
    constructor
    · rw [Outcome.failIf_ok]
      constructor
      · intro same expected' known
        cases known
        exact Decidable.not_not.mp same
      · intro same
        exact Decidable.not_not.mpr (same expected rfl)
    · intro e failed
      obtain ⟨_, rfl⟩ := (Outcome.failIf_error ..).mp failed
      rfl

theorem executeRouteAdmitted_judged (index : Nat) (route : ProviderRoute) (name : String)
    (queueMs : Nat) : Tries (reportContract Fingerprint rt.materializer.config)
      (executeRouteAdmitted rt request requestId index route name queueMs) {}
      (JudgedOk rt.materializer.config) (JudgedError rt.materializer.config) := by
  unfold executeRouteAdmitted
  rw [tries_bind, tries_call]
  refine ⟨trivial, fun discovered _ => ?_⟩
  have unreturned : ((observer Fingerprint).next {} (.capabilities index name route.model)
      discovered).returned = none := by
    cases discovered with
    | finished result => cases result <;> rfl
    | _ => rfl
  rw [tries_bind, tries_require]
  refine ⟨fun prepared ok => ?_, fun e _ => judged_before unreturned _⟩
  have known := prepareRoute_capabilities ok
  subst known
  rw [tries_bind, tries_call]
  refine ⟨trivial, fun finish _ => ?_⟩
  refine tries_unobserved trivial (fun _ => rfl) fun providerMs => ?_
  rw [tries_bind, tries_require]
  constructor
  · intro returned served
    have value : finish.returned = some returned :=
      awaitProviderExecution_ok.mp (fromProvider_ok served)
    rw [tries_bind, tries_require]
    constructor
    · intro _ same
      dsimp only
      rw [tries_bind, tries_call]
      refine ⟨trivial, fun answer _ => ?_⟩
      rw [tries_bind, tries_require]
      have judged : ∀ (s : Observed) failure, s.returned = some (returned, prepared.effective) →
          s.expectedModel = prepared.capabilities.model → failure = failureOf (awaitControlled
            "request was cancelled during output materialization"
            (answer.map (materialize rt.materializer.config ·
              (routeJob requestId name request prepared returned queueMs providerMs)))) →
          Judged rt.materializer.config (s.next (.materialize index
            (routeJob requestId name request prepared returned queueMs providerMs) : Op Fingerprint)
            answer)
            failure := by
        intro s failure value model result
        refine judged_delivery returned ?_ ?_ (fun effective valid => valid) rfl result
        · intro response effective found
          rw [show s.returned = some (response, effective) from found] at value
          cases value
          exact ⟨rfl, rfl⟩
        · intro expected known
          exact checkResponseModel_judged.1.mp same expected (model.symm.trans known)
      have kept : finish.returned.map (·, prepared.effective) = some (returned, prepared.effective) := by
        rw [value]
        rfl
      constructor
      · intro response done
        exact tries_unobserved trivial (fun _ => rfl) fun artifactMs =>
          judged _ none kept rfl (by rw [done]; rfl)
      · intro e failed
        exact judged _ (some e) kept rfl (by rw [failed]; rfl)
    · intro e failed response effective found valid
      simp only [Observed.next, value, Option.map_some, Option.some.injEq,
        Prod.mk.injEq] at found
      obtain ⟨rfl, rfl⟩ := found
      refine iff_of_true ⟨e, rfl, checkResponseModel_judged.2 e failed⟩ (Or.inl ?_)
      by_contra matched
      have same : ∀ expected, prepared.capabilities.model = some expected →
          returned.model = expected := by
        intro expected known
        by_contra differs
        exact matched ⟨expected, known, differs⟩
      rw [checkResponseModel_judged.1.mpr same] at failed
      cases failed
  · intro e failed
    apply judged_before
    obtain ⟨e', original⟩ := fromProvider_error failed
    have none : finish.returned = none := by
      cases value : finish.returned with
      | none => rfl
      | some response =>
        rw [awaitProviderExecution_ok.mpr value] at original
        cases original
    simp only [Observed.next, none, Option.map_none]

/-- Whatever a route finishes its permit with is judged. -/
theorem executeRoute_judged (index : Nat) (route : ProviderRoute) :
    Tries (reportContract Fingerprint rt.materializer.config)
      (executeRoute rt request requestId index route) {} (fun _ _ => True) (fun _ _ => True) := by
  unfold executeRoute
  rw [tries_bind, tries_require]
  refine ⟨fun name _ => ?_, fun _ _ => trivial⟩
  rw [tries_bind, tries_require]
  refine ⟨fun _ _ => ?_, fun _ _ => trivial⟩
  refine tries_unobserved trivial (fun _ => rfl) fun permit => ?_
  rw [tries_bind, tries_require]
  refine ⟨fun _ _ => ?_, fun _ _ => trivial⟩
  refine tries_unobserved trivial (fun _ => rfl) fun admitted => ?_
  rw [tries_bind, tries_require]
  refine ⟨fun _ _ => ?_, fun _ _ => trivial⟩
  refine tries_unobserved trivial (fun _ => rfl) fun queueMs => ?_
  rw [tries_attempt]
  refine (executeRouteAdmitted_judged index route name queueMs).mono ?_ ?_
  · intro execution t judged
    exact tries_unobserved judged (fun _ => rfl) fun _ => tries_require.mpr
      ⟨fun _ _ => trivial, fun _ _ => trivial⟩
  · intro e t judged
    exact tries_unobserved judged (fun _ => rfl) fun _ => tries_require.mpr
      ⟨fun _ _ => trivial, fun _ _ => trivial⟩

/-- What a run has shown its observer. -/
def observed (trace : List (Exchange (calls Fingerprint))) : Observed :=
  (observer Fingerprint).after {} trace

/-- A closed circuit stays closed and does not come nearer to opening. -/
def Spared (before after : Inner) : Prop :=
  ∀ failures, before.phase = .closed failures → ∃ fewer ≤ failures, after.phase = .closed fewer

/-- A permit that is not finished with a counted failure spares every circuit. -/
theorem uncounted_spares {failure : Option BridgeError} (uncounted : ¬CountedFailure failure)
    (config : CircuitBreakerConfig) (now : Nat) (kind : PermitKind) (inner : Inner) :
    Spared inner (complete config now kind failure inner) := by
  have harmless : CircuitBreaker.verdict failure ≠ .failed := by
    cases failure with
    | none => nofun
    | some e =>
      have calm : countsAsFailure e = false := by
        simpa [CountedFailure] using uncounted
      simp [CircuitBreaker.verdict, calm]
  intro failures phase
  unfold complete
  split
  · unfold CircuitBreaker.settle
    rw [phase]
    cases kind with
    | closed epoch =>
      cases outcome : CircuitBreaker.verdict failure with
      | healthy => exact ⟨0, Nat.zero_le _, rfl⟩
      | failed => exact absurd outcome harmless
      | neutral => exact ⟨failures, Nat.le_refl _, phase⟩
    | halfOpen epoch => exact ⟨failures, Nat.le_refl _, phase⟩
    | disabled => exact ⟨failures, Nat.le_refl _, phase⟩
  · exact ⟨failures, Nat.le_refl _, phase⟩

theorem abandon_spares (kind : PermitKind) (inner : Inner) : Spared inner (abandon kind inner) := by
  intro failures phase
  refine ⟨failures, Nat.le_refl _, ?_⟩
  unfold abandon
  rw [phase]
  cases kind <;> exact phase

/-- The first circuit, under the default configuration, counts a counted failure. -/
theorem counted_advances {failure : Option BridgeError} (counted : CountedFailure failure) :
    ¬Spared .initial (complete {} 0 (.closed 0) failure .initial) := by
  obtain ⟨e, rfl, counts⟩ := counted
  intro spared
  obtain ⟨fewer, none, phase⟩ := spared 0 rfl
  have advanced : (complete {} 0 (.closed 0) (some e) .initial).phase = .closed 1 := by
    simp [complete, PermitKind.epoch, CircuitBreaker.settle, CircuitBreaker.verdict, counts,
      Inner.initial, CircuitBreaker.saturatingAdd32, CircuitBreaker.u32Max]
  rw [advanced] at phase
  cases phase
  omega

/-- Once a provider returned a complete output set, the end of the route spares every
circuit exactly when no later stage faulted: the model is the discovered one, the
deadline does not win during materialization, and the materializer raises no error
about the images or the size of the response. A dropped permit spares every circuit. -/
theorem spared_iff_not_faulted {index : Nat} {route : ProviderRoute}
    {trace : List (Exchange (calls Fingerprint))} {i : Nat} {name : String}
    {failure : Option BridgeError} {next : Unit → Program (calls Fingerprint) _}
    {response : ImageResponse} {effective : ImageRequest}
    (run : Follows (executeRoute rt request requestId index route).run trace
      (.await (.finishBreaker i name failure) next))
    (returned : (observed trace).returned = some (response, effective))
    (valid : ValidOutputSet response effective) :
    ((∀ config now kind inner, Spared inner (complete config now kind failure inner)) ↔
      ¬Faulted rt.materializer.config (observed trace) response) ∧
    ∀ kind inner, Spared inner (abandon kind inner) := by
  have kept : Tries (reportContract Fingerprint rt.materializer.config)
      (executeRoute rt request requestId index route) {} (fun _ _ => True) (fun _ _ => True) :=
    executeRoute_judged index route
  have judged : Judged rt.materializer.config (observed trace) failure :=
    (kept.follows run (expectsAll_free (fun _ _ _ => trivial) _ trace)).1
  have counted := judged response effective returned valid
  refine ⟨?_, abandon_spares⟩
  rw [← counted]
  constructor
  · intro spared failed
    exact counted_advances failed (spared {} 0 (.closed 0) .initial)
  · intro uncounted config now kind inner
    exact uncounted_spares uncounted config now kind inner

section SlowDelivery

/-- The deadline wins while a returned image is materialized. -/
def deliversLate : (op : Op Unit) → op.Ans
  | .materialize .. => .interrupted .deadline
  | op => serves hostedResponse op

def lateRoute : List (Exchange (calls Unit)) × Outcome RouteExecution :=
  (executeRoute plainRuntime twoRoutes "request" 0 ⟨"primary", none⟩).run.drive deliversLate

/-- The exchange finishes a permit with a counted failure. -/
def reportsFailure : Exchange (calls Unit) → Bool
  | ⟨.finishBreaker _ _ failure, _⟩ => failure.any countsAsFailure
  | _ => false

/-- A complete output set has been returned. -/
def returnedValid (s : Observed) : Bool :=
  s.returned.any fun (response, effective) => (validateOutputSet response effective.parameters.n
    effective.parameters.failurePolicy).toBool

theorem lateRoute_reports : (lateRoute.1.getLast?.any reportsFailure = true) ∧
    returnedValid (observed lateRoute.1.dropLast) = true := by
  decide +kernel

theorem reportsFailure_spec {exchange : Exchange (calls Unit)} (reports : reportsFailure exchange = true) :
    ∃ i name failure, exchange.op = .finishBreaker i name failure ∧ CountedFailure failure := by
  obtain ⟨op, answer⟩ := exchange
  cases op with
  | finishBreaker i name failure =>
    refine ⟨i, name, failure, rfl, ?_⟩
    cases failure with
    | none => cases reports
    | some e => exact ⟨e, rfl, reports⟩
  | _ => cases reports

theorem returnedValid_spec {s : Observed} (valid : returnedValid s = true) :
    ∃ response effective, s.returned = some (response, effective) ∧
      ValidOutputSet response effective := by
  unfold returnedValid at valid
  cases returned : s.returned with
  | none =>
    rw [returned] at valid
    cases valid
  | some pair =>
    rw [returned] at valid
    refine ⟨pair.1, pair.2, rfl, ?_⟩
    unfold ValidOutputSet
    cases checked : validateOutputSet pair.1 pair.2.parameters.n pair.2.parameters.failurePolicy with
    | ok _ => rfl
    | error e =>
      simp only [Option.any_some, checked, Except.toBool] at valid
      cases valid

/-- The run up to the permit's end: a counted failure after a complete output set. -/
theorem lateRoute_ends : ∃ (trace : List (Exchange (calls Unit))) (i : Nat) (name : String)
    (failure : Option BridgeError) (next : Unit → Program (calls Unit) _) (response : ImageResponse)
    (effective : ImageRequest),
    Follows (executeRoute plainRuntime twoRoutes "request" 0 ⟨"primary", none⟩).run trace
      (.await (.finishBreaker i name failure) next) ∧
    (observed trace).returned = some (response, effective) ∧ ValidOutputSet response effective ∧
    CountedFailure failure := by
  obtain ⟨reports, returned⟩ := lateRoute_reports
  cases last : lateRoute.1.getLast? with
  | none =>
    rw [last] at reports
    cases reports
  | some exchange =>
    rw [last] at reports
    obtain ⟨i, name, failure, finishes, counted⟩ := reportsFailure_spec reports
    obtain ⟨response, effective, given, valid⟩ := returnedValid_spec returned
    have split : lateRoute.1 = lateRoute.1.dropLast ++ exchange :: [] :=
      (List.dropLast_append_getLast? exchange last).symm
    have run : Follows (executeRoute plainRuntime twoRoutes "request" 0 ⟨"primary", none⟩).run
        (lateRoute.1.dropLast ++ exchange :: []) (.done lateRoute.2) := by
      rw [← split]
      exact drive_follows deliversLate
        (executeRoute plainRuntime twoRoutes "request" 0 ⟨"primary", none⟩).run
    obtain ⟨next, reached⟩ := run.awaits
    obtain ⟨op, answer⟩ := exchange
    cases finishes
    exact ⟨_, i, name, failure, next, response, effective, reached, given, valid, counted⟩

/-- A provider returns its image in time, the deadline fires while the bridge
materializes it, and the closed circuit counts a dependency failure. -/
theorem slow_delivery_blamed : ∃ (rt : Runtime) (request : ImageRequest) (route : ProviderRoute)
    (trace : List (Exchange (calls Unit))) (i : Nat) (name : String) (failure : Option BridgeError)
    (next : Unit → Program (calls Unit) _) (response : ImageResponse) (effective : ImageRequest),
    Follows (executeRoute rt request "request" 0 route).run trace
      (.await (.finishBreaker i name failure) next) ∧
    (observed trace).returned = some (response, effective) ∧ ValidOutputSet response effective ∧
    ¬Spared .initial (complete {} 0 (.closed 0) failure .initial) := by
  obtain ⟨trace, i, name, failure, next, response, effective, run, returned, valid, counted⟩ :=
    lateRoute_ends
  exact ⟨_, _, _, trace, i, name, failure, next, response, effective, run, returned, valid,
    counted_advances counted⟩

/-- In that run a stage after the result faulted. -/
theorem slow_delivery_faulted : ∃ (trace : List (Exchange (calls Unit))) (response : ImageResponse),
    Faulted plainRuntime.materializer.config (observed trace) response := by
  obtain ⟨trace, i, name, failure, next, response, effective, run, returned, valid, counted⟩ :=
    lateRoute_ends
  refine ⟨trace, response, ?_⟩
  by_contra fine
  exact counted_advances counted
    ((spared_iff_not_faulted run returned valid).1.mpr fine {} 0 (.closed 0) .initial)

end SlowDelivery

end ImagegenBridge.Orchestrator
