import ImagegenBridge.Lib.Runs
import ImagegenBridge.Runtime.Fallback

/-!
# The routes a leader attempts

A leg is one attempt: its route, how `execute_route` ended, and how long it took. A finished run
of a leader is a list of legs, and what it answers reports them, unless the metadata of the
response that was served cannot be attached.
-/

namespace ImagegenBridge.Orchestrator

open Materialize Program Outcome

variable {Fingerprint : Type}

structure Leg where
  route : ProviderRoute
  outcome : Outcome RouteExecution
  durationMs : Nat

namespace Leg

/-- The entry of the list of attempts that reports the leg. -/
def entry (leg : Leg) : ProviderAttempt :=
  match leg.outcome with
  | .ok execution =>
    ⟨execution.response.provider, some execution.response.model, .succeeded, none, leg.durationMs⟩
  | .error e => ⟨leg.route.provider, leg.route.model, .failed, some e.code, leg.durationMs⟩

/-- The leg failed, and the next route may be tried. -/
def passes (policy : FallbackPolicy) (leg : Leg) : Bool :=
  match leg.outcome with
  | .ok _ => false
  | .error e => shouldFallback e policy

end Leg

/-- A step of a route, or the start of one. -/
def ofRoute : Exchange (calls Fingerprint) → Bool
  | ⟨.attempt _, _⟩ | ⟨.acquireBreaker .., _⟩ | ⟨.acquireProvider .., _⟩ | ⟨.capabilities .., _⟩
  | ⟨.execute .., _⟩ | ⟨.materialize .., _⟩ | ⟨.finishBreaker .., _⟩ => true
  | _ => false

/-- The metadata of a response cannot be attached. -/
def AttachFails (config : MaterializationConfig) : Exchange (calls Fingerprint) → Prop
  | ⟨.attachMetadata _ original effective response, world⟩ =>
    ∃ e, Materialize.attachMetadata config world original effective response = .error e
  | _ => False

section Legs

variable (rt : Runtime) (request : ImageRequest) (requestId : String)

/-- The runs of some legs, one after the other. -/
inductive Legs : Nat → List Leg → List (Exchange (calls Fingerprint)) → Prop
  | nil {index : Nat} : Legs index [] []
  | cons {index : Nat} {leg : Leg} {legs : List Leg} {trace rest : List (Exchange (calls Fingerprint))} :
      Follows (executeRoute rt request requestId index leg.route).run trace (.done leg.outcome) →
      Legs (index + 1) legs rest →
      Legs index (leg :: legs)
        (⟨.attempt index, ()⟩ :: (trace ++ ⟨.elapsed, leg.durationMs⟩ :: rest))

end Legs

/-- Which routes are attempted, and where the attempts stop. -/
inductive Walk (policy : FallbackPolicy) : List ProviderRoute → List Leg → Prop
  | stops {leg : Leg} {rest : List ProviderRoute} : leg.passes policy = false ∨ rest = [] →
      Walk policy (leg.route :: rest) [leg]
  | passes {leg : Leg} {rest : List ProviderRoute} {legs : List Leg} : leg.passes policy = true →
      Walk policy rest legs → Walk policy (leg.route :: rest) (leg :: legs)

/-- The routes of the legs are a prefix of the resolved ones and distinct. All legs but the last
failed in a way that lets the next route be tried, and the last did not, or was the last route. -/
structure Disciplined (policy : FallbackPolicy) (routes : List ProviderRoute) (legs : List Leg) :
    Prop where
  inOrder : legs.map Leg.route <+: routes
  distinct : (legs.map Leg.route).Nodup
  passed : ∀ leg ∈ legs.dropLast, leg.passes policy = true
  stopped : ∀ leg ∈ legs.getLast?, leg.passes policy = false ∨ legs.length = routes.length

/-- A result reports some attempts. -/
structure Reports (request : ImageRequest) (attempts : List ProviderAttempt)
    (result : Outcome ImageResponse) : Prop where
  response : ∀ response, result = .ok response → request.routing.fallbacks ≠ [] →
    response.attempts = attempts
  error : ∀ e, result = .error e →
    e.details.lookup "attempts" = some (.array (attempts.map attemptJson))

/-! ## The loop -/

variable {rt : Runtime} {request : ImageRequest} {requestId : String}

theorem attachMetadata_attempts {config : MaterializationConfig} {world : World}
    {original effective : ImageRequest} {response attached : ImageResponse}
    (ok : Materialize.attachMetadata config world original effective response = .ok attached) :
    attached.attempts = response.attempts := by
  unfold Materialize.attachMetadata at ok
  split at ok
  · cases ok
    rfl
  · obtain ⟨_, _, ok⟩ := bind_ok.mp ok
    obtain ⟨data, _, ok⟩ := bind_ok.mp ok
    cases ok
    rfl

theorem reports_error {attempts : List ProviderAttempt} {e : BridgeError}
    (listed : e.details.lookup "attempts" = some (.array (attempts.map attemptJson))) :
    Reports request attempts (.error e) := by
  refine ⟨(fun _ impossible => nomatch impossible), fun reported same => ?_⟩
  rw [← Except.error.inj same]
  exact listed

theorem reports_ok {attempts : List ProviderAttempt} {response : ImageResponse}
    (listed : request.routing.fallbacks ≠ [] → response.attempts = attempts) :
    Reports request attempts (.ok response) := by
  refine ⟨fun reported same => ?_, (fun _ impossible => nomatch impossible)⟩
  rw [← Except.ok.inj same]
  exact listed

theorem withAttempts_listed (e : BridgeError) (attempts : List ProviderAttempt) :
    (withAttempts e attempts).details.lookup "attempts" =
      some (.array (attempts.map attemptJson)) :=
  lookup_insertField_self "attempts" _ e.details

/-- How a loop over some routes ends, after the attempts before it. -/
structure Ended (rt : Runtime) (request : ImageRequest) (requestId : String) (index : Nat)
    (routes : List ProviderRoute) (before : List ProviderAttempt) (legs : List Leg)
    (trace closing : List (Exchange (calls Fingerprint))) (result : Outcome ImageResponse) :
    Prop where
  ran : Legs rt request requestId index legs trace
  closed : ∀ exchange ∈ closing, ofRoute exchange = false
  walked : Walk request.routing.fallbackPolicy routes legs
  reports : (∀ exchange ∈ closing, ¬AttachFails rt.materializer.config exchange) →
    Reports request (before ++ legs.map Leg.entry) result

/-- How a loop ends that the recorder has watched. -/
def EndsWith (rt : Runtime) (request : ImageRequest) (requestId : String) (index : Nat)
    (routes : List ProviderRoute) (before : List ProviderAttempt)
    (s t : List (Exchange (calls Fingerprint))) (result : Outcome ImageResponse) : Prop :=
  ∃ legs trace closing, t = s ++ (trace ++ closing) ∧
    Ended rt request requestId index routes before legs trace closing result

/-- The last leg of a loop. -/
theorem ends_last {index : Nat} (leg : Leg) {rest : List ProviderRoute}
    {before : List ProviderAttempt} {s t run : List (Exchange (calls Fingerprint))}
    (closing : List (Exchange (calls Fingerprint))) {result : Outcome ImageResponse}
    (reached : t = s ++ [⟨.attempt index, ()⟩] ++ run ++ [⟨.elapsed, leg.durationMs⟩] ++ closing)
    (ran : Follows (executeRoute rt request requestId index leg.route).run run (.done leg.outcome))
    (stopped : leg.passes request.routing.fallbackPolicy = false ∨ rest = [])
    (closed : ∀ exchange ∈ closing, ofRoute exchange = false)
    (reports : (∀ exchange ∈ closing, ¬AttachFails rt.materializer.config exchange) →
      Reports request (before ++ [leg.entry]) result) :
    EndsWith rt request requestId index (leg.route :: rest) before s t result :=
  ⟨[leg], _, closing, by simp [reached], .cons ran .nil, closed, .stops stopped, reports⟩

theorem ends_failed {index : Nat} {route : ProviderRoute} {e : BridgeError} (durationMs : Nat)
    {rest : List ProviderRoute} {before : List ProviderAttempt}
    {s run : List (Exchange (calls Fingerprint))}
    (ran : Follows (executeRoute rt request requestId index route).run run (.done (.error e)))
    (stopped : shouldFallback e request.routing.fallbackPolicy = false ∨ rest = []) :
    EndsWith rt request requestId index (route :: rest) before s
      (s ++ [⟨.attempt index, ()⟩] ++ run ++ [⟨.elapsed, durationMs⟩])
      (.error (withAttempts e (before ++
        [⟨route.provider, route.model, .failed, some e.code, durationMs⟩]))) := by
  have listed := withAttempts_listed e (before ++
    [⟨route.provider, route.model, .failed, some e.code, durationMs⟩])
  generalize withAttempts e _ = final at listed ⊢
  exact ends_last ⟨route, .error e, durationMs⟩ [] (List.append_nil _).symm ran stopped
    (List.forall_mem_nil _) fun _ => reports_error listed

/-- A leg before the last one. -/
theorem ends_passes {index : Nat} (leg : Leg) {rest : List ProviderRoute}
    {before : List ProviderAttempt} {s run t : List (Exchange (calls Fingerprint))}
    {result : Outcome ImageResponse}
    (ended : EndsWith rt request requestId (index + 1) rest (before ++ [leg.entry])
      (s ++ [⟨.attempt index, ()⟩] ++ run ++ [⟨.elapsed, leg.durationMs⟩]) t result)
    (ran : Follows (executeRoute rt request requestId index leg.route).run run (.done leg.outcome))
    (passes : leg.passes request.routing.fallbackPolicy = true) :
    EndsWith rt request requestId index (leg.route :: rest) before s t result := by
  obtain ⟨legs, trace, closing, rfl, ended⟩ := ended
  refine ⟨leg :: legs, _, closing, ?_, .cons ran ended.ran, ended.closed,
    .passes passes ended.walked, ?_⟩
  · simp
  · simpa using ended.reports

theorem tryRoutes_ends {primaryProvider : String} {globalQueueMs : Nat}
    (routes : List ProviderRoute) (some_left : routes ≠ []) :
    ∀ (index : Nat) (before : List ProviderAttempt) (s : List (Exchange (calls Fingerprint))),
      Tries (anyRun (calls Fingerprint))
        (tryRoutes rt request requestId primaryProvider globalQueueMs index routes before) s
        (fun response t => EndsWith rt request requestId index routes before s t (.ok response))
        (fun e t => EndsWith rt request requestId index routes before s t (.error e)) := by
  induction routes with
  | nil => exact absurd rfl some_left
  | cons route rest ih =>
    intro index before s
    rw [tryRoutes, tries_bind, tries_call]
    refine ⟨trivial, fun _ _ => ?_⟩
    rw [tries_attempt]
    refine (tries_recorded _ _).mono ?_ ?_
    · rintro execution _ ⟨run, rfl, ran⟩
      rw [tries_bind, tries_call]
      refine ⟨trivial, fun durationMs _ => ?_⟩
      dsimp only
      rw [tries_bind, tries_call]
      refine ⟨trivial, fun totalMs _ => ?_⟩
      rw [tries_bind, tries_call]
      refine ⟨trivial, fun world _ => ?_⟩
      rw [tries_require]
      constructor
      · intro attached ok
        refine ends_last ⟨route, .ok execution, durationMs⟩ [_, _] (List.append_assoc _ [_] [_]) ran
          (.inl rfl) ?_ fun _ => reports_ok fun given => ?_
        · simp [ofRoute]
        · rw [attachMetadata_attempts ok]
          simp [recordRouting, given, Leg.entry]
      · intro e failed
        refine ends_last ⟨route, .ok execution, durationMs⟩ [_, _] (List.append_assoc _ [_] [_]) ran
          (.inl rfl) ?_ fun attaches => ?_
        · simp [ofRoute]
        · exact (attaches _ (.tail _ (.head _)) ⟨e, failed⟩).elim
    · rintro e _ ⟨run, rfl, ran⟩
      rw [tries_bind, tries_call]
      refine ⟨trivial, fun durationMs _ => ?_⟩
      dsimp only
      split
      · rename_i stops
        rw [tries_throw]
        refine ends_failed durationMs ran ?_
        simpa [or_comm] using stops
      · rename_i continues
        simp only [Bool.or_eq_true, Bool.not_eq_true', not_or, Bool.not_eq_false,
          List.isEmpty_iff] at continues
        refine (ih continues.1 (index + 1) _ _).mono ?_ ?_
        · intro response t ended
          exact ends_passes ⟨route, .error e, durationMs⟩ ended ran continues.2
        · intro final t ended
          exact ends_passes ⟨route, .error e, durationMs⟩ ended ran continues.2

/-! ## Distinct routes -/

theorem checkRoutes_distinct {routes : List ProviderRoute} (checked : checkRoutes routes = .ok ()) :
    routes.Nodup := by
  have unique : duplicateRoute routes = none := by
    unfold checkRoutes at checked
    split at checked
    · assumption
    · cases checked
  have absent := List.find?_eq_none.mp (Option.map_eq_none_iff.mp unique)
  refine List.pairwise_iff_getElem.mpr fun i j first second before same => ?_
  have listed : (routes[j], j) ∈ routes.zipIdx := by
    rw [List.mk_mem_zipIdx_iff_getElem?]
    exact List.getElem?_eq_getElem second
  have earlier : routes[i] ∈ routes.take j := List.mem_take_iff_getElem.mpr ⟨i, by omega, rfl⟩
  exact absent _ listed (List.contains_iff_mem.mpr (same ▸ earlier))

theorem Walk.inOrder {policy : FallbackPolicy} {routes : List ProviderRoute} {legs : List Leg}
    (walk : Walk policy routes legs) : legs.map Leg.route <+: routes := by
  induction walk with
  | stops => exact ⟨_, rfl⟩
  | passes _ _ ih => exact List.cons_prefix_cons.mpr ⟨rfl, ih⟩

theorem Walk.nonempty {policy : FallbackPolicy} {routes : List ProviderRoute} {legs : List Leg}
    (walk : Walk policy routes legs) : legs ≠ [] := by
  cases walk <;> exact List.cons_ne_nil _ _

theorem Walk.passed {policy : FallbackPolicy} {routes : List ProviderRoute} {legs : List Leg}
    (walk : Walk policy routes legs) : ∀ leg ∈ legs.dropLast, leg.passes policy = true := by
  induction walk with
  | stops => exact List.forall_mem_nil _
  | passes passes walk ih =>
    rw [List.dropLast_cons_of_ne_nil walk.nonempty]
    exact List.forall_mem_cons.mpr ⟨passes, ih⟩

theorem Walk.stopped {policy : FallbackPolicy} {routes : List ProviderRoute} {legs : List Leg}
    (walk : Walk policy routes legs) :
    ∀ leg ∈ legs.getLast?, leg.passes policy = false ∨ legs.length = routes.length := by
  induction walk with
  | @stops leg rest stopped =>
    rintro _ ⟨⟩
    refine stopped.imp_right fun last => ?_
    rw [last]
    rfl
  | passes _ walk ih =>
    rw [List.getLast?_cons_of_ne_nil walk.nonempty]
    exact fun leg last => (ih leg last).imp_right (congrArg Nat.succ)

theorem Walk.disciplined {policy : FallbackPolicy} {routes : List ProviderRoute} {legs : List Leg}
    (walk : Walk policy routes legs) (distinct : routes.Nodup) : Disciplined policy routes legs :=
  ⟨walk.inOrder, distinct.sublist walk.inOrder.sublist, walk.passed, walk.stopped⟩

/-! ## Runs of a leader -/

/-- The attempts of a finished run. -/
structure Attempts (rt : Runtime) (request : ImageRequest) (requestId : String)
    (trace : List (Exchange (calls Fingerprint))) (result : Outcome ImageResponse)
    (legs : List Leg) : Prop where
  ran : ∃ opening middle closing, trace = opening ++ (middle ++ closing) ∧
    Legs rt request requestId 0 legs middle ∧
    ∀ exchange ∈ opening ++ closing, ofRoute exchange = false
  disciplined : Disciplined request.routing.fallbackPolicy
    (routesOf request (rt.primaryProvider request)) legs
  unattempted : legs = [] → ∃ e, result = .error e
  reports : (∀ exchange ∈ trace, ¬AttachFails rt.materializer.config exchange) → legs ≠ [] →
    Reports request (legs.map Leg.entry) result

theorem disciplined_nil (policy : FallbackPolicy) (routes : List ProviderRoute) :
    Disciplined policy routes [] where
  inOrder := List.nil_prefix
  distinct := List.nodup_nil
  passed := List.forall_mem_nil _
  stopped leg last := by simp at last

theorem attempts_none {trace : List (Exchange (calls Fingerprint))}
    (unrouted : ∀ exchange ∈ trace, ofRoute exchange = false) (e : BridgeError) :
    Attempts rt request requestId trace (.error e) [] where
  ran := ⟨trace, [], [], (List.append_nil _).symm, .nil, by simpa using unrouted⟩
  disciplined := disciplined_nil _ _
  unattempted _ := ⟨e, rfl⟩
  reports _ some_leg := absurd rfl some_leg

theorem EndsWith.attempts {opening trace : List (Exchange (calls Fingerprint))}
    {result : Outcome ImageResponse}
    (ended : EndsWith rt request requestId 0 (routesOf request (rt.primaryProvider request)) []
      opening trace result)
    (opened : ∀ exchange ∈ opening, ofRoute exchange = false)
    (distinct : (routesOf request (rt.primaryProvider request)).Nodup) :
    ∃ legs, Attempts rt request requestId trace result legs := by
  obtain ⟨legs, middle, closing, rfl, ended⟩ := ended
  refine ⟨legs, ⟨opening, middle, closing, rfl, ended.ran, ?_⟩, ended.walked.disciplined distinct,
    fun none_left => absurd none_left ended.walked.nonempty, fun attaches _ => ?_⟩
  · exact List.forall_mem_append.mpr ⟨opened, ended.closed⟩
  · exact ended.reports fun exchange closes => attaches exchange (by simp [closes])

theorem executeLeader_attempts : Tries (anyRun (calls Fingerprint))
    (executeLeader rt request requestId) []
    (fun response t => ∃ legs, Attempts rt request requestId t (.ok response) legs)
    (fun e t => ∃ legs, Attempts rt request requestId t (.error e) legs) := by
  unfold executeLeader
  rw [tries_bind, tries_call]
  refine ⟨trivial, fun admitted _ => ?_⟩
  rw [tries_bind, tries_require]
  refine ⟨fun _ _ => ?_, fun e _ => ⟨[], attempts_none (by simp [ofRoute]) e⟩⟩
  rw [tries_bind, tries_call]
  refine ⟨trivial, fun globalQueueMs _ => ?_⟩
  dsimp only
  rw [tries_bind, tries_require]
  refine ⟨fun _ checked => ?_, fun e _ => ⟨[], attempts_none (by simp [ofRoute]) e⟩⟩
  have distinct := checkRoutes_distinct checked
  refine (tryRoutes_ends _ (List.cons_ne_nil _ _) 0 [] _).mono ?_ ?_
  · intro response t ended
    exact EndsWith.attempts ended (by simp [ofRoute]) distinct
  · intro e t ended
    exact EndsWith.attempts ended (by simp [ofRoute]) distinct

/-- Every finished run of a leader attempts distinct routes in order and stops where it should.
It reports what it attempted as long as metadata can be attached to the response it serves. -/
theorem route_attempts {trace : List (Exchange (calls Fingerprint))}
    {result : Outcome ImageResponse}
    (run : Follows (executeLeader rt request requestId).run trace (.done result)) :
    ∃ legs, Attempts rt request requestId trace result legs := by
  have ended := Keeps.recorded executeLeader_attempts run
  cases result <;> exact ended

theorem route_attempts_hosted :
    ∃ legs, Attempts plainRuntime twoRoutes "request" hostedRun.1 hostedRun.2 legs :=
  route_attempts hostedRun_follows

section FullDisk

/-- Images can be published, sidecars cannot. -/
def fullDisk : World :=
  { emptyWorld with
    decode := fun _ => some [1]
    inspectImage := fun _ => .ok ⟨.png, 1, 1, 1, ""⟩
    publishWithOptions := fun _ _ => .ok ⟨"id", "portrait.png"⟩
    encodeSidecar := fun _ _ _ _ _ => some [] }

def storedRuntime : Runtime :=
  { plainRuntime with materializer := ⟨{ artifactStore := true }, by decide, by decide⟩ }

def sidecarRequest : ImageRequest :=
  { twoRoutes with output := { responseFormat := .artifact, metadata := .sidecar } }

def servesStored : (op : Op Unit) → op.Ans
  | .materialize .. => .finished fullDisk
  | .attachMetadata .. => fullDisk
  | op => serves { hostedResponse with data := [{ hostedImage with payload := .b64Json "AQ==" }] } op

def sidecarRun : List (Exchange (calls Unit)) × Outcome ImageResponse :=
  (executeLeader storedRuntime sidecarRequest "request").run.drive servesStored

theorem sidecarRun_unreported :
    (sidecarRun.1.any ofRoute && match sidecarRun.2 with
      | .ok _ => false
      | .error e => (e.details.lookup "attempts").isNone) = true := by
  decide +kernel

/-- The primary route serves the image, and the final error does not list it. -/
theorem lost_sidecar_unreported :
    ∃ (trace : List (Exchange (calls Unit))) (e : BridgeError),
      Follows (executeLeader storedRuntime sidecarRequest "request").run trace
        (.done (.error e)) ∧ (∃ exchange ∈ trace, ofRoute exchange = true) ∧
      ∀ attempts, ¬Reports sidecarRequest attempts (.error e) := by
  have run := drive_follows servesStored (executeLeader storedRuntime sidecarRequest "request").run
  have checked := sidecarRun_unreported
  obtain ⟨routed, unlisted⟩ := (Bool.and_eq_true ..).mp checked
  cases ended : sidecarRun.2 with
  | ok response => simp [ended] at unlisted
  | error e =>
    refine ⟨sidecarRun.1, e, ended ▸ run, List.any_eq_true.mp routed, fun attempts reports => ?_⟩
    simp [ended, reports.error e rfl] at unlisted

end FullDisk

end ImagegenBridge.Orchestrator
