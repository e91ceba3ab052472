import ImagegenBridge.Core.Negotiation
import ImagegenBridge.Core.Validation
import ImagegenBridge.Lib.Program
import ImagegenBridge.Runtime.Materialize
import ImagegenBridge.Runtime.Policy

/-!
# Request orchestration, `crates/runtime/src/orchestrator.rs`

A call is a program that awaits the code around it: the clock, admission, the
providers, the materializer's world and the idempotency coordinator. Every await
point is one operation; permits and guards are released without one.
-/

namespace ImagegenBridge.Orchestrator

open Idempotency Materialize Program
open Transparency (prepareTransparency)

/-- The immutable part of `ImagegenRuntime`. -/
structure Runtime where
  requestLimits : RequestLimits
  defaultTimeoutMs : Nat
  defaultProvider : String
  providers : List String
  /-- The name a registered provider's descriptor reports. -/
  descriptorName : String → String
  materializer : OutputMaterializer

/-- Per-call transport context. The cancellation signal is the environment's. -/
structure ExecutionContext where
  requestId : Option String := none
  idempotencyScope : String := "default"

/-- What a call awaits, with the index of the route it is trying. -/
inductive Op (Fingerprint : Type) where
  | shutdownRequested
  | newRequestId
  | deadlineOverflows (timeoutMs : Nat)
  | elapsed
  | begin (scope key : String) (request : ImageRequest)
  | wait (receiver : Nat)
  | acquireGlobal
  | attempt (index : Nat)
  | acquireBreaker (index : Nat) (provider : String)
  | acquireProvider (index : Nat) (provider : String)
  | capabilities (index : Nat) (provider : String) (model : Option String)
  | execute (index : Nat) (provider : String) (request : ImageRequest)
  | materialize (index : Nat) (job : Job)
  | finishBreaker (index : Nat) (provider : String) (failure : Option BridgeError)
  | attachMetadata (index : Nat) (original effective : ImageRequest) (response : ImageResponse)
  | complete (token : IdempotencyToken Fingerprint) (response : ImageResponse)
  | fail (token : IdempotencyToken Fingerprint) (error : BridgeError)

abbrev Op.Ans {Fingerprint : Type} : Op Fingerprint → Type
  | .shutdownRequested | .deadlineOverflows _ => Bool
  | .newRequestId => String
  | .elapsed => Nat
  | .begin .. => Outcome (IdempotencyAction Fingerprint)
  | .wait _ => Controlled (Outcome ImageResponse)
  | .acquireGlobal | .acquireProvider .. => Controlled (Outcome Unit)
  | .acquireBreaker .. => Outcome Unit
  | .capabilities .. => Controlled (Outcome ProviderCapabilities)
  | .execute .. => ProviderEnd ImageResponse
  | .materialize .. => Controlled World
  | .attachMetadata .. => World
  | .attempt _ | .finishBreaker .. | .complete .. | .fail .. => Unit

abbrev calls (Fingerprint : Type) : Interface := ⟨Op Fingerprint, Op.Ans⟩

abbrev Task (Fingerprint α : Type) := ExceptT BridgeError (Program (calls Fingerprint)) α

structure RouteExecution where
  response : ImageResponse
  effectiveRequest : ImageRequest

def maxProviderNameBytes : Nat := 64

def isAsciiLowercase (c : Char) : Bool := decide (0x61 ≤ c.toNat) && decide (c.toNat ≤ 0x7A)

def isAsciiDigit (c : Char) : Bool := decide (0x30 ≤ c.toNat) && decide (c.toNat ≤ 0x39)

def validateProviderName (name : String) : Outcome Unit :=
  Outcome.failIf
    (¬(Text.len name ≤ maxProviderNameBytes ∧ name.toList.head?.any isAsciiLowercase = true
      ∧ name.toList.all (fun c => isAsciiLowercase c || isAsciiDigit c || c == '-') = true))
    (configurationError "provider names must be lowercase ASCII identifiers")

/-- `ProviderRegistry::resolve` of an explicit provider, and its descriptor's name. -/
def Runtime.resolve (rt : Runtime) (name : String) : Outcome String := do
  validateProviderName name
  Outcome.failIf (name ∉ rt.providers)
    ((configurationError "requested provider is not registered").withDetail "provider" (.string name))
  .ok (rt.descriptorName name)

def validatedRequestId (id : String) : Outcome String :=
  if id.isEmpty = false ∧ Text.len id ≤ 128 ∧ id.toList.all (fun c => Text.isAsciiAlphanumeric c
      || c == '-' || c == '_' || c == '.' || c == ':') = true then .ok id
  else .error (BridgeError.new .invalidRequest "request ID is invalid")

/-- `map_err(|error| attach_provider(error, name))`. -/
def fromProvider {α : Type} (name : String) : Outcome α → Outcome α
  | .ok value => .ok value
  | .error e => .error (attachProvider e name)

def optionalText (text : Option String) : Json := (text.map Json.string).getD .null

def codeWire : ErrorCode → String
  | .invalidRequest => "invalid_request" | .unsupportedCapability => "unsupported_capability"
  | .configuration => "configuration" | .authentication => "authentication"
  | .permissionDenied => "permission_denied" | .safetyRejected => "safety_rejected"
  | .rateLimited => "rate_limited" | .overloaded => "overloaded" | .timeout => "timeout"
  | .cancelled => "cancelled" | .upstream => "upstream" | .protocol => "protocol"
  | .input => "input" | .artifact => "artifact" | .session => "session"
  | .idempotencyConflict => "idempotency_conflict" | .internal => "internal"

def attemptJson (attempt : ProviderAttempt) : Json :=
  .object ([("provider", .string attempt.provider)]
    ++ (attempt.model.map (fun model => ("model", Json.string model))).toList
    ++ [("outcome", .string (match attempt.outcome with
        | .succeeded => "succeeded" | .failed => "failed"))]
    ++ (attempt.errorCode.map (fun code => ("error_code", Json.string (codeWire code)))).toList
    ++ [("duration_ms", .integer attempt.durationMs)])

def withAttempts (error : BridgeError) (attempts : List ProviderAttempt) : BridgeError :=
  error.withDetail "attempts" (.array (attempts.map attemptJson))

section Calls

variable {Fingerprint : Type}

/-- Awaits one operation. -/
def call (op : Op Fingerprint) : Task Fingerprint op.Ans := ExceptT.lift (ask (I := calls Fingerprint) op)

/-- The `?` operator. -/
def require {α : Type} (outcome : Outcome α) : Task Fingerprint α := ExceptT.mk (Program.done outcome)

/-- A finished future's value is used further; an unfinished one has none. -/
def Controlled.map {α β : Type} (f : α → β) : Controlled α → Controlled β
  | .elapsed => .elapsed
  | .finished result => .finished (f result)
  | .interrupted interruption => .interrupted interruption

/-- The request one route sends: its own provider and model, and no fallbacks. -/
def routedRequest (request : ImageRequest) (route : ProviderRoute) : ImageRequest :=
  { request with routing := { request.routing with
      provider := some route.provider, model := route.model, fallbacks := [] } }

def checkResponseModel (name : String) (c : ProviderCapabilities) (response : ImageResponse) :
    Outcome Unit :=
  match c.model with
  | some expected => Outcome.failIf (response.model ≠ expected)
      ((((protocolError "provider response model does not match discovered capabilities").withProvider
        name).withDetail "expected_model" (.string expected)).withDetail "actual_model"
        (.string response.model))
  | none => .ok ()

/-- What the runtime writes into a provider's response before it is materialized. -/
def describeResponse (response : ImageResponse) (requestId name : String)
    (request effective : ImageRequest) (keyed : Bool) (normalizations : List Normalization)
    (queueMs providerMs : Nat) : ImageResponse :=
  { response with
    id := requestId
    provider := name
    requested := request.parameters
    effective := if keyed then { effective.parameters with background := .transparent }
      else effective.parameters
    warnings := if keyed then response.warnings ++ ["transparent_background_postprocessed"]
      else response.warnings
    normalizations := normalizations ++ response.normalizations
    revisedPrompt := if effective.policies.revisedPrompt = .omit then none
      else response.revisedPrompt
    timings := { response.timings with queueMs, providerMs } }

/-- What a route is about to send, all checks passed. -/
structure PreparedRoute where
  capabilities : ProviderCapabilities
  plan : Option Transparency.TransparencyPlan
  normalizations : List Normalization
  effective : ImageRequest

def prepareRoute (rt : Runtime) (request : ImageRequest) (route : ProviderRoute) (name : String)
    (discovered : Outcome ProviderCapabilities) : Outcome PreparedRoute := do
  let capabilities ← fromProvider name discovered
  Outcome.failIf (capabilities.provider ≠ name)
    ((protocolError "provider capability identity does not match its registry identity").withProvider
      name)
  let prepared ← prepareTransparency (routedRequest request route) capabilities
  validateRequest prepared.providerRequest rt.requestLimits
  let negotiated ← negotiateRequest prepared.providerRequest capabilities
  .ok {
    capabilities, plan := prepared.plan
    normalizations := prepared.normalizations ++ negotiated.normalizations
    effective := negotiated.effectiveRequest }

/-- What a returned response goes to the materializer as. -/
def routeJob (requestId name : String) (request : ImageRequest) (prepared : PreparedRoute)
    (returned : ImageResponse) (queueMs providerMs : Nat) : Job where
  response := describeResponse returned requestId name request prepared.effective
    prepared.plan.isSome prepared.normalizations queueMs providerMs
  original := request
  effective := prepared.effective
  transparency := prepared.plan

def executeRouteAdmitted (rt : Runtime) (request : ImageRequest) (requestId : String) (index : Nat)
    (route : ProviderRoute) (name : String) (queueMs : Nat) : Task Fingerprint RouteExecution := do
  let discovered ← call (.capabilities index name route.model)
  let prepared ← require (prepareRoute rt request route name
    (awaitControlled "request was cancelled during capability discovery" discovered))
  let finish ← call (.execute index name prepared.effective)
  let providerMs ← call .elapsed
  let returned ← require (fromProvider name (awaitProviderExecution finish))
  require (checkResponseModel name prepared.capabilities returned)
  let job := routeJob requestId name request prepared returned queueMs providerMs
  let world ← call (.materialize index job)
  let response ← require (awaitControlled "request was cancelled during output materialization"
    (world.map (materialize rt.materializer.config · job)))
  let artifactMs ← call .elapsed
  return { response := { response with timings := { response.timings with artifactMs } },
           effectiveRequest := prepared.effective }

def failureOf {α : Type} : Outcome α → Option BridgeError
  | .ok _ => none
  | .error e => some e

def executeRoute (rt : Runtime) (request : ImageRequest) (requestId : String) (index : Nat)
    (route : ProviderRoute) : Task Fingerprint RouteExecution := do
  let name ← require (rt.resolve route.provider)
  require (Outcome.failIf (name ∉ rt.providers)
    (configurationError "provider has no configured circuit breaker"))
  let permit ← call (.acquireBreaker index name)
  require permit
  let admitted ← call (.acquireProvider index name)
  require (awaitControlled "request was cancelled while waiting for capacity" admitted)
  let queueMs ← call .elapsed
  let result ← ExceptT.lift
    (executeRouteAdmitted rt request requestId index route name queueMs).run
  let _ ← call (.finishBreaker index name (failureOf result))
  require result

/-- What a served response says about the routes tried before it. -/
def recordRouting (request : ImageRequest) (primaryProvider : String) (index : Nat)
    (attempts : List ProviderAttempt) (globalQueueMs totalMs : Nat) (response : ImageResponse) :
    ImageResponse :=
  { response with
    normalizations := (if index > 0 then [⟨"routing.provider", some (.string primaryProvider),
        some (.string response.provider), "provider_fallback"⟩] else []) ++ response.normalizations
    warnings := response.warnings ++ (if index > 0 then ["provider_fallback_used"] else [])
    attempts := if request.routing.fallbacks.isEmpty then response.attempts else attempts
    timings := { response.timings with
      queueMs := saturatingAdd response.timings.queueMs globalQueueMs, totalMs } }

/-- The route loop, from one route on. -/
def tryRoutes (rt : Runtime) (request : ImageRequest) (requestId primaryProvider : String)
    (globalQueueMs : Nat) : Nat → List ProviderRoute → List ProviderAttempt →
    Task Fingerprint ImageResponse
  | _, [], attempts => throw
      (withAttempts (configurationError "provider routing produced no attempts") attempts)
  | index, route :: rest, attempts => do
    let _ ← call (.attempt index)
    let result ← ExceptT.lift (executeRoute rt request requestId index route).run
    let durationMs ← call .elapsed
    match result with
    | .ok execution =>
      let response := execution.response
      let attempts := attempts ++
        [⟨response.provider, some response.model, .succeeded, none, durationMs⟩]
      let totalMs ← call .elapsed
      let described := recordRouting request primaryProvider index attempts globalQueueMs totalMs
        response
      let world ← call (.attachMetadata index request execution.effectiveRequest described)
      require (Materialize.attachMetadata rt.materializer.config world request
        execution.effectiveRequest described)
    | .error e =>
      let attempts := attempts ++
        [⟨route.provider, route.model, .failed, some e.code, durationMs⟩]
      if rest.isEmpty || !shouldFallback e request.routing.fallbackPolicy then
        throw (withAttempts e attempts)
      else tryRoutes rt request requestId primaryProvider globalQueueMs (index + 1) rest attempts

/-- The primary route and its fallbacks, in order. -/
def routesOf (request : ImageRequest) (primaryProvider : String) : List ProviderRoute :=
  ⟨primaryProvider, request.routing.model⟩ :: request.routing.fallbacks

/-- The first route that repeats an earlier one, with its index. -/
def duplicateRoute (routes : List ProviderRoute) : Option (Nat × ProviderRoute) :=
  (routes.zipIdx.find? (fun (route, index) => (routes.take index).contains route)).map
    fun (route, index) => (index, route)

def checkRoutes (routes : List ProviderRoute) : Outcome Unit :=
  match duplicateRoute routes with
  | none => .ok ()
  | some (index, route) => .error ((((BridgeError.new .invalidRequest
      "provider routing contains a duplicate resolved route").withDetail "field"
      (.string (s!"routing.fallbacks[{index - 1}]"))).withDetail "provider"
      (.string route.provider)).withDetail "model" (optionalText route.model))

def Runtime.primaryProvider (rt : Runtime) (request : ImageRequest) : String :=
  request.routing.provider.getD rt.defaultProvider

def executeLeader (rt : Runtime) (request : ImageRequest) (requestId : String) :
    Task Fingerprint ImageResponse := do
  let admitted ← call .acquireGlobal
  require (awaitControlled "request was cancelled while waiting for capacity" admitted)
  let globalQueueMs ← call .elapsed
  let primaryProvider := rt.primaryProvider request
  let routes := routesOf request primaryProvider
  require (checkRoutes routes)
  tryRoutes rt request requestId primaryProvider globalQueueMs 0 routes []

/-- A leader's result reaches the coordinator on the returning path only. -/
def settle (token : Option (IdempotencyToken Fingerprint)) (result : Outcome ImageResponse) :
    Task Fingerprint ImageResponse := do
  match token, result with
  | some token, .ok response => let _ ← call (.complete token response)
  | some token, .error e => let _ ← call (.fail token e)
  | none, _ => pure ()
  require result

def lead (rt : Runtime) (request : ImageRequest) (requestId : String)
    (token : Option (IdempotencyToken Fingerprint)) : Task Fingerprint ImageResponse := do
  let result ← ExceptT.lift (executeLeader rt request requestId).run
  settle token result

/-- The part of a call that has its deadline. -/
def coordinate (rt : Runtime) (request : ImageRequest) (context : ExecutionContext)
    (requestId : String) : Task Fingerprint ImageResponse :=
  match request.idempotencyKey with
  | none => lead rt request requestId none
  | some key => do
    let began ← call (.begin context.idempotencyScope key request)
    match ← require began with
    | .leader token => lead rt request requestId (some token)
    | .cached response => return response
    | .wait receiver => do
      let waited ← call (.wait receiver)
      require (awaitControlled "request was cancelled while waiting for idempotent result" waited)

/-- `execute_with_optional_events`. -/
def executeWith (rt : Runtime) (request : ImageRequest) (context : ExecutionContext) :
    Task Fingerprint ImageResponse := do
  let early ← call .shutdownRequested
  require (Outcome.failIf (early = true) (cancelledError "runtime is shutting down"))
  let entered ← call .shutdownRequested
  require (Outcome.failIf (entered = true) (cancelledError "runtime is shutting down"))
  require (validateRequest request rt.requestLimits)
  let requestId ← match context.requestId with
    | none => call .newRequestId
    | some id => require (validatedRequestId id)
  let overflows ← call (.deadlineOverflows (request.timeoutMs.getD rt.defaultTimeoutMs))
  require (Outcome.failIf (overflows = true) (configurationError "request deadline overflowed"))
  coordinate rt request context requestId

end Calls

section Rules

variable {Fingerprint α : Type} {m : Monitor (calls Fingerprint)} {c : Contract m} {s : m.State}
  {failed : BridgeError → m.State → Prop}

theorem tries_call {op : Op Fingerprint} {ok : op.Ans → m.State → Prop} :
    Tries c (call op) s ok failed ↔
      c.Allow s op ∧ ∀ answer, c.Expect s op answer → ok answer (m.next s op answer) := by
  unfold call
  rw [tries_lift]
  exact Iff.rfl

theorem tries_require {outcome : Outcome α} {ok : α → m.State → Prop} :
    Tries c (require outcome : Task Fingerprint α) s ok failed ↔
      (∀ a, outcome = .ok a → ok a s) ∧ ∀ e, outcome = .error e → failed e s := by
  cases outcome with
  | ok a =>
    constructor
    · intro held
      exact ⟨fun b same => Except.ok.inj same ▸ held, fun e impossible => nomatch impossible⟩
    · intro held
      exact held.1 a rfl
  | error e =>
    constructor
    · intro held
      exact ⟨(fun b impossible => nomatch impossible), fun e' same => Except.error.inj same ▸ held⟩
    · intro held
      exact held.2 e rfl

theorem fromProvider_ok {name : String} {outcome : Outcome α} {a : α}
    (ok : fromProvider name outcome = .ok a) : outcome = .ok a := by
  cases outcome <;> cases ok
  rfl

theorem fromProvider_error {name : String} {outcome : Outcome α} {e : BridgeError}
    (failed : fromProvider name outcome = .error e) : ∃ e', outcome = .error e' := by
  cases outcome with
  | ok a => cases failed
  | error e' => exact ⟨e', rfl⟩

end Rules

end ImagegenBridge.Orchestrator
