import ImagegenBridge.Runtime.CallContract
import ImagegenBridge.Runtime.CircuitProbing

/-!
# Provider calls behind a breaker

A route takes its permit from the breaker before it waits in the provider's
admission queue, and starts the provider's execution after both. A gate is one
provider's breaker with the requests that hold its permits. Its era counts the
changes of the phase.
-/

namespace ImagegenBridge.CircuitGating

open CircuitBreaker
open Idempotency (usizeMax saturatingAdd)
open Transition (Run Unrestricted)

/-- How far a request is: it waits for admission, is admitted, runs the provider's
execution since an era, or has the execution behind it. -/
inductive Stage where
  | waiting
  | admitted
  | executing (since : Nat)
  | returned
  deriving DecidableEq, Repr

/-- A request with its permit and the era the permit was granted in. -/
structure Request where
  kind : PermitKind
  era : Nat
  stage : Stage
  deriving DecidableEq, Repr

structure Gate where
  inner : Inner
  era : Nat
  requests : List Request

/-- The breaker and the permits the requests hold. -/
def Gate.circuit (s : Gate) : Circuit := ⟨s.inner, s.requests.map Request.kind⟩

/-- The era after the breaker changes. -/
def Gate.eraAfter (s : Gate) (inner : Inner) : Nat :=
  if inner.phase.state = s.inner.phase.state then s.era else s.era + 1

/-- Requests that hold a place behind the admission gate. -/
def Gate.occupied (s : Gate) : Nat := s.requests.countP fun r => r.stage ≠ .waiting

inductive Event where
  | acquired (provider : String) (now : Nat)
  | admitted (request : Request)
  | started (request : Request)
  | returned (request : Request)
  | finished (request : Request) (failure : Option BridgeError) (now : Nat)
  | dropped (request : Request)

/-- Any interleaving of requests behind one breaker and one admission limit. A
request finishes its permit before or after the execution, never during it, and may
be dropped anywhere. -/
inductive Step (config : CircuitBreakerConfig) (limit : Nat) : Gate → Event → Gate → Prop
  | granted {s : Gate} {provider : String} {now : Nat} {kind : PermitKind} {inner : Inner}
      (granted : acquire config provider now s.inner = (.ok kind, inner)) :
      Step config limit s (.acquired provider now)
        ⟨inner, s.eraAfter inner, ⟨kind, s.eraAfter inner, .waiting⟩ :: s.requests⟩
  | rejected {s : Gate} {provider : String} {now : Nat} {error : BridgeError} {inner : Inner}
      (refused : acquire config provider now s.inner = (.error error, inner)) :
      Step config limit s (.acquired provider now) ⟨inner, s.eraAfter inner, s.requests⟩
  | admitted {s : Gate} {request : Request} {rest : List Request}
      (held : s.requests.Perm (request :: rest)) (waiting : request.stage = .waiting)
      (room : s.occupied < limit) :
      Step config limit s (.admitted request)
        { s with requests := { request with stage := .admitted } :: rest }
  | started {s : Gate} {request : Request} {rest : List Request}
      (held : s.requests.Perm (request :: rest)) (admitted : request.stage = .admitted) :
      Step config limit s (.started request)
        { s with requests := { request with stage := .executing s.era } :: rest }
  | returned {s : Gate} {request : Request} {rest : List Request} {since : Nat}
      (held : s.requests.Perm (request :: rest)) (executing : request.stage = .executing since) :
      Step config limit s (.returned request)
        { s with requests := { request with stage := .returned } :: rest }
  | finished {s : Gate} {request : Request} {rest : List Request} (failure : Option BridgeError)
      (now : Nat) (held : s.requests.Perm (request :: rest))
      (passed : request.stage = .admitted ∨ request.stage = .returned) :
      Step config limit s (.finished request failure now)
        ⟨complete config now request.kind failure s.inner,
          s.eraAfter (complete config now request.kind failure s.inner), rest⟩
  | dropped {s : Gate} {request : Request} {rest : List Request}
      (held : s.requests.Perm (request :: rest)) :
      Step config limit s (.dropped request)
        ⟨abandon request.kind s.inner, s.eraAfter (abandon request.kind s.inner), rest⟩

def Gate.initial : Gate := ⟨.initial, 0, []⟩

/-- Executions that run now and were started in the current era. -/
def Gate.probing (s : Gate) : Nat := s.requests.countP fun r => r.stage = .executing s.era

/-- An execution starts in the era of its permit, or on a closed circuit, while the
64-bit counters have not saturated. -/
def Current (s : Gate) (event : Event) : Prop :=
  s.inner.transitions < usizeMax ∧
    ∀ request, event = .started request → request.era = s.era ∨ s.inner.phase.state = .closed

variable {config : CircuitBreakerConfig} {limit : Nat} {s t : Gate} {event : Event}
  {condition : Gate → Event → Prop}

section Projection

/-- A gate's step is a step of its breaker and may change the era, or it leaves the
breaker, the era and the permits. -/
theorem step_projects (step : Step config limit s event t) : t.era = s.eraAfter t.inner ∧
    ((∃ event', CircuitBreaker.Step config s.circuit event' t.circuit) ∨
      (t.inner = s.inner ∧ (t.circuit.live).Perm s.circuit.live)) := by
  have kinds : ∀ {request : Request} {rest : List Request},
      s.requests.Perm (request :: rest) →
        s.circuit.live.Perm (request.kind :: rest.map Request.kind) :=
    fun held => held.map Request.kind
  have still : s.era = s.eraAfter s.inner := (if_pos rfl).symm
  cases step with
  | granted granted => exact ⟨rfl, Or.inl ⟨_, .admitted granted⟩⟩
  | rejected refused => exact ⟨rfl, Or.inl ⟨_, .rejected refused⟩⟩
  | admitted held waiting room => exact ⟨still, Or.inr ⟨rfl, (kinds held).symm⟩⟩
  | started held admitted => exact ⟨still, Or.inr ⟨rfl, (kinds held).symm⟩⟩
  | returned held executing => exact ⟨still, Or.inr ⟨rfl, (kinds held).symm⟩⟩
  | finished failure now held passed =>
    exact ⟨rfl, Or.inl ⟨_, .finished failure now (kinds held)⟩⟩
  | dropped held => exact ⟨rfl, Or.inl ⟨_, .dropped (kinds held)⟩⟩

/-- The order of a circuit's permits plays no part. -/
theorem permuted_step {c c' d : Circuit} {event : CircuitBreaker.Event}
    (step : CircuitBreaker.Step config c event c') (inner : d.inner = c.inner)
    (live : d.live.Perm c.live) : ∃ d', CircuitBreaker.Step config d event d' ∧
      d'.inner = c'.inner ∧ d'.live.Perm c'.live := by
  cases step with
  | admitted granted =>
    rw [← inner] at granted
    exact ⟨_, .admitted granted, rfl, live.cons _⟩
  | rejected refused =>
    rw [← inner] at refused
    exact ⟨_, .rejected refused, rfl, live⟩
  | finished failure now held =>
    exact ⟨_, .finished failure now (live.trans held), by simp only [inner], .refl _⟩
  | dropped held => exact ⟨_, .dropped (live.trans held), by simp only [inner], .refl _⟩

/-- The breaker reaches its state with the permits the requests hold. -/
def Reached (config : CircuitBreakerConfig) (s : Gate) : Prop :=
  ∃ c, Run (CircuitBreaker.Step config) Unrestricted .initial c ∧ c.inner = s.inner ∧
    c.live.Perm s.circuit.live

/-- A disabled breaker stays closed behind every gate. -/
theorem disabled_closed (disabled : config.enabled = false) (reached : Reached config s) :
    s.inner.phase.state = .closed := by
  obtain ⟨c, circuit, inner, _⟩ := reached
  rw [← inner, (disabled_untouched disabled circuit).1]
  rfl

/-- What the circuit invariant says of a gate. -/
theorem Reached.sound (usable : Usable config) (reached : Reached config s) :
    Sound config s.circuit := by
  obtain ⟨c, circuit, inner, live⟩ := reached
  have sound := run_sound usable circuit
  have same : c.inner = s.circuit.inner := inner
  constructor
  · exact same ▸ sound.closed
  · exact same ▸ sound.bounded
  · intro unsaturated inFlight successes phase
    rw [← same] at unsaturated phase ⊢
    rw [sound.counted unsaturated inFlight successes phase, live.count_eq]
  · exact same ▸ sound.synchronous
  · exact same ▸ sound.representable
  · intro kind member epoch own
    rw [← same]
    exact sound.past kind (live.mem_iff.mpr member) epoch own

theorem Reached.step (reached : Reached config s) (step : Step config limit s event t) :
    Reached config t := by
  obtain ⟨c, circuit, inner, live⟩ := reached
  obtain ⟨_, ⟨event', moves⟩ | ⟨same, kept⟩⟩ := step_projects step
  · obtain ⟨d, taken, after, held⟩ := permuted_step moves inner live
    exact ⟨d, circuit.then taken, after, held⟩
  · exact ⟨c, circuit, inner.trans same.symm, live.trans kept.symm⟩

theorem run_reached (run : Run (Step config limit) condition .initial s) : Reached config s :=
  run.invariant ⟨.initial, .start, rfl, .refl _⟩ fun _ _ _ _ reached step _ => reached.step step

end Projection

section Eras

/-- A permit of the current era is of the current phase, and so is a permit whose
execution was started in a half-open era. -/
structure Timely (s : Gate) : Prop where
  numbered : s.era = s.inner.epoch
  stamped : ∀ request ∈ s.requests, request.kind.epoch = some request.era
  past : ∀ request ∈ s.requests, request.era ≤ s.era
  current : ∀ request ∈ s.requests, request.era = s.era →
    request.kind = .closed s.era ∧ s.inner.phase.state = .closed ∨
      request.kind = .halfOpen s.era ∧ s.inner.phase.state = .halfOpen
  executing : ∀ request ∈ s.requests, ∀ since, request.stage = .executing since →
    since ≤ s.era ∧ (since = s.era → s.inner.phase.state = .halfOpen → request.era = s.era)

theorem initial_timely : Timely .initial where
  numbered := rfl
  stamped := fun _ impossible => nomatch impossible
  past := fun _ impossible => nomatch impossible
  current := fun _ impossible => nomatch impossible
  executing := fun _ impossible => nomatch impossible

variable {inner : Inner} {requests : List Request}

/-- A change of the breaker keeps the requests that are left in time. -/
theorem Timely.moved (timely : Timely s) (unsaturated : s.inner.transitions < usizeMax)
    (sound : Sound config s.circuit) (moves : Still s.inner inner ∨ Changed s.inner inner)
    (kept : ∀ request ∈ requests, request ∈ s.requests) :
    Timely ⟨inner, s.eraAfter inner, requests⟩ := by
  have numbered := timely.numbered
  have synchronous : s.inner.epoch = s.inner.transitions := sound.synchronous
  obtain still | changed := moves
  · have same : s.eraAfter inner = s.era := if_pos still.state
    rw [same]
    refine ⟨numbered.trans still.epoch.symm, fun request member =>
      timely.stamped request (kept request member), fun request member =>
      timely.past request (kept request member), ?_, ?_⟩
    · intro request member own
      dsimp only
      rw [still.state]
      exact timely.current request (kept request member) own
    · intro request member since started
      dsimp only
      rw [still.state]
      exact timely.executing request (kept request member) since started
  · have later : s.eraAfter inner = s.era + 1 := if_neg changed.state
    have advanced : inner.epoch = s.inner.epoch + 1 := by
      rw [changed.epoch]
      unfold saturatingAdd
      omega
    rw [later]
    refine ⟨?_, fun request member => timely.stamped request (kept request member), ?_, ?_, ?_⟩
    · dsimp only
      omega
    · intro request member
      exact Nat.le_succ_of_le (timely.past request (kept request member))
    · intro request member own
      have past := timely.past request (kept request member)
      dsimp only at own
      omega
    · intro request member since started
      have past := (timely.executing request (kept request member) since started).1
      dsimp only
      exact ⟨by omega, fun own => by omega⟩

/-- One request goes on to another stage. -/
theorem Timely.staged {request : Request} {rest : List Request} (timely : Timely s)
    (held : s.requests.Perm (request :: rest)) (stage : Stage)
    (started : ∀ since, stage = .executing since → since ≤ s.era ∧
      (since = s.era → s.inner.phase.state = .halfOpen → request.era = s.era)) :
    Timely { s with requests := { request with stage := stage } :: rest } := by
  have own : request ∈ s.requests := held.mem_iff.mpr (List.mem_cons_self ..)
  have others : ∀ other ∈ rest, other ∈ s.requests :=
    fun other member => held.mem_iff.mpr (List.mem_cons_of_mem _ member)
  refine ⟨timely.numbered, ?_, ?_, ?_, ?_⟩
  · intro other member
    obtain rfl | member := List.mem_cons.mp member
    · exact timely.stamped request own
    · exact timely.stamped other (others other member)
  · intro other member
    obtain rfl | member := List.mem_cons.mp member
    · exact timely.past request own
    · exact timely.past other (others other member)
  · intro other member
    obtain rfl | member := List.mem_cons.mp member
    · exact timely.current request own
    · exact timely.current other (others other member)
  · intro other member
    obtain rfl | member := List.mem_cons.mp member
    · exact started
    · exact timely.executing other (others other member)

theorem grants_current {inner inner' : Inner} {kind : PermitKind}
    (grants : Grants config inner kind inner') :
    kind = .closed inner'.epoch ∧ inner'.phase.state = .closed ∨
      kind = .halfOpen inner'.epoch ∧ inner'.phase.state = .halfOpen := by
  cases grants with
  | closed phase => exact Or.inl ⟨rfl, by rw [phase]; rfl⟩
  | probe phase room => exact Or.inr ⟨rfl, rfl⟩
  | first phase => exact Or.inr ⟨rfl, rfl⟩

/-- A permit is granted in the era it is of. -/
theorem Timely.granted {inner : Inner} {kind : PermitKind} {era : Nat} {requests : List Request}
    (timely : Timely ⟨inner, era, requests⟩)
    (current : kind = .closed inner.epoch ∧ inner.phase.state = .closed ∨
      kind = .halfOpen inner.epoch ∧ inner.phase.state = .halfOpen) :
    Timely ⟨inner, era, ⟨kind, era, .waiting⟩ :: requests⟩ := by
  have numbered : era = inner.epoch := timely.numbered
  rw [← numbered] at current
  refine ⟨numbered, ?_, ?_, ?_, ?_⟩
  · intro request member
    obtain rfl | member := List.mem_cons.mp member
    · rcases current with ⟨rfl, _⟩ | ⟨rfl, _⟩ <;> rfl
    · exact timely.stamped request member
  · intro request member
    obtain rfl | member := List.mem_cons.mp member
    · exact Nat.le_refl _
    · exact timely.past request member
  · intro request member own
    obtain rfl | member := List.mem_cons.mp member
    · exact current
    · exact timely.current request member own
  · intro request member since started
    obtain rfl | member := List.mem_cons.mp member
    · cases started
    · exact timely.executing request member since started

theorem step_timely (usable : Usable config) (sound : Sound config s.circuit)
    (timely : Timely s) (step : Step config limit s event t) (current : Current s event) :
    Timely t := by
  obtain ⟨unsaturated, starts⟩ := current
  have kinds : ∀ {request : Request} {rest : List Request},
      s.requests.Perm (request :: rest) →
        s.circuit.live.Perm (request.kind :: rest.map Request.kind) :=
    fun held => held.map Request.kind
  have others : ∀ {request : Request} {rest : List Request},
      s.requests.Perm (request :: rest) → ∀ other ∈ rest, other ∈ s.requests :=
    fun held other member => held.mem_iff.mpr (List.mem_cons_of_mem _ member)
  cases step with
  | granted granted =>
    have moves := step_moves usable sound (.admitted (s := s.circuit) granted)
    exact (timely.moved unsaturated sound moves fun _ member => member).granted
      (grants_current (acquire_ok usable granted))
  | rejected refused =>
    exact timely.moved unsaturated sound
      (step_moves usable sound (.rejected (s := s.circuit) refused)) fun _ member => member
  | admitted held waiting room => exact timely.staged held _ (by simp)
  | @started request rest held admitted =>
    refine timely.staged held _ fun since own => ?_
    simp only [Stage.executing.injEq] at own
    refine ⟨Nat.le_of_eq own.symm, fun _ half => ?_⟩
    rcases starts request rfl with same | closed
    · exact same
    · rw [closed] at half
      cases half
  | returned held executing => exact timely.staged held _ (by simp)
  | finished failure now held passed =>
    exact timely.moved unsaturated sound
      (step_moves usable sound (.finished failure now (kinds held))) (others held)
  | dropped held =>
    exact timely.moved unsaturated sound (step_moves usable sound (.dropped (kinds held)))
      (others held)

theorem run_timely (usable : Usable config) (run : Run (Step config limit) Current .initial s) :
    Timely s :=
  run.invariant initial_timely fun _ _ _ run timely step current =>
    step_timely usable ((run_reached run).sound usable) timely step current

/-- The executions of a half-open era hold its probe permits. -/
theorem Timely.probing_le (timely : Timely s) (half : s.inner.phase.state = .halfOpen) :
    s.probing ≤ s.circuit.live.count (.halfOpen s.inner.epoch) := by
  have probes : ∀ request ∈ s.requests, request.stage = .executing s.era →
      request.kind = .halfOpen s.inner.epoch := by
    intro request member executing
    have own := (timely.executing request member _ executing).2 rfl half
    rw [← timely.numbered]
    obtain ⟨_, closed⟩ | ⟨probe, _⟩ := timely.current request member own
    · rw [half] at closed
      cases closed
    · exact probe
  rw [List.count, Gate.circuit, List.countP_map]
  apply List.countP_mono_left
  intro request member executing
  simpa using probes request member (by simpa using executing)

/-- A permit whose era is not over was not granted on an open circuit. -/
theorem Timely.opened_stale {request : Request} (timely : Timely s)
    (member : request ∈ s.requests) (opened : s.inner.phase.state = .opened) :
    request.era ≠ s.era := by
  intro own
  rcases timely.current request member own with ⟨_, other⟩ | ⟨_, other⟩ <;>
    rw [opened] at other <;> cases other

end Eras

/-- In every run in which each execution starts in the era of its permit or on a
closed circuit, no execution starts on an open circuit, and a half-open one never
runs more of its own executions than it may. -/
theorem executions_gated {inner : Inner} (accepted : new config = .ok inner)
    (run : Run (Step config limit) Current ⟨inner, 0, []⟩ s) :
    (s.inner.transitions < usizeMax → s.inner.phase.state = .halfOpen →
      s.probing ≤ config.halfOpenMaxCalls) ∧
    ∀ request t, Step config limit s (.started request) t → Current s (.started request) →
      s.inner.phase.state ≠ .opened := by
  obtain ⟨rfl, usable⟩ := new_ok accepted
  have reached := run_reached run
  by_cases enabled : config.enabled = true
  · have timely := run_timely (usable enabled) run
    have sound := reached.sound (usable enabled)
    constructor
    · intro unsaturated half
      have probing := timely.probing_le half
      cases phase : s.inner.phase with
      | closed failures => simp [phase, Phase.state] at half
      | opened until_ => simp [phase, Phase.state] at half
      | halfOpen inFlight successes =>
        have counted := sound.counted unsaturated inFlight successes phase
        have bounded := sound.bounded inFlight successes phase
        dsimp only [Gate.circuit] at counted probing
        omega
    · intro request t step current opened
      cases step with
      | started held admitted =>
        have member := held.mem_iff.mpr (List.mem_cons_self ..)
        obtain own | closed := current.2 request rfl
        · exact timely.opened_stale member opened own
        · rw [opened] at closed
          cases closed
  · have closed := disabled_closed (by simpa using enabled) reached
    constructor
    · intro _ half
      rw [closed] at half
      cases half
    · intro _ _ _ _ opened
      rw [closed] at opened
      cases opened

section Routes

open Orchestrator Program

variable {Fingerprint β : Type} {rt : Runtime} {request : ImageRequest} {requestId : String}
  {stage : Option Stage}

/-- How a route's awaits move its request: admission that is refused or interrupted
drops the permit. -/
def advance (stage : Option Stage) : (op : Op Fingerprint) → op.Ans → Option Stage
  | .acquireBreaker .., .ok _ => some .waiting
  | .acquireBreaker .., .error _ => none
  | .acquireProvider .., .finished (.ok _) => some .admitted
  | .acquireProvider .., _ => none
  | .execute .., _ => some .returned
  | .finishBreaker .., _ => none
  | _, _ => stage

abbrev stages (Fingerprint : Type) : Monitor (calls Fingerprint) where
  State := Option Stage
  next := advance

/-- The events of a gate, from the stages a step allows them in. -/
abbrev stageContract (Fingerprint : Type) : Contract (stages Fingerprint) where
  Allow := fun stage op => match op with
    | .acquireBreaker .. => stage = none
    | .acquireProvider .. => stage = some .waiting
    | .execute .. => stage = some .admitted
    | .finishBreaker .. => stage = some .admitted ∨ stage = some .returned
    | _ => True
  Expect := fun _ _ _ => True

theorem tries_unstaged {op : Op Fingerprint} {f : op.Ans → Task Fingerprint β}
    {ok : β → Option Stage → Prop} {failed : BridgeError → Option Stage → Prop}
    (allowed : (stageContract Fingerprint).Allow stage op)
    (still : ∀ answer, advance stage op answer = stage)
    (rest : ∀ answer, Tries (stageContract Fingerprint) (f answer) stage ok failed) :
    Tries (stageContract Fingerprint) (call op >>= f) stage ok failed := by
  rw [tries_bind, tries_call]
  refine ⟨allowed, fun answer _ => ?_⟩
  rw [show (stages Fingerprint).next stage op answer = stage from still answer]
  exact rest answer

/-- The stages a permit can be finished in. -/
def Passed (stage : Option Stage) : Prop := stage = some .admitted ∨ stage = some .returned

theorem executeRouteAdmitted_staged (index : Nat) (route : ProviderRoute) (name : String)
    (queueMs : Nat) :
    Tries (stageContract Fingerprint)
      (executeRouteAdmitted rt request requestId index route name queueMs) (some .admitted)
      (fun _ t => Passed t) (fun _ t => Passed t) := by
  unfold executeRouteAdmitted
  refine tries_unstaged trivial (fun _ => rfl) fun discovered => ?_
  rw [tries_bind, tries_require]
  refine ⟨fun prepared _ => ?_, fun _ _ => Or.inl rfl⟩
  rw [tries_bind, tries_call]
  refine ⟨rfl, fun finish _ => ?_⟩
  refine tries_unstaged trivial (fun _ => rfl) fun providerMs => ?_
  rw [tries_bind, tries_require]
  refine ⟨fun returned _ => ?_, fun _ _ => Or.inr rfl⟩
  rw [tries_bind, tries_require]
  refine ⟨fun _ _ => ?_, fun _ _ => Or.inr rfl⟩
  refine tries_unstaged trivial (fun _ => rfl) fun world => ?_
  rw [tries_bind, tries_require]
  refine ⟨fun response _ => ?_, fun _ _ => Or.inr rfl⟩
  exact tries_unstaged trivial (fun _ => rfl) fun _ => Or.inr rfl

/-- Every route goes through the stages of a gate's request and ends without a permit. -/
theorem executeRoute_staged (index : Nat) (route : ProviderRoute) :
    Tries (stageContract Fingerprint) (executeRoute rt request requestId index route) none
      (fun _ t => t = none) (fun _ t => t = none) := by
  unfold executeRoute
  rw [tries_bind, tries_require]
  refine ⟨fun name _ => ?_, fun _ _ => rfl⟩
  rw [tries_bind, tries_require]
  refine ⟨fun _ _ => ?_, fun _ _ => rfl⟩
  rw [tries_bind, tries_call]
  refine ⟨rfl, fun permit _ => ?_⟩
  rw [tries_bind, tries_require]
  cases permit with
  | error e => exact ⟨(fun _ impossible => nomatch impossible), fun _ _ => rfl⟩
  | ok permit =>
    refine ⟨fun _ _ => ?_, fun _ impossible => nomatch impossible⟩
    rw [tries_bind, tries_call]
    refine ⟨rfl, fun admitted _ => ?_⟩
    rw [tries_bind, tries_require]
    constructor
    · intro _ ok
      have entered : advance (some .waiting) (Op.acquireProvider index name : Op Fingerprint)
          admitted = some .admitted := by
        cases admitted with
        | elapsed => cases ok
        | interrupted interruption => cases interruption <;> cases ok
        | finished result => cases result with
          | ok _ => rfl
          | error e => cases ok
      rw [show (stages Fingerprint).next ((stages Fingerprint).next none (.acquireBreaker index name)
        (.ok permit)) (.acquireProvider index name) admitted = some .admitted from entered]
      refine tries_unstaged trivial (fun _ => rfl) fun queueMs => ?_
      rw [tries_attempt]
      refine (executeRouteAdmitted_staged index route name queueMs).mono ?_ ?_
      · intro execution t passed
        rw [tries_bind, tries_call]
        exact ⟨passed, fun _ _ => tries_require.mpr ⟨fun _ _ => rfl, fun _ _ => rfl⟩⟩
      · intro e t passed
        rw [tries_bind, tries_call]
        exact ⟨passed, fun _ _ => tries_require.mpr ⟨fun _ _ => rfl, fun _ _ => rfl⟩⟩
    · intro e failed
      cases admitted with
      | elapsed => rfl
      | interrupted interruption => rfl
      | finished result => cases result with
        | ok _ => cases failed
        | error e => rfl

end Routes

section Queued

/-- One request that is on its way. -/
def queued (kind : PermitKind) (era : Nat) (stage : Stage) : Request := ⟨kind, era, stage⟩

/-- A request fails its capability discovery, which opens the circuit. -/
theorem reaches_open : Run (Step eager 1) Current .initial ⟨⟨.opened 1, 1, 0, 1⟩, 1, []⟩ := by
  have acquired : Step eager 1 .initial (.acquired "fake" 0)
      ⟨.initial, 0, [queued (.closed 0) 0 .waiting]⟩ := .granted rfl
  have admitted : Step eager 1 ⟨.initial, 0, [queued (.closed 0) 0 .waiting]⟩
      (.admitted (queued (.closed 0) 0 .waiting))
      ⟨.initial, 0, [queued (.closed 0) 0 .admitted]⟩ := .admitted (.refl _) rfl (by decide)
  have failed : Step eager 1 ⟨.initial, 0, [queued (.closed 0) 0 .admitted]⟩
      (.finished (queued (.closed 0) 0 .admitted) (some upstreamFailure) 0)
      ⟨⟨.opened 1, 1, 0, 1⟩, 1, []⟩ := .finished _ 0 (.refl _) (Or.inl rfl)
  exact ((Run.start.next acquired ⟨by decide, nofun⟩).next admitted ⟨by decide, nofun⟩).next failed
    ⟨by decide, nofun⟩

/-- The first probe of a half-open circuit runs. -/
def probed : Gate := ⟨⟨.halfOpen 1 0, 2, 0, 2⟩, 2, [queued (.halfOpen 2) 2 (.executing 2)]⟩

theorem reaches_probed : Run (Step eager 1) Current .initial probed := by
  have acquired : Step eager 1 ⟨⟨.opened 1, 1, 0, 1⟩, 1, []⟩ (.acquired "fake" 1)
      ⟨⟨.halfOpen 1 0, 2, 0, 2⟩, 2, [queued (.halfOpen 2) 2 .waiting]⟩ := .granted rfl
  have admitted : Step eager 1 ⟨⟨.halfOpen 1 0, 2, 0, 2⟩, 2, [queued (.halfOpen 2) 2 .waiting]⟩
      (.admitted (queued (.halfOpen 2) 2 .waiting))
      ⟨⟨.halfOpen 1 0, 2, 0, 2⟩, 2, [queued (.halfOpen 2) 2 .admitted]⟩ :=
    .admitted (.refl _) rfl (by decide)
  have started : Step eager 1 ⟨⟨.halfOpen 1 0, 2, 0, 2⟩, 2, [queued (.halfOpen 2) 2 .admitted]⟩
      (.started (queued (.halfOpen 2) 2 .admitted)) probed := .started (.refl _) rfl
  refine ((reaches_open.next acquired ⟨by decide, nofun⟩).next admitted ⟨by decide, nofun⟩).next
    started ⟨by decide, ?_⟩
  intro request same
  cases same
  exact Or.inl rfl

/-- The probe is the only execution of its era. -/
theorem probe_gated : (probed.inner.transitions < usizeMax →
    probed.inner.phase.state = .halfOpen → probed.probing ≤ eager.halfOpenMaxCalls) ∧
    ∀ request t, Step eager 1 probed (.started request) t → Current probed (.started request) →
      probed.inner.phase.state ≠ .opened :=
  executions_gated rfl reaches_probed

/-- Two requests hold permits of a closed circuit and one place. The first fails and
opens the circuit, and the second then starts its execution. -/
theorem queued_request_passes : ∃ config limit inner s request t, new config = .ok inner ∧
    Run (Step config limit) Unrestricted ⟨inner, 0, []⟩ s ∧
    Step config limit s (.started request) t ∧ s.inner.phase.state = .opened := by
  have first : Step eager 1 .initial (.acquired "fake" 0)
      ⟨.initial, 0, [queued (.closed 0) 0 .waiting]⟩ := .granted rfl
  have admitted : Step eager 1 ⟨.initial, 0, [queued (.closed 0) 0 .waiting]⟩
      (.admitted (queued (.closed 0) 0 .waiting))
      ⟨.initial, 0, [queued (.closed 0) 0 .admitted]⟩ := .admitted (.refl _) rfl (by decide)
  have started : Step eager 1 ⟨.initial, 0, [queued (.closed 0) 0 .admitted]⟩
      (.started (queued (.closed 0) 0 .admitted))
      ⟨.initial, 0, [queued (.closed 0) 0 (.executing 0)]⟩ := .started (.refl _) rfl
  have second : Step eager 1 ⟨.initial, 0, [queued (.closed 0) 0 (.executing 0)]⟩
      (.acquired "fake" 0) ⟨.initial, 0,
        [queued (.closed 0) 0 .waiting, queued (.closed 0) 0 (.executing 0)]⟩ := .granted rfl
  have returned : Step eager 1 ⟨.initial, 0,
        [queued (.closed 0) 0 .waiting, queued (.closed 0) 0 (.executing 0)]⟩
      (.returned (queued (.closed 0) 0 (.executing 0))) ⟨.initial, 0,
        [queued (.closed 0) 0 .returned, queued (.closed 0) 0 .waiting]⟩ :=
    .returned (.swap ..) rfl
  have failed : Step eager 1 ⟨.initial, 0,
        [queued (.closed 0) 0 .returned, queued (.closed 0) 0 .waiting]⟩
      (.finished (queued (.closed 0) 0 .returned) (some upstreamFailure) 0)
      ⟨⟨.opened 1, 1, 0, 1⟩, 1, [queued (.closed 0) 0 .waiting]⟩ :=
    .finished _ 0 (.refl _) (Or.inr rfl)
  have next : Step eager 1 ⟨⟨.opened 1, 1, 0, 1⟩, 1, [queued (.closed 0) 0 .waiting]⟩
      (.admitted (queued (.closed 0) 0 .waiting))
      ⟨⟨.opened 1, 1, 0, 1⟩, 1, [queued (.closed 0) 0 .admitted]⟩ :=
    .admitted (.refl _) rfl (by decide)
  exact ⟨eager, 1, .initial, _, _, _, rfl, ((((((Run.start.then first).then admitted).then
    started).then second).then returned).then failed).then next, .started (.refl _) rfl, rfl⟩

end Queued

end ImagegenBridge.CircuitGating
