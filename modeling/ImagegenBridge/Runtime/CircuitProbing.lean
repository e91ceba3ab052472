import ImagegenBridge.Runtime.CircuitInvariant

/-!
# Half-open probing

A healthy probe closes the circuit when it is the last one in flight. A dropped
probe is taken out of the count without that test, so a circuit can stay half-open
with every required success seen and no probe outstanding.
-/

namespace ImagegenBridge.CircuitBreaker

open Transition (Run Unrestricted)

variable {config : CircuitBreakerConfig} {s t : Circuit} {event : Event} {inner : Inner}

/-- A half-open circuit without outstanding probes still waits for healthy ones. -/
def Settled (config : CircuitBreakerConfig) (s : Circuit) : Prop :=
  ∀ successes, s.inner.phase = .halfOpen 0 successes → successes < config.successThreshold

/-- The event does not drop the last outstanding probe of a circuit whose probes have
already succeeded often enough. -/
def DropsInTime (config : CircuitBreakerConfig) (s : Circuit) (event : Event) : Prop :=
  ∀ successes, event = .dropped (.halfOpen s.inner.epoch) →
    s.inner.phase = .halfOpen 1 successes → successes < config.successThreshold

/-- Nothing has happened to the breaker, and its permits are not counted. -/
def Untouched (s : Circuit) : Prop := s.inner = .initial ∧ ∀ kind ∈ s.live, kind = .disabled

/-- A disabled breaker never leaves its first state. -/
theorem disabled_untouched (disabled : config.enabled = false)
    (run : Run (Step config) Unrestricted .initial s) : Untouched s := by
  refine run.invariant ?_ ?_
  · exact ⟨rfl, fun _ impossible => nomatch impossible⟩
  intro s event t _ held step _
  obtain ⟨start, untracked⟩ := held
  cases step with
  | admitted granted =>
    rw [acquire, if_pos disabled] at granted
    cases granted
    refine ⟨start, fun kind member => ?_⟩
    obtain rfl | before := List.mem_cons.mp member
    · rfl
    · exact untracked kind before
  | rejected refused =>
    rw [acquire, if_pos disabled] at refused
    cases refused
  | @finished kind rest failure now held =>
    have own := untracked kind (held.mem_iff.mpr (List.mem_cons_self ..))
    subst own
    exact ⟨start, fun other member => untracked other (taken_mem held other member)⟩
  | @dropped kind rest held =>
    have own := untracked kind (held.mem_iff.mpr (List.mem_cons_self ..))
    subst own
    exact ⟨start, fun other member => untracked other (taken_mem held other member)⟩

/-- Only a drop can leave a circuit unsettled. -/
theorem step_settled_iff (usable : Usable config) (sound : Sound config s)
    (settled : Settled config s) (step : Step config s event t) :
    Settled config t ↔ DropsInTime config s event := by
  have undropped : ∀ {event' : Event}, Settled config t →
      (∀ kind, event' ≠ .dropped kind) → (Settled config t ↔ DropsInTime config s event') :=
    fun after other => ⟨fun _ successes dropped => absurd dropped (other _), fun _ => after⟩
  cases step with
  | admitted granted =>
    refine undropped ?_ (by simp)
    intro successes half
    cases acquire_ok usable granted with
    | closed phase => exact settled successes half
    | probe phase room => cases half
    | first phase => cases half
  | rejected refused =>
    refine undropped ?_ (by simp)
    rw [acquire_error usable refused]
    exact settled
  | @finished kind rest failure now held =>
    refine undropped ?_ (by simp)
    intro successes half
    have settles : Settles config s.inner kind (complete config now kind failure s.inner) :=
      complete_settles kind failure sound.closed
    dsimp only at half
    generalize complete config now kind failure s.inner = after at settles half
    cases settles with
    | idle _ idle => exact settled successes half
    | healthy phase => cases half
    | failing phase below => cases half
    | opens until_ phase => cases half
    | @probed inFlight _ healthy phase pending =>
      simp only [Phase.halfOpen.injEq] at half
      obtain ⟨none, rfl⟩ := half
      exact pending.resolve_right fun some => some none
    | closes phase => cases half
    | reopens until_ phase => cases half
  | @dropped kind rest held =>
    obtain ⟨inFlight, successes, rfl, phase, same⟩ | ⟨same, idle⟩ := abandon_cases kind s.inner
    · rw [Settled, same]
      constructor
      · intro after successes' _ one
        rw [phase, Phase.halfOpen.injEq] at one
        obtain ⟨rfl, rfl⟩ := one
        exact after successes rfl
      · intro inTime successes' half
        simp only [Phase.halfOpen.injEq] at half
        obtain ⟨none, rfl⟩ := half
        by_cases outstanding : inFlight = 0
        · subst outstanding
          exact settled successes phase
        · have one : inFlight = 1 := by omega
          subst one
          exact inTime successes rfl phase
    · rw [Settled, same]
      refine ⟨fun _ successes dropped half => ?_, fun _ => settled⟩
      cases dropped
      exact absurd half (idle _ _ _ rfl rfl)

/-- In every run in which no drop takes the last probe from a circuit that has seen
its successes, a half-open circuit without outstanding probes still waits for them;
and such a drop is what leaves a circuit half-open that should be closed. -/
theorem probing_settles (accepted : new config = .ok inner)
    (run : Run (Step config) (DropsInTime config) ⟨inner, []⟩ s) :
    Settled config s ∧ ∀ event t, Step config s event t →
      (Settled config t ↔ DropsInTime config s event) := by
  obtain ⟨rfl, usable⟩ := new_ok accepted
  by_cases enabled : config.enabled = true
  · have settled : Settled config s := by
      refine run.invariant ?_ ?_
      · exact fun _ half => nomatch half
      intro s event t run settled step inTime
      exact (step_settled_iff (usable enabled) (run_sound (usable enabled) run.unrestricted) settled
        step).mpr inTime
    exact ⟨settled, fun event t step => step_settled_iff (usable enabled)
      (run_sound (usable enabled) run.unrestricted) settled step⟩
  · have disabled : config.enabled = false := by simpa using enabled
    have closed : ∀ t : Circuit, Run (Step config) Unrestricted .initial t →
        ∀ inFlight successes, t.inner.phase ≠ .halfOpen inFlight successes := by
      intro t reached inFlight successes half
      rw [(disabled_untouched disabled reached).1] at half
      cases half
    refine ⟨fun successes half => absurd half (closed s run.unrestricted _ _),
      fun event t step => ⟨fun _ successes _ half => ?_, fun _ successes half => ?_⟩⟩
    · exact absurd half (closed s run.unrestricted _ _)
    · exact absurd half (closed t (run.unrestricted.then step) _ _)

section Pairs

/-- Two probes may run, and one success suffices. -/
def paired : CircuitBreakerConfig :=
  { failureThreshold := 1, openDuration := 1, halfOpenMaxCalls := 2 }

/-- Both probes are out, one of them healthy. -/
def oneHealthy : Circuit := ⟨⟨.halfOpen 1 1, 2, 0, 2⟩, [.halfOpen 2]⟩

theorem reaches_oneHealthy : Run (Step paired) (DropsInTime paired) .initial oneHealthy := by
  have acquired : Step paired .initial (.acquired "fake" 0) ⟨.initial, [.closed 0]⟩ :=
    .admitted rfl
  have failed : Step paired ⟨.initial, [.closed 0]⟩
      (.finished (.closed 0) (some upstreamFailure) 0) ⟨⟨.opened 1, 1, 0, 1⟩, []⟩ :=
    .finished (some upstreamFailure) 0 (.refl _)
  have first : Step paired ⟨⟨.opened 1, 1, 0, 1⟩, []⟩ (.acquired "fake" 1)
      ⟨⟨.halfOpen 1 0, 2, 0, 2⟩, [.halfOpen 2]⟩ := .admitted rfl
  have second : Step paired ⟨⟨.halfOpen 1 0, 2, 0, 2⟩, [.halfOpen 2]⟩ (.acquired "fake" 1)
      ⟨⟨.halfOpen 2 0, 2, 0, 2⟩, [.halfOpen 2, .halfOpen 2]⟩ := .admitted rfl
  have healthy : Step paired ⟨⟨.halfOpen 2 0, 2, 0, 2⟩, [.halfOpen 2, .halfOpen 2]⟩
      (.finished (.halfOpen 2) none 1) oneHealthy := .finished none 1 (.refl _)
  exact ((((Run.start.next acquired nofun).next failed nofun).next first nofun).next second
    nofun).next healthy nofun

/-- The healthy probe settles the pair as long as its sibling is not dropped. -/
theorem sibling_decides :
    Settled paired oneHealthy ∧ ∀ event t, Step paired oneHealthy event t →
      (Settled paired t ↔ DropsInTime paired oneHealthy event) :=
  probing_settles rfl reaches_oneHealthy

/-- The sibling is dropped: enough healthy probes, none outstanding, still half-open. -/
theorem dropped_sibling_strands : ∃ config inner s, new config = .ok inner ∧
    Run (Step config) Unrestricted ⟨inner, []⟩ s ∧ s.live = [] ∧
      s.inner.phase = .halfOpen 0 config.successThreshold := by
  have dropped : Step paired oneHealthy (.dropped (.halfOpen 2)) ⟨⟨.halfOpen 0 1, 2, 0, 2⟩, []⟩ :=
    .dropped (.refl _)
  exact ⟨paired, .initial, _, rfl, reaches_oneHealthy.unrestricted.then dropped, rfl, rfl⟩

end Pairs

end ImagegenBridge.CircuitBreaker
