import Mathlib.Data.List.Perm.Basic
import ImagegenBridge.Runtime.CircuitBreaker

/-!
# What every circuit satisfies

The half-open counter is the number of live probes of the current epoch, as long
as the 64-bit counters have not saturated: an epoch is then the number of phase
changes, and no permit is of a later one.
-/

namespace ImagegenBridge.CircuitBreaker

open Idempotency (usizeMax saturatingAdd)
open Transition (Run Unrestricted)

variable {config : CircuitBreakerConfig} {inner inner' : Inner} {now : Nat} {provider : String}

/-- An enabled configuration that `new` accepts. -/
structure Usable (config : CircuitBreakerConfig) : Prop where
  enabled : config.enabled = true
  threshold : 0 < config.failureThreshold
  probes : 0 < config.halfOpenMaxCalls
  successes : 0 < config.successThreshold

theorem new_ok (accepted : new config = .ok inner) : inner = .initial ∧
    (config.enabled = true → Usable config) := by
  unfold new at accepted
  split at accepted
  · cases accepted
  · rename_i positive
    cases accepted
    refine ⟨rfl, fun enabled => ?_⟩
    simp only [enabled, true_and, not_or] at positive
    obtain ⟨threshold, _, probes, successes⟩ := positive
    exact ⟨enabled, Nat.pos_of_ne_zero threshold, Nat.pos_of_ne_zero probes,
      Nat.pos_of_ne_zero successes⟩

theorem saturatingAdd32_lt {a b limit : Nat} (below : a < limit) (fits : limit ≤ u32Max)
    (one : b = 1) : saturatingAdd32 a b = a + 1 := by
  subst one
  unfold saturatingAdd32
  omega

@[simp] theorem enter_phase (phase : Phase) : (inner.enter phase).phase = phase := rfl

@[simp] theorem enter_epoch (phase : Phase) :
    (inner.enter phase).epoch = saturatingAdd inner.epoch 1 := rfl

@[simp] theorem enter_transitions (phase : Phase) :
    (inner.enter phase).transitions = saturatingAdd inner.transitions 1 := rfl

/-- Neither counter moves. -/
structure Still (inner inner' : Inner) : Prop where
  state : inner'.phase.state = inner.phase.state
  epoch : inner'.epoch = inner.epoch
  transitions : inner'.transitions = inner.transitions

theorem Still.refl (inner : Inner) : Still inner inner := ⟨rfl, rfl, rfl⟩

/-- The phase changes, and both counters move with it. -/
structure Changed (inner inner' : Inner) : Prop where
  state : inner'.phase.state ≠ inner.phase.state
  epoch : inner'.epoch = saturatingAdd inner.epoch 1
  transitions : inner'.transitions = saturatingAdd inner.transitions 1

/-- What a permit is granted from: a closed circuit, a half-open one with room, or an
open one whose delay has passed. -/
inductive Grants (config : CircuitBreakerConfig) (inner : Inner) : PermitKind → Inner → Prop
  | closed {failures : Nat} (phase : inner.phase = .closed failures) :
      Grants config inner (.closed inner.epoch) inner
  | probe {inFlight successes : Nat} (phase : inner.phase = .halfOpen inFlight successes)
      (room : inFlight < config.halfOpenMaxCalls) :
      Grants config inner (.halfOpen inner.epoch)
        { inner with phase := .halfOpen (inFlight + 1) successes }
  | first {until_ : Nat} (phase : inner.phase = .opened until_) :
      Grants config inner (.halfOpen (saturatingAdd inner.epoch 1)) (inner.enter (.halfOpen 1 0))

theorem acquire_ok {kind : PermitKind} (usable : Usable config)
    (granted : acquire config provider now inner = (.ok kind, inner')) :
    Grants config inner kind inner' := by
  obtain ⟨_, probesFit, _⟩ := config.fits
  unfold acquire at granted
  rw [if_neg (by simp [usable.enabled])] at granted
  cases phase : inner.phase with
  | closed failures =>
    simp only [Inner.recover, phase, Prod.mk.injEq, Except.ok.injEq] at granted
    obtain ⟨rfl, rfl⟩ := granted
    exact .closed phase
  | halfOpen inFlight successes =>
    simp only [Inner.recover, phase] at granted
    split at granted
    · rename_i room
      rw [saturatingAdd32_lt room probesFit rfl] at granted
      simp only [Prod.mk.injEq, Except.ok.injEq] at granted
      obtain ⟨rfl, rfl⟩ := granted
      exact .probe phase room
    · simp at granted
  | opened until_ =>
    simp only [Inner.recover, phase] at granted
    by_cases passed : now ≥ until_
    · simp only [passed, if_true, enter_phase, usable.probes] at granted
      rw [saturatingAdd32_lt usable.probes probesFit rfl] at granted
      simp only [Prod.mk.injEq, Except.ok.injEq] at granted
      obtain ⟨rfl, rfl⟩ := granted
      exact .first phase
    · simp only [passed, if_false, phase] at granted
      simp at granted

/-- A rejected call changes nothing but its own count. -/
theorem acquire_error {error : BridgeError} (usable : Usable config)
    (refused : acquire config provider now inner = (.error error, inner')) :
    inner' = inner.reject := by
  unfold acquire at refused
  rw [if_neg (by simp [usable.enabled])] at refused
  cases phase : inner.phase with
  | closed failures => simp [Inner.recover, phase] at refused
  | halfOpen inFlight successes =>
    simp only [Inner.recover, phase] at refused
    split at refused
    · simp at refused
    · simp only [Prod.mk.injEq] at refused
      exact refused.2.symm
  | opened until_ =>
    simp only [Inner.recover, phase] at refused
    by_cases passed : now ≥ until_
    · simp [passed, usable.probes] at refused
    · simp only [passed, if_false, phase, Prod.mk.injEq] at refused
      exact refused.2.symm

/-- What finishing a permit of the current epoch does. -/
inductive Settles (config : CircuitBreakerConfig) (inner : Inner) : PermitKind → Inner → Prop
  | idle (kind : PermitKind)
      (idle : ∀ epoch inFlight successes, kind = .halfOpen epoch → epoch = inner.epoch →
        inner.phase ≠ .halfOpen inFlight successes) : Settles config inner kind inner
  | healthy {failures epoch : Nat} (phase : inner.phase = .closed failures) :
      Settles config inner (.closed epoch) { inner with phase := .closed 0 }
  | failing {failures epoch : Nat} (phase : inner.phase = .closed failures)
      (below : failures + 1 < config.failureThreshold) :
      Settles config inner (.closed epoch) { inner with phase := .closed (failures + 1) }
  | opens {failures epoch : Nat} (until_ : Nat) (phase : inner.phase = .closed failures) :
      Settles config inner (.closed epoch) (inner.enter (.opened until_))
  | probed {inFlight successes : Nat} (healthy : Nat)
      (phase : inner.phase = .halfOpen inFlight successes)
      (pending : healthy < config.successThreshold ∨ inFlight - 1 ≠ 0) :
      Settles config inner (.halfOpen inner.epoch)
        { inner with phase := .halfOpen (inFlight - 1) healthy }
  | closes {inFlight successes : Nat} (phase : inner.phase = .halfOpen inFlight successes) :
      Settles config inner (.halfOpen inner.epoch) (inner.enter (.closed 0))
  | reopens {inFlight successes : Nat} (until_ : Nat)
      (phase : inner.phase = .halfOpen inFlight successes) :
      Settles config inner (.halfOpen inner.epoch) (inner.enter (.opened until_))

theorem complete_settles (kind : PermitKind) (failure : Option BridgeError)
    (bounded : ∀ failures, inner.phase = .closed failures → failures < config.failureThreshold) :
    Settles config inner kind (complete config now kind failure inner) := by
  obtain ⟨thresholdFits, _, _⟩ := config.fits
  unfold complete
  split
  · rename_i current
    unfold settle
    split
    · exact .healthy (by assumption)
    · rename_i failures epoch phase _
      have below := bounded failures phase
      dsimp only
      rw [saturatingAdd32_lt below thresholdFits rfl]
      split
      · exact .opens _ phase
      · rename_i short
        exact .failing phase (by omega)
    · rename_i inFlight successes epoch phase _
      cases (Option.some.inj current : epoch = inner.epoch)
      dsimp only
      split
      · exact .closes phase
      · rename_i pending
        refine .probed _ phase ?_
        by_cases enough : saturatingAdd32 successes 1 ≥ config.successThreshold
        · exact Or.inr fun none => pending ⟨enough, none⟩
        · exact Or.inl (by omega)
    · rename_i epoch phase _
      cases (Option.some.inj current : epoch = inner.epoch)
      exact .reopens _ phase
    · rename_i epoch phase _
      cases (Option.some.inj current : epoch = inner.epoch)
      exact .reopens _ phase
    · rename_i closedHealthy closedFailed halfHealthy halfFailed halfNeutral
      refine .idle _ fun epoch inFlight successes own _ phase => ?_
      cases outcome : verdict failure with
      | healthy => exact halfHealthy _ _ _ phase own outcome
      | failed => exact halfFailed _ _ _ phase own outcome
      | neutral => exact halfNeutral _ _ _ phase own outcome
  · rename_i stale
    refine .idle kind fun epoch inFlight successes own same _ => ?_
    subst own
    exact stale (congrArg some same)

/-- The phase and the permits agree. -/
structure Sound (config : CircuitBreakerConfig) (s : Circuit) : Prop where
  closed : ∀ failures, s.inner.phase = .closed failures → failures < config.failureThreshold
  bounded : ∀ inFlight successes, s.inner.phase = .halfOpen inFlight successes →
    inFlight ≤ config.halfOpenMaxCalls
  counted : s.inner.transitions < usizeMax → ∀ inFlight successes,
    s.inner.phase = .halfOpen inFlight successes →
      inFlight = s.live.count (.halfOpen s.inner.epoch)
  synchronous : s.inner.epoch = s.inner.transitions
  representable : s.inner.transitions ≤ usizeMax
  past : ∀ kind ∈ s.live, ∀ epoch, kind.epoch = some epoch → epoch ≤ s.inner.epoch

theorem initial_sound (usable : Usable config) : Sound config .initial where
  closed := by
    intro failures phase
    cases phase
    exact usable.threshold
  bounded := by
    intro inFlight successes phase
    cases phase
  counted := by
    intro _ inFlight successes phase
    cases phase
  synchronous := rfl
  representable := Nat.zero_le _
  past := by
    intro kind member
    cases member

/-- No live permit is of an epoch that begins now. -/
theorem fresh_epoch {s : Circuit} (sound : Sound config s)
    (unsaturated : saturatingAdd s.inner.transitions 1 < usizeMax) :
    s.live.count (.halfOpen (saturatingAdd s.inner.epoch 1)) = 0 := by
  rw [List.count_eq_zero]
  intro member
  have past := sound.past _ member _ rfl
  have synchronous := sound.synchronous
  unfold saturatingAdd at past unsaturated
  omega

theorem saturatingAdd_grows {a : Nat} (bounded : a ≤ usizeMax) : a ≤ saturatingAdd a 1 := by
  unfold saturatingAdd
  omega

theorem saturatingAdd_bounded (a b : Nat) : saturatingAdd a b ≤ usizeMax := Nat.min_le_right ..

section Steps

variable {s : Circuit} {kind : PermitKind} {rest : List PermitKind}

theorem Sound.epoch_bounded (sound : Sound config s) : s.inner.epoch ≤ usizeMax :=
  sound.synchronous ▸ sound.representable

/-- A new phase keeps the counters together. -/
theorem enter_synchronous (sound : Sound config s) (phase : Phase) :
    (s.inner.enter phase).epoch = (s.inner.enter phase).transitions := by
  rw [enter_epoch, enter_transitions, sound.synchronous]

/-- Permits of the past stay permits of the past. -/
theorem Sound.still_past (sound : Sound config s) (taken : ∀ kind ∈ rest, kind ∈ s.live)
    (grows : s.inner.epoch ≤ inner.epoch) :
    ∀ kind ∈ rest, ∀ epoch, kind.epoch = some epoch → epoch ≤ inner.epoch := by
  intro kind member epoch own
  exact Nat.le_trans (sound.past kind (taken kind member) epoch own) grows

theorem taken_mem (held : s.live.Perm (kind :: rest)) : ∀ other ∈ rest, other ∈ s.live :=
  fun _ member => held.mem_iff.mpr (List.mem_cons_of_mem _ member)

theorem grants_sound (usable : Usable config) (sound : Sound config s)
    (grants : Grants config s.inner kind inner) : Sound config ⟨inner, kind :: s.live⟩ := by
  have older : s.inner.epoch ≤ saturatingAdd s.inner.epoch 1 :=
    saturatingAdd_grows sound.epoch_bounded
  cases grants with
  | @closed failures phase =>
    refine ⟨sound.closed, sound.bounded, ?_, sound.synchronous, sound.representable, ?_⟩
    · intro _ inFlight successes half
      rw [show s.inner.phase = _ from phase] at half
      cases half
    · intro other member epoch own
      obtain rfl | before := List.mem_cons.mp member
      · exact Nat.le_of_eq (Option.some.inj own).symm
      · exact sound.past other before epoch own
  | @probe inFlight successes phase room =>
    refine ⟨?_, ?_, ?_, sound.synchronous, sound.representable, ?_⟩
    · intro failures closed
      cases closed
    · intro f k half
      cases half
      exact room
    · intro unsaturated f k half
      cases half
      have before := sound.counted unsaturated inFlight successes phase
      simp only [List.count_cons_self]
      omega
    · intro other member epoch own
      obtain rfl | before := List.mem_cons.mp member
      · exact Nat.le_of_eq (Option.some.inj own).symm
      · exact sound.past other before epoch own
  | @first until_ phase =>
    refine ⟨?_, ?_, ?_, enter_synchronous sound _, saturatingAdd_bounded _ _, ?_⟩
    · intro failures closed
      cases closed
    · intro f k half
      cases half
      exact usable.probes
    · intro unsaturated f k half
      cases half
      have none := fresh_epoch sound unsaturated
      simp only [enter_epoch, List.count_cons_self]
      omega
    · intro other member epoch own
      obtain rfl | before := List.mem_cons.mp member
      · exact Nat.le_of_eq (Option.some.inj own).symm
      · exact Nat.le_trans (sound.past other before epoch own) older

/-- A permit that is not a probe of the current epoch can go without being counted. -/
theorem uncounted (held : s.live.Perm (kind :: rest)) (other : kind ≠ .halfOpen s.inner.epoch) :
    s.live.count (.halfOpen s.inner.epoch) = rest.count (.halfOpen s.inner.epoch) := by
  rw [held.count_eq, List.count_cons_of_ne other]

theorem counted_once (held : s.live.Perm (.halfOpen s.inner.epoch :: rest)) :
    s.live.count (.halfOpen s.inner.epoch) = rest.count (.halfOpen s.inner.epoch) + 1 := by
  rw [held.count_eq, List.count_cons_self]

/-- A permit leaves and the phase stays. -/
theorem idle_sound (sound : Sound config s) (held : s.live.Perm (kind :: rest))
    (idle : ∀ epoch inFlight successes, kind = .halfOpen epoch → epoch = s.inner.epoch →
      s.inner.phase ≠ .halfOpen inFlight successes) : Sound config ⟨s.inner, rest⟩ := by
  refine ⟨sound.closed, sound.bounded, ?_, sound.synchronous, sound.representable,
    sound.still_past (taken_mem held) (Nat.le_refl _)⟩
  intro unsaturated inFlight successes half
  have other : kind ≠ .halfOpen s.inner.epoch := by
    intro own
    exact idle _ _ _ own rfl half
  rw [← uncounted held other]
  exact sound.counted unsaturated inFlight successes half

/-- A probe of the current epoch leaves and the circuit stays half-open. -/
theorem probe_leaves {inFlight successes : Nat} (after : Nat) (sound : Sound config s)
    (held : s.live.Perm (.halfOpen s.inner.epoch :: rest))
    (phase : s.inner.phase = .halfOpen inFlight successes) :
    Sound config ⟨{ s.inner with phase := .halfOpen (inFlight - 1) after }, rest⟩ := by
  refine ⟨?_, ?_, ?_, sound.synchronous, sound.representable,
    sound.still_past (taken_mem held) (Nat.le_refl _)⟩
  · intro failures closed
    cases closed
  · intro f k half
    cases half
    exact Nat.le_trans (Nat.sub_le ..) (sound.bounded inFlight successes phase)
  · intro unsaturated f k half
    cases half
    have before := sound.counted unsaturated inFlight successes phase
    rw [counted_once held] at before
    simp only
    omega

/-- A permit leaves and the phase changes to one with no probes. -/
theorem enter_sound {phase : Phase} (sound : Sound config s) (held : s.live.Perm (kind :: rest))
    (quiet : phase.state ≠ .halfOpen)
    (closed : ∀ failures, phase = .closed failures → failures < config.failureThreshold) :
    Sound config ⟨s.inner.enter phase, rest⟩ := by
  refine ⟨closed, ?_, ?_, enter_synchronous sound _, saturatingAdd_bounded _ _,
    sound.still_past (taken_mem held) (saturatingAdd_grows sound.epoch_bounded)⟩
  · intro f k half
    exact absurd (congrArg Phase.state half) quiet
  · intro _ f k half
    exact absurd (congrArg Phase.state half) quiet

theorem settles_sound (usable : Usable config) (sound : Sound config s)
    (held : s.live.Perm (kind :: rest)) (settles : Settles config s.inner kind inner) :
    Sound config ⟨inner, rest⟩ := by
  have recount : ∀ failures, failures < config.failureThreshold →
      Sound config ⟨{ s.inner with phase := .closed failures }, rest⟩ := by
    intro failures below
    refine ⟨?_, ?_, ?_, sound.synchronous, sound.representable,
      sound.still_past (taken_mem held) (Nat.le_refl _)⟩
    · intro f closed
      cases closed
      exact below
    · intro f k half
      cases half
    · intro _ f k half
      cases half
  cases settles with
  | idle _ idle => exact idle_sound sound held idle
  | healthy phase => exact recount 0 usable.threshold
  | failing phase below => exact recount _ below
  | opens until_ phase => exact enter_sound sound held (by simp [Phase.state]) nofun
  | probed healthy phase pending => exact probe_leaves healthy sound held phase
  | closes phase =>
    apply enter_sound sound held (by simp [Phase.state])
    intro failures closed
    cases closed
    exact usable.threshold
  | reopens until_ phase => exact enter_sound sound held (by simp [Phase.state]) nofun

/-- A dropped permit takes at most itself out of the count. -/
theorem abandon_cases (kind : PermitKind) (inner : Inner) :
    (∃ inFlight successes, kind = .halfOpen inner.epoch ∧
        inner.phase = .halfOpen inFlight successes ∧
        abandon kind inner = { inner with phase := .halfOpen (inFlight - 1) successes }) ∨
      (abandon kind inner = inner ∧ ∀ epoch inFlight successes, kind = .halfOpen epoch →
        epoch = inner.epoch → inner.phase ≠ .halfOpen inFlight successes) := by
  unfold abandon
  split
  · rename_i epoch inFlight successes phase
    split
    · rename_i current
      subst current
      exact Or.inl ⟨inFlight, successes, rfl, phase, rfl⟩
    · rename_i stale
      refine Or.inr ⟨rfl, fun e _ _ own current _ => ?_⟩
      cases own
      exact stale current
  · rename_i other
    exact Or.inr ⟨rfl, fun epoch inFlight successes own _ phase => other _ _ _ own phase⟩

theorem step_sound {t : Circuit} {event : Event} (usable : Usable config) (sound : Sound config s)
    (step : Step config s event t) : Sound config t := by
  cases step with
  | admitted granted => exact grants_sound usable sound (acquire_ok usable granted)
  | rejected refused =>
    rw [acquire_error usable refused]
    exact ⟨sound.closed, sound.bounded, sound.counted, sound.synchronous, sound.representable,
      sound.past⟩
  | @finished kind rest failure now held =>
    exact settles_sound usable sound held (complete_settles kind failure sound.closed)
  | @dropped kind rest held =>
    obtain ⟨inFlight, successes, rfl, phase, same⟩ | ⟨same, idle⟩ := abandon_cases kind s.inner
    · rw [same]
      exact probe_leaves successes sound held phase
    · rw [same]
      exact idle_sound sound held idle

theorem run_sound (usable : Usable config)
    (run : Run (Step config) Unrestricted .initial s) : Sound config s :=
  run.invariant (initial_sound usable) fun _ _ _ _ sound step _ => step_sound usable sound step

/-- A step moves both counters by one phase change or neither. -/
theorem step_moves {t : Circuit} {event : Event} (usable : Usable config) (sound : Sound config s)
    (step : Step config s event t) : Still s.inner t.inner ∨ Changed s.inner t.inner := by
  cases step with
  | admitted granted =>
    cases acquire_ok usable granted with
    | closed phase => exact Or.inl (.refl _)
    | probe phase room => exact Or.inl ⟨by simp [Phase.state, phase], rfl, rfl⟩
    | first phase => exact Or.inr ⟨by simp [Phase.state, phase], rfl, rfl⟩
  | rejected refused =>
    rw [acquire_error usable refused]
    exact Or.inl ⟨rfl, rfl, rfl⟩
  | @finished kind rest failure now held =>
    have settles : Settles config s.inner kind (complete config now kind failure s.inner) :=
      complete_settles kind failure sound.closed
    dsimp only
    generalize complete config now kind failure s.inner = after at settles ⊢
    cases settles with
    | idle _ idle => exact Or.inl (.refl _)
    | healthy phase => exact Or.inl ⟨by simp [Phase.state, phase], rfl, rfl⟩
    | failing phase below => exact Or.inl ⟨by simp [Phase.state, phase], rfl, rfl⟩
    | opens until_ phase => exact Or.inr ⟨by simp [Phase.state, phase], rfl, rfl⟩
    | probed healthy phase pending => exact Or.inl ⟨by simp [Phase.state, phase], rfl, rfl⟩
    | closes phase => exact Or.inr ⟨by simp [Phase.state, phase], rfl, rfl⟩
    | reopens until_ phase => exact Or.inr ⟨by simp [Phase.state, phase], rfl, rfl⟩
  | @dropped kind rest held =>
    obtain ⟨inFlight, successes, rfl, phase, same⟩ | ⟨same, _⟩ := abandon_cases kind s.inner
    · rw [same]
      exact Or.inl ⟨by simp [Phase.state, phase], rfl, rfl⟩
    · rw [same]
      exact Or.inl (.refl _)

/-- The event gives back a permit. -/
def Event.returns (event : Event) (kind : PermitKind) : Prop :=
  (∃ failure now, event = .finished kind failure now) ∨ event = .dropped kind

end Steps

section Saturation

/-- Every failure opens the circuit and every probe closes it. -/
def eager : CircuitBreakerConfig := { failureThreshold := 1, openDuration := 1 }

def upstreamFailure : BridgeError := .new .upstream "injected"

end Saturation

end ImagegenBridge.CircuitBreaker
