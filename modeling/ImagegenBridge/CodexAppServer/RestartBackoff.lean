import Mathlib.Data.List.Chain
import ImagegenBridge.CodexAppServer.ProcessSupervision

/-!
# The interval between child starts

A clock runs beside the supervisor. The delay before a start is taken from the process that is
stored, so a call that finds none stored starts at once, whatever the last attempt came to.
-/

namespace ImagegenBridge.CodexAppServer.Supervision

open Transition (Run Unrestricted)

/-- `startedAt` is what each child was stored with; `previous` and the end of the sleep are of
the call that holds the lock. The newest of the attempts to start a child comes first. -/
structure Timed where
  supervisor : Supervisor
  clock : Nat
  startedAt : Nat → Nat
  previous : Option Nat
  deadline : Nat
  attempts : List Nat

/-- When a sleep before a start ends that begins now. There is none without a stored process. -/
def wake (restartBackoff clock : Nat) : Option Nat → Nat
  | none => clock
  | some startedAt => clock + (restartBackoff - (clock - startedAt))

namespace Timed

/-- `CodexProcess::spawn` has connected. -/
def spawned (handshake : Nat) : Timed where
  supervisor := .spawned
  clock := handshake
  startedAt _ := handshake
  previous := none
  deadline := 0
  attempts := [0]

def attempt (s : Timed) : Timed := { s with attempts := s.clock :: s.attempts }

def stored (s : Timed) (child : Nat) : Timed :=
  { s with startedAt := Function.update s.startedAt child s.clock }

/-- What a step of the supervisor reads of the clock, and notes. -/
def noted (restartBackoff : Nat) (s : Timed) :
    Option Stage → SupervisorEvent → Option Stage → Timed
  | some .locked, _, some (.stopping _ child) => { s with previous := some (s.startedAt child) }
  | some .locked, _, some .stopped => { s with previous := none }
  | some .stopped, _, some .resting =>
    { s with deadline := wake restartBackoff s.clock s.previous }
  | some .clear, _, some (.connecting _) => s.attempt
  | some .clear, _, none => s.attempt
  | some (.connecting _), .answered (.ok child), none => s.stored child
  | _, _, _ => s

def next (restartBackoff : Nat) (s : Timed) (event : SupervisorEvent) (t : Supervisor) : Timed :=
  { s.noted restartBackoff s.supervisor.inside event t.inside with supervisor := t }

end Timed

/-- Time passes between the steps of the supervisor, and no sleep ends before its time. -/
inductive TimedStep (restartBackoff : Nat) : Timed → Option SupervisorEvent → Timed → Prop
  | elapses {s : Timed} (duration : Nat) :
      TimedStep restartBackoff s none { s with clock := s.clock + duration }
  | steps {s : Timed} {event : SupervisorEvent} {t : Supervisor} :
      SupervisorStep s.supervisor event t →
      (s.supervisor.inside = some .resting → t.inside = some .clear → s.deadline ≤ s.clock) →
      TimedStep restartBackoff s (some event) (s.next restartBackoff event t)

/-- The attempts are at least the backoff apart. -/
def Spaced (restartBackoff : Nat) (s : Timed) : Prop :=
  s.attempts.IsChain fun later earlier => earlier + restartBackoff ≤ later

/-- A call that gets the lock finds a process stored, unless the supervisor shuts down. -/
def FindsProcess (s : Timed) (_ : Option SupervisorEvent) : Prop :=
  s.supervisor.inside = some .locked → s.supervisor.running = none →
    s.supervisor.shuttingDown = true

/-! ## Why it is kept while processes are found -/

/-- Every attempt lies before a moment. -/
def Before (s : Timed) (moment : Nat) : Prop := ∀ attempt ∈ s.attempts, attempt ≤ moment

/-- The call knows when the process was stored that it found. -/
def Remembers (s : Timed) : Prop :=
  ∃ startedAt, s.previous = some startedAt ∧ startedAt ≤ s.clock ∧ Before s startedAt

/-- What is known where a call stands. -/
def Timed.Ready (restartBackoff : Nat) (s : Timed) : Stage → Prop
  | .stopping _ _ => Remembers s
  | .stopped => s.supervisor.shuttingDown = false → Remembers s
  | .resting => ∀ attempt ∈ s.attempts, attempt + restartBackoff ≤ s.deadline
  | .clear => ∀ attempt ∈ s.attempts, attempt + restartBackoff ≤ s.clock
  | .locked | .connecting _ | .cleaning _ => True

structure Paced (restartBackoff : Nat) (s : Timed) : Prop where
  spaced : Spaced restartBackoff s
  past : Before s s.clock
  running : ∀ child, s.supervisor.running = some child →
    s.startedAt child ≤ s.clock ∧ Before s (s.startedAt child)
  inside : ∀ stage, s.supervisor.inside = some stage → s.Ready restartBackoff stage

variable {restartBackoff : Nat} {s : Timed} {event : SupervisorEvent} {t : Supervisor}

theorem spawned_paced (restartBackoff handshake : Nat) :
    Paced restartBackoff (.spawned handshake) := by
  refine ⟨.singleton 0, ?_, ?_, nofun⟩
  · simp [Before, Timed.spawned]
  · intro child _
    simp [Before, Timed.spawned]

theorem Before.mono {moment later : Nat} (before : Before s moment) (le : moment ≤ later) :
    Before s later :=
  fun attempt made => (before attempt made).trans le

theorem Remembers.elapses (remembers : Remembers s) (duration : Nat) :
    Remembers { s with clock := s.clock + duration } := by
  obtain ⟨startedAt, previous, past, before⟩ := remembers
  exact ⟨startedAt, previous, past.trans (Nat.le_add_right ..), before⟩

theorem Timed.Ready.elapses {stage : Stage} (ready : s.Ready restartBackoff stage)
    (duration : Nat) : { s with clock := s.clock + duration }.Ready restartBackoff stage := by
  cases stage with
  | stopping => exact Remembers.elapses ready duration
  | stopped => exact fun unset => (ready unset).elapses duration
  | clear => exact fun attempt made => (ready attempt made).trans (Nat.le_add_right ..)
  | _ => exact ready

theorem Paced.elapses (paced : Paced restartBackoff s) (duration : Nat) :
    Paced restartBackoff { s with clock := s.clock + duration } where
  spaced := paced.spaced
  past := paced.past.mono (Nat.le_add_right ..)
  running child installed :=
    (paced.running child installed).imp_left fun le => le.trans (Nat.le_add_right ..)
  inside stage held := (paced.inside stage held).elapses duration

/-- No step of another call changes what the call inside relies on. -/
theorem Timed.Ready.framed {stage : Stage} (ready : s.Ready restartBackoff stage)
    (flag : s.supervisor.shuttingDown = true → t.shuttingDown = true) :
    { s with supervisor := t }.Ready restartBackoff stage := by
  cases stage with
  | stopped =>
    intro unset
    refine ready (Bool.eq_false_iff.mpr fun already => ?_)
    simp [flag already] at unset
  | _ => exact ready

theorem noted_same (stage : Option Stage) : s.noted restartBackoff stage event stage = s := by
  unfold Timed.noted
  split
  all_goals simp_all

/-- A step that makes no attempt and stores no child. -/
theorem Paced.moved {u : Timed} (paced : Paced restartBackoff s)
    (attempts : u.attempts = s.attempts) (clock : u.clock = s.clock)
    (startedAt : u.startedAt = s.startedAt)
    (running : u.supervisor.running = none ∨ u.supervisor.running = s.supervisor.running)
    (inside : ∀ stage, u.supervisor.inside = some stage → u.Ready restartBackoff stage) :
    Paced restartBackoff u := by
  refine ⟨?_, ?_, ?_, inside⟩
  · unfold Spaced
    rw [attempts]
    exact paced.spaced
  · unfold Before
    rw [attempts, clock]
    exact paced.past
  · intro child installed
    rcases running with nothing | kept
    · cases nothing.symm.trans installed
    · unfold Before
      rw [attempts, clock, startedAt]
      exact paced.running child (kept.symm.trans installed)

/-- A step of another call. -/
theorem Paced.framed (paced : Paced restartBackoff s) (same : t.inside = s.supervisor.inside)
    (running : t.running = none ∨ t.running = s.supervisor.running)
    (flag : s.supervisor.shuttingDown = true → t.shuttingDown = true) :
    Paced restartBackoff (s.next restartBackoff event t) := by
  unfold Timed.next
  rw [same, noted_same]
  exact paced.moved rfl rfl rfl running fun stage held =>
    (paced.inside stage (same.symm.trans held)).framed flag

/-- A call leaves, without an attempt. -/
theorem Paced.leaves {stage : Stage} (paced : Paced restartBackoff s)
    (held : s.supervisor.inside = some stage) (other : stage ≠ .clear)
    (failed : ∀ child, event ≠ .answered (.ok child)) (left : t.inside = none)
    (running : t.running = s.supervisor.running) :
    Paced restartBackoff (s.next restartBackoff event t) := by
  have same : s.noted restartBackoff (some stage) event none = s := by
    unfold Timed.noted
    split <;> simp_all
  unfold Timed.next
  rw [held, left, same]
  refine paced.moved rfl rfl rfl (.inr running) fun stage inside => ?_
  cases left.symm.trans inside

/-- An attempt of a call that has waited. -/
theorem Paced.attempts (paced : Paced restartBackoff s)
    (waited : ∀ attempt ∈ s.attempts, attempt + restartBackoff ≤ s.clock)
    (running : t.running = none)
    (inside : ∀ stage, t.inside = some stage → ∃ child, stage = .connecting child) :
    Paced restartBackoff { s.attempt with supervisor := t } := by
  refine ⟨?_, ?_, ?_, ?_⟩
  · refine List.isChain_cons.mpr ⟨fun last first => ?_, paced.spaced⟩
    exact waited last (List.mem_of_mem_head? first)
  · intro attempt made
    rcases List.mem_cons.mp made with rfl | earlier
    · exact Nat.le_refl _
    · exact paced.past attempt earlier
  · intro child installed
    cases running.symm.trans installed
  · intro stage held
    obtain ⟨child, rfl⟩ := inside stage held
    trivial

theorem next_held {stage : Stage} (held : s.supervisor.inside = some stage) :
    s.next restartBackoff event t =
      { s.noted restartBackoff (some stage) event t.inside with supervisor := t } := by
  rw [Timed.next, held]

theorem Paced.advances {stage stage' : Stage} (paced : Paced restartBackoff s)
    (held : s.supervisor.inside = some stage) (advances : stage.Advances s.supervisor stage')
    (awake : s.supervisor.inside = some .resting → some stage' = some .clear →
      s.deadline ≤ s.clock)
    (found : FindsProcess s (some .went)) :
    Paced restartBackoff
      (s.next restartBackoff .went { s.supervisor with inside := some stage' }) := by
  have ready := paced.inside _ held
  rw [next_held held]
  cases advances with
  | absent nothing =>
    refine paced.moved rfl rfl rfl (.inr rfl) ?_
    rintro _ ⟨⟩ unset
    simp [found held nothing] at unset
  | alive =>
    refine paced.moved rfl rfl rfl (.inr rfl) ?_
    rintro _ ⟨⟩
    exact ready
  | stopped =>
    refine paced.moved rfl rfl rfl (.inr rfl) ?_
    rintro _ ⟨⟩ _
    exact ready
  | rests unset =>
    obtain ⟨startedAt, previous, past, before⟩ := ready unset
    refine paced.moved rfl rfl rfl (.inr rfl) ?_
    rintro _ ⟨⟩ attempt made
    have le := before attempt made
    simp only [Timed.noted, previous, wake]
    omega
  | rested =>
    refine paced.moved rfl rfl rfl (.inr rfl) ?_
    rintro _ ⟨⟩ attempt made
    exact (ready attempt made).trans (awake held rfl)

theorem Paced.step (paced : Paced restartBackoff s) (halting : Halting s.supervisor)
    (step : SupervisorStep s.supervisor event t)
    (awake : s.supervisor.inside = some .resting → t.inside = some .clear → s.deadline ≤ s.clock)
    (found : FindsProcess s (some event)) : Paced restartBackoff (s.next restartBackoff event t) := by
  cases step with
  | exited | refused | queued | unqueued | unclosed | finds | closeAlive | closeKills | closed
  | closeDropped => exact paced.framed rfl (.inr rfl) id
  | shutdown => exact paced.framed rfl (.inr rfl) fun _ => rfl
  | closes => exact paced.framed rfl (.inl rfl) id
  | locked _ free =>
    unfold Timed.next
    rw [free]
    refine paced.moved rfl rfl rfl (.inr rfl) ?_
    rintro _ ⟨⟩
    trivial
  | healthy held =>
    rw [next_held held]
    exact paced.moved rfl rfl rfl (.inr rfl) nofun
  | @takes child held installed =>
    rw [next_held held]
    refine paced.moved rfl rfl rfl (.inl rfl) ?_
    rintro _ ⟨⟩
    exact ⟨s.startedAt child, rfl, paced.running child installed⟩
  | advances held advances => exact paced.advances held advances awake found
  | kills held =>
    have ready := paced.inside _ held
    rw [next_held held]
    refine paced.moved rfl rfl rfl (.inr rfl) ?_
    rintro _ ⟨⟩
    exact ready
  | starts held =>
    have nothing : s.supervisor.running = none := by simpa using halting.emptied _ held
    rw [next_held held]
    refine paced.attempts (paced.inside _ held) nothing ?_
    rintro _ ⟨⟩
    exact ⟨_, rfl⟩
  | @installs child held =>
    rw [next_held held]
    refine ⟨paced.spaced, paced.past, ?_, nofun⟩
    rintro other ⟨⟩
    have now : (s.stored child).startedAt child = s.clock := Function.update_self ..
    exact ⟨now.le, paced.past.mono now.ge⟩
  | disconnected held =>
    rw [next_held held]
    refine paced.moved rfl rfl rfl (.inr rfl) ?_
    rintro _ ⟨⟩
    trivial
  | @fails stage error held fails =>
    by_cases last : stage = .clear
    · subst last
      have nothing : s.supervisor.running = none := by simpa using halting.emptied _ held
      rw [next_held held]
      exact paced.attempts (paced.inside _ held) nothing nofun
    · exact paced.leaves held last nofun rfl (giveUp_running _ _)
  | @dropped stage held awaits =>
    refine paced.leaves held ?_ nofun rfl (giveUp_running _ _)
    rintro rfl
    cases awaits

theorem TimedStep.halting {moment : Option SupervisorEvent} {u : Timed}
    (step : TimedStep restartBackoff s moment u) (halting : Halting s.supervisor) :
    Halting u.supervisor := by
  cases step with
  | elapses duration => exact halting
  | steps step awake => exact step_halting step halting

/-- As long as every call finds a process stored, starts are the backoff apart. -/
theorem starts_spaced {handshake : Nat}
    (run : Run (TimedStep restartBackoff) FindsProcess (.spawned handshake) s) :
    Spaced restartBackoff s := by
  have kept : Halting s.supervisor ∧ Paced restartBackoff s := by
    induction run with
    | start => exact ⟨spawned_halting, spawned_paced restartBackoff handshake⟩
    | next _ step found ih =>
      refine ⟨step.halting ih.1, ?_⟩
      cases step with
      | elapses duration => exact ih.2.elapses duration
      | steps step awake => exact ih.2.step ih.1 step awake found
  exact kept.2.spaced

/-- A child has exited, and a call has waited until the next may be started. -/
def waited : Timed where
  supervisor :=
    { Supervisor.spawned with
      alive := fun other => other == 0 && other != 0,
      running := none,
      inside := some .clear }
  clock := 250
  startedAt _ := 0
  previous := some 0
  deadline := 250
  attempts := [0]

section Example

variable {condition : Timed → Option SupervisorEvent → Prop} {origin : Timed}

theorem steps_on (run : Run (TimedStep restartBackoff) condition origin s)
    (step : SupervisorStep s.supervisor event t) (met : condition s (some event))
    (awake : s.supervisor.inside = some .resting → s.deadline ≤ s.clock) :
    Run (TimedStep restartBackoff) condition origin (s.next restartBackoff event t) :=
  run.next (.steps step fun resting _ => awake resting) met

theorem finds_other (other : s.supervisor.inside ≠ some .locked) (event : Option SupervisorEvent) :
    FindsProcess s event :=
  fun held => (other held).elim

end Example

theorem waits : Run (TimedStep 250) FindsProcess (.spawned 0) waited := by
  have spawned : Run (TimedStep 250) FindsProcess (.spawned 0) (.spawned 0) := .start
  have exits := steps_on spawned (@SupervisorStep.exited _ 0 rfl) (by nofun) (by nofun)
  have queues := steps_on exits (.queued rfl) (by nofun) (by nofun)
  have locks := steps_on queues (.locked Nat.one_pos rfl) (by nofun) (by nofun)
  have takes := steps_on locks (.takes rfl rfl) (by nofun) (by nofun)
  have stops := steps_on takes (.advances rfl (.stopped .exited)) (by nofun) (by nofun)
  have rests := steps_on stops (.advances rfl (.rests rfl)) (by nofun) (by nofun)
  have sleeps := rests.next (.elapses 250) (by nofun)
  exact steps_on sleeps (.advances rfl (.rested rfl)) (by nofun) fun _ => Nat.le_refl _

theorem starts_spaced_waited :
    ∃ s, Run (TimedStep 250) FindsProcess (.spawned 0) s ∧ s.attempts = [250, 0] ∧
      Spaced 250 s := by
  have starts := steps_on waits (.starts rfl) (by nofun) (by nofun)
  exact ⟨_, starts, rfl, starts_spaced starts⟩

/-- The start fails, and the next call tries again at once. -/
theorem failed_start_repeats_at_once :
    ∃ s, Run (TimedStep 250) Unrestricted (.spawned 0) s ∧ s.attempts = [250, 250, 0] ∧
      ¬Spaced 250 s := by
  have fails := steps_on waits.unrestricted (.fails rfl .unspawned) trivial (by nofun)
  have queues := steps_on fails (.queued rfl) trivial (by nofun)
  have locks := steps_on queues (.locked Nat.one_pos rfl) trivial (by nofun)
  have finds := steps_on locks (.advances rfl (.absent rfl)) trivial (by nofun)
  have rests := steps_on finds (.advances rfl (.rests rfl)) trivial (by nofun)
  have rested := steps_on rests (.advances rfl (.rested rfl)) trivial fun _ => Nat.le_refl _
  have again := steps_on rested (.fails rfl .unspawned) trivial (by nofun)
  refine ⟨_, again, rfl, fun spaced => ?_⟩
  have apart := (List.isChain_cons_cons.mp spaced).1
  exact absurd apart (by decide)

end ImagegenBridge.CodexAppServer.Supervision
