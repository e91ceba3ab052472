import ImagegenBridge.CodexAppServer.Process
import Mathlib.Data.List.Nodup

/-!
# Supervision of the child

A child that lives is installed, or owned by the call that starts or stops it, or is being
killed. Once a call of `shutdown` has taken the child nobody starts another.
-/

namespace ImagegenBridge.CodexAppServer.Supervision

open Interleaving (Moved)
open Transition (Run Unrestricted)

variable {s t : Supervisor} {event : SupervisorEvent}

section GiveUp

variable (s : Supervisor) (child : Option Nat)

@[simp] theorem giveUp_started : (s.giveUp child).started = s.started := by cases child <;> rfl
@[simp] theorem giveUp_alive : (s.giveUp child).alive = s.alive := by cases child <;> rfl
@[simp] theorem giveUp_running : (s.giveUp child).running = s.running := by cases child <;> rfl
@[simp] theorem giveUp_shuttingDown : (s.giveUp child).shuttingDown = s.shuttingDown := by
  cases child <;> rfl
@[simp] theorem giveUp_generation : (s.giveUp child).generation = s.generation := by
  cases child <;> rfl
@[simp] theorem giveUp_installs : (s.giveUp child).installs = s.installs := by
  cases child <;> rfl
@[simp] theorem giveUp_closing : (s.giveUp child).closing = s.closing := by cases child <;> rfl
@[simp] theorem giveUp_stopping : (s.giveUp child).stopping = s.stopping := by
  cases child <;> rfl
@[simp] theorem giveUp_returned : (s.giveUp child).returned = s.returned := by
  cases child <;> rfl

end GiveUp

/-! ## After the child was taken -/

/-- The call has seen the flag unset after it emptied the place of the child, or still owns
one. -/
def Stage.engaged : Stage → Bool
  | .locked | .stopped => false
  | _ => true

/-- No child is installed, and no call is about to install one. -/
structure Halted (s : Supervisor) : Prop where
  shuttingDown : s.shuttingDown = true
  running : s.running = none
  inside : ∀ stage, s.inside = some stage → stage.engaged = false

structure Halting (s : Supervisor) : Prop where
  flagged : 0 < s.closing → s.shuttingDown = true
  emptied : ∀ stage, s.inside = some stage → stage = .locked ∨ s.running = none
  stopping : s.stopping ≠ [] → Halted s
  returned : s.returned ≠ [] → Halted s

theorem Stage.Advances.halted {stage stage' : Stage} (advances : stage.Advances s stage')
    (shuttingDown : s.shuttingDown = true) (before : stage.engaged = false) :
    stage'.engaged = false := by
  cases advances with
  | absent => rfl
  | alive | stopped => cases before
  | rests unset | rested unset => simp [shuttingDown] at unset

theorem Halted.step (halted : Halted s) (step : SupervisorStep s event t) : Halted t := by
  obtain ⟨shuttingDown, running, inside⟩ := halted
  cases step with
  | queued unset => simp [shuttingDown] at unset
  | locked => 
    refine ⟨shuttingDown, running, ?_⟩
    intro stage held
    obtain rfl := Option.some.inj held
    rfl
  | healthy _ installed | takes _ installed | closes _ _ installed => simp [running] at installed
  | advances held advances =>
    refine ⟨shuttingDown, running, ?_⟩
    intro stage held'
    obtain rfl := Option.some.inj held'
    exact advances.halted shuttingDown (inside _ held)
  | kills held | starts held | installs held | disconnected held => cases inside _ held
  | fails | dropped => exact ⟨by simpa using shuttingDown, by simpa using running, by simp⟩
  | shutdown => exact ⟨rfl, running, inside⟩
  | _ => exact ⟨shuttingDown, running, inside⟩

theorem Halted.of_taken (shuttingDown : s.shuttingDown = true) (free : s.inside = none)
    (running : t.running = none) (flag : t.shuttingDown = s.shuttingDown)
    (inside : t.inside = s.inside) : Halted t :=
  ⟨flag ▸ shuttingDown, running, by simp [inside, free]⟩

theorem Halting.flagged_step (halting : Halting s) (step : SupervisorStep s event t)
    (closing : 0 < t.closing) : t.shuttingDown = true := by
  cases step with
  | shutdown => rfl
  | unclosed waits | closes waits | finds waits => exact halting.flagged waits
  | fails | dropped =>
    rw [giveUp_shuttingDown]
    rw [giveUp_closing] at closing
    exact halting.flagged closing
  | _ => exact halting.flagged closing

theorem Stage.Advances.emptied {stage stage' : Stage} (advances : stage.Advances s stage')
    (before : stage = .locked ∨ s.running = none) : s.running = none := by
  cases advances with
  | absent nothing => exact nothing
  | _ => simpa using before

theorem Halting.emptied_step (halting : Halting s) (step : SupervisorStep s event t)
    (stage : Stage) (held : t.inside = some stage) : stage = .locked ∨ t.running = none := by
  cases step with
  | locked => exact .inl (Option.some.inj held).symm
  | healthy | installs | fails | dropped => cases held
  | takes | closes => exact .inr rfl
  | advances before advances => exact .inr (advances.emptied (halting.emptied _ before))
  | kills before | starts before | disconnected before =>
    have nothing : s.running = none := by simpa using halting.emptied _ before
    exact .inr nothing
  | _ => exact halting.emptied stage held

theorem Halting.stopping_step (halting : Halting s) (step : SupervisorStep s event t)
    (some_stopping : t.stopping ≠ []) : Halted t := by
  by_cases before : s.stopping = []
  · cases step with
    | closes waits free => exact .of_taken (halting.flagged waits) free rfl rfl rfl
    | closeAlive moved | closeKills moved =>
      have among := moved.mem
      simp [before] at among
    | closed split | closeDropped split => simp [before] at split
    | fails | dropped => simp [before] at some_stopping
    | _ => exact absurd before some_stopping
  · exact (halting.stopping before).step step

theorem Halting.returned_step (halting : Halting s) (step : SupervisorStep s event t)
    (some_returned : t.returned ≠ []) : Halted t := by
  by_cases before : s.returned = []
  · cases step with
    | finds waits free nothing => exact .of_taken (halting.flagged waits) free nothing rfl rfl
    | closed split =>
      have halted : Halted s := halting.stopping (by simp [split])
      exact ⟨halted.shuttingDown, halted.running, halted.inside⟩
    | fails | dropped => simp [before] at some_returned
    | _ => exact absurd before some_returned
  · exact (halting.returned before).step step

theorem step_halting (step : SupervisorStep s event t) (halting : Halting s) : Halting t :=
  ⟨halting.flagged_step step, halting.emptied_step step, halting.stopping_step step,
    halting.returned_step step⟩

theorem spawned_halting : Halting Supervisor.spawned where
  flagged := by simp [Supervisor.spawned]
  emptied := by simp [Supervisor.spawned]
  stopping := by simp [Supervisor.spawned]
  returned := by simp [Supervisor.spawned]

/-! ## Who owns a child -/

namespace Supervisor

/-- The children that are installed or owned by a call. -/
def owned (s : Supervisor) : List Nat :=
  s.running.toList ++ (s.inside.bind Stage.child).toList ++ s.stopping.map Prod.snd

end Supervisor

/-- At most one child is owned, and a living child that nobody owns is being killed. -/
structure Owned (s : Supervisor) : Prop where
  born : ∀ child, s.alive child = true → child < s.started
  single : s.owned.length ≤ 1
  owned : ∀ child, s.alive child = true → s.killed child = false → child ∈ s.owned

theorem Owned.unique (owned : Owned s) {child child' : Nat}
    (alive : s.alive child = true) (spared : s.killed child = false)
    (alive' : s.alive child' = true) (spared' : s.killed child' = false) : child = child' := by
  have among := owned.owned child alive spared
  have among' := owned.owned child' alive' spared'
  have single := owned.single
  match s.owned, among, among', single with
  | [only], among, among', _ =>
    rw [List.mem_singleton.mp among, List.mem_singleton.mp among']

/-- A step that starts no child and spares none. -/
structure Spends (s t : Supervisor) : Prop where
  started : t.started = s.started
  alive : ∀ child, t.alive child = true → s.alive child = true
  killed : ∀ child, t.killed child = false → s.killed child = false

theorem Spends.refl (s : Supervisor) : Spends s s := ⟨rfl, fun _ => id, fun _ => id⟩

theorem kill_spends (s : Supervisor) (child : Nat) : Spends s (s.kill child) where
  started := rfl
  alive _ := id
  killed other spared := by
    simp only [Supervisor.kill, Bool.or_eq_false_iff] at spared
    exact spared.1

theorem kill_killed (s : Supervisor) (child : Nat) : (s.kill child).killed child = true := by
  simp [Supervisor.kill]

theorem giveUp_spends (s : Supervisor) (child : Option Nat) : Spends s (s.giveUp child) := by
  cases child with
  | none => exact .refl s
  | some child => exact kill_spends s child

theorem Owned.permuted (before : Owned s) (spends : Spends s t) (same : t.owned.Perm s.owned) :
    Owned t where
  born child lives := spends.started ▸ before.born child (spends.alive child lives)
  single := same.length_eq ▸ before.single
  owned child lives spared :=
    same.mem_iff.mpr (before.owned child (spends.alive child lives) (spends.killed child spared))

/-- A child is disowned that is dead or being killed. -/
theorem Owned.disowned {child : Nat} (before : Owned s) (spends : Spends s t)
    (rest : s.owned.Perm (child :: t.owned))
    (gone : t.alive child = false ∨ t.killed child = true) : Owned t where
  born other lives := spends.started ▸ before.born other (spends.alive other lives)
  single := by
    have single := before.single
    rw [rest.length_eq, List.length_cons] at single
    omega
  owned other lives spared := by
    have among := before.owned other (spends.alive other lives) (spends.killed other spared)
    rcases List.mem_cons.mp (rest.mem_iff.mp among) with rfl | kept
    · rcases gone with dead | killed
      · simp [dead] at lives
      · simp [killed] at spared
    · exact kept

theorem Stop.Ends.dead {stop : Stop} {alive : Bool} (ends : stop.Ends alive (.ok ())) :
    alive = false := by
  cases ends <;> rfl

theorem Owned.advances {stage stage' : Stage} (before : Owned s) (held : s.inside = some stage)
    (advances : stage.Advances s stage') : Owned { s with inside := some stage' } := by
  cases advances with
  | stopped ends =>
    refine before.disowned ⟨rfl, fun _ => id, fun _ => id⟩ ?_ (.inl ends.dead)
    simp [Supervisor.owned, held, Stage.child, List.perm_middle]
  | _ =>
    refine before.permuted ⟨rfl, fun _ => id, fun _ => id⟩ ?_
    simp [Supervisor.owned, held, Stage.child]

/-- The call that holds the lock ends and drops the child that it owns. -/
theorem Owned.givesUp {stage : Stage} (before : Owned s) (held : s.inside = some stage) :
    Owned { s.giveUp stage.child with inside := none } := by
  have spends := giveUp_spends s stage.child
  cases owns : stage.child with
  | none =>
    rw [owns] at spends
    refine before.permuted ⟨spends.started, spends.alive, spends.killed⟩ ?_
    simp [Supervisor.owned, held, owns, Supervisor.giveUp]
  | some child =>
    rw [owns] at spends
    refine before.disowned ⟨spends.started, spends.alive, spends.killed⟩ ?_
      (.inr (kill_killed s child))
    simp [Supervisor.owned, held, owns, List.perm_middle, Supervisor.giveUp, Supervisor.kill]

theorem Owned.starts (before : Owned s) (halting : Halting s) (held : s.inside = some .clear) :
    Owned { s.start with inside := some (.connecting s.started) } where
  born child lives := by
    simp only [Supervisor.start, Bool.or_eq_true, beq_iff_eq] at lives ⊢
    rcases lives with old | rfl
    · exact Nat.lt_succ_of_lt (before.born child old)
    · exact Nat.lt_succ_self _
  single := by
    have running : s.running = none := by simpa using halting.emptied _ held
    have stopping : s.stopping = [] := by
      by_contra some_stopping
      cases (halting.stopping some_stopping).inside _ held
    simp [Supervisor.owned, Supervisor.start, running, stopping, Stage.child]
  owned child lives spared := by
    simp only [Supervisor.start, Bool.or_eq_true, beq_iff_eq] at lives
    rcases lives with old | rfl
    · have among := before.owned child old spared
      simp only [Supervisor.owned, held, Stage.child, Option.bind_some, Option.toList_none,
        List.append_nil] at among
      have there : child ∈ s.running.toList ++ [s.started] ++ s.stopping.map Prod.snd := by
        rcases List.mem_append.mp among with installed | stops
        · simp [installed]
        · exact List.mem_append_right _ stops
      exact there
    · simp [Supervisor.owned, Supervisor.start, Stage.child]

/-- A call of `shutdown` ends and drops the child that it owns. -/
theorem Owned.closes {stop : Stop} {child : Nat} {before after : List (Stop × Nat)}
    {returned : List (Outcome Unit)} (owned : Owned s)
    (split : s.stopping = before ++ (stop, child) :: after) :
    Owned { s.kill child with stopping := before ++ after, returned := returned } := by
  have spends := kill_spends s child
  refine owned.disowned ⟨spends.started, spends.alive, spends.killed⟩ ?_
    (.inr (kill_killed s child))
  simp only [Supervisor.owned, split, Supervisor.kill, List.map_append, List.map_cons]
  rw [← List.append_assoc, ← List.append_assoc]
  exact List.perm_middle

theorem moved_children {stop stop' : Stop} {child : Nat} {stopping stopping' : List (Stop × Nat)}
    (moved : Moved stopping (stop, child) (stop', child) stopping') :
    stopping'.map Prod.snd = stopping.map Prod.snd := by
  obtain ⟨before, after, rfl, rfl⟩ := moved
  simp

theorem step_owned (step : SupervisorStep s event t) (halting : Halting s) (before : Owned s) :
    Owned t := by
  cases step with
  | @exited child lives =>
    have spends : Spends s (s.exit child) := by
      refine ⟨rfl, ?_, fun _ => id⟩
      intro other lives
      simp only [Supervisor.exit, Bool.and_eq_true] at lives
      exact lives.1
    exact before.permuted spends (.refl _)
  | locked _ held | healthy held =>
    refine before.permuted ⟨rfl, fun _ => id, fun _ => id⟩ ?_
    simp [Supervisor.owned, held, Stage.child]
  | takes held installed =>
    refine before.permuted ⟨rfl, fun _ => id, fun _ => id⟩ ?_
    simp [Supervisor.owned, held, installed, Stage.child]
  | advances held advances => exact before.advances held advances
  | @kills child held | @disconnected child held =>
    have spends := kill_spends s child
    refine before.permuted ⟨spends.started, spends.alive, spends.killed⟩ ?_
    simp [Supervisor.owned, Supervisor.kill, held, Stage.child]
  | starts held => exact before.starts halting held
  | installs held =>
    have nothing : s.running = none := by simpa using halting.emptied _ held
    refine before.permuted ⟨rfl, fun _ => id, fun _ => id⟩ ?_
    simp [Supervisor.owned, Supervisor.install, held, nothing, Stage.child]
  | fails held | dropped held => exact before.givesUp held
  | closes _ free installed =>
    refine before.permuted ⟨rfl, fun _ => id, fun _ => id⟩ ?_
    simp [Supervisor.owned, free, installed]
  | closeAlive moved =>
    refine before.permuted ⟨rfl, fun _ => id, fun _ => id⟩ ?_
    simp [Supervisor.owned, moved_children moved]
  | @closeKills child stopping moved =>
    have spends := kill_spends s child
    refine before.permuted ⟨spends.started, spends.alive, spends.killed⟩ ?_
    simp [Supervisor.owned, Supervisor.kill, moved_children moved]
  | closed split | closeDropped split => exact before.closes split
  | _ => exact ⟨before.born, before.single, before.owned⟩

theorem spawned_owned : Owned Supervisor.spawned where
  born child lives := by
    obtain rfl : child = 0 := by simpa [Supervisor.spawned] using lives
    exact Nat.one_pos
  single := Nat.le_refl _
  owned child lives _ := by
    obtain rfl : child = 0 := by simpa [Supervisor.spawned] using lives
    exact List.mem_singleton_self 0

/-! ## What was installed -/

/-- The generation counts the children that were installed. -/
structure Counted (s : Supervisor) : Prop where
  generation : s.generation = s.installs.length
  distinct : s.installs.Nodup
  known : ∀ child ∈ s.installs, child < s.started
  fresh : ∀ child, s.inside = some (.connecting child) →
    child ∉ s.installs ∧ child < s.started

theorem spawned_counted : Counted Supervisor.spawned where
  generation := rfl
  distinct := List.nodup_singleton 0
  known child among := List.mem_singleton.mp among ▸ Nat.one_pos
  fresh := by simp [Supervisor.spawned]

theorem step_counted (step : SupervisorStep s event t) (counted : Counted s) : Counted t := by
  obtain ⟨generation, distinct, known, fresh⟩ := counted
  cases step with
  | locked | healthy | takes | kills | disconnected => exact ⟨generation, distinct, known, by simp⟩
  | advances held advances =>
    refine ⟨generation, distinct, known, ?_⟩
    intro child held'
    obtain rfl := Option.some.inj held'
    cases advances
  | starts =>
    refine ⟨generation, distinct, fun child among => Nat.lt_succ_of_lt (known child among), ?_⟩
    intro child held'
    obtain rfl : s.started = child := by simpa using held'
    exact ⟨fun among => Nat.lt_irrefl _ (known _ among), Nat.lt_succ_self _⟩
  | @installs child held =>
    obtain ⟨absent, born⟩ := fresh child held
    refine ⟨?_, ?_, ?_, by simp⟩
    · simp [Supervisor.install, generation]
    · exact List.nodup_append.mpr ⟨distinct, List.nodup_singleton child, by grind⟩
    · intro other among
      rcases List.mem_append.mp among with old | new
      · exact known other old
      · exact List.mem_singleton.mp new ▸ born
  | fails | dropped =>
    exact ⟨by simpa using generation, by simpa using distinct, by simpa using known, by simp⟩
  | _ => exact ⟨generation, distinct, known, fresh⟩

/-! ## Runs -/

structure Supervised (s : Supervisor) : Prop where
  halting : Halting s
  owned : Owned s
  counted : Counted s

theorem step_supervised (step : SupervisorStep s event t) (supervised : Supervised s) :
    Supervised t :=
  ⟨step_halting step supervised.halting, step_owned step supervised.halting supervised.owned,
    step_counted step supervised.counted⟩

theorem run_supervised (run : Run SupervisorStep Unrestricted Supervisor.spawned s) :
    Supervised s :=
  run.invariant ⟨spawned_halting, spawned_owned, spawned_counted⟩
    fun _ _ _ _ supervised step _ => step_supervised step supervised

/-- After a call of `shutdown` has returned no child is started. -/
theorem started_of_returned (step : SupervisorStep s event t) (supervised : Supervised s)
    (some_returned : s.returned ≠ []) : t.started = s.started ∧ t.returned ≠ [] := by
  cases step with
  | starts held => cases (supervised.halting.returned some_returned).inside _ held
  | finds | closed => exact ⟨rfl, by simp⟩
  | fails | dropped => exact ⟨giveUp_started s _, by simpa using some_returned⟩
  | _ => exact ⟨rfl, some_returned⟩

theorem starts_no_more (supervised : Supervised s) (some_returned : s.returned ≠ [])
    (run : Run SupervisorStep Unrestricted s t) : t.started = s.started := by
  have kept : Supervised t ∧ t.returned ≠ [] ∧ t.started = s.started := by
    apply run.invariant ⟨supervised, some_returned, rfl⟩
    rintro u event v - ⟨supervised, some_returned, same⟩ step -
    obtain ⟨started, returned⟩ := started_of_returned step supervised some_returned
    exact ⟨step_supervised step supervised, returned, started.trans same⟩
  exact kept.2.2

theorem answered_running {child : Nat} (step : SupervisorStep s (.answered (.ok child)) t) :
    t.running = some child := by
  cases step with
  | healthy _ installed => exact installed
  | installs => rfl

/-! ## When a shutdown has returned -/

/-- No living child was given up, and no call of `shutdown` is stopping one. -/
structure Reaped (s : Supervisor) : Prop where
  owned : ∀ child, s.alive child = true → child ∈ s.owned
  stopped : ∀ stop child, (stop, child) ∈ s.stopping → s.alive child = false

/-- Calls of `shutdown` return only then. -/
def Reaps (s : Supervisor) : SupervisorEvent → Prop
  | .returned _ => Reaped s
  | _ => True

/-- Nobody but a call of `shutdown` owns a child when one returns. -/
theorem owned_of_returns {result : Outcome Unit} (halting : Halting s)
    (step : SupervisorStep s (.returned result) t) : s.owned = s.stopping.map Prod.snd := by
  cases step with
  | finds _ free nothing => simp [Supervisor.owned, free, nothing]
  | closed split =>
    have halted : Halted s := halting.stopping (by simp [split])
    have idle : s.inside.bind Stage.child = none := by
      cases held : s.inside with
      | none => rfl
      | some stage =>
        have disengaged := halted.inside stage held
        cases stage with
        | locked | stopped => rfl
        | _ => cases disengaged
    simp [Supervisor.owned, halted.running, idle]

theorem alive_of_returns {result : Outcome Unit} (step : SupervisorStep s (.returned result) t) :
    t.alive = s.alive := by
  cases step <;> rfl

/-- A shutdown leaves no child running exactly when none was given up alive, and no shutdown
is stopping one. -/
theorem returns_clean_iff {result : Outcome Unit} (halting : Halting s)
    (step : SupervisorStep s (.returned result) t) :
    (∀ child, t.alive child = false) ↔ Reaped s := by
  rw [alive_of_returns step]
  constructor
  · intro dead
    exact ⟨fun child lives => by simp [dead] at lives, fun _ child _ => dead child⟩
  · intro reaped child
    by_contra lives
    have alive : s.alive child = true := Bool.eq_true_of_not_eq_false lives
    have among := reaped.owned child alive
    rw [owned_of_returns halting step] at among
    obtain ⟨⟨stop, other⟩, stops, rfl⟩ := List.mem_map.mp among
    exact lives (reaped.stopped stop other stops)

theorem stays_dead (supervised : Supervised s) (step : SupervisorStep s event t)
    (some_returned : s.returned ≠ []) (dead : ∀ child, s.alive child = false) :
    ∀ child, t.alive child = false := by
  cases step with
  | starts held => cases (supervised.halting.returned some_returned).inside _ held
  | exited => simp [Supervisor.exit, dead]
  | fails | dropped => simpa using dead
  | _ => exact dead

theorem first_return (step : SupervisorStep s event t) (before : s.returned = [])
    (some_returned : t.returned ≠ []) : ∃ result, event = .returned result := by
  cases step with
  | finds | closed => exact ⟨_, rfl⟩
  | fails | dropped => simp [before] at some_returned
  | _ => exact absurd before some_returned

theorem run_reaps (run : Run SupervisorStep Reaps Supervisor.spawned s)
    (some_returned : s.returned ≠ []) : ∀ child, s.alive child = false := by
  have clean : s.returned ≠ [] → ∀ child, s.alive child = false := by
    apply run.invariant (by simp [Supervisor.spawned])
    intro u event v reached clean step reaps some_returned
    have supervised := run_supervised reached.unrestricted
    by_cases before : u.returned = []
    · obtain ⟨result, rfl⟩ := first_return step before some_returned
      exact (returns_clean_iff supervised.halting step).mpr reaps
    · exact stays_dead supervised step before (clean before)
  exact clean some_returned

/-- One child at most lives and is not being killed; the generation counts the children that
were installed; `rpc` answers with the child that is installed; after a shutdown has returned
none is started. None runs either, if shutdowns return only when no child was given up alive
and no other shutdown is stopping one; a return leaves none running exactly then. -/
theorem supervision_clean_iff (run : Run SupervisorStep Unrestricted Supervisor.spawned s) :
    (∀ child child', s.alive child = true → s.killed child = false →
        s.alive child' = true → s.killed child' = false → child = child') ∧
      (s.generation = s.installs.length ∧ s.installs.Nodup) ∧
      (∀ t child, SupervisorStep s (.answered (.ok child)) t → t.running = some child) ∧
      (s.returned ≠ [] → ∀ t, Run SupervisorStep Unrestricted s t → t.started = s.started) ∧
      (Run SupervisorStep Reaps Supervisor.spawned s → s.returned ≠ [] →
        ∀ child, s.alive child = false) ∧
      ∀ t result, SupervisorStep s (.returned result) t →
        ((∀ child, t.alive child = false) ↔ Reaped s) := by
  have supervised := run_supervised run
  refine ⟨?_, ?_, ?_, ?_, run_reaps, ?_⟩
  · intro child child' alive spared alive' spared'
    exact supervised.owned.unique alive spared alive' spared'
  · exact ⟨supervised.counted.generation, supervised.counted.distinct⟩
  · intro t child step
    exact answered_running step
  · intro some_returned t later
    exact starts_no_more supervised some_returned later
  · intro t result step
    exact returns_clean_iff supervised.halting step

/-! ## Two shutdowns at once -/

/-- The first call of `shutdown` has taken the child, and waits for nothing yet. -/
theorem first_takes : Run SupervisorStep Unrestricted Supervisor.spawned
    { Supervisor.spawned with
      shuttingDown := true,
      running := none,
      stopping := [(.inspecting, 0)] } :=
  (Run.start.then .shutdown).then (.closes Nat.one_pos rfl rfl)

/-- The second returns at once, while the child runs and is not even being killed. -/
theorem second_shutdown_returns_early :
    ∃ s, Run SupervisorStep Unrestricted Supervisor.spawned s ∧ s.returned = [.ok ()] ∧
      s.alive 0 = true ∧ s.killed 0 = false :=
  ⟨_, (first_takes.then .shutdown).then (.finds Nat.one_pos rfl rfl), rfl, rfl, rfl⟩

theorem reaps_on (run : Run SupervisorStep Reaps Supervisor.spawned s)
    (step : SupervisorStep s .went t) : Run SupervisorStep Reaps Supervisor.spawned t :=
  run.next step trivial

theorem reaps_returned {result : Outcome Unit}
    (run : Run SupervisorStep Reaps Supervisor.spawned s)
    (step : SupervisorStep s (.returned result) t) (reaped : Reaped s) :
    Run SupervisorStep Reaps Supervisor.spawned t :=
  run.next step reaped

/-- The only child has been taken by a shutdown, and killed. -/
def takenDown (alive : Nat → Bool) (stopping : List (Stop × Nat)) : Supervisor :=
  { Supervisor.spawned with
    alive := alive,
    killed := fun other => other == 0,
    shuttingDown := true,
    running := none,
    stopping := stopping }

/-- A shutdown alone kills the child and waits for it. -/
theorem alone_reaps : ∃ s, Run SupervisorStep Reaps Supervisor.spawned s ∧
    s.returned = [.ok ()] := by
  have takes := reaps_on (reaps_on .start .shutdown) (.closes Nat.one_pos rfl rfl)
  have waits : Run SupervisorStep Reaps Supervisor.spawned
      (takenDown (fun other => other == 0) [(.waiting, 0)]) :=
    reaps_on (reaps_on takes (.closeAlive .alone rfl)) (.closeKills .alone)
  have exits : Run SupervisorStep Reaps Supervisor.spawned
      (takenDown (fun other => other == 0 && other != 0) [(.waiting, 0)]) :=
    waits.next (.exited rfl) trivial
  have split : [(Stop.waiting, 0)] = [] ++ (Stop.waiting, 0) :: [] := rfl
  refine ⟨_, reaps_returned exits (.closed split .reaped) ⟨?_, ?_⟩, rfl⟩
  · intro child lives
    simp [takenDown] at lives
  · intro stop child stops
    simp [takenDown]

theorem supervision_clean_alone :
    ∃ s, Run SupervisorStep Unrestricted Supervisor.spawned s ∧ s.returned = [.ok ()] ∧
      s.alive 0 = false := by
  obtain ⟨s, run, returned⟩ := alone_reaps
  have clean := supervision_clean_iff run.unrestricted
  exact ⟨s, run.unrestricted, returned, clean.2.2.2.2.1 run (by simp [returned]) 0⟩

end ImagegenBridge.CodexAppServer.Supervision
