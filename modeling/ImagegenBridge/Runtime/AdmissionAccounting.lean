import ImagegenBridge.Runtime.Admission

/-!
# Accounting of admission

Every step of a call changes the counter and the semaphore by what the call comes to hold.
-/

namespace ImagegenBridge.Admission

open Transition (Run Unrestricted)

variable {gate : AdmissionGate} {s s' : Shared} {stage stage' : Stage}

/-- Permits become free only by coming back. -/
structure Since (earlier later : Shared) : Prop where
  returned : earlier.returned ≤ later.returned
  free : later.free ≤ earlier.free + (later.returned - earlier.returned)

theorem Since.refl (s : Shared) : Since s s := ⟨Nat.le_refl _, by omega⟩

theorem Since.trans {a b c : Shared} (first : Since a b) (second : Since b c) : Since a c := by
  obtain ⟨returned, free⟩ := first
  obtain ⟨returned', free'⟩ := second
  exact ⟨by omega, by omega⟩

/-- The counter is within the limit of the queue. -/
def Within (gate : AdmissionGate) (s : Shared) : Prop :=
  gate.maxQueued ≠ usizeMax → s.queued ≤ gate.maxQueued

/-- A call found no permit. -/
def Missed (tried : Shared) : Prop := tried.closed = true ∨ tried.free = 0

/-- What a call that found no permit has seen before the present state. -/
def Remembers (gate : AdmissionGate) (s : Shared) : Stage → Prop
  | .missed tried => Missed tried ∧ Since tried s
  | .counting tried read => Missed tried ∧ Since tried read ∧ Since read s ∧ Within gate read
  | .overloaded tried read =>
    Missed tried ∧ Since tried read ∧ Within gate read ∧ gate.Full read.queued
  | _ => True

theorem Remembers.later (remembers : Remembers gate s stage) (since : Since s s') :
    Remembers gate s' stage := by
  cases stage with
  | missed tried => exact ⟨remembers.1, remembers.2.trans since⟩
  | counting tried read =>
    exact ⟨remembers.1, remembers.2.1, remembers.2.2.1.trans since, remembers.2.2.2⟩
  | overloaded tried read => exact remembers
  | _ => trivial

/-! ## One step -/

theorem Moves.since (moves : Moves gate s stage s' stage') : Since s s' := by
  cases moves with
  | taken | handed =>
    constructor
    · exact Nat.le_refl _
    · simp only [Shared.take]
      omega
  | forgone | released =>
    constructor
    · simp only [Shared.giveBack]
      omega
    · simp only [Shared.giveBack]
      omega
  | exchanged | dropped | refused | left => exact ⟨Nat.le_refl _, Nat.le_add_right _ _⟩
  | _ => exact Since.refl _

theorem Moves.permits (moves : Moves gate s stage s' stage') :
    s'.free + stage'.holdsPermit.toNat = s.free + stage.holdsPermit.toNat := by
  cases moves <;>
    simp only [Stage.holdsPermit, Shared.take, Shared.giveBack, Shared.reserve, Shared.release,
      Bool.toNat_true, Bool.toNat_false] <;> omega

/-- The counter changes by the reservation that the call comes to hold or gives up. -/
theorem Moves.reservations (moves : Moves gate s stage s' stage')
    (held : stage.holdsReservation.toNat ≤ s.queued) :
    s'.queued + stage.holdsReservation.toNat = s.queued + stage'.holdsReservation.toNat := by
  cases moves <;>
    simp only [Stage.holdsReservation, Shared.take, Shared.giveBack, Shared.reserve,
      Shared.release, Bool.toNat_true, Bool.toNat_false] at held ⊢ <;> omega

theorem Moves.within (moves : Moves gate s stage s' stage') (within : Within gate s) :
    Within gate s' := by
  intro finite
  have before := within finite
  cases moves with
  | exchanged room same =>
    have below : ¬ gate.maxQueued ≤ _ := fun reached => room ⟨finite, reached⟩
    simp only [Shared.reserve]
    omega
  | dropped | refused | left =>
    simp only [Shared.release]
    omega
  | _ => exact before

theorem Moves.remembers (moves : Moves gate s stage s' stage') (remembers : Remembers gate s stage)
    (within : Within gate s) : Remembers gate s' stage' := by
  cases moves with
  | missed none_free => exact ⟨none_free, Since.refl s⟩
  | loaded => exact ⟨remembers.1, remembers.2, Since.refl s, within⟩
  | retried room =>
    exact ⟨remembers.1, remembers.2.1.trans remembers.2.2.1, Since.refl s, within⟩
  | rejected full => exact ⟨remembers.1, remembers.2.1, remembers.2.2.2, full⟩
  | _ => trivial

/-! ## Runs -/

/-- The counter counts the reservations, the semaphore's permits are free or held, and every
call remembers what was the case. -/
structure Accounted (gate : AdmissionGate) (s : GateState) : Prop where
  queued : s.shared.queued = s.calls.countP Stage.holdsReservation
  permits : s.shared.free + s.calls.countP Stage.holdsPermit = gate.permits
  within : Within gate s.shared
  remembers : ∀ stage ∈ s.calls, Remembers gate s.shared stage

theorem start_accounted (gate : AdmissionGate) : Accounted gate gate.start where
  queued := rfl
  permits := rfl
  within _ := Nat.zero_le _
  remembers := by simp [AdmissionGate.start]

theorem step_accounted {s t : GateState} {event : GateEvent} (step : GateStep gate s event t)
    (accounted : Accounted gate s) : Accounted gate t := by
  obtain ⟨queued, permits, within, remembers⟩ := accounted
  cases step with
  | called =>
    refine ⟨?_, ?_, within, ?_⟩
    · simpa [Stage.holdsReservation] using queued
    · simpa [Stage.holdsPermit] using permits
    · intro stage among
      rcases List.mem_append.mp among with old | new
      · exact remembers stage old
      · obtain rfl := List.mem_singleton.mp new
        trivial
  | @moved calls stage stage' shared moved moves =>
    have reserved := moved.countP Stage.holdsReservation
    have permitted := moved.countP Stage.holdsPermit
    have held : stage.holdsReservation.toNat ≤ s.shared.queued :=
      queued ▸ Interleaving.toNat_le_countP Stage.holdsReservation moved.mem
    have counted := moves.reservations held
    have balanced := moves.permits
    refine ⟨by dsimp only; omega, by dsimp only; omega, moves.within within, ?_⟩
    have old : ∀ other ∈ s.calls, Remembers gate shared other := by
      intro other among
      exact (remembers other among).later moves.since
    exact moved.forall_mem old (moves.remembers (remembers stage moved.mem) within)
  | closed =>
    refine ⟨queued, permits, within, ?_⟩
    intro stage among
    exact (remembers stage among).later ⟨Nat.le_refl _, Nat.le_add_right _ _⟩

theorem run_accounted {s : GateState}
    (run : Run (GateStep gate) Unrestricted gate.start s) : Accounted gate s :=
  run.invariant (start_accounted gate) fun _ _ _ _ accounted step _ => step_accounted step accounted

/-! ## Gates -/

/-- The number of permits that the calls of a gate hold. -/
def GateState.outstanding (s : GateState) : Nat := s.calls.countP Stage.holdsPermit

/-- The number of calls that hold a queue reservation. -/
def GateState.reservations (s : GateState) : Nat := s.calls.countP Stage.holdsReservation

theorem new_permits {maxConcurrent maxQueued : Nat} {label : String}
    (made : AdmissionGate.new maxConcurrent maxQueued label = some (.ok gate)) :
    gate.maxQueued = maxQueued ∧ (maxConcurrent ≠ usizeMax → gate.permits = maxConcurrent) := by
  unfold AdmissionGate.new at made
  by_cases zero : maxConcurrent = 0
  · simp [zero] at made
  · rw [if_neg zero] at made
    dsimp only at made
    by_cases fits : (if maxConcurrent = usizeMax then maxPermits else maxConcurrent) ≤ maxPermits
    · rw [if_pos fits] at made
      obtain rfl : _ = gate := by simpa using made
      exact ⟨rfl, fun finite => if_neg finite⟩
    · rw [if_neg fits] at made
      cases made

/-- A call was turned away with no permit free when it tried for one and the queue full when it
read the counter. -/
def Exhausted (gate : AdmissionGate) (tried read : Shared) : Prop :=
  tried.free = 0 ∧ read.queued = gate.maxQueued

/-- A call tries a gate that is closed and has permits. -/
def TriesShut (tried : Shared) : Prop := tried.closed = true ∧ 0 < tried.free

/-- The counter counts the reservations within the limits, and a rejected call found the queue
full; it found no permit free either, unless it tried a closed gate. -/
theorem overload_honest_iff {maxConcurrent maxQueued : Nat} {label : String} {s : GateState}
    (made : AdmissionGate.new maxConcurrent maxQueued label = some (.ok gate))
    (run : Run (GateStep gate) Unrestricted gate.start s) :
    s.shared.queued = s.reservations ∧
      (maxQueued ≠ usizeMax → s.shared.queued ≤ maxQueued) ∧
      s.shared.free + s.outstanding = gate.permits ∧
      (maxConcurrent ≠ usizeMax → s.outstanding ≤ maxConcurrent) ∧
      ∀ tried read, .overloaded tried read ∈ s.calls →
        (Exhausted gate tried read ↔ ¬ TriesShut tried) ∧
          (tried.returned = read.returned → read.free ≤ tried.free) := by
  obtain ⟨queue, concurrency⟩ := new_permits made
  obtain ⟨queued, permits, within, remembers⟩ := run_accounted run
  refine ⟨queued, ?_, permits, ?_, ?_⟩
  · intro finite
    exact queue ▸ within (queue ▸ finite)
  · intro finite
    have bound := concurrency finite
    simp only [GateState.outstanding]
    omega
  · intro tried read rejected
    obtain ⟨missed, since, readWithin, finite, reached⟩ := remembers _ rejected
    have full : read.queued = gate.maxQueued := Nat.le_antisymm (readWithin finite) reached
    have grown := since.free
    refine ⟨⟨?_, ?_⟩, by omega⟩
    · rintro ⟨exhausted, -⟩ ⟨-, free⟩
      omega
    · intro fair
      refine ⟨?_, full⟩
      rcases missed with shut | exhausted
      · by_contra free
        exact fair ⟨shut, Nat.pos_of_ne_zero free⟩
      · exact exhausted

/-! ## A closed gate -/

def narrow : AdmissionGate := ⟨1, 0, "global"⟩

theorem moves_alone (moves : Moves gate s stage s' stage') :
    GateStep gate ⟨s, [stage]⟩ (.moved stage stage') ⟨s', [stage']⟩ :=
  .moved .alone moves

/-- A call of a closed gate that has a permit free and no room in its queue. -/
theorem shut_rejects :
    Run (GateStep narrow) Unrestricted narrow.start
      ⟨⟨1, true, 0, 0⟩, [.overloaded ⟨1, true, 0, 0⟩ ⟨1, true, 0, 0⟩]⟩ := by
  have tries : Run (GateStep narrow) Unrestricted narrow.start
      ⟨⟨1, true, 0, 0⟩, [.missed ⟨1, true, 0, 0⟩]⟩ :=
    ((Run.start.then .closed).then .called).then (moves_alone (.missed (.inl rfl)))
  exact (tries.then (moves_alone .loaded)).then
    (moves_alone (.rejected ⟨by decide, Nat.le_refl _⟩))

/-- The gate has a permit free from its start on, and says that its capacity is exhausted. -/
theorem shut_gate_overloaded :
    AdmissionGate.new 1 0 "global" = some (.ok narrow) ∧
      ∃ s, Run (GateStep narrow) Unrestricted narrow.start s ∧
        ∃ tried read, .overloaded tried read ∈ s.calls ∧ 0 < tried.free ∧ 0 < read.free ∧
          ¬ Exhausted narrow tried read :=
  ⟨rfl, _, shut_rejects, _, _, List.mem_singleton_self _, by decide, by decide, by
    simp [Exhausted]⟩

theorem overload_honest_narrow :
    ∃ s, Run (GateStep narrow) Unrestricted narrow.start s ∧
      s.shared.queued = s.reservations ∧ s.shared.free + s.outstanding = 1 :=
  have made : AdmissionGate.new 1 0 "global" = some (.ok narrow) := rfl
  have counted := overload_honest_iff made shut_rejects
  ⟨_, shut_rejects, counted.1, counted.2.2.1⟩

end ImagegenBridge.Admission
