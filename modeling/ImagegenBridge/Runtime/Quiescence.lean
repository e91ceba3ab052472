import ImagegenBridge.Runtime.Activity
import Mathlib.Data.List.Nodup

/-!
# A runtime that has shut down is quiet

A call is past its entry checks only while it is counted, and no call passes them once the
token is cancelled.
-/

namespace ImagegenBridge.Activity

open Interleaving (Moved)
open Transition (Run Unrestricted)

variable {registry : ProviderRegistry} {s t : RuntimeState} {call call' : Call}

/-- No call is past its entry checks. -/
def Quiet (calls : List Call) : Prop := ∀ call ∈ calls, call.pastEntry = false

/-! ## Calls -/

theorem Call.pastEntry.holdsGuard (past : call.pastEntry = true) : call.holdsGuard = true := by
  cases call with
  | working | executing | leaving => rfl
  | _ => cases past

theorem Call.Moves.counted {cancelled : Bool} {active active' : Nat}
    (moves : call.Moves registry cancelled active active' call')
    (held : call.holdsGuard.toNat ≤ active) :
    active' + call.holdsGuard.toNat = active + call'.holdsGuard.toNat := by
  cases moves <;>
    simp only [Call.holdsGuard, Bool.toNat_true, Bool.toNat_false] at held ⊢ <;> omega

/-- A call passes its entry checks only while the token is not cancelled. -/
theorem Call.Moves.stays_out {active active' : Nat}
    (moves : call.Moves registry true active active' call') (out : call.pastEntry = false) :
    call'.pastEntry = false := by
  cases moves with
  | passed open_ => cases open_
  | executes | executed | finished | dropped => cases out
  | _ => rfl

/-- The counter that a call takes to zero is announced. -/
theorem Call.Moves.announces {cancelled : Bool} {active active' : Nat}
    (moves : call.Moves registry cancelled active active' call') (before : active ≠ 0)
    (zero : active' = 0) : call' = .notifying := by
  cases moves with
  | leftLast => rfl
  | left more => omega
  | _ => omega

theorem Call.Moves.not_notifying {cancelled : Bool} {active active' : Nat}
    (moves : call.Moves registry cancelled active active' call') : call ≠ .notifying := by
  cases moves <;> exact Call.noConfusion

theorem quiet_of_idle {calls : List Call} (idle : calls.countP Call.holdsGuard = 0) :
    Quiet calls := by
  intro call among
  by_contra past
  have guarded := Call.pastEntry.holdsGuard (Bool.eq_true_of_not_eq_false past)
  exact List.countP_eq_zero.mp idle call among guarded

theorem Quiet.moved {calls calls' : List Call} {active active' : Nat} (quiet : Quiet calls)
    (moved : Moved calls call call' calls')
    (moves : call.Moves registry true active active' call') : Quiet calls' :=
  moved.forall_mem quiet (moves.stays_out (quiet call moved.mem))

/-! ## Shutdowns -/

/-- The token is cancelled, no result is stored, and a provider was invoked only by calls that
were dropped. -/
def Closing (s : RuntimeState) : Prop :=
  s.cancelled = true ∧ s.result = none ∧ ∀ name, s.invoked.count name ≤ s.abandoned

/-- As before, with the rest of the providers still to be invoked. -/
def Releasing (s : RuntimeState) (rest : List String) : Prop :=
  s.cancelled = true ∧ s.result = none ∧
    ∀ name, s.invoked.count name + rest.count name ≤ s.abandoned + 1

/-- Somebody wakes a call that waits for activities, or will. -/
def WakeUpPending (s : RuntimeState) (woken : Bool) : Prop :=
  woken = true ∨ s.active ≠ 0 ∨ .notifying ∈ s.calls

/-- What the call that holds the lock may rely on. -/
def Knows (s : RuntimeState) : Shutdown → Prop
  | .locked => s.result = none → ∀ name, s.invoked.count name ≤ s.abandoned
  | .closing | .listening _ => Closing s
  | .parked woken => Closing s ∧ WakeUpPending s woken
  | .releasing idle firstError rest | .awaiting idle firstError _ rest =>
    Releasing s rest ∧ (idle = true → Quiet s.calls) ∧ (firstError = none → idle = true)

structure Consistent (s : RuntimeState) : Prop where
  active : s.active = s.calls.countP Call.holdsGuard
  inside : ∀ stage, s.inside = some stage → Knows s stage
  outside : s.inside = none → s.result = none → ∀ name, s.invoked.count name ≤ s.abandoned
  invoked : ∀ name, s.invoked.count name ≤ s.abandoned + 1
  stored : ∀ result, s.result = some result →
    s.cancelled = true ∧ (result = .ok () → Quiet s.calls)
  returned : ∀ result ∈ s.returned, s.result = some result

theorem start_consistent : Consistent RuntimeState.start where
  active := rfl
  inside := by simp [RuntimeState.start]
  outside _ _ _ := Nat.le_refl _
  invoked _ := Nat.zero_le _
  stored := by simp [RuntimeState.start]
  returned := by simp [RuntimeState.start]

theorem ProviderRegistry.count_le (registry : ProviderRegistry) (name : String) :
    registry.names.count name ≤ 1 :=
  List.nodup_iff_count_le_one.mp registry.distinct name

theorem Closing.releasing (registry : ProviderRegistry) (closing : Closing s) :
    Releasing s registry.names :=
  ⟨closing.1, closing.2.1, fun name => Nat.add_le_add (closing.2.2 name) (registry.count_le name)⟩

/-- Steps of calls keep what the call of `shutdown` relies on. -/
theorem Knows.of_calls {active : Nat} {calls : List Call} {stage : Shutdown}
    (knows : Knows s stage)
    (quiet : s.cancelled = true → Quiet s.calls → Quiet calls)
    (pending : ∀ woken, WakeUpPending s woken →
      WakeUpPending { s with active := active, calls := calls } woken) :
    Knows { s with active := active, calls := calls } stage := by
  cases stage with
  | locked | closing | listening => exact knows
  | parked woken => exact ⟨knows.1, pending woken knows.2⟩
  | releasing | awaiting =>
    obtain ⟨closing, idle, spotless⟩ := knows
    exact ⟨closing, fun ran => quiet closing.1 (idle ran), spotless⟩

theorem Knows.woken {calls : List Call} {inside : Option Shutdown} {stage : Shutdown}
    (knows : Knows s stage) (quiet : Quiet s.calls → Quiet calls) :
    Knows { s with calls := calls, inside := inside } stage.wake := by
  cases stage with
  | locked | closing | listening => exact knows
  | parked woken => exact ⟨knows.1, .inl rfl⟩
  | releasing | awaiting =>
    obtain ⟨closing, idle, spotless⟩ := knows
    exact ⟨closing, fun ran => quiet (idle ran), spotless⟩

/-- The call of `shutdown` goes on and changes nothing else. -/
theorem Consistent.proceeds {stage stage' : Shutdown} (consistent : Consistent s)
    (held : s.inside = some stage) (knows : Knows s stage → Knows s stage') :
    Consistent { s with inside := some stage' } where
  active := consistent.active
  inside other same := by
    obtain rfl := Option.some.inj same
    exact knows (consistent.inside stage held)
  outside none_inside := by cases none_inside
  invoked := consistent.invoked
  stored := consistent.stored
  returned := consistent.returned

/-- The call of `shutdown` gives up the lock without a result. -/
theorem Consistent.leaves {abandoned : Nat} (consistent : Consistent s)
    (more : s.abandoned ≤ abandoned)
    (owed : s.result = none → ∀ name, s.invoked.count name ≤ abandoned) :
    Consistent { s with inside := none, abandoned := abandoned } where
  active := consistent.active
  inside stage none_inside := by cases none_inside
  outside _ := owed
  invoked name := Nat.le_trans (consistent.invoked name) (Nat.succ_le_succ more)
  stored := consistent.stored
  returned := consistent.returned

theorem Consistent.moved {calls : List Call} {active : Nat} (consistent : Consistent s)
    (moved : Moved s.calls call call' calls)
    (moves : call.Moves registry s.cancelled s.active active call') :
    Consistent { s with active, calls } := by
  have held : call.holdsGuard.toNat ≤ s.active :=
    consistent.active ▸ Interleaving.toNat_le_countP Call.holdsGuard moved.mem
  have counted := moved.countP Call.holdsGuard
  have changes := moves.counted held
  have balanced := consistent.active
  have quiet : s.cancelled = true → Quiet s.calls → Quiet calls := by
    intro cancelled quiet
    rw [cancelled] at moves
    exact quiet.moved moved moves
  have pending : ∀ woken, WakeUpPending s woken →
      WakeUpPending { s with active := active, calls := calls } woken := by
    rintro woken (already | counts | notifying)
    · exact .inl already
    · by_cases zero : active = 0
      · exact .inr (.inr (moves.announces counts zero ▸ moved.mem_new))
      · exact .inr (.inl zero)
    · rcases moved.old_or_stays notifying with same | stays
      · exact absurd same.symm moves.not_notifying
      · exact .inr (.inr stays)
  exact {
    active := by dsimp only; omega
    inside := fun stage inside => (consistent.inside stage inside).of_calls quiet pending
    outside := consistent.outside
    invoked := consistent.invoked
    stored := fun result stored =>
      have ⟨cancelled, clean⟩ := consistent.stored result stored
      ⟨cancelled, fun good => quiet cancelled (clean good)⟩
    returned := consistent.returned }

theorem Consistent.called (consistent : Consistent s) :
    Consistent { s with calls := s.calls ++ [.called] } := by
  have quiet : Quiet s.calls → Quiet (s.calls ++ [.called]) := by
    intro quiet call among
    rcases List.mem_append.mp among with old | new
    · exact quiet call old
    · obtain rfl := List.mem_singleton.mp new
      rfl
  have pending : ∀ woken, WakeUpPending s woken →
      WakeUpPending { s with active := s.active, calls := s.calls ++ [.called] } woken := by
    rintro woken (already | counts | notifying)
    · exact .inl already
    · exact .inr (.inl counts)
    · exact .inr (.inr (List.mem_append_left _ notifying))
  exact {
    active := by simpa [Call.holdsGuard] using consistent.active
    inside := fun stage inside =>
      (consistent.inside stage inside).of_calls (fun _ => quiet) pending
    outside := consistent.outside
    invoked := consistent.invoked
    stored := fun result stored =>
      have ⟨cancelled, clean⟩ := consistent.stored result stored
      ⟨cancelled, fun good => quiet (clean good)⟩
    returned := consistent.returned }

theorem Consistent.notified {calls : List Call} (consistent : Consistent s)
    (moved : Moved s.calls .notifying .ended calls) :
    Consistent { s with calls, inside := s.inside.map Shutdown.wake } := by
  have quiet : Quiet s.calls → Quiet calls := fun quiet => moved.forall_mem quiet rfl
  have counted := moved.countP Call.holdsGuard
  have balanced := consistent.active
  exact {
    active := by
      simp only [Call.holdsGuard, Bool.toNat_false] at counted
      dsimp only
      omega
    inside := by
      intro stage inside
      obtain ⟨old, held, rfl⟩ := Option.map_eq_some_iff.mp inside
      exact (consistent.inside old held).woken quiet
    outside := by
      intro none_inside
      exact consistent.outside (Option.map_eq_none_iff.mp none_inside)
    invoked := consistent.invoked
    stored := fun result stored =>
      have ⟨cancelled, clean⟩ := consistent.stored result stored
      ⟨cancelled, fun good => quiet (clean good)⟩
    returned := consistent.returned }

theorem keepFirst_none {firstError : Option BridgeError} {answer : Outcome Unit}
    (kept : keepFirst firstError answer = none) : firstError = none := by
  cases answer with
  | error error => cases kept
  | ok => exact kept

theorem result_ok {firstError : Option BridgeError} (good : resultOf firstError = .ok ()) :
    firstError = none := by
  cases firstError with
  | none => rfl
  | some error => cases good

theorem Consistent.cancels (consistent : Consistent s)
    (held : s.inside = some .locked) (unanswered : s.result = none) :
    Consistent { s with cancelled := true, inside := some .closing } where
  active := consistent.active
  inside stage inside := by
    obtain rfl := Option.some.inj inside
    exact ⟨rfl, unanswered, consistent.inside _ held unanswered⟩
  outside none_inside := by cases none_inside
  invoked := consistent.invoked
  stored result stored := ⟨rfl, (consistent.stored result stored).2⟩
  returned := consistent.returned

theorem Consistent.invokes {idle : Bool} {firstError : Option BridgeError} {provider : String}
    {rest : List String} (consistent : Consistent s)
    (held : s.inside = some (.releasing idle firstError (provider :: rest))) :
    Consistent
      { s with
        invoked := s.invoked ++ [provider],
        inside := some (.awaiting idle firstError provider rest) } := by
  obtain ⟨⟨cancelled, unanswered, owed⟩, quiet, spotless⟩ := consistent.inside _ held
  have now_owed : ∀ name, (s.invoked ++ [provider]).count name + rest.count name ≤
      s.abandoned + 1 := by
    intro name
    have before := owed name
    rw [List.count_cons] at before
    rw [List.count_append, List.count_singleton]
    omega
  exact {
    active := consistent.active
    inside := by
      intro stage inside
      obtain rfl := Option.some.inj inside
      exact ⟨⟨cancelled, unanswered, now_owed⟩, quiet, spotless⟩
    outside := by
      intro none_inside
      cases none_inside
    invoked := fun name => Nat.le_trans (Nat.le_add_right _ _) (now_owed name)
    stored := consistent.stored
    returned := consistent.returned }

theorem Consistent.stores {idle : Bool} {firstError : Option BridgeError}
    (consistent : Consistent s)
    (held : s.inside = some (.releasing idle firstError [])) :
    Consistent
      { s with
        result := some (resultOf firstError),
        inside := none,
        returned := s.returned ++ [resultOf firstError] } := by
  obtain ⟨⟨cancelled, unanswered, -⟩, quiet, spotless⟩ := consistent.inside _ held
  exact {
    active := consistent.active
    inside := by
      intro stage none_inside
      cases none_inside
    outside := by
      intro _ none_stored
      cases none_stored
    invoked := consistent.invoked
    stored := by
      intro result stored
      obtain rfl := Option.some.inj stored
      exact ⟨cancelled, fun good => quiet (spotless (result_ok good))⟩
    returned := by
      intro other among
      rcases List.mem_append.mp among with old | new
      · have stored := consistent.returned other old
        rw [unanswered] at stored
        cases stored
      · obtain rfl := List.mem_singleton.mp new
        rfl }

theorem step_consistent {event : RuntimeEvent} (step : RuntimeStep registry s event t)
    (consistent : Consistent s) : Consistent t := by
  cases step with
  | called => exact consistent.called
  | moved moved moves => exact consistent.moved moved moves
  | notified moved => exact consistent.notified moved
  | locked free =>
    exact {
      active := consistent.active
      inside := by
        intro stage inside
        obtain rfl := Option.some.inj inside
        exact consistent.outside free
      outside := by
        intro none_inside
        cases none_inside
      invoked := consistent.invoked
      stored := consistent.stored
      returned := consistent.returned }
  | @answered result held stored =>
    have left := consistent.leaves (Nat.le_refl _) fun unanswered => by simp [stored] at unanswered
    exact {
      active := left.active
      inside := left.inside
      outside := left.outside
      invoked := left.invoked
      stored := left.stored
      returned := by
        intro other among
        rcases List.mem_append.mp among with old | new
        · exact consistent.returned other old
        · obtain rfl := List.mem_singleton.mp new
          exact stored }
  | cancelled held unanswered => exact consistent.cancels held unanswered
  | listens held => exact consistent.proceeds held id
  | idle held zero =>
    apply consistent.proceeds held
    intro closing
    have quiet : Quiet s.calls := quiet_of_idle (consistent.active ▸ zero)
    exact ⟨closing.releasing registry, fun _ => quiet, fun _ => rfl⟩
  | parks held busy =>
    apply consistent.proceeds held
    intro closing
    exact ⟨closing, .inr (.inl busy)⟩
  | wakes held => exact consistent.proceeds held fun knows => knows.1
  | elapsed held =>
    apply consistent.proceeds held
    intro knows
    exact ⟨knows.1.releasing registry, by simp, by simp⟩
  | invokes held => exact consistent.invokes held
  | released held =>
    apply consistent.proceeds held
    rintro ⟨closing, idle, spotless⟩
    exact ⟨closing, idle, fun kept => spotless (keepFirst_none kept)⟩
  | stored held => exact consistent.stores held
  | droppedWaiting held =>
    have knows := consistent.inside _ held
    exact consistent.leaves (Nat.le_refl _) fun _ => knows.1.2.2
  | droppedReleasing held =>
    apply consistent.leaves (Nat.le_succ _)
    intro unanswered
    exact consistent.invoked

theorem run_consistent (run : Run (RuntimeStep registry) Unrestricted RuntimeState.start s) :
    Consistent s :=
  run.invariant start_consistent fun _ _ _ _ consistent step _ => step_consistent step consistent

theorem step_returned {event : RuntimeEvent} {result : Outcome Unit}
    (step : RuntimeStep registry s event t) (among : result ∈ s.returned) :
    result ∈ t.returned := by
  cases step with
  | answered | stored => exact List.mem_append_left _ among
  | _ => exact among

theorem Run.returned {result : Outcome Unit} (run : Run (RuntimeStep registry) Unrestricted s t)
    (among : result ∈ s.returned) : result ∈ t.returned :=
  run.invariant among fun _ _ _ _ before step _ => step_returned step before

/-! ## Shutting down -/

/-- After a shutdown has returned without error no call is past its entry checks, then and
ever after. A provider is invoked once, and once more for each shutdown that was dropped at
it; in time, only while the runtime is quiet. All shutdowns return the same, and none waits
for activities that have ended without being told. -/
theorem shutdown_quiesces (run : Run (RuntimeStep registry) Unrestricted RuntimeState.start s) :
    (.ok () ∈ s.returned →
        ∀ t, Run (RuntimeStep registry) Unrestricted s t → Quiet t.calls) ∧
      (∀ name, s.invoked.count name ≤ s.abandoned + 1) ∧
      (∀ firstError provider rest,
        s.inside = some (.awaiting true firstError provider rest) → Quiet s.calls) ∧
      (∀ result ∈ s.returned, ∀ result' ∈ s.returned, result = result') ∧
      (s.inside = some (.parked false) → s.active = 0 → .notifying ∈ s.calls) := by
  have consistent := run_consistent run
  refine ⟨?_, consistent.invoked, ?_, ?_, ?_⟩
  · intro good t later
    have there := run_consistent (run.trans later)
    exact (there.stored _ (there.returned _ (Run.returned later good))).2 rfl
  · intro firstError provider rest held
    exact (consistent.inside _ held).2.1 rfl
  · intro result among result' among'
    have stored := consistent.returned result among
    rw [consistent.returned result' among'] at stored
    exact (Option.some.inj stored).symm
  · intro held zero
    rcases (consistent.inside _ held).2 with woken | counts | notifying
    · cases woken
    · exact absurd zero counts
    · exact notifying

def codexOnly : ProviderRegistry := ⟨["codex-app-server"], List.nodup_singleton _⟩

/-- All providers have shut down in order. -/
theorem stores_ok (held : s.inside = some (.releasing true none [])) :
    RuntimeStep registry s (.shutdown s.inside)
      { s with result := some (.ok ()), inside := none, returned := s.returned ++ [.ok ()] } := by
  have step : RuntimeStep registry s _ _ := .stored held
  exact step

/-- A shutdown that finds a call at work waits for it. -/
theorem codexOnly_shuts_down :
    Run (RuntimeStep codexOnly) Unrestricted RuntimeState.start
      ⟨true, 0, some (.ok ()), ["codex-app-server"], 0, none, [.ok ()], [.ended]⟩ := by
  have works : Run (RuntimeStep codexOnly) Unrestricted RuntimeState.start
      ⟨false, 1, none, [], 0, none, [], [.working]⟩ :=
    (((Run.start.then .called).then (.moved .alone (.checked rfl))).then
      (.moved .alone .entered)).then (.moved .alone (.passed rfl))
  have waits : Run (RuntimeStep codexOnly) Unrestricted RuntimeState.start
      ⟨true, 1, none, [], 0, some (.parked false), [], [.working]⟩ :=
    (((works.then (.locked rfl)).then (.cancelled rfl rfl)).then (.listens rfl)).then
      (.parks rfl (by decide))
  have woken : Run (RuntimeStep codexOnly) Unrestricted RuntimeState.start
      ⟨true, 0, none, [], 0, some (.listening false), [], [.ended]⟩ :=
    (((waits.then (.moved .alone .finished)).then (.moved .alone (.leftLast rfl))).then
      (.notified .alone)).then (.wakes rfl)
  have invoked : Run (RuntimeStep codexOnly) Unrestricted RuntimeState.start
      ⟨true, 0, none, ["codex-app-server"], 0, some (.awaiting true none "codex-app-server" []),
        [], [.ended]⟩ :=
    (woken.then (.idle rfl rfl)).then (.invokes rfl)
  have good : keepFirst none (.ok ()) = none := rfl
  have released : Run (RuntimeStep codexOnly) Unrestricted RuntimeState.start
      ⟨true, 0, none, ["codex-app-server"], 0, some (.releasing true none []), [], [.ended]⟩ :=
    good ▸ invoked.then (.released rfl)
  exact released.then (stores_ok rfl)

theorem codexOnly_quiet :
    ∃ s, Run (RuntimeStep codexOnly) Unrestricted RuntimeState.start s ∧ .ok () ∈ s.returned ∧
      Quiet s.calls :=
  have good := List.mem_singleton_self _
  ⟨_, codexOnly_shuts_down, good, (shutdown_quiesces codexOnly_shuts_down).1 good _ .start⟩

end ImagegenBridge.Activity
