import ImagegenBridge.Core.Error
import ImagegenBridge.Lib.Interleaving
import ImagegenBridge.Lib.Transition

/-!
# Activity and shutdown of a runtime, `crates/runtime/src/orchestrator.rs`

Calls of `execute_with` and of `shutdown` interleave at every atomic step they take on the
token, on the counter of activities and its notification, and on the stored result. A call
of `execute_with` that is past its entry checks executes providers as it likes, and ends or
is dropped at any time.
-/

namespace ImagegenBridge.Activity

/-- The keys of the map of providers. -/
structure ProviderRegistry where
  names : List String
  distinct : names.Nodup

/-! ## Calls -/

/-- Where a call of `execute_with_optional_events` stands. -/
inductive Call where
  | called
  | checked
  | entered
  | working
  | executing (provider : String)
  | leaving (worked : Bool)
  -- Its guard took the counter to zero and has not notified yet.
  | notifying
  | ended

namespace Call

/-- The call has its `ActivityGuard`. -/
def holdsGuard : Call → Bool
  | entered | working | executing _ | leaving _ => true
  | _ => false

/-- The call is past its entry checks. -/
def pastEntry : Call → Bool
  | working | executing _ | leaving true => true
  | _ => false

end Call

/-- The atomic steps of one call, with the token and the counter they see, and the counter
they leave. -/
inductive Call.Moves (registry : ProviderRegistry) (cancelled : Bool) (active : Nat) :
    Call → Nat → Call → Prop
  | refused : cancelled = true → Moves registry cancelled active .called active .ended
  | checked : cancelled = false → Moves registry cancelled active .called active .checked
  | unpolled : Moves registry cancelled active .called active .ended
  | entered : Moves registry cancelled active .checked (active + 1) .entered
  | turnedAway : cancelled = true →
      Moves registry cancelled active .entered active (.leaving false)
  | passed : cancelled = false → Moves registry cancelled active .entered active .working
  | executes {provider : String} : provider ∈ registry.names →
      Moves registry cancelled active .working active (.executing provider)
  | executed {provider : String} :
      Moves registry cancelled active (.executing provider) active .working
  | finished : Moves registry cancelled active .working active (.leaving true)
  | dropped {provider : String} :
      Moves registry cancelled active (.executing provider) active (.leaving true)
  | left {worked : Bool} : active ≠ 1 →
      Moves registry cancelled active (.leaving worked) (active - 1) .ended
  | leftLast {worked : Bool} : active = 1 →
      Moves registry cancelled active (.leaving worked) (active - 1) .notifying

/-! ## Shutdowns -/

def elapsedError : BridgeError :=
  (BridgeError.new .timeout "runtime shutdown grace elapsed with active operations").setRetryable
    true

/-- `first_error.map_or(Ok(()), Err)`. -/
def resultOf : Option BridgeError → Outcome Unit
  | none => .ok ()
  | some error => .error error

/-- The first error, after one more provider has answered. -/
def keepFirst (firstError : Option BridgeError) : Outcome Unit → Option BridgeError
  | .ok () => firstError
  | .error error => some (firstError.getD error)

/-- Where the call of `shutdown` stands that holds the lock of the stored result. A future of
the notification is `woken` by `notify_waiters` from its creation on; `idle` says that the
wait for activities did not run out of time. -/
inductive Shutdown where
  | locked
  | closing
  | listening (woken : Bool)
  | parked (woken : Bool)
  | releasing (idle : Bool) (firstError : Option BridgeError) (rest : List String)
  | awaiting (idle : Bool) (firstError : Option BridgeError) (provider : String)
      (rest : List String)

/-- `notify_waiters`. -/
def Shutdown.wake : Shutdown → Shutdown
  | .listening _ => .listening true
  | .parked _ => .parked true
  | stage => stage

/-- The lock is held by the call `inside`. `invoked` lists the providers whose `shutdown` was
invoked, and `abandoned` counts the calls of `ImagegenRuntime::shutdown` that were dropped
while a provider shut down. -/
structure RuntimeState where
  cancelled : Bool
  active : Nat
  result : Option (Outcome Unit)
  invoked : List String
  abandoned : Nat
  inside : Option Shutdown
  returned : List (Outcome Unit)
  calls : List Call

def RuntimeState.start : RuntimeState := ⟨false, 0, none, [], 0, none, [], []⟩

inductive RuntimeEvent where
  | called
  | moved (call call' : Call)
  | notified
  | shutdown (stage : Option Shutdown)

inductive RuntimeStep (registry : ProviderRegistry) :
    RuntimeState → RuntimeEvent → RuntimeState → Prop
  | called {s : RuntimeState} :
      RuntimeStep registry s .called { s with calls := s.calls ++ [.called] }
  | moved {s : RuntimeState} {call call' : Call} {calls : List Call} {active : Nat} :
      Interleaving.Moved s.calls call call' calls →
      call.Moves registry s.cancelled s.active active call' →
      RuntimeStep registry s (.moved call call') { s with active, calls }
  | notified {s : RuntimeState} {calls : List Call} :
      Interleaving.Moved s.calls .notifying .ended calls →
      RuntimeStep registry s .notified { s with calls, inside := s.inside.map Shutdown.wake }
  | locked {s : RuntimeState} : s.inside = none →
      RuntimeStep registry s (.shutdown none) { s with inside := some .locked }
  | answered {s : RuntimeState} {result : Outcome Unit} : s.inside = some .locked →
      s.result = some result →
      RuntimeStep registry s (.shutdown s.inside)
        { s with inside := none, returned := s.returned ++ [result] }
  -- The token is cancelled; the gates are closed before the wait.
  | cancelled {s : RuntimeState} : s.inside = some .locked → s.result = none →
      RuntimeStep registry s (.shutdown s.inside)
        { s with cancelled := true, inside := some .closing }
  | listens {s : RuntimeState} : s.inside = some .closing →
      RuntimeStep registry s (.shutdown s.inside) { s with inside := some (.listening false) }
  | idle {s : RuntimeState} {woken : Bool} : s.inside = some (.listening woken) → s.active = 0 →
      RuntimeStep registry s (.shutdown s.inside)
        { s with inside := some (.releasing true none registry.names) }
  | parks {s : RuntimeState} {woken : Bool} : s.inside = some (.listening woken) →
      s.active ≠ 0 →
      RuntimeStep registry s (.shutdown s.inside) { s with inside := some (.parked woken) }
  | wakes {s : RuntimeState} : s.inside = some (.parked true) →
      RuntimeStep registry s (.shutdown s.inside) { s with inside := some (.listening false) }
  | elapsed {s : RuntimeState} {woken : Bool} : s.inside = some (.parked woken) →
      RuntimeStep registry s (.shutdown s.inside)
        { s with inside := some (.releasing false (some elapsedError) registry.names) }
  | invokes {s : RuntimeState} {idle : Bool} {firstError : Option BridgeError}
      {provider : String} {rest : List String} :
      s.inside = some (.releasing idle firstError (provider :: rest)) →
      RuntimeStep registry s (.shutdown s.inside)
        { s with
          invoked := s.invoked ++ [provider],
          inside := some (.awaiting idle firstError provider rest) }
  | released {s : RuntimeState} {idle : Bool} {firstError : Option BridgeError}
      {provider : String} {rest : List String} {answer : Outcome Unit} :
      s.inside = some (.awaiting idle firstError provider rest) →
      RuntimeStep registry s (.shutdown s.inside)
        { s with inside := some (.releasing idle (keepFirst firstError answer) rest) }
  -- The lock is released with the return.
  | stored {s : RuntimeState} {idle : Bool} {firstError : Option BridgeError} :
      s.inside = some (.releasing idle firstError []) →
      RuntimeStep registry s (.shutdown s.inside)
        { s with
          result := some (resultOf firstError),
          inside := none,
          returned := s.returned ++ [resultOf firstError] }
  | droppedWaiting {s : RuntimeState} {woken : Bool} : s.inside = some (.parked woken) →
      RuntimeStep registry s (.shutdown s.inside) { s with inside := none }
  | droppedReleasing {s : RuntimeState} {idle : Bool} {firstError : Option BridgeError}
      {provider : String} {rest : List String} :
      s.inside = some (.awaiting idle firstError provider rest) →
      RuntimeStep registry s (.shutdown s.inside)
        { s with inside := none, abandoned := s.abandoned + 1 }

end ImagegenBridge.Activity
