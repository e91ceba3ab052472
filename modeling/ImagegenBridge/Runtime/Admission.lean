import ImagegenBridge.Core.Error
import ImagegenBridge.Lib.Interleaving
import ImagegenBridge.Lib.Transition

/-!
# Admission gates, `crates/runtime/src/admission.rs`

Calls of `acquire` interleave at every atomic step they take on the semaphore and on the
counter of queued calls. The semaphore hands out no more than its permits, to whom it
likes. The calls of a gate fit into memory, so that their number is below `usize::MAX`.
-/

namespace ImagegenBridge.Admission

def usizeMax : Nat := 2 ^ 64 - 1

/-- `Semaphore::MAX_PERMITS`. -/
def maxPermits : Nat := 2 ^ 61 - 1

structure AdmissionGate where
  permits : Nat
  maxQueued : Nat
  label : String

/-- A semaphore panics with more than `MAX_PERMITS` permits. -/
def AdmissionGate.new (maxConcurrent maxQueued : Nat) (label : String) :
    Option (Outcome AdmissionGate) :=
  if maxConcurrent = 0 then
    some (.error (BridgeError.new .configuration "concurrency limits must be greater than zero"))
  else
    let permits := if maxConcurrent = usizeMax then maxPermits else maxConcurrent
    if permits ≤ maxPermits then some (.ok ⟨permits, maxQueued, label⟩) else none

/-! ## How a call fails -/

inductive Refusal where
  | overloaded
  | timedOut
  | cancelled
  | closed

def timeoutError (label : String) : BridgeError :=
  ((BridgeError.new .timeout "request deadline elapsed while waiting for capacity").setRetryable
    true).withDetail "limit" (.string label)

def Refusal.error (label : String) : Refusal → BridgeError
  | overloaded =>
    ((BridgeError.new .overloaded "runtime queue capacity is exhausted").setRetryable
      true).withDetail "limit" (.string label)
  | timedOut => timeoutError label
  | cancelled => BridgeError.new .cancelled "request was cancelled while waiting for capacity"
  | closed => BridgeError.new .cancelled "runtime is shutting down"

/-! ## The gate and its calls -/

/-- The semaphore and the counter; `returned` counts the permits that came back. -/
structure Shared where
  free : Nat
  closed : Bool
  queued : Nat
  returned : Nat

/-- Where a call stands. A call that found no permit keeps what it saw then, and what it saw
when it read the counter. -/
inductive Stage where
  | entering
  | missed (tried : Shared)
  | counting (tried read : Shared)
  | reserved
  | waiting
  | assigned
  | granted
  | leaving (refusal : Option Refusal)
  | admitted
  | refused (refusal : Refusal)
  | overloaded (tried read : Shared)
  | gone

namespace Stage

def holdsReservation : Stage → Bool
  | reserved | waiting | assigned | granted | leaving _ => true
  | _ => false

def holdsPermit : Stage → Bool
  | assigned | granted | admitted => true
  | _ => false

end Stage

namespace Shared

def take (s : Shared) : Shared := { s with free := s.free - 1 }

def giveBack (s : Shared) : Shared := { s with free := s.free + 1, returned := s.returned + 1 }

def reserve (s : Shared) : Shared := { s with queued := s.queued + 1 }

/-- `Drop for QueueReservation`. -/
def release (s : Shared) : Shared := { s with queued := s.queued - 1 }

end Shared

/-- The queue has a limit, and a count reaches it. -/
def AdmissionGate.Full (gate : AdmissionGate) (current : Nat) : Prop :=
  gate.maxQueued ≠ usizeMax ∧ gate.maxQueued ≤ current

/-- Why a call that waits is given up: it is cancelled, its deadline passes, or its future is
dropped. -/
def GivesUp (refusal : Option Refusal) : Prop :=
  refusal = some .cancelled ∨ refusal = some .timedOut ∨ refusal = none

/-- The atomic steps of one call. -/
inductive Moves (gate : AdmissionGate) (s : Shared) : Stage → Shared → Stage → Prop
  | taken : s.closed = false → 0 < s.free → Moves gate s .entering s.take .admitted
  | missed : s.closed = true ∨ s.free = 0 → Moves gate s .entering s (.missed s)
  | loaded {tried : Shared} : Moves gate s (.missed tried) s (.counting tried s)
  | rejected {tried read : Shared} : gate.Full read.queued →
      Moves gate s (.counting tried read) s (.overloaded tried read)
  | exchanged {tried read : Shared} : ¬ gate.Full read.queued → s.queued = read.queued →
      Moves gate s (.counting tried read) s.reserve .reserved
  -- `compare_exchange_weak` may also fail while the counter is as it was read.
  | retried {tried read : Shared} : ¬ gate.Full read.queued →
      Moves gate s (.counting tried read) s (.counting tried s)
  | late : Moves gate s .reserved s (.leaving (some .timedOut))
  | waits : Moves gate s .reserved s .waiting
  | handed : 0 < s.free → Moves gate s .waiting s.take .assigned
  | granted : Moves gate s .assigned s .granted
  | shut : s.closed = true → Moves gate s .waiting s (.leaving (some .closed))
  -- Another branch of the `select!` wins, or the future is dropped; a permit that the
  -- abandoned branch was handed goes back.
  | abandoned {refusal : Option Refusal} : GivesUp refusal →
      Moves gate s .waiting s (.leaving refusal)
  | forgone {refusal : Option Refusal} : GivesUp refusal →
      Moves gate s .assigned s.giveBack (.leaving refusal)
  | unpolled : Moves gate s .entering s .gone
  | dropped : Moves gate s .granted s.release .admitted
  | refused {refusal : Refusal} :
      Moves gate s (.leaving (some refusal)) s.release (.refused refusal)
  | left : Moves gate s (.leaving none) s.release .gone
  | released : Moves gate s .admitted s.giveBack .gone

structure GateState where
  shared : Shared
  calls : List Stage

def AdmissionGate.start (gate : AdmissionGate) : GateState := ⟨⟨gate.permits, false, 0, 0⟩, []⟩

inductive GateEvent where
  | called
  | moved (stage stage' : Stage)
  | closed

inductive GateStep (gate : AdmissionGate) : GateState → GateEvent → GateState → Prop
  | called {s : GateState} : GateStep gate s .called { s with calls := s.calls ++ [.entering] }
  | moved {s : GateState} {calls : List Stage} {stage stage' : Stage} {shared : Shared} :
      Interleaving.Moved s.calls stage stage' calls → Moves gate s.shared stage shared stage' →
      GateStep gate s (.moved stage stage') ⟨shared, calls⟩
  | closed {s : GateState} :
      GateStep gate s .closed { s with shared := { s.shared with closed := true } }

end ImagegenBridge.Admission
