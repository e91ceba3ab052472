import ImagegenBridge.Core.Request
import ImagegenBridge.Core.Response
import ImagegenBridge.Core.Text
import ImagegenBridge.Lib.AssocTotals

/-!
# Idempotency coordination, `crates/runtime/src/idempotency.rs`

The coordinator's state is everything behind its mutex, so each operation is one
atomic step. A watch channel is a number; `channels` holds the last value sent
on it and `nextSender` the first number never handed out. Instants are natural
numbers and `usize` arithmetic saturates at `usizeMax`. SHA-256 over the
serialized request, and the serialized length of a response, are parameters.
-/

namespace ImagegenBridge.Idempotency

open AssocTotals

def usizeMax : Nat := 2 ^ 64 - 1

def saturatingAdd (a b : Nat) : Nat := min (a + b) usizeMax

/-- Bounds for replay records and abandoned in-flight operations. -/
structure IdempotencyConfig where
  maxEntries : Nat := 10000
  maxCompletedBytes : Nat := 256 * 1024 * 1024
  completedTtl : Nat := 24 * 60 * 60
  inFlightTtl : Nat := 31 * 60
  unknownTtl : Nat := 24 * 60 * 60
  deriving DecidableEq, Repr

inductive EntryOutcome where
  | pending
  | completed (response : ImageResponse)
  | failed (error : BridgeError)
  | unknown (error : BridgeError)

structure RecordKey where
  scope : String
  key : String
  deriving DecidableEq, Repr

structure IdempotencyToken (Fingerprint : Type) where
  recordKey : RecordKey
  fingerprint : Fingerprint
  deriving DecidableEq

structure Entry (Fingerprint : Type) where
  fingerprint : Fingerprint
  createdAt : Nat
  expiresAt : Option Nat
  retainedBytes : Nat
  uncertain : Bool
  lastAccess : Nat
  sender : Nat
  deriving DecidableEq

abbrev Entries (Fingerprint : Type) := AList fun _ : RecordKey => Entry Fingerprint

structure IdempotencyState (Fingerprint : Type) where
  entries : Entries Fingerprint
  completedBytes : Nat
  accessClock : Nat
  channels : Nat → EntryOutcome
  nextSender : Nat

inductive IdempotencyAction (Fingerprint : Type) where
  | leader (token : IdempotencyToken Fingerprint)
  | cached (response : ImageResponse)
  | wait (receiver : Nat)

/-- The code outside the repository that the coordinator calls. -/
structure Codec (Fingerprint : Type) where
  /-- SHA-256 of the serialized request, when it can be serialized. -/
  digest : ImageRequest → Option Fingerprint
  /-- The length of the serialized response, when it can be serialized. -/
  encodedLength : ImageResponse → Option Nat

section Operations

variable {Fingerprint : Type} [DecidableEq Fingerprint]

def initial : IdempotencyState Fingerprint where
  entries := ∅
  completedBytes := 0
  accessClock := 0
  channels := fun _ => .pending
  nextSender := 0

namespace IdempotencyState

/-- `sender.send_replace(outcome)`. -/
def send (s : IdempotencyState Fingerprint) (sender : Nat) (outcome : EntryOutcome) :
    IdempotencyState Fingerprint :=
  { s with channels := fun channel => if channel = sender then outcome else s.channels channel }

/-- Writes an entry back through `get_mut`. -/
def put (s : IdempotencyState Fingerprint) (key : RecordKey) (entry : Entry Fingerprint) :
    IdempotencyState Fingerprint :=
  { s with entries := s.entries.insert key entry }

def remove (s : IdempotencyState Fingerprint) (key : RecordKey) : IdempotencyState Fingerprint :=
  match s.entries.lookup key with
  | none => s
  | some entry =>
    { s with entries := s.entries.erase key, completedBytes := s.completedBytes - entry.retainedBytes }

def expired (now inFlightTtl : Nat) (entry : Entry Fingerprint) : Bool :=
  match entry.expiresAt with
  | some expires => decide (expires ≤ now)
  | none => decide (now - entry.createdAt ≥ inFlightTtl)

def expiryError : BridgeError :=
  (BridgeError.new .timeout "idempotent operation expired").setRetryable true

/-- Removes one stale key; a pending entry also tells its followers. -/
def expireKey (s : IdempotencyState Fingerprint) (key : RecordKey) : IdempotencyState Fingerprint :=
  match s.entries.lookup key with
  | none => s
  | some entry =>
    let removed := s.remove key
    if entry.expiresAt.isNone then removed.send entry.sender (.failed expiryError) else removed

def staleKeys (s : IdempotencyState Fingerprint) (now inFlightTtl : Nat) : List RecordKey :=
  (s.entries.entries.filter (fun entry => expired now inFlightTtl entry.2)).map Sigma.fst

def cleanup (s : IdempotencyState Fingerprint) (now inFlightTtl : Nat) :
    IdempotencyState Fingerprint :=
  (s.staleKeys now inFlightTtl).foldl expireKey s

/-- `min_by_key` over the entries a filter keeps: the first least recently used key. -/
def leastRecent (entries : List (Sigma fun _ : RecordKey => Entry Fingerprint)) : Option RecordKey :=
  (entries.foldl (fun best entry => match best with
    | none => some entry
    | some chosen => if entry.2.lastAccess < chosen.2.lastAccess then some entry else best)
    none).map Sigma.fst

def makeCapacity (s : IdempotencyState Fingerprint) (maximum : Nat) :
    Outcome (IdempotencyState Fingerprint) :=
  if size s.entries < maximum then .ok s
  else match leastRecent (s.entries.entries.filter
      (fun entry => entry.2.expiresAt.isSome && !entry.2.uncertain)) with
    | some key => .ok (s.remove key)
    | none => .error
        ((BridgeError.new .overloaded "idempotency capacity is exhausted").setRetryable true)

def byteVictim (s : IdempotencyState Fingerprint) (exclude : RecordKey) : Option RecordKey :=
  leastRecent (s.entries.entries.filter
    (fun entry => entry.1 != exclude && decide (entry.2.retainedBytes > 0) && !entry.2.uncertain))

/-- The eviction loop: one entry goes each round, so their number bounds it. The
flag tells whether the incoming bytes now fit. -/
def reserveLoop (incoming maximum : Nat) (exclude : RecordKey) :
    Nat → IdempotencyState Fingerprint → IdempotencyState Fingerprint × Bool
  | 0, s => (s, decide (saturatingAdd s.completedBytes incoming ≤ maximum))
  | fuel + 1, s =>
    if saturatingAdd s.completedBytes incoming ≤ maximum then (s, true)
    else match s.byteVictim exclude with
      | none => (s, false)
      | some victim => reserveLoop incoming maximum exclude fuel (s.remove victim)

def reserveCompletedBytes (s : IdempotencyState Fingerprint) (incoming maximum : Nat)
    (exclude : RecordKey) : IdempotencyState Fingerprint × Bool :=
  reserveLoop incoming maximum exclude (size s.entries) s

def unreplayableError : BridgeError :=
  ((BridgeError.new .overloaded "completed response is too large for idempotent replay").setRetryable
    false).withDetail "outcome" (.string "completed_unreplayable")

/-- Keeps the key but not the bytes. -/
def settleUnreplayable (s : IdempotencyState Fingerprint) (key : RecordKey)
    (entry : Entry Fingerprint) (expires : Nat) : IdempotencyState Fingerprint :=
  (s.put key { entry with expiresAt := some expires, uncertain := true, retainedBytes := 0 }).send
    entry.sender (.unknown unreplayableError)

def settleCompleted (s : IdempotencyState Fingerprint) (key : RecordKey)
    (entry : Entry Fingerprint) (expires retainedBytes : Nat) (response : ImageResponse) :
    IdempotencyState Fingerprint :=
  let access := saturatingAdd s.accessClock 1
  { (s.put key { entry with
        expiresAt := some expires, uncertain := false, retainedBytes, lastAccess := access }).send
      entry.sender (.completed response) with
    accessClock := access
    completedBytes := saturatingAdd s.completedBytes retainedBytes }

/-- `IdempotencyState::complete`. -/
def completeEntry (s : IdempotencyState Fingerprint) (config : IdempotencyConfig) (now : Nat)
    (token : IdempotencyToken Fingerprint) (response : ImageResponse) (retainedBytes : Nat) :
    IdempotencyState Fingerprint :=
  match s.entries.lookup token.recordKey with
  | none => s
  | some found =>
    if found.fingerprint ≠ token.fingerprint then s
    else if retainedBytes > config.maxCompletedBytes then
      s.settleUnreplayable token.recordKey found (now + config.completedTtl)
    else
      let (reserved, fits) :=
        s.reserveCompletedBytes retainedBytes config.maxCompletedBytes token.recordKey
      match reserved.entries.lookup token.recordKey with
      | none => reserved
      | some entry =>
        if fits then
          reserved.settleCompleted token.recordKey entry (now + config.completedTtl) retainedBytes
            response
        else reserved.settleUnreplayable token.recordKey entry (now + config.completedTtl)

end IdempotencyState

def maxScopeBytes : Nat := 256

def validateScope (scope : String) : Outcome Unit :=
  Outcome.failIf (scope.isEmpty = true ∨ Text.len scope > maxScopeBytes ∨ Text.hasControl scope = true)
    (BridgeError.new .invalidRequest "invalid idempotency scope")

/-- The fingerprint leaves out the key and the timeout. -/
def requestFingerprint (codec : Codec Fingerprint) (request : ImageRequest) : Outcome Fingerprint :=
  let stripped : ImageRequest := { request with idempotencyKey := none, timeoutMs := none }
  match codec.digest stripped with
  | some fingerprint => .ok fingerprint
  | none => .error (BridgeError.new .internal "could not fingerprint the normalized request")

/-- The bytes a response counts for; a length that cannot be measured counts as `usize::MAX`. -/
def responseWeight (codec : Codec Fingerprint) (response : ImageResponse) : Nat :=
  match codec.encodedLength response with
  | some length => if 256 + length ≤ usizeMax then 256 + length else usizeMax
  | none => usizeMax

def conflictError : BridgeError :=
  BridgeError.new .idempotencyConflict "idempotency key was already used for a different request"

namespace IdempotencyState

/-- What every `begin` does first: expire stale entries and advance the access clock. -/
def enter (config : IdempotencyConfig) (now : Nat) (s : IdempotencyState Fingerprint) :
    IdempotencyState Fingerprint :=
  let cleaned := s.cleanup now config.inFlightTtl
  { cleaned with accessClock := saturatingAdd cleaned.accessClock 1 }

/-- What an entry of the same request answers, by the last value on its channel. -/
def answer (s : IdempotencyState Fingerprint) (sender : Nat) :
    Outcome (IdempotencyAction Fingerprint) :=
  match s.channels sender with
  | .completed response => .ok (.cached response)
  | .failed error | .unknown error => .error error
  | .pending => .ok (.wait sender)

/-- A new pending entry on a new channel. -/
def insertPending (s : IdempotencyState Fingerprint) (key : RecordKey) (fingerprint : Fingerprint)
    (now access : Nat) : IdempotencyState Fingerprint :=
  let entry : Entry Fingerprint :=
    { fingerprint, createdAt := now, expiresAt := none, retainedBytes := 0, uncertain := false,
      lastAccess := access, sender := s.nextSender }
  { (s.put key entry).send s.nextSender .pending with nextSender := s.nextSender + 1 }

end IdempotencyState

/-- `begin` under the mutex, after the scope and the fingerprint are known. -/
def beginLocked (config : IdempotencyConfig) (now : Nat) (recordKey : RecordKey)
    (fingerprint : Fingerprint) (before : IdempotencyState Fingerprint) :
    Outcome (IdempotencyAction Fingerprint) × IdempotencyState Fingerprint :=
  let s := before.enter config now
  match s.entries.lookup recordKey with
  | some entry =>
    if entry.fingerprint ≠ fingerprint then (.error conflictError, s)
    else (s.answer entry.sender, s.put recordKey { entry with lastAccess := s.accessClock })
  | none => match s.makeCapacity config.maxEntries with
    | .error error => (.error error, s)
    | .ok roomy =>
      (.ok (.leader { recordKey, fingerprint }),
        roomy.insertPending recordKey fingerprint now s.accessClock)

def begin (codec : Codec Fingerprint) (config : IdempotencyConfig) (now : Nat) (scope key : String)
    (request : ImageRequest) (s : IdempotencyState Fingerprint) :
    Outcome (IdempotencyAction Fingerprint) × IdempotencyState Fingerprint :=
  match validateScope scope, requestFingerprint codec request with
  | .error error, _ => (.error error, s)
  | .ok (), .error error => (.error error, s)
  | .ok (), .ok fingerprint => beginLocked config now ⟨scope, key⟩ fingerprint s

def complete (codec : Codec Fingerprint) (config : IdempotencyConfig) (now : Nat)
    (token : IdempotencyToken Fingerprint) (response : ImageResponse)
    (s : IdempotencyState Fingerprint) : IdempotencyState Fingerprint :=
  s.completeEntry config now token response (responseWeight codec response)

/-- What followers of an ambiguous operation are told. -/
def unknownError (error : BridgeError) : BridgeError :=
  (error.setRetryable false).withDetail "outcome" (.string "unknown")

def fail (config : IdempotencyConfig) (now : Nat) (token : IdempotencyToken Fingerprint)
    (error : BridgeError) (s : IdempotencyState Fingerprint) : IdempotencyState Fingerprint :=
  match s.entries.lookup token.recordKey with
  | none => s
  | some entry =>
    if entry.fingerprint ≠ token.fingerprint then s
    else if error.outcomeUnknown then
      (s.put token.recordKey
        { entry with expiresAt := some (now + config.unknownTtl), uncertain := true }).send
        entry.sender (.unknown (unknownError error))
    else (s.remove token.recordKey).send entry.sender (.failed error)

end Operations

end ImagegenBridge.Idempotency
