import ImagegenBridge.Lib.Pool
import ImagegenBridge.Runtime.CallContract
import ImagegenBridge.Runtime.IdempotencyAccounting

/-!
# Concurrent calls over one coordinator

A pool of `execute_with` futures, each of which may be dropped at any operation. The
coordinator's operations are atomic; what they answer is computed, everything else
is the environment's choice. The shared
state also records which calls asked for a key, which were elected and which
dispatched a provider.
-/

namespace ImagegenBridge.Orchestrator

open Idempotency IdempotencyState Materialize Program

variable {Fingerprint : Type} [DecidableEq Fingerprint]

/-- A dispatched provider call. It is spent when it returned a result or ended
without a known provider failure. -/
structure Dispatch where
  caller : Nat
  spent : Bool
  deriving DecidableEq, Repr

/-- A call that began a key. -/
structure Ask where
  caller : Nat
  key : RecordKey
  deriving DecidableEq, Repr

/-- A call that was handed a token, and the channel of the entry it opened. -/
structure Election (Fingerprint : Type) where
  caller : Nat
  token : IdempotencyToken Fingerprint
  generation : Nat

structure Shared (Fingerprint : Type) where
  coordinator : IdempotencyState Fingerprint
  dispatches : List Dispatch
  asks : List Ask
  elections : List (Election Fingerprint)

namespace Shared

omit [DecidableEq Fingerprint] in
def initial : Shared Fingerprint := ⟨Idempotency.initial, [], [], []⟩

/-- A call whose deadline has passed never polls the provider. -/
def dispatch (s : Shared Fingerprint) (id : Nat) (finish : ProviderEnd ImageResponse) :
    Shared Fingerprint :=
  { s with dispatches := match finish with
    | .elapsed => s.dispatches
    | _ => ⟨id, finish.returned.isSome || finish.ambiguous⟩ :: s.dispatches }

def began (s : Shared Fingerprint) (id : Nat) (key : RecordKey)
    (result : Outcome (IdempotencyAction Fingerprint) × IdempotencyState Fingerprint) :
    Shared Fingerprint :=
  { s with
    coordinator := result.2
    asks := ⟨id, key⟩ :: s.asks
    elections := match result.1 with
      | .ok (.leader token) => ⟨id, token, s.coordinator.nextSender⟩ :: s.elections
      | _ => s.elections }

end Shared

/-- What a waiting call may be told, by the last value on its channel. -/
def Observes (c : IdempotencyState Fingerprint) (receiver : Nat) :
    Controlled (Outcome ImageResponse) → Prop
  | .finished result => match c.channels receiver with
    | .completed response => result = .ok response
    | .failed e | .unknown e => result = .error e
    | .pending => ∃ e : BridgeError, result = .error e ∧
        (e = .new .timeout "request deadline elapsed while waiting for idempotent result" ∨
          e = .new .cancelled "request was cancelled while waiting for idempotent result" ∨
          e = .new .internal "idempotency leader ended without a result")
  | _ => True

/-- How awaited operations are answered. `timely` restricts the instants of begins. -/
def Performs (codec : Codec Fingerprint) (config : IdempotencyConfig)
    (timely : Nat → IdempotencyState Fingerprint → Prop) (id : Nat) :
    (op : Op Fingerprint) → op.Ans → Shared Fingerprint → Shared Fingerprint → Prop
  | .begin scope key request, answer, s, s' => ∃ now, timely now s.coordinator ∧
      answer = (begin codec config now scope key request s.coordinator).1 ∧
      s' = s.began id ⟨scope, key⟩ (begin codec config now scope key request s.coordinator)
  | .complete token response, _, s, s' => ∃ now,
      s' = { s with coordinator := complete codec config now token response s.coordinator }
  | .fail token e, _, s, s' => ∃ now,
      s' = { s with coordinator := fail config now token e s.coordinator }
  | .wait receiver, answer, s, s' => Observes s.coordinator receiver answer ∧ s' = s
  | .execute .., finish, s, s' => s' = s.dispatch id finish
  | _, _, s, s' => s' = s

/-- One way to answer at an instant: waiting calls run into their deadline, and what
the coordinator does not answer the environment does. -/
def answers (codec : Codec Fingerprint) (config : IdempotencyConfig) (now id : Nat)
    (environment : (op : Op Fingerprint) → op.Ans) :
    (op : Op Fingerprint) → Shared Fingerprint → op.Ans × Shared Fingerprint
  | .begin scope key request, s =>
    let result := begin codec config now scope key request s.coordinator
    (result.1, s.began id ⟨scope, key⟩ result)
  | .complete token response, s =>
    ((), { s with coordinator := complete codec config now token response s.coordinator })
  | .fail token e, s => ((), { s with coordinator := fail config now token e s.coordinator })
  | .wait _, s => (.elapsed, s)
  | .execute index name request, s =>
    (environment (.execute index name request),
      s.dispatch id (environment (.execute index name request)))
  | op, s => (environment op, s)

theorem answers_performs {codec : Codec Fingerprint} {config : IdempotencyConfig}
    {timely : Nat → IdempotencyState Fingerprint → Prop} {now id : Nat}
    (environment : (op : Op Fingerprint) → op.Ans) (op : Op Fingerprint) (s : Shared Fingerprint)
    (in_time : timely now s.coordinator) :
    Performs codec config timely id op (answers codec config now id environment op s).1 s
      (answers codec config now id environment op s).2 := by
  cases op with
  | begin scope key request => exact ⟨now, in_time, rfl, rfl⟩
  | complete token response => exact ⟨now, rfl⟩
  | fail token e => exact ⟨now, rfl⟩
  | wait receiver => exact ⟨trivial, rfl⟩
  | _ => rfl

/-- A call dropped while its provider executes may have dispatched it. -/
def Abandons (id : Nat) : Op Fingerprint → Shared Fingerprint → Shared Fingerprint → Prop
  | .execute .., s, s' => s' = s ∨ s' = { s with dispatches := ⟨id, true⟩ :: s.dispatches }
  | _, s, s' => s' = s

abbrev behavior (codec : Codec Fingerprint) (config : IdempotencyConfig)
    (timely : Nat → IdempotencyState Fingerprint → Prop) :
    Snapshot.Behavior (calls Fingerprint) (Shared Fingerprint) where
  Performs := Performs codec config timely
  Abandons := Abandons

abbrev View (Fingerprint : Type) := Snapshot (callMonitor Fingerprint) (Shared Fingerprint)

abbrev Calls (Fingerprint : Type) :=
  Pool (callMonitor Fingerprint) (Shared Fingerprint) (Outcome ImageResponse)

/-- A pool goes on with a new call, at one instant and for some steps. -/
theorem plays_call {spawns : Program (calls Fingerprint) (Outcome ImageResponse) → Prop}
    {codec : Codec Fingerprint} {config : IdempotencyConfig}
    {timely : Nat → IdempotencyState Fingerprint → Prop}
    {condition : View Fingerprint → PoolEvent (calls Fingerprint) → Prop}
    {origin pool : Calls Fingerprint} {now steps : Nat} {environment : (op : Op Fingerprint) → op.Ans}
    {check : Phase Fingerprint → Shared Fingerprint → (op : Op Fingerprint) → op.Ans → Bool}
    {p rest : Program (calls Fingerprint) (Outcome ImageResponse)} {phase : Phase Fingerprint}
    {after : Shared Fingerprint}
    (path : Pool.Path spawns (behavior codec config timely) Phase.start condition origin pool)
    (allowed : spawns p) (starts : ∀ v id, condition v (.spawned id))
    (met : ∀ (v : View Fingerprint) phase op answer, v.phase pool.view.spawned = some phase →
      check phase v.shared op answer = true →
        timely now v.shared.coordinator ∧ condition v (.exchanged pool.view.spawned ⟨op, answer⟩))
    (played : play (m := callMonitor Fingerprint)
      (answers codec config now pool.view.spawned environment) check steps Phase.start
      pool.view.shared p = some (phase, after, rest)) :
    ∃ pool', Pool.Path spawns (behavior codec config timely) Phase.start condition origin pool' ∧
      pool'.view = (pool.view.spawn Phase.start).exchange pool.view.spawned phase after ∧
      pool'.code pool.view.spawned = rest := by
  have spawned := Pool.Path.step path (.spawn pool allowed) (starts _ _)
  have entered : (Snapshot.set pool.code pool.view.spawned p) pool.view.spawned = p :=
    Snapshot.set_self ..
  have sound : ∀ (v : View Fingerprint) phase op, v.phase pool.view.spawned = some phase →
      check phase v.shared op
        (answers codec config now pool.view.spawned environment op v.shared).1 = true →
      Performs codec config timely pool.view.spawned op
        (answers codec config now pool.view.spawned environment op v.shared).1 v.shared
        (answers codec config now pool.view.spawned environment op v.shared).2 ∧
      condition v (.exchanged pool.view.spawned
        ⟨op, (answers codec config now pool.view.spawned environment op v.shared).1⟩) := by
    intro v phase op live checked
    obtain ⟨in_time, fine⟩ := met v phase op _ live checked
    exact ⟨answers_performs environment op v.shared in_time, fine⟩
  have ended := Pool.Path.plays sound steps spawned (Snapshot.set_self ..)
    ((congrArg _ entered).trans played)
  exact ⟨_, ended, rfl, Snapshot.set_self ..⟩

section Coordinator

variable {codec : Codec Fingerprint} {config : IdempotencyConfig} {c : IdempotencyState Fingerprint}

/-- No entry has expired. -/
def Retained (config : IdempotencyConfig) (now : Nat) (c : IdempotencyState Fingerprint) : Prop :=
  c.staleKeys now config.inFlightTtl = []

omit [DecidableEq Fingerprint] in
theorem retained_enter {now : Nat} (retained : Retained config now c) :
    (c.enter config now).entries = c.entries := by
  unfold enter cleanup
  rw [retained]
  rfl

/-- Within the retention periods a begin of a held key elects nobody and keeps the
entry, and a begin of a free one can only open it. -/
theorem retained_begin (codec : Codec Fingerprint) {now : Nat} (retained : Retained config now c)
    (scope key : String)
    (request : ImageRequest) :
    let result := begin codec config now scope key request c
    ((c.entries.lookup ⟨scope, key⟩).isSome = true →
      (result.2.entries.lookup ⟨scope, key⟩).isSome = true ∧
        ∀ token, result.1 ≠ .ok (.leader token)) ∧
    ∀ token, result.1 = .ok (.leader token) →
      token.recordKey = ⟨scope, key⟩ ∧ (result.2.entries.lookup ⟨scope, key⟩).isSome = true := by
  have entries := retained_enter retained
  unfold begin
  split
  · exact ⟨fun held => ⟨held, fun _ impossible => nomatch impossible⟩,
      fun _ impossible => nomatch impossible⟩
  · exact ⟨fun held => ⟨held, fun _ impossible => nomatch impossible⟩,
      fun _ impossible => nomatch impossible⟩
  · unfold beginLocked
    dsimp only
    split
    · rename_i entry found
      split
      · refine ⟨fun _ => ⟨?_, fun _ impossible => nomatch impossible⟩,
          fun _ impossible => nomatch impossible⟩
        rw [found]
        rfl
      · have unelected : ∀ token, (c.enter config now).answer entry.sender ≠ .ok (.leader token) := by
          intro token elected
          unfold answer at elected
          split at elected <;> cases elected
        refine ⟨fun _ => ⟨?_, unelected⟩, fun token elected => absurd elected (unelected token)⟩
        rw [put_entries, AList.lookup_insert]
        rfl
    · rename_i absent
      rw [entries] at absent
      split
      · exact ⟨(fun held => by rw [absent] at held; cases held),
          fun _ impossible => nomatch impossible⟩
      · refine ⟨(fun held => by rw [absent] at held; cases held), fun token elected => ?_⟩
        cases elected
        refine ⟨rfl, ?_⟩
        unfold insertPending
        rw [send_entries, put_entries, AList.lookup_insert]
        rfl

/-- A completion never frees its own key. -/
theorem complete_keeps_key (now : Nat) (token : IdempotencyToken Fingerprint)
    (response : ImageResponse) (held : (c.entries.lookup token.recordKey).isSome = true) :
    ((complete codec config now token response c).entries.lookup token.recordKey).isSome = true := by
  rcases complete_cases (P := fun _ => True) token (fun _ _ _ _ => trivial) now response trivial
      with ⟨_, same⟩ | ⟨entry, reserved, _, _, _, unreplayable | ⟨_, recorded⟩⟩
  · rw [same]
    exact held
  · rw [unreplayable]
    unfold settleUnreplayable
    rw [send_entries, put_entries, AList.lookup_insert]
    rfl
  · rw [recorded]
    unfold settleCompleted
    dsimp only
    rw [send_entries, put_entries, AList.lookup_insert]
    rfl

/-- Nor does a failure whose outcome is unknown. -/
theorem unknown_keeps_key (now : Nat) (token : IdempotencyToken Fingerprint) (e : BridgeError)
    (unknown : e.outcomeUnknown = true) (held : (c.entries.lookup token.recordKey).isSome = true) :
    ((fail config now token e c).entries.lookup token.recordKey).isSome = true := by
  obtain ⟨_, same⟩ | ⟨entry, _, ⟨_, kept⟩ | ⟨known, _⟩⟩ := fail_cases now token e
  · rw [same]
    exact held
  · rw [kept, send_entries, put_entries, AList.lookup_insert]
    rfl
  · rw [unknown] at known
    cases known

end Coordinator

end ImagegenBridge.Orchestrator
