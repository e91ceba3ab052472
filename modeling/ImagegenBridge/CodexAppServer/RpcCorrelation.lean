import ImagegenBridge.CodexAppServer.ConnectionSteps

/-!
# Correlation of responses by id

Both peers number their requests. The read loop takes every message with an id that is
pending for the response to it.
-/

namespace ImagegenBridge.CodexAppServer

open Program Snapshot

/-- A response has a result or an error and no method. -/
def IsResponse (message : Json) : Prop :=
  message.get "method" = none ∧ (message.get "result" ≠ none ∨ message.get "error" ≠ none)

/-- What a response tells: its mapped error, or its result. -/
def Carries (message : Json) (result : Outcome Json) : Prop :=
  (∃ error, message.get "error" = some error ∧ result = .error (rpcResponseError error)) ∨
  (message.get "error" = none ∧ ∃ value, message.get "result" = some value ∧ result = .ok value)

/-- A line is the response to a pending request. -/
def Responds (codec : JsonText) (line : String) (c : Connection) (id : Nat)
    (result : Outcome Json) : Prop :=
  ∃ message, codec.parse line = some message ∧ messageId message = some id ∧ id ∈ c.pending ∧
    IsResponse message ∧ Carries message result

/-- A line completes the request it responds to, and nothing else. -/
def Correlates (codec : JsonText) (line : String) (c c' : Connection) : Prop :=
  (∃ id result, Responds codec line c id result ∧ c'.pending = c.pending.filter (· ≠ id) ∧
    c'.channels = set c.channels id (some result)) ∨
  ((∀ id result, ¬Responds codec line c id result) ∧ c'.pending = c.pending ∧
    c'.channels = c.channels)

/-- A message with the id of a pending request is a response. -/
def Genuine (codec : JsonText) (line : String) (c : Connection) : Prop :=
  ∀ message id, codec.parse line = some message → messageId message = some id →
    id ∈ c.pending → IsResponse message

/-- The peer's own requests carry no pending id. -/
def GenuineMessages (codec : JsonText) (v : RpcView) : PoolEvent rpcCalls → Prop
  | .exchanged _ ⟨.dispatch line, _⟩ => Genuine codec line v.shared
  | _ => True

section

variable {codec : JsonText} {config : RpcConfig} {c c' : Connection} {line : String}

theorem responseResult_carries {message : Json} (response : IsResponse message) :
    Carries message (responseResult message) := by
  unfold responseResult
  cases failed : message.get "error" with
  | some error => exact .inl ⟨error, failed, rfl⟩
  | none =>
    cases given : message.get "result" with
    | some value => exact .inr ⟨failed, value, given, rfl⟩
    | none => exact absurd (response.2.resolve_left (not_not_intro given)) (not_not_intro failed)

theorem dispatch_answers {maximum id : Nat} {message : Json}
    (parsed : codec.parse line = some message) (named : messageId message = some id) :
    dispatchMessage codec maximum line = .ok (.answers id (responseResult message)) := by
  have isObject : message.asObject.isNone = false := by
    cases fields : message.asObject with
    | some fields => rfl
    | none => simp [messageId, Json.get, fields] at named
  simp only [dispatchMessage, parsed, isObject, named, Bool.false_eq_true, if_false]

/-- A line without an id changes no request. -/
theorem receive_quiet
    (quiet : ∀ message, codec.parse line = some message → messageId message = none) :
    (c.receive codec config line).2.pending = c.pending ∧
      (c.receive codec config line).2.channels = c.channels := by
  have cases_of : ∀ message, dispatchMessage codec config.maxNotificationBytes line = .ok message →
      ∀ id result, message ≠ .answers id result := by
    rintro _ dispatched id result rfl
    unfold dispatchMessage at dispatched
    cases parsed : codec.parse line with
    | none =>
      rw [parsed] at dispatched
      cases dispatched
    | some message =>
      simp only [parsed, quiet message parsed] at dispatched
      repeat' split at dispatched
      all_goals cases dispatched
  unfold Connection.receive
  cases dispatched : dispatchMessage codec config.maxNotificationBytes line with
  | error e => exact ⟨rfl, rfl⟩
  | ok message =>
    cases message with
    | answers id result => exact absurd rfl (cases_of _ dispatched id result)
    | notifies | ignored => exact ⟨rfl, rfl⟩

theorem receive_answers {id : Nat} {message : Json} (parsed : codec.parse line = some message)
    (named : messageId message = some id) :
    (c.receive codec config line).2 = c.answer id (responseResult message) := by
  simp only [Connection.receive, dispatch_answers parsed named, Connection.take]

/-- A line is taken for what it is exactly when it is a response or has no pending id. -/
theorem receive_correlates_iff :
    Correlates codec line c (c.receive codec config line).2 ↔ Genuine codec line c := by
  constructor
  · intro correlates message id parsed named expected
    obtain ⟨other, result, ⟨message', parsed', named', _, response, _⟩, _⟩ | ⟨_, pending, _⟩ :=
      correlates
    · cases parsed.symm.trans parsed'
      exact response
    · rw [receive_answers parsed named, Connection.answer, if_pos expected] at pending
      have left : id ∉ (c.remove id).pending := by simp [Connection.remove]
      exact absurd expected (fun present => left (pending.symm ▸ present))
  · intro genuine
    by_cases responds : ∃ message id, codec.parse line = some message ∧
        messageId message = some id ∧ id ∈ c.pending
    · obtain ⟨message, id, parsed, named, expected⟩ := responds
      have response := genuine message id parsed named expected
      refine .inl ⟨id, responseResult message, ⟨message, parsed, named, expected, response,
        responseResult_carries response⟩, ?_⟩
      rw [receive_answers parsed named, Connection.answer, if_pos expected]
      exact ⟨rfl, rfl⟩
    · have silent : ∀ id result, ¬Responds codec line c id result := by
        rintro id result ⟨message, parsed, named, expected, _⟩
        exact responds ⟨message, id, parsed, named, expected⟩
      refine .inr ⟨silent, ?_⟩
      by_cases named : ∃ message id, codec.parse line = some message ∧ messageId message = some id
      · obtain ⟨message, id, parsed, named⟩ := named
        have unexpected : id ∉ c.pending := fun expected =>
          responds ⟨message, id, parsed, named, expected⟩
        rw [receive_answers parsed named, Connection.answer, if_neg unexpected]
        exact ⟨rfl, rfl⟩
      · apply receive_quiet
        intro message parsed
        cases id : messageId message with
        | none => rfl
        | some id => exact absurd ⟨message, _, parsed, id⟩ named

variable {s s' : RpcPool} {event : PoolEvent rpcCalls} {v v' : RpcView}

/-- Who may answer a request: a response of the peer, or a failure of the connection. -/
def Answered (codec : JsonText) (event : PoolEvent rpcCalls) (c : Connection) (id : Nat)
    (result : Outcome Json) : Prop :=
  (∃ caller line answer, event = .exchanged caller ⟨.dispatch line, answer⟩ ∧
    Responds codec line c id result) ∨
  ∃ caller error, event = .exchanged caller ⟨.drain error, ()⟩ ∧ id ∈ c.pending ∧
    result = .error error

/-- An answer stays, and a new one has its reason. -/
theorem step_answers (orderly : Orderly v) (step : RpcStep codec config v event v')
    (genuine : GenuineMessages codec v event) :
    (∀ id result, v.shared.channels id = some result → v'.shared.channels id = some result) ∧
    ∀ id result, v.shared.channels id = none → v'.shared.channels id = some result →
      Answered codec event v.shared id result := by
  have quiet : v'.shared.channels = v.shared.channels →
      (∀ id result, v.shared.channels id = some result → v'.shared.channels id = some result) ∧
      ∀ id result, v.shared.channels id = none → v'.shared.channels id = some result →
        Answered codec event v.shared id result := by
    intro same
    rw [same]
    refine ⟨fun _ _ before => before, fun id result before after => ?_⟩
    rw [before] at after
    cases after
  have waits : ∀ id result, v.shared.channels id = some result → id ∉ v.shared.pending := by
    intro id result before expected
    rw [orderly.ids.unanswered id expected] at before
    cases before
  cases step with
  | spawn => exact quiet rfl
  | @drop id phase op shared live allowed abandons =>
    obtain rfl := abandons_released abandons
    exact quiet rfl
  | @exchange caller phase op answer shared live allowed _ performs =>
    cases op with
    | checkClosed | nextId | lockWriter =>
      obtain ⟨_, rfl⟩ := performs
      exact quiet rfl
    | wait n =>
      obtain ⟨rfl, _⟩ := performs
      exact quiet rfl
    | register n | unregister n | flush | unlockWriter | publish error =>
      obtain rfl := performs
      exact quiet rfl
    | writeByte byte =>
      obtain rfl := performs
      cases answer <;> exact quiet rfl
    | dispatch line =>
      obtain ⟨_, rfl⟩ := performs
      have correlates : Correlates codec line v.shared (v.shared.receive codec config line).2 :=
        receive_correlates_iff.mpr genuine
      obtain ⟨id, result, responds, _, channels⟩ | ⟨_, _, channels⟩ := correlates
      · have expected : id ∈ v.shared.pending := responds.choose_spec.2.2.1
        have sends : (v.exchange caller (phase.next (.dispatch line) answer)
            (v.shared.receive codec config line).2).shared.channels
              = set v.shared.channels id (some result) := channels
        rw [sends]
        constructor
        · intro other given before
          have apart : other ≠ id := by
            rintro rfl
            exact waits other given before expected
          rw [set_other _ _ apart]
          exact before
        · intro other given before after
          by_cases own : other = id
          · subst own
            rw [set_self] at after
            cases after
            exact .inl ⟨caller, line, answer, rfl, responds⟩
          · rw [set_other _ _ own, before] at after
            cases after
      · exact quiet channels
    | drain error =>
      obtain rfl := performs
      have sends : ∀ id, (v.shared.drain error).channels id
          = if id ∈ v.shared.pending then some (.error error) else v.shared.channels id :=
        fun _ => rfl
      simp only [Snapshot.exchange, sends]
      constructor
      · intro id result before
        rw [if_neg (waits id result before)]
        exact before
      · intro id result before after
        by_cases expected : id ∈ v.shared.pending
        · rw [if_pos expected] at after
          cases after
          exact .inr ⟨caller, error, rfl, expected, rfl⟩
        · rw [if_neg expected, before] at after
          cases after

/-- What one step does to the requests that wait: no answer is replaced, a new one has its
reason, a message completes what it responds to, and a request is told what was sent to it. -/
structure Corresponds (codec : JsonText) (event : PoolEvent rpcCalls) (c c' : Connection) :
    Prop where
  once : ∀ id result, c.channels id = some result → c'.channels id = some result
  answered : ∀ id result, c.channels id = none → c'.channels id = some result →
    Answered codec event c id result
  dispatched : ∀ caller line answer, event = .exchanged caller ⟨.dispatch line, answer⟩ →
    Correlates codec line c c'
  told : ∀ caller id result, event = .exchanged caller ⟨.wait id, .answered result⟩ →
    ∃ sent, result = some sent ∧ c.channels id = some sent

theorem step_corresponds (orderly : Orderly v) (step : RpcStep codec config v event v')
    (genuine : GenuineMessages codec v event) :
    Corresponds codec event v.shared v'.shared := by
  obtain ⟨once, answered⟩ := step_answers orderly step genuine
  refine ⟨once, answered, ?_, ?_⟩
  · rintro caller line answer rfl
    cases step with
    | exchange live allowed expected performs =>
      obtain ⟨_, rfl⟩ := performs
      exact receive_correlates_iff.mpr genuine
  · rintro caller id result rfl
    cases step with
    | exchange live allowed expected performs =>
      obtain ⟨_, told⟩ := performs
      obtain ⟨gone, sent⟩ := told result rfl
      have present := (orderly.ids.entered caller _ id live allowed.1).resolve_left gone
      obtain ⟨outcome, given⟩ := Option.ne_none_iff_exists'.mp present
      exact ⟨outcome, sent.symm.trans given, given⟩

/-- As long as the peer's own requests carry no pending id every step corresponds; a
message that completes a request and is no response to it is one that carries such an id. -/
theorem response_correlation :
    (∀ s event s', RpcRun codec config (GenuineMessages codec) s →
      RpcPoolStep codec config s event s' → GenuineMessages codec s.view event →
        Corresponds codec event s.view.shared s'.view.shared) ∧
    ∀ s caller line answer s',
      RpcPoolStep codec config s (.exchanged caller ⟨.dispatch line, answer⟩) s' →
        (Correlates codec line s.view.shared s'.view.shared ↔ Genuine codec line s.view.shared) := by
  constructor
  · intro s event s' run step genuine
    let Any : RpcView → Prop := fun _ => True
    have start : Any (Snapshot.empty Connection.initial) := trivial
    obtain ⟨⟨orderly, _⟩, kept⟩ := rpcRun_invariant start (fun _ _ _ _ _ _ _ => trivial) run
    exact step_corresponds orderly (rpcStep_refines kept step) genuine
  · intro s caller line answer s' step
    have received : s'.view.shared = (s.view.shared.receive codec config line).2 :=
      step.performs.2
    rw [received]
    exact receive_correlates_iff

end

/-- A request of the peer under its own first id. -/
def approvalRequest : Json :=
  .object [("id", .integer 1), ("method", .string "item/commandExecution/requestApproval"),
    ("params", .null)]

/-- The peer asks for an approval while the first request waits for its response. -/
def approvalArrives : List (Pool.Move rpcCalls RpcEnd) :=
  .spawn (startTurn (turnCodec approvalRequest)) :: List.replicate (firstLine.length + 7) (.go 0)
    ++ [.spawn (readLoop [some ""] >>= fun _ => pure .reader)]

/-- The first request waits and the read loop has a line. -/
def readsNext (s : RpcPool) : Bool :=
  decide (s.view.shared.pending = [1]) && (s.view.phase 1).isSome
    && (match s.code 0, s.code 1 with
      | .await (.wait 1) _, .await (.dispatch _) _ => true
      | _, _ => false)

theorem approval_plays :
    (rpcSchedule (turnCodec approvalRequest) turnConfig approvalArrives).any readsNext = true := by
  rfl

/-- The request of the peer is taken for the response, which succeeds with nothing in it. -/
theorem approval_completes : ∃ (s s' : RpcPool) (line : String) (answer : Outcome Unit),
    RpcRun (turnCodec approvalRequest) turnConfig (fun _ _ => True) s ∧
      RpcPoolStep (turnCodec approvalRequest) turnConfig s
        (.exchanged 1 ⟨.dispatch line, answer⟩) s' ∧
      1 ∈ s.view.shared.pending ∧ s'.view.shared.pending = [] ∧
      s'.view.shared.channels 1 = some (.ok .null) ∧
      ¬Correlates (turnCodec approvalRequest) line s.view.shared s'.view.shared := by
  obtain ⟨s, scheduled, ready⟩ := (Option.any_eq_true ..).mp approval_plays
  have run : RpcRun (turnCodec approvalRequest) turnConfig (fun _ _ => True) s := by
    refine rpcSchedule_run (fun p member => ?_) scheduled
    simp only [approvalArrives, List.cons_append, List.mem_append, List.mem_cons,
      List.mem_replicate, reduceCtorEq, and_false, false_or, List.not_mem_nil, or_false,
      Pool.Move.spawn.injEq] at member
    obtain rfl | rfl := member
    · exact .request ..
    · exact .reader _
  simp only [readsNext, Bool.and_eq_true, decide_eq_true_eq, Option.isSome_iff_exists] at ready
  obtain ⟨⟨pending, phase, live⟩, awaits⟩ := ready
  split at awaits
  · rename_i line next _ awaiting
    have expected : 1 ∈ s.view.shared.pending := pending ▸ List.mem_singleton_self 1
    have received : (s.view.shared.receive (turnCodec approvalRequest) turnConfig line).2
        = s.view.shared.answer 1 (responseResult approvalRequest) := receive_answers rfl rfl
    have succeeds : responseResult approvalRequest = .ok .null := rfl
    rw [succeeds] at received
    refine ⟨s, _, line, _, run, .exchange s live awaiting ⟨rfl, rfl⟩, expected, ?_, ?_, ?_⟩
    · simp [Snapshot.exchange, received, Connection.answer, Connection.remove, pending]
    · simp [Snapshot.exchange, received, Connection.answer, expected]
    · intro correlates
      have genuine : Genuine (turnCodec approvalRequest) line s.view.shared :=
        (@receive_correlates_iff _ turnConfig _ _).mp correlates
      cases (genuine approvalRequest 1 rfl rfl expected).1
  · cases awaits

end ImagegenBridge.CodexAppServer
