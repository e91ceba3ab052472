import ImagegenBridge.CodexAppServer.Rpc
import ImagegenBridge.Lib.Pool

/-!
# Concurrent requests over one connection

A pool of requests, notifications and read loops. The operations on the connection are
atomic. A future is dropped where it awaits: waiting for the writer, between two bytes,
before the flush or waiting for its response.
-/

namespace ImagegenBridge.CodexAppServer

open Program

/-- The connection as its programs share it. The map of pending requests lists its ids and
a channel holds what was sent to the request of its id. `drained` records that a failure
has taken the map. -/
structure Connection where
  closed : Option BridgeError
  pending : List Nat
  channels : Nat → Option (Outcome Json)
  nextId : Nat
  writer : Option Nat
  output : List UInt8
  notifications : List RpcNotification
  drained : Bool

namespace Connection

def initial : Connection := ⟨none, [], fun _ => none, 1, none, [], [], false⟩

/-- Removes the entry of an id. -/
def remove (c : Connection) (id : Nat) : Connection :=
  { c with pending := c.pending.filter (· ≠ id) }

/-- Takes the sender of an id, if there is one, and sends to it. -/
def answer (c : Connection) (id : Nat) (result : Outcome Json) : Connection :=
  if id ∈ c.pending then
    { c.remove id with channels := Snapshot.set c.channels id (some result) }
  else c

def take (c : Connection) : Dispatched → Connection
  | .answers id result => c.answer id result
  | .notifies notification => { c with notifications := c.notifications ++ [notification] }
  | .ignored => c

/-- `dispatch_message` on a line of the peer. -/
def receive (codec : JsonText) (config : RpcConfig) (line : String) (c : Connection) :
    Outcome Unit × Connection :=
  match dispatchMessage codec config.maxNotificationBytes line with
  | .error e => (.error e, c)
  | .ok message => (.ok (), c.take message)

/-- The first half of `fail_connection`. -/
def drain (c : Connection) (error : BridgeError) : Connection :=
  { c with
    pending := []
    channels := fun id => if id ∈ c.pending then some (.error error) else c.channels id
    drained := true }

/-- A dropped future gives the writer back. -/
def release (c : Connection) (caller : Nat) : Connection :=
  { c with writer := if c.writer = some caller then none else c.writer }

end Connection

/-- How the operations of a program are answered. Request ids are never used twice. -/
def Performs (codec : JsonText) (config : RpcConfig) (caller : Nat) :
    (op : RpcOp) → op.Ans → Connection → Connection → Prop
  | .checkClosed, answer, c, c' => answer = c.closed ∧ c' = c
  | .nextId, answer, c, c' => answer = c.nextId ∧ c' = { c with nextId := c.nextId + 1 }
  | .register id, _, c, c' => c' = { c with pending := id :: c.pending }
  | .unregister id, _, c, c' => c' = c.remove id
  | .lockWriter, _, c, c' => c.writer = none ∧ c' = { c with writer := some caller }
  | .writeByte byte, written, c, c' =>
    c' = if written then { c with output := c.output ++ [byte] } else c
  | .flush, _, c, c' => c' = c
  | .unlockWriter, _, c, c' => c' = { c with writer := none }
  | .wait id, wakeup, c, c' => c' = c ∧
    ∀ result, wakeup = .answered result → id ∉ c.pending ∧ c.channels id = result
  | .dispatch line, answer, c, c' =>
    answer = (c.receive codec config line).1 ∧ c' = (c.receive codec config line).2
  | .drain error, _, c, c' => c' = c.drain error
  | .publish error, _, c, c' => c' = { c with closed := some error }

/-- Only an operation that awaits is abandoned. -/
def Abandons (caller : Nat) : RpcOp → Connection → Connection → Prop
  | .lockWriter, c, c' | .writeByte _, c, c' | .flush, c, c' | .wait _, c, c' =>
    c' = c.release caller
  | _, _, _ => False

abbrev behavior (codec : JsonText) (config : RpcConfig) :
    Snapshot.Behavior rpcCalls Connection where
  Performs := Performs codec config
  Abandons := Abandons

/-- How a program of the connection ends. -/
inductive RpcEnd where
  | request (result : Outcome Json)
  | notification (result : Outcome Unit)
  | reader

/-- The programs of a connection. -/
inductive Tasks (codec : JsonText) (config : RpcConfig) : Rpc RpcEnd → Prop
  | request (method : String) (params : Json) (sideEffecting : Bool) :
      Tasks codec config (requestWithDelivery codec config method params sideEffecting >>=
        fun result => pure (.request result))
  | notification (method : String) (params : Option Json) :
      Tasks codec config (notify codec config method params >>=
        fun result => pure (.notification result))
  | reader (lines : List (Option String)) :
      Tasks codec config (readLoop lines >>= fun _ => pure .reader)

/-! ## The phases of a program -/

/-- A complete line. -/
def IsLine (codec : JsonText) (bytes : List UInt8) : Prop :=
  ∃ message, bytes = codec.render message ++ [newline]

/-- What a program has done: the id it took and did not register yet, the id it registered
and was not told of, the bytes it wrote since it holds the writer, whether it took the
map of a failed connection and whether it closed the connection. -/
structure CallPhase where
  number : Option Nat := none
  entry : Option Nat := none
  line : Option (List UInt8) := none
  drains : Bool := false
  closes : Bool := false

namespace CallPhase

def next (phase : CallPhase) : (op : RpcOp) → op.Ans → CallPhase
  | .nextId, id => { phase with number := some id }
  | .register id, _ => { phase with number := none, entry := some id }
  | .unregister _, _ => { phase with entry := none }
  | .lockWriter, _ => { phase with line := some [] }
  | .writeByte byte, true => { phase with line := phase.line.map (· ++ [byte]) }
  | .unlockWriter, _ => { phase with line := none }
  | .wait _, .answered _ => { phase with entry := none }
  | .drain _, _ => { phase with drains := true }
  | .publish _, _ => { phase with closes := true }
  | _, _ => phase

/-- The ids a program may still use. -/
def ids (phase : CallPhase) : List Nat := phase.number.toList ++ phase.entry.toList

end CallPhase

abbrev rpcMonitor : Monitor rpcCalls := ⟨CallPhase, CallPhase.next⟩

/-- The order in which the code uses the connection. -/
abbrev rpcContract (codec : JsonText) : Contract rpcMonitor where
  Allow phase
    | .register id => phase.number = some id ∧ phase.entry = none
    | .unregister id => phase.entry = some id
    | .lockWriter => phase.line = none
    | .writeByte byte => ∃ written rest, phase.line = some written ∧
        IsLine codec (written ++ byte :: rest)
    | .flush => ∃ written, phase.line = some written ∧ IsLine codec written
    | .unlockWriter => ∃ written, phase.line = some written ∧
        (IsLine codec written ∨ phase.closes = true)
    | .wait id => phase.entry = some id ∧ phase.line = none
    | .publish _ => phase.drains = true
    | .checkClosed | .nextId | .dispatch _ | .drain _ => True
  Expect _ _ _ := True

section

variable {codec : JsonText} {config : RpcConfig} {phase : CallPhase}

theorem rpc_keeps {α : Type} {op : RpcOp} {f : op.Ans → Rpc α} {post : α → CallPhase → Prop}
    (allowed : (rpcContract codec).Allow phase op)
    (continues : ∀ answer, (f answer).Keeps (rpcContract codec) (phase.next op answer) post) :
    (rpc op >>= f).Keeps (rpcContract codec) phase post :=
  ⟨allowed, fun answer _ => continues answer⟩

theorem failConnection_keeps {error : BridgeError} {post : Unit → CallPhase → Prop}
    (ends : post () { phase with drains := true, closes := true }) :
    (failConnection error).Keeps (rpcContract codec) phase post := by
  apply rpc_keeps trivial
  intro _
  exact ⟨rfl, fun _ _ => ends⟩

theorem writeAll_keeps {rest written : List UInt8} {post : Bool → CallPhase → Prop}
    (line : IsLine codec (written ++ rest))
    (stops : ∀ written, post false { phase with line := some written })
    (ends : post true { phase with line := some (written ++ rest) }) :
    (writeAll rest).Keeps (rpcContract codec) { phase with line := some written } post := by
  induction rest generalizing written with
  | nil =>
    rw [List.append_nil] at ends
    exact ends
  | cons byte rest ih =>
    apply rpc_keeps
    · exact ⟨written, rest, rfl, line⟩
    · intro taken
      cases taken with
      | false => exact stops written
      | true =>
        rw [List.append_cons] at line ends
        exact ih line ends

theorem writeFailed_keeps {message : String} {written : List UInt8}
    {post : Outcome Unit → CallPhase → Prop}
    (ends : post (.error (protocolError message))
      { phase with line := none, drains := true, closes := true }) :
    (writeFailed message).Keeps (rpcContract codec) { phase with line := some written } post := by
  apply keeps_bind.mpr
  apply failConnection_keeps
  apply rpc_keeps
  · exact ⟨written, rfl, .inr rfl⟩
  · intro _
    exact ends

theorem write_keeps {rendered : List UInt8} {post : Outcome Unit → CallPhase → Prop}
    (line : IsLine codec rendered) (free : phase.line = none) (sent : post (.ok ()) phase)
    (failed : ∀ e, post (.error e) { phase with drains := true, closes := true }) :
    (write rendered).Keeps (rpcContract codec) phase post := by
  have fails : ∀ message written,
      (writeFailed message).Keeps (rpcContract codec) { phase with line := some written } post := by
    intro message written
    apply writeFailed_keeps
    rw [← free]
    exact failed _
  apply rpc_keeps free
  intro _
  apply keeps_bind.mpr
  apply writeAll_keeps (show IsLine codec ([] ++ rendered) from line)
  · exact fails _
  · apply rpc_keeps
    · exact ⟨rendered, rfl, line⟩
    · intro flushed
      cases flushed with
      | false => exact fails _ _
      | true =>
        apply rpc_keeps
        · exact ⟨rendered, rfl, .inl line⟩
        · intro _
          have given : { phase with line := none } = phase := by rw [← free]
          rw [← given] at sent
          exact sent

theorem renderMessage_line {message : Json} {maximum : Nat} {rendered : List UInt8}
    (rendering : renderMessage codec message maximum = .ok rendered) : IsLine codec rendered := by
  obtain ⟨_, _, rendering⟩ := Outcome.bind_ok.mp rendering
  cases rendering
  exact ⟨message, rfl⟩

theorem awaitResponse_keeps {sideEffecting : Bool} {id : Nat} (own : phase.entry = some id)
    (free : phase.line = none) :
    (awaitResponse sideEffecting id).Keeps (rpcContract codec) phase fun _ _ => True := by
  apply rpc_keeps
  · exact ⟨own, free⟩
  · intro wakeup
    cases wakeup with
    | answered result => cases result <;> exact trivial
    | cancelled | elapsed => exact ⟨own, fun _ _ => trivial⟩

theorem sendRequest_keeps {sideEffecting : Bool} {id : Nat} {rendered : List UInt8}
    (line : IsLine codec rendered) (own : phase.number = some id) (fresh : phase.entry = none)
    (free : phase.line = none) :
    (sendRequest sideEffecting id rendered).Keeps (rpcContract codec) phase fun _ _ => True := by
  apply rpc_keeps
  · exact ⟨own, fresh⟩
  · intro _
    apply keeps_bind.mpr
    have unlocked : (phase.next (.register id) ()).line = none := free
    apply write_keeps line unlocked
    · exact awaitResponse_keeps rfl free
    · intro e
      exact ⟨rfl, fun _ _ => trivial⟩

theorem request_keeps {method : String} {params : Json} {sideEffecting : Bool} :
    (requestWithDelivery codec config method params sideEffecting).Keeps (rpcContract codec) {}
      fun _ _ => True := by
  apply rpc_keeps trivial
  intro closed
  cases closed with
  | some error => exact trivial
  | none =>
    apply rpc_keeps trivial
    intro id
    dsimp only
    split
    · exact trivial
    · rename_i rendered rendering
      exact sendRequest_keeps (renderMessage_line rendering) rfl rfl rfl

theorem notify_keeps {method : String} {params : Option Json} :
    (notify codec config method params).Keeps (rpcContract codec) {} fun _ _ => True := by
  unfold notify
  split
  · exact trivial
  · rename_i rendered rendering
    exact write_keeps (renderMessage_line rendering) rfl trivial fun _ => trivial

theorem readLoop_keeps {lines : List (Option String)} :
    (readLoop lines).Keeps (rpcContract codec) {} fun _ _ => True := by
  induction lines with
  | nil => exact failConnection_keeps trivial
  | cons line later ih =>
    cases line with
    | none => exact failConnection_keeps trivial
    | some line =>
      apply rpc_keeps trivial
      intro answer
      cases answer with
      | error e => exact failConnection_keeps trivial
      | ok => exact ih

/-- The programs use the connection in this order. -/
theorem tasks_keep {task : Rpc RpcEnd} (spawned : Tasks codec config task) :
    task.Keeps (rpcContract codec) {} fun _ _ => True := by
  cases spawned with
  | request method params sideEffecting =>
    exact keeps_bind.mpr (request_keeps.mono fun _ _ _ => trivial)
  | notification method params => exact keeps_bind.mpr (notify_keeps.mono fun _ _ _ => trivial)
  | reader lines => exact keeps_bind.mpr (readLoop_keeps.mono fun _ _ _ => trivial)

end

end ImagegenBridge.CodexAppServer
