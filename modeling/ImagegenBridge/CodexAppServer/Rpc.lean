import ImagegenBridge.Core.Response
import ImagegenBridge.Core.Text
import ImagegenBridge.Lib.Program

/-!
# JSONL requests of `codex-app-server`, `crates/codex-app-server/src/rpc.rs`

The code of requests, notifications and the read loop, as programs over the operations
on the connection: the closed flag, the map of pending requests, the writer and the
channels of the callers. The JSON parser and writer are parameters.
-/

namespace ImagegenBridge.CodexAppServer

open Program

/-- `serde_json`: the value of a text, or none for malformed input, and the compact text
of a value. -/
structure JsonText where
  parse : String → Option Json
  render : Json → List UInt8

structure RpcConfig where
  maxMessageBytes : Nat
  maxNotificationBytes : Nat

/-- One app-server notification with its method and parsed params. -/
structure RpcNotification where
  method : String
  params : Json

def newline : UInt8 := 10

/-! ## Errors -/

def protocolError (message : String) : BridgeError :=
  (BridgeError.new .protocol message).withProvider "codex-app-server"

def requestInterrupted (code : ErrorCode) (message : String) (sideEffecting : Bool)
    (requestId : Nat) : BridgeError :=
  let error := (BridgeError.new code message).withProvider "codex-app-server"
  if sideEffecting then
    (((error.setRetryable false).withDetail "outcome" (.string "unknown")).withDetail
      "request_sent" (.bool true)).withDetail "rpc_id" (.integer requestId)
  else error.setRetryable (code = .timeout)

def isSafetyCode (code : String) : Bool :=
  let lower := Text.lowercase code.toList
  ["safety", "content_policy", "moderation", "refusal"].any fun kind =>
    Text.containsSlice kind.toList lower

/-- An upstream code that may be shown. -/
def safeStringCode (code : String) : Bool :=
  !code.isEmpty && decide (Text.len code ≤ 64) && code.toList.all fun c =>
    Text.isAsciiAlphanumeric c || c == '-' || c == '_' || c == '.'

def rpcResponseError (value : Json) : BridgeError :=
  let safe := ((value.get "code").bind Json.asStr).filter safeStringCode
  let error := (if safe.any isSafetyCode then
      BridgeError.safetyRejected "Codex app-server rejected the image request"
    else BridgeError.new .upstream "Codex app-server request failed").withProvider "codex-app-server"
  match (value.get "code").bind Json.asI64 with
  | some code => error.withDetail "rpc_code" (.integer code)
  | none => match safe with
    | some code => error.withDetail "rpc_code" (.string code)
    | none => error

/-! ## Messages -/

def renderMessage (codec : JsonText) (message : Json) (maximum : Nat) : Outcome (List UInt8) := do
  let rendered := codec.render message
  Outcome.failIf (rendered.length > maximum)
    (protocolError "outgoing app-server message exceeds limit")
  .ok (rendered ++ [newline])

def requestMessage (method : String) (id : Nat) (params : Json) : Json :=
  .object [("method", .string method), ("id", .integer id), ("params", params)]

def notificationMessage (method : String) (params : Option Json) : Json :=
  .object (("method", .string method) :: (params.map fun params => ("params", params)).toList)

def isForwardedNotification (method : String) : Bool :=
  method == "item/completed" || method == "turn/completed"

/-- What an incoming message does: it answers the pending request of its id, if there is
one, or is a notification. -/
inductive Dispatched where
  | answers (id : Nat) (result : Outcome Json)
  | notifies (notification : RpcNotification)
  | ignored

/-- `object.get("id").and_then(Value::as_u64)`. -/
def messageId (message : Json) : Option Nat := (message.get "id").bind Json.asU64

/-- What the message of an id carries for its request. -/
def responseResult (message : Json) : Outcome Json :=
  match message.get "error" with
  | some error => .error (rpcResponseError error)
  | none => .ok ((message.get "result").getD .null)

def dispatchMessage (codec : JsonText) (maximumNotification : Nat) (line : String) :
    Outcome Dispatched :=
  match codec.parse line with
  | none => .error (protocolError "app-server sent invalid JSON")
  | some message =>
    if message.asObject.isNone then .error (protocolError "app-server message is not an object")
    else match messageId message with
      | some id => .ok (.answers id (responseResult message))
      | none =>
        if Text.len line > maximumNotification then
          .error (protocolError "app-server notification exceeds limit")
        else match (message.get "method").bind Json.asStr with
          | none => .error (protocolError "app-server notification has no method")
          | some method =>
            if isForwardedNotification method then
              .ok (.notifies ⟨method, (message.get "params").getD .null⟩)
            else .ok .ignored

/-! ## Operations -/

/-- How the `select!` of a waiting request ends. A channel without its sender has no result. -/
inductive Wakeup where
  | answered (result : Option (Outcome Json))
  | cancelled
  | elapsed

inductive RpcOp where
  | checkClosed
  | nextId
  | register (id : Nat)
  | unregister (id : Nat)
  | lockWriter
  | writeByte (byte : UInt8)
  | flush
  | unlockWriter
  | wait (id : Nat)
  | dispatch (line : String)
  | drain (error : BridgeError)
  | publish (error : BridgeError)

abbrev RpcOp.Ans : RpcOp → Type
  | .checkClosed => Option BridgeError
  | .nextId => Nat
  | .writeByte _ | .flush => Bool
  | .wait _ => Wakeup
  | .dispatch _ => Outcome Unit
  | .register _ | .unregister _ | .lockWriter | .unlockWriter | .drain _ | .publish _ => Unit

abbrev rpcCalls : Interface := ⟨RpcOp, RpcOp.Ans⟩

abbrev Rpc (α : Type) := Program rpcCalls α

def rpc (op : RpcOp) : Rpc op.Ans := ask (I := rpcCalls) op

/-! ## Programs -/

def failConnection (error : BridgeError) : Rpc Unit := do
  rpc (.drain error)
  rpc (.publish error)

/-- `write_all`. The writer takes bytes in pieces of any length, here one by one. -/
def writeAll : List UInt8 → Rpc Bool
  | [] => pure true
  | byte :: rest => do
    if ← rpc (.writeByte byte) then writeAll rest else pure false

/-- The connection fails before the writer is given back. -/
def writeFailed (message : String) : Rpc (Outcome Unit) := do
  failConnection (protocolError message)
  rpc .unlockWriter
  pure (.error (protocolError message))

def write (rendered : List UInt8) : Rpc (Outcome Unit) := do
  rpc .lockWriter
  if ← writeAll rendered then
    if ← rpc .flush then do
      rpc .unlockWriter
      pure (.ok ())
    else writeFailed "could not flush app-server input"
  else writeFailed "could not write to app-server"

/-- The response, the cancellation or the deadline, whichever a request sees first. -/
def awaitResponse (sideEffecting : Bool) (id : Nat) : Rpc (Outcome Json) := do
  match ← rpc (.wait id) with
  | .answered (some result) => pure result
  | .answered none => pure (.error (protocolError "app-server response channel closed"))
  | .cancelled => do
    rpc (.unregister id)
    pure (.error (requestInterrupted .cancelled "app-server request was cancelled" sideEffecting id))
  | .elapsed => do
    rpc (.unregister id)
    pure (.error (requestInterrupted .timeout "app-server request timed out" sideEffecting id))

/-- A rendered request from its registration on. -/
def sendRequest (sideEffecting : Bool) (id : Nat) (rendered : List UInt8) : Rpc (Outcome Json) := do
  rpc (.register id)
  match ← write rendered with
  | .error e => do
    rpc (.unregister id)
    pure (.error e)
  | .ok () => awaitResponse sideEffecting id

def requestWithDelivery (codec : JsonText) (config : RpcConfig) (method : String) (params : Json)
    (sideEffecting : Bool) : Rpc (Outcome Json) := do
  match ← rpc .checkClosed with
  | some error => pure (.error error)
  | none => do
    let id ← rpc .nextId
    match renderMessage codec (requestMessage method id params) config.maxMessageBytes with
    | .error e => pure (.error e)
    | .ok rendered => sendRequest sideEffecting id rendered

/-- Sends a JSONL notification. -/
def notify (codec : JsonText) (config : RpcConfig) (method : String) (params : Option Json) :
    Rpc (Outcome Unit) :=
  match renderMessage codec (notificationMessage method params) config.maxMessageBytes with
  | .error e => pure (.error e)
  | .ok rendered => write rendered

/-- The read loop over the lines the peer sends until it closes; a line that is too long
or not UTF-8 has no text. -/
def readLoop : List (Option String) → Rpc Unit
  | [] => failConnection (protocolError "app-server connection closed")
  | none :: _ =>
    failConnection (protocolError "app-server message exceeds limit or is not valid UTF-8")
  | some line :: later => do
    match ← rpc (.dispatch line) with
    | .error e => failConnection e
    | .ok () => readLoop later

end ImagegenBridge.CodexAppServer
