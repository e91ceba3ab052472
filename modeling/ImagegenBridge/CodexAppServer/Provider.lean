import ImagegenBridge.CodexAppServer.Capabilities
import ImagegenBridge.CodexAppServer.Turn
import ImagegenBridge.Core.Negotiation
import ImagegenBridge.Core.Validation

/-!
# Executions of `codex-app-server`, `crates/codex-app-server/src/provider.rs`

An execution is a program that awaits its lock, the session store, the requests it sends
over the connection and the notifications of its turn. Decoding and inspecting an image
is a parameter.
-/

namespace ImagegenBridge.CodexAppServer

open Program

/-- Reference inputs, with their limit on decoded bytes. -/
structure AppServerReferenceInputs where
  remoteFetcher : Bool
  maxAggregateBytes : Nat

structure AppServerProviderConfig where
  codexModel : Option String
  cwd : String
  maxEncodedBytes : Nat

structure AppServerImageProvider where
  codec : JsonText
  rpcConfig : RpcConfig
  config : AppServerProviderConfig
  referenceInputs : Option AppServerReferenceInputs
  normalizedImage : String → Outcome GeneratedImage

/-! ## Requests to the app-server -/

inductive AppServerCall where
  | threadStart (ephemeral : Bool)
  | threadResume (threadId : String)
  | turnStart (threadId : String) (input : Json)
  | turnInterrupt (threadId turnId : String)
  | threadArchive (threadId : String)

namespace AppServerCall

def method : AppServerCall → String
  | threadStart _ => "thread/start"
  | threadResume _ => "thread/resume"
  | turnStart .. => "turn/start"
  | turnInterrupt .. => "turn/interrupt"
  | threadArchive _ => "thread/archive"

def developerInstructions : String :=
  "For each request, call image_gen.imagegen exactly once and do not use unrelated tools."

def params (config : AppServerProviderConfig) : AppServerCall → Json
  | threadStart ephemeral =>
    .object [("model", (config.codexModel.map Json.string).getD .null), ("cwd", .string config.cwd),
      ("approvalPolicy", .string "never"), ("sandbox", .string "read-only"),
      ("ephemeral", .bool ephemeral), ("developerInstructions", .string developerInstructions)]
  | threadResume threadId | threadArchive threadId => .object [("threadId", .string threadId)]
  | turnStart threadId input => .object [("threadId", .string threadId), ("input", input)]
  | turnInterrupt threadId turnId =>
    .object [("threadId", .string threadId), ("turnId", .string turnId)]

/-- `request_side_effecting_until`, or else `request_until`. -/
def sideEffecting : AppServerCall → Bool
  | threadStart _ | threadResume _ => false
  | turnStart .. | turnInterrupt .. | threadArchive _ => true

end AppServerCall

/-! ## Operations -/

/-- How the wait for a session's lock ends. -/
inductive LockWakeup where
  | guarded
  | cancelled
  | elapsed

/-- How the `select!` of a turn ends. -/
inductive TurnWakeup where
  | received (notification : RpcNotification)
  | failed (error : RecvError)
  | cancelled
  | elapsed

/-- How the wait for the end of an interrupted turn ends. -/
inductive CleanupWakeup where
  | received (notification : RpcNotification)
  | failed (error : RecvError)
  | elapsed

inductive ProviderOp where
  | connection
  | threadLock (key : String)
  | lockThread (lock : Nat)
  | unlockThread
  | getBinding (key : String)
  | putBinding (key threadId : String)
  | deleteBinding (key : String)
  | rpc (call : AppServerCall) (op : RpcOp)
  | loadReference (input : ImageInput)
  | stageReference (input : ImageInput)
  | subscribe
  | receive (threadId turnId : String)
  | receiveCleanup (threadId turnId : String)
  | stall
  | elapsed
  | now
  | finishTurn (threadId : String) (execution : Nat)

abbrev ProviderOp.Ans : ProviderOp → Type
  | .connection | .putBinding .. | .deleteBinding _ => Outcome Unit
  | .threadLock _ | .elapsed | .now => Nat
  | .lockThread _ => LockWakeup
  | .getBinding _ => Outcome (Option String)
  | .rpc _ op => op.Ans
  | .loadReference _ => Outcome Nat
  | .stageReference _ => Outcome String
  | .receive .. => TurnWakeup
  | .receiveCleanup .. => CleanupWakeup
  | .stall => Empty
  | .unlockThread | .subscribe | .finishTurn .. => Unit

abbrev providerCalls : Interface := ⟨ProviderOp, ProviderOp.Ans⟩

abbrev Execution (α : Type) := ExceptT BridgeError (Program providerCalls) α

/-- Awaits one operation. -/
def await (op : ProviderOp) : Execution op.Ans := ExceptT.lift (ask (I := providerCalls) op)

/-- The `?` operator. -/
def ensure {α : Type} (outcome : Outcome α) : Execution α := ExceptT.mk (Program.done outcome)

/-- A request over the connection. -/
def sendCall (p : AppServerImageProvider) (call : AppServerCall) :
    Program providerCalls (Outcome Json) :=
  (requestWithDelivery p.codec p.rpcConfig call.method (call.params p.config)
    call.sideEffecting).relay (J := providerCalls) (ProviderOp.rpc call) fun _ answer => answer

def request (p : AppServerImageProvider) (call : AppServerCall) : Execution Json :=
  ExceptT.mk (sendCall p call)

/-! ## Threads -/

def startThread (p : AppServerImageProvider) (ephemeral : Bool) : Execution String := do
  let result ← request p (.threadStart ephemeral)
  ensure (stringAt result ["thread", "id"] "thread/start returned no thread ID")

def resumeThread (p : AppServerImageProvider) (threadId : String) : Execution Unit := do
  let _ ← request p (.threadResume threadId)
  return ()

def persistentThread (p : AppServerImageProvider) (key : String) : Option String →
    Execution (String × Bool)
  | some threadId => do
    resumeThread p threadId
    return (threadId, true)
  | none => do
    let threadId ← startThread p false
    let stored ← await (.putBinding key threadId)
    ensure stored
    return (threadId, false)

def resolveThread (p : AppServerImageProvider) (session : SessionOptions) :
    Execution (String × Bool) :=
  match session.mode with
  | .isolated => do
    let threadId ← startThread p true
    return (threadId, false)
  | .persistent => do
    match session.key with
    | none => throw (BridgeError.new .session "persistent session key is missing")
    | some key => do
      let bound ← await (.getBinding key)
      persistentThread p key (← ensure bound)
  | .thread => do
    match session.threadId with
    | none => throw (BridgeError.new .session "explicit thread ID is missing")
    | some threadId => do
      resumeThread p threadId
      return (threadId, true)

/-! ## Reference inputs -/

def loadReference (inputs : AppServerReferenceInputs) (input : ImageInput) : Execution Nat := do
  match input.source, inputs.remoteFetcher with
  | .url _, false => throw (BridgeError.new .input "remote image inputs are disabled")
  | _, _ => do
    let loaded ← await (.loadReference input)
    ensure loaded

def stageReferences (inputs : AppServerReferenceInputs) : List ImageInput → Nat → List String →
    Execution (List String)
  | [], _, paths => pure paths
  | input :: rest, total, paths => do
    let bytes ← loadReference inputs input
    let total := total + bytes
    ensure (Outcome.failIf (total ≥ 2 ^ 64)
      (BridgeError.new .input "reference image bytes overflowed"))
    ensure (Outcome.failIf (total > inputs.maxAggregateBytes)
      (BridgeError.new .input "aggregate reference images exceed the configured byte limit"))
    let stored ← await (.stageReference input)
    let path ← ensure stored
    stageReferences inputs rest total (paths ++ [path])

def referencePaths (p : AppServerImageProvider) (request : ImageRequest) :
    Execution (List String) :=
  if (requestImages request).isEmpty then pure []
  else match p.referenceInputs with
    | none => throw (BridgeError.new .input
      "app-server reference inputs require a configured secure staging store")
    | some inputs => stageReferences inputs (requestImages request) 0 []

/-! ## Turns -/

/-- The loops await notifications as long as they have rounds left, and stall then: a run
that takes longer has a longer bound. -/
def stall {α : Type} : Execution α := do
  let never ← await .stall
  nomatch never

def confirmInterruption (threadId turnId : String) : Nat → Execution String
  | 0 => stall
  | rounds + 1 => do
    match ← await (.receiveCleanup threadId turnId) with
    | .failed error => throw (notificationError error)
    | .elapsed => throw (unknownAppServerOutcome .timeout "turn interruption was not confirmed")
    | .received notification =>
      if completesTurn notification threadId turnId then
        return ((((notification.params.index "turn").index "status").asStr.bind
          safeFailureLabel).getD "unknown")
      else confirmInterruption threadId turnId rounds

def interruptAndConfirm (p : AppServerImageProvider) (rounds : Nat) (threadId turnId : String) :
    Execution String := do
  let _ ← request p (.turnInterrupt threadId turnId)
  confirmInterruption threadId turnId rounds

/-- A turn that is given up is interrupted first. -/
def interrupted (p : AppServerImageProvider) (rounds : Nat) (threadId turnId : String)
    (report : Outcome String → BridgeError) : Execution TurnImages := do
  let confirmed ← ExceptT.lift (interruptAndConfirm p rounds threadId turnId).run
  throw (report confirmed)

def followTurn (p : AppServerImageProvider) (threadId turnId : String) (request : ImageRequest) :
    Nat → TurnAccumulator → Execution TurnImages
  | 0, _ => stall
  | rounds + 1, turn => do
    match ← await (.receive threadId turnId) with
    | .failed error => throw (notificationError error)
    | .cancelled =>
      interrupted p rounds threadId turnId
        (interruptOutcome .cancelled "image generation was cancelled")
    | .elapsed =>
      interrupted p rounds threadId turnId
        (interruptOutcome .timeout "image generation timed out")
    | .received notification =>
      let turn := if belongsTo notification.params threadId turnId then turn.observe notification
        else turn
      match (completedImage notification threadId turnId).elim (.ok turn) turn.capture with
      | .error e => interrupted p rounds threadId turnId (protocolFailureOutcome e)
      | .ok turn =>
        if completesTurn notification threadId turnId then
          ensure (turnResult notification request turn)
        else followTurn p threadId turnId request rounds turn

/-- The room for the images of a turn. -/
def newAccumulator (config : AppServerProviderConfig) (request : ImageRequest) : TurnAccumulator :=
  let capped := fun n => min n (2 ^ 64 - 1)
  let encodedEach := capped (capped (config.maxEncodedBytes + 2) / 3 * 4)
  { maxImages := request.parameters.n
    maxResultBytes := capped (encodedEach * request.parameters.n) }

def runTurn (p : AppServerImageProvider) (rounds : Nat) (threadId : String)
    (turnRequest : ImageRequest) : Execution TurnImages := do
  let paths ← referencePaths p turnRequest
  let _ ← await .subscribe
  let result ← request p (.turnStart threadId (turnInput turnRequest paths))
  let turnId ← ensure (stringAt result ["turn", "id"] "turn/start returned no turn ID")
  followTurn p threadId turnId turnRequest rounds (newAccumulator p.config turnRequest)

/-! ## Executions -/

/-- The session key, or else the thread id, or else the request id. -/
def lockKey (session : SessionOptions) (requestId : String) : String :=
  (session.key.orElse fun _ => session.threadId).getD requestId

/-- The response of a turn. -/
def turnResponse (negotiated : NegotiatedRequest) (requestId threadId : String) (reused : Bool)
    (turn : TurnImages) (images : List GeneratedImage) (elapsed created : Nat) : ImageResponse where
  id := requestId
  created := created
  provider := "codex-app-server"
  model := "gpt-image-2"
  requested := negotiated.requested
  effective := negotiated.effectiveRequest.parameters
  normalizations := negotiated.normalizations
  attempts := []
  data := images.map fun image => { image with generationMs := some elapsed }
  failures := []
  revisedPrompt := turn.revisedPrompt
  usage := none
  session := some ⟨negotiated.effectiveRequest.session.key, some threadId, reused⟩
  timings := { providerMs := elapsed, totalMs := elapsed }
  warnings := []

def archiveIsolated (p : AppServerImageProvider) (mode : SessionMode) (threadId : String) :
    Execution Unit :=
  match mode with
  | .isolated => do
    let _ ← ExceptT.lift (sendCall p (.threadArchive threadId))
    return ()
  | .persistent | .thread => pure ()

/-- The part of an execution that holds the lock of its session. -/
def executeLocked (p : AppServerImageProvider) (rounds : Nat) (negotiated : NegotiatedRequest)
    (requestId : String) : Execution ImageResponse := do
  let request := negotiated.effectiveRequest
  let (threadId, reused) ← resolveThread p request.session
  let result ← ExceptT.lift (runTurn p rounds threadId request).run
  archiveIsolated p request.session.mode threadId
  let turn ← ensure result
  let images ← ensure (turn.images.mapM p.normalizedImage)
  let elapsed ← await .elapsed
  let created ← await .now
  return turnResponse negotiated requestId threadId reused turn images elapsed created

def lockInterrupted : LockWakeup → Outcome Unit
  | .guarded => .ok ()
  | .cancelled =>
    .error (BridgeError.new .cancelled "request was cancelled while waiting for the session")
  | .elapsed =>
    .error ((BridgeError.new .timeout
      "request timed out while waiting for the session").setRetryable true)

def executeInner (p : AppServerImageProvider) (rounds : Nat) (request : ImageRequest)
    (requestId : String) : Execution ImageResponse := do
  ensure (validateRequest request RequestLimits.default)
  let negotiated ← ensure (negotiateRequest request capabilities)
  let connected ← await .connection
  ensure connected
  let lock ← await (.threadLock (lockKey negotiated.effectiveRequest.session requestId))
  let wakeup ← await (.lockThread lock)
  ensure (lockInterrupted wakeup)
  let result ← ExceptT.lift (executeLocked p rounds negotiated requestId).run
  let _ ← await .unlockThread
  ensure result

/-- `delete_session`. -/
def deleteSession (key : String) : Execution Unit := do
  let bound ← await (.getBinding key)
  let thread ← ensure bound
  ensure (Outcome.failIf (thread = none)
    ((BridgeError.new .session "persistent session was not found").withProvider
      "codex-app-server"))
  let deleted ← await (.deleteBinding key)
  ensure deleted

end ImagegenBridge.CodexAppServer
