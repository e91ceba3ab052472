import ImagegenBridge.Core.Error
import ImagegenBridge.Core.Text
import ImagegenBridge.Lib.Program

/-!
# The deployment gateway, `crates/cli/src/gateway.rs`

A request is a program over the file that names the active slot, the health probes, the clock
and what is sent to the backend. URLs are joined by a parameter. A body that is streamed back is
read to its end as a part of the request.
-/

namespace ImagegenBridge.Gateway

open Program

abbrev Bytes := List UInt8

abbrev Headers := List (String × String)

structure GatewayState (Url : Type) where
  blue : Url
  green : Url
  holdTimeout : Nat
  probeInterval : Nat
  forwardTimeout : Nat
  responseIdleTimeout : Nat

/-- What is read of a request besides its body, and the length that it declares. -/
structure Request where
  method : String
  path : String
  pathAndQuery : Option String
  headers : Headers
  contentLength : Option Nat

/-! ## Responses -/

/-- How a body that is streamed ends. -/
inductive Ending where
  | complete
  | failed (message : String)

inductive Body where
  | empty
  | text (value : String)
  | json (value : Json)
  | stream (chunks : List Bytes) (ending : Ending)

structure Response where
  status : Nat
  headers : Headers
  body : Body

def jsonType : String × String := ("content-type", "application/json")

def retryAfter : String × String := ("retry-after", "1")

def unavailable (message : String) : Response where
  status := 503
  headers := [jsonType, retryAfter]
  body := .json (.object [("error", .object [
    ("code", .string "deployment_handoff"),
    ("message", .string message),
    ("retryable", .bool true)])])

def gatewayLiveness : Response :=
  ⟨200, [jsonType],
    .json (.object [("status", .string "live"), ("component", .string "deployment_gateway")])⟩

def ready (slot : String) : Response :=
  ⟨200, [jsonType], .json (.object [("status", .string "ready"), ("active_slot", .string slot)])⟩

def holding : Response :=
  ⟨503, [jsonType, retryAfter], .json (.object [("status", .string "holding")])⟩

/-- The answer of `RequestBodyLimitLayer`. -/
def tooLarge : Response :=
  ⟨413, [("content-type", "text/plain; charset=utf-8")], .text "length limit exceeded"⟩

/-- The answer of a route that only takes `GET`. -/
def methodNotAllowed : Response := ⟨405, [("allow", "GET,HEAD")], .empty⟩

/-! ## Headers -/

def hopByHop (name : String) : Bool :=
  ["connection", "keep-alive", "proxy-authenticate", "proxy-authorization", "te", "trailer",
    "transfer-encoding", "upgrade"].contains name

def filteredHeaders (source : Headers) : Headers := source.filter fun header => !hopByHop header.1

def forwardedHeaders (source : Headers) : Headers :=
  source.filter fun header => !hopByHop header.1 && header.1 != "host"

/-! ## Operations -/

/-- A request to the backend; its body is the client's. It is given up at the deadline. -/
structure Outgoing (Url : Type) where
  method : String
  target : Url
  headers : Headers
  deadline : Nat

/-- Why no headers came back. -/
inductive SendFailure where
  | failed
  | deadline

/-- A request of which nothing reached the backend, because it refused the connection for
instance; one of which some did, and that was not answered; and one that was. -/
inductive SendAnswer where
  | undelivered (failure : SendFailure)
  | unanswered (failure : SendFailure)
  | answered (status : Nat) (headers : Headers)

inductive ChunkAnswer where
  | chunk (bytes : Bytes)
  | failed
  | ended
  | deadline

variable {Url : Type}

inductive GatewayOp (Url : Type) where
  | admitted
  | readState
  -- No status comes of a probe that fails or takes two seconds.
  | probe (health : Url)
  | now
  | sleep (duration : Nat)
  | send (outgoing : Outgoing Url)
  | nextChunk (deadline : Nat)
  | stall

abbrev GatewayOp.Ans : GatewayOp Url → Type
  | .admitted => Bool
  | .readState => Option String
  | .probe _ => Option Nat
  | .now => Nat
  | .sleep _ => Unit
  | .send _ => SendAnswer
  | .nextChunk _ => ChunkAnswer
  | .stall => Empty

abbrev gatewayCalls (Url : Type) : Interface := ⟨GatewayOp Url, GatewayOp.Ans⟩

abbrev Serving (Url α : Type) := Program (gatewayCalls Url) α

def await (op : GatewayOp Url) : Serving Url op.Ans := ask (I := gatewayCalls Url) op

/-- A loop that takes more rounds than it has stalls; a longer run has a longer bound. -/
def stall {α : Type} : Serving Url α := do
  let never ← await .stall
  nomatch never

/-! ## The selected backend -/

variable (join : Url → String → Option Url) (state : GatewayState Url)

def slotBackend (slot : String) : Option (String × Url) :=
  if Text.trim slot = "blue" then some ("blue", state.blue)
  else if Text.trim slot = "green" then some ("green", state.green)
  else none

def isSuccess (status : Nat) : Bool := 200 ≤ status && status < 300

def selectedReadyBackend : OptionT (Program (gatewayCalls Url)) (String × Url) := do
  let slot ← OptionT.mk (await .readState)
  let backend ← OptionT.mk (Program.done (slotBackend state slot))
  let health ← OptionT.mk (Program.done (join backend.2 "health/ready"))
  let status ← OptionT.mk (await (.probe health))
  OptionT.mk (Program.done (if isSuccess status then some backend else none))

def gatewayReadiness : Serving Url Response := do
  match ← (selectedReadyBackend join state).run with
  | some backend => return ready backend.1
  | none => return holding

/-! ## Forwarding -/

/-- `async_stream::stream!`. -/
def boundedStream (deadline : Nat) : Nat → List Bytes → Serving Url Body
  | 0, _ => stall
  | rounds + 1, chunks => do
    let now ← await .now
    match ← await (.nextChunk (min (now + state.responseIdleTimeout) deadline)) with
    | .chunk bytes => boundedStream deadline rounds (chunks ++ [bytes])
    | .failed => return .stream chunks (.failed "backend response stream failed")
    | .ended => return .stream chunks .complete
    | .deadline => return .stream chunks (.failed "backend response stream deadline exceeded")

/-- `http::response::Builder`: the parts so far, or the error of an earlier step. -/
abbrev Builder := Except Unit (Nat × Headers)

namespace Builder

/-- `Response::builder().status(status)`, of a status that is one already. -/
def status (status : Nat) : Builder := .ok (status, [])

/-- `headers_mut`. -/
def setHeaders (builder : Builder) (headers : Headers) : Builder :=
  builder.map fun parts => (parts.1, headers)

def body (builder : Builder) (body : Body) : Except Unit Response :=
  builder.map fun parts => ⟨parts.1, parts.2, body⟩

end Builder

def trimSlashes (path : String) : String := String.ofList (path.toList.dropWhile (· == '/'))

def answer (rounds deadline status : Nat) (headers : Headers) : Serving Url Response := do
  let bounded ← boundedStream state deadline rounds []
  return (((Builder.status status).setHeaders (filteredHeaders headers)).body bounded).toOption.getD
    (unavailable "gateway could not construct the upstream response")

def forward (rounds : Nat) (backend : Url) (request : Request) : Serving Url Response := do
  let now ← await .now
  match join backend (trimSlashes (request.pathAndQuery.getD "/")) with
  | none => return unavailable "gateway could not resolve the selected backend route"
  | some target => do
    match ← await (.send ⟨request.method, target, forwardedHeaders request.headers,
        now + state.forwardTimeout⟩) with
    | .answered status headers =>
      answer state rounds (now + state.forwardTimeout) status headers
    | .undelivered _ | .unanswered _ =>
      return unavailable "active backend did not return headers before the request deadline"

/-! ## A request -/

def hold (deadline : Nat) : Nat → Serving Url (Option Url)
  | 0 => stall
  | rounds + 1 => do
    match ← (selectedReadyBackend join state).run with
    | some backend => return some backend.2
    | none => do
      let now ← await .now
      if deadline ≤ now then return none
      else do
        await (.sleep state.probeInterval)
        hold deadline rounds

def proxy (rounds : Nat) (request : Request) : Serving Url Response := do
  let now ← await .now
  match ← hold join state (now + state.holdTimeout) rounds with
  | none => return unavailable "deployment handoff exceeded the bounded hold timeout"
  | some backend => forward join state rounds backend request

def route (rounds : Nat) (request : Request) : Serving Url Response :=
  let reads := request.method = "GET" ∨ request.method = "HEAD"
  if request.path = "/health/live" then
    if reads then return gatewayLiveness else return methodNotAllowed
  else if request.path = "/health/ready" then
    if reads then gatewayReadiness join state else return methodNotAllowed
  else proxy join state rounds request

/-- The router with its layers, the outermost first. -/
def app (maxBodyBytes rounds : Nat) (request : Request) : Serving Url Response :=
  if request.contentLength.any (maxBodyBytes < ·) then return tooLarge
  else do
    if ← await .admitted then route join state rounds request
    else return unavailable "gateway request capacity is exhausted"

end ImagegenBridge.Gateway
