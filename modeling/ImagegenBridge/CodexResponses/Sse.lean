import ImagegenBridge.Core.Error
import ImagegenBridge.Core.Text
import ImagegenBridge.Lib.Lines

/-!
# Server-Sent Events of `codex-responses`, `crates/codex-responses/src/sse.rs`

The decoder takes a response stream in the chunks the network delivers it in. The lengths
of texts in memory are far below `usize::MAX`, so that saturating sums of them are exact.
-/

namespace ImagegenBridge.CodexResponses

open Text Lines

abbrev Bytes := List UInt8

/-- `std::str::from_utf8`. -/
def readText (bytes : Bytes) : Option String := String.fromUTF8? ⟨bytes.toArray⟩

@[simp] theorem readText_nil : readText [] = some "" := by decide

structure SseLimits where
  maxStreamBytes : Nat
  maxLineBytes : Nat
  maxEvents : Nat
  maxEventBytes : Nat
  representable : maxStreamBytes < 2 ^ 64

def SseLimits.default : SseLimits where
  maxStreamBytes := 256 * 1024 * 1024
  maxLineBytes := 128 * 1024 * 1024
  maxEvents := 10000
  maxEventBytes := 128 * 1024 * 1024
  representable := by decide

/-- The part of the decoder that lines act on. -/
structure SseEvents where
  data : String := ""
  events : Nat := 0

structure SseDecoder extends SseEvents where
  buffer : Bytes := []
  streamBytes : Nat := 0
  limits : SseLimits

def sseError (message : String) : BridgeError :=
  (BridgeError.new .protocol message).withProvider "codex-responses"

namespace SseEvents

variable (limits : SseLimits)

/-- The state of the decoder and the events it has pushed. -/
abbrev Progress := SseEvents × List String

def flushEvent : Progress → Outcome Progress
  | (state, pushed) =>
    if state.data = "" then .ok (state, pushed)
    else do
      Outcome.failIf (state.events + 1 > limits.maxEvents)
        (sseError "SSE response contains too many events")
      .ok ({ state with data := "", events := state.events + 1 }, pushed ++ [state.data])

def addData (value : String) : Progress → Outcome Progress
  | (state, pushed) => do
    let additional := len value + if state.data = "" then 0 else 1
    Outcome.failIf (len state.data + additional > limits.maxEventBytes)
      (sseError "SSE event exceeds the configured limit")
    let data := if state.data = "" then value else state.data ++ "\n" ++ value
    .ok ({ state with data := data }, pushed)

def processLine (progress : Progress) (line : String) : Outcome Progress :=
  if line = "" then flushEvent limits progress
  else if startsWith line.toList [':'] then .ok progress
  else match stripStart "data:" line with
    | some value => addData limits ((stripStart " " value).getD value) progress
    | none => .ok progress

/-- A line without the carriage return before its end. -/
def dropReturn (line : Bytes) : Bytes := if line.getLast? = some 13 then line.dropLast else line

def processBytes (progress : Progress) (line : Bytes) : Outcome Progress :=
  match readText (dropReturn line) with
  | some text => processLine limits progress text
  | none => .error (sseError "SSE response is not valid UTF-8")

/-- `line.trim_end_matches('\r')`. -/
def trimReturns (line : String) : String :=
  String.ofList ((line.toList.reverse.dropWhile (· == '\r')).reverse)

/-- The line that the stream ended in, if any. -/
def processRest (progress : Progress) (rest : Bytes) : Outcome Progress :=
  if rest = [] then .ok progress
  else match readText rest with
    | some line => processLine limits progress (trimReturns line)
    | none => .error (sseError "SSE response is not valid UTF-8")

end SseEvents

open SseEvents

namespace SseDecoder

/-- The loop of `push` takes the lines off the buffer one by one, and leaves the rest. -/
def push (decoder : SseDecoder) (chunk : Bytes) : Outcome (SseDecoder × List String) := do
  let streamBytes := decoder.streamBytes + chunk.length
  Outcome.failIf (streamBytes ≥ 2 ^ 64) (sseError "SSE stream byte count overflowed")
  Outcome.failIf (streamBytes > decoder.limits.maxStreamBytes)
    (sseError "SSE stream exceeds the configured limit")
  Outcome.failIf (decoder.buffer.length + chunk.length > decoder.limits.maxLineBytes)
    (sseError "SSE line exceeds the configured limit")
  let (lines, rest) := cut 10 [] (decoder.buffer ++ chunk)
  let (state, pushed) ← lines.foldlM (processBytes decoder.limits) (decoder.toSseEvents, [])
  .ok ({ decoder with toSseEvents := state, buffer := rest, streamBytes }, pushed)

def finish (decoder : SseDecoder) : Outcome (List String) := do
  let progress ← processRest decoder.limits (decoder.toSseEvents, []) decoder.buffer
  let (_, pushed) ← flushEvent decoder.limits progress
  .ok pushed

/-- The chunks of a stream, one after the other. -/
def pushAll (decoder : SseDecoder) : List Bytes → Outcome (SseDecoder × List String)
  | [] => .ok (decoder, [])
  | chunk :: chunks => do
    let (decoder, pushed) ← decoder.push chunk
    let (decoder, later) ← decoder.pushAll chunks
    .ok (decoder, pushed ++ later)

end SseDecoder

/-- What a stream decodes to that arrives in these chunks. -/
def decodeChunks (limits : SseLimits) (chunks : List Bytes) : Outcome (List String) := do
  let (decoder, pushed) ← SseDecoder.pushAll { limits } chunks
  let last ← decoder.finish
  .ok (pushed ++ last)

end ImagegenBridge.CodexResponses
