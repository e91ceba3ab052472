import Mathlib.Data.List.Sort
import ImagegenBridge.CodexResponses.Capabilities
import ImagegenBridge.CodexResponses.Events
import ImagegenBridge.Core.Negotiation
import ImagegenBridge.Lib.Unordered
import ImagegenBridge.Runtime.Batch
import ImagegenBridge.Runtime.Materialize

/-!
# The outputs of one request, `crates/codex-responses/src/provider.rs`

Each output is a call of its own, at most `maxParallelOutputs` at a time
(`buffer_unordered`). How the calls end, and in which order, is the environment's
choice.
-/

namespace ImagegenBridge.CodexResponses

open Batch Materialize Unordered

/-- What the image codecs answer while outputs are checked. -/
structure ImageCodecs where
  decode : String → Option Materialize.Bytes
  inspectImage : Materialize.Bytes → Outcome ImageMetadata
  maxBase64Chars : Nat

def normalizedImage (codecs : ImageCodecs) (encoded : String) : Outcome GeneratedImage :=
  if Text.len encoded > codecs.maxBase64Chars then
    .error (protocolError "Codex image base64 exceeds the configured limit")
  else match codecs.decode (Text.trim encoded) with
    | none => .error (protocolError "Codex returned malformed base64 image data")
    | some bytes => match codecs.inspectImage bytes with
      | .error error =>
        .error { error with code := .protocol, provider := some "codex-responses" }
      | .ok metadata => .ok
          { index := 0
            payload := .b64Json encoded
            format := metadata.format
            width := metadata.width
            height := metadata.height
            bytes := metadata.bytes
            sha256 := metadata.sha256
            generationMs := none
            metadataName := none }

def requestImages (request : ImageRequest) : List ImageInput :=
  request.operation.editImages ++ request.operation.referenceImages

def annotateSafetyRejection (error : BridgeError) (request : ImageRequest) : BridgeError :=
  if error.code ≠ .safetyRejected then error
  else (error.withDetail "requested_moderation"
    (.string request.parameters.moderation.wire)).withDetail "input_images_present"
    (.bool (!(requestImages request).isEmpty))

/-- How the call of one output ends: before its request was sent, or after. -/
inductive CallEnd where
  | unsent (error : BridgeError)
  | sent (result : Outcome CallResult)

def CallEnd.result : CallEnd → Outcome CallResult
  | .unsent error => .error error
  | .sent result => result

/-- One output's call and how long it took. -/
structure OutputRun where
  generationMs : Nat
  call : CallEnd

/-- The call's result with its image checked. -/
def OutputRun.result (codecs : ImageCodecs) (request : ImageRequest) (run : OutputRun) :
    Outcome (CallResult × GeneratedImage) :=
  match run.call.result with
  | .error error => .error (annotateSafetyRejection error request)
  | .ok call => (normalizedImage codecs call.b64Json).map fun image => (call, image)

structure IndexedOutput where
  index : Nat
  generationMs : Nat
  result : Outcome (CallResult × GeneratedImage)

/-- A collected output; an error says which output it is about. -/
def indexedOutput (codecs : ImageCodecs) (request : ImageRequest) (entry : Nat × OutputRun) :
    IndexedOutput :=
  { index := entry.1
    generationMs := entry.2.generationMs
    result := (entry.2.result codecs request).mapError
      (atOutput · entry.1 entry.2.generationMs) }

/-- What the loop over the outputs has put together. -/
structure Outputs where
  images : List GeneratedImage := []
  failures : List ImageFailure := []
  transientRetryUsed : Bool := false
  revisedPrompt : Option String := none
  usage : Usage := {}

def Outputs.take (outputs : Outputs) (output : IndexedOutput) : Outputs :=
  match output.result with
  | .ok (call, image) =>
    { outputs with
      images := outputs.images ++
        [{ image with index := output.index, generationMs := some output.generationMs }]
      transientRetryUsed := outputs.transientRetryUsed || decide (call.attempts > 1)
      revisedPrompt := call.revisedPrompt.orElse fun _ => outputs.revisedPrompt
      usage := mergeUsage outputs.usage call.usage }
  | .error error =>
    { outputs with failures := outputs.failures ++ [⟨output.index, error, output.generationMs⟩] }

/-- What a finished request reads of the clock. -/
structure OutputClock where
  created : Nat
  elapsedMs : Nat

def revisedPromptError : BridgeError :=
  (BridgeError.new .upstream
    "Codex response did not include the required revised prompt").withProvider "codex-responses"

def outputsResponse (negotiated : NegotiatedRequest) (imageModel requestId : String)
    (clock : OutputClock) (outputs : Outputs) : ImageResponse :=
  let request := negotiated.effectiveRequest
  { id := requestId
    created := clock.created
    provider := "codex-responses"
    model := imageModel
    requested := negotiated.requested
    effective := request.parameters
    normalizations := negotiated.normalizations
    attempts := []
    data := outputs.images
    failures := outputs.failures
    revisedPrompt :=
      if request.policies.revisedPrompt = .omit then none else outputs.revisedPrompt
    usage := some outputs.usage
    session := none
    timings := { providerMs := clock.elapsedMs, totalMs := clock.elapsedMs }
    warnings := (if outputs.failures.isEmpty then [] else ["partial_output_failure"])
      ++ (if outputs.transientRetryUsed then ["transient_provider_retry_used"] else []) }

/-- The answer from the collected outputs. Without any output `failures.remove(0)`
panics; a validated request asks for one at least. -/
def concludeOutputs (negotiated : NegotiatedRequest) (imageModel requestId : String)
    (clock : OutputClock) (outputs : Outputs) : Option (Outcome ImageResponse) :=
  let request := negotiated.effectiveRequest
  if outputs.images.isEmpty then
    outputs.failures.head?.map fun failure =>
      .error (allFailedError failure.error request.parameters.n)
  else if request.policies.revisedPrompt = .require ∧ outputs.revisedPrompt = none then
    some (.error revisedPromptError)
  else some (.ok (outputsResponse negotiated imageModel requestId clock outputs))

abbrev OutputCourse := Course Nat OutputRun BridgeError

def siblingMayHaveRun (config : Config) (codecs : ImageCodecs) (request : ImageRequest)
    (finished : List (Nat × OutputRun)) : Bool :=
  decide (request.parameters.n > 1) && (decide (config.maxParallelOutputs > 1)
    || finished.any fun entry => (entry.2.result codecs request).isOk)

/-- What the request returns once its outputs have run. -/
def settleOutputs (config : Config) (codecs : ImageCodecs) (negotiated : NegotiatedRequest)
    (imageModel requestId : String) (clock : OutputClock) :
    OutputCourse → Option (Outcome ImageResponse)
  | .stopped finished index run error _ _ =>
    some (.error (stopError error index run.generationMs
      (siblingMayHaveRun config codecs negotiated.effectiveRequest finished)))
  | .completed finished =>
    let outputs := (finished.map (indexedOutput codecs negotiated.effectiveRequest)).insertionSort
      (·.index ≤ ·.index)
    concludeOutputs negotiated imageModel requestId clock (outputs.foldl Outputs.take {})

/-- Under fail-fast the first error ends the loop, and every other call with it. -/
def outputStops (codecs : ImageCodecs) (request : ImageRequest) (run : OutputRun) :
    Option BridgeError :=
  match request.parameters.failurePolicy, run.result codecs request with
  | .failFast, .error error => some error
  | _, _ => none

/-- How the outputs of a request run under one order of completions. -/
def runOutputs (config : Config) (codecs : ImageCodecs) (request : ImageRequest)
    (completions : List (Completion OutputRun)) : Option OutputCourse :=
  course (outputStops codecs request) completions
    (.start config.maxParallelOutputs (List.range request.parameters.n))

/-- `execute_inner` from the negotiated request on. -/
def executeOutputs (config : Config) (codecs : ImageCodecs) (negotiated : NegotiatedRequest)
    (imageModel requestId : String) (clock : OutputClock)
    (completions : List (Completion OutputRun)) : Option (Outcome ImageResponse) :=
  (runOutputs config codecs negotiated.effectiveRequest completions).bind
    (settleOutputs config codecs negotiated imageModel requestId clock)

end ImagegenBridge.CodexResponses
