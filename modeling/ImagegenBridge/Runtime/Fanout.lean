import Mathlib.Data.List.Sort
import ImagegenBridge.Core.Text
import ImagegenBridge.Lib.Unordered
import ImagegenBridge.Runtime.Batch
import ImagegenBridge.Runtime.FanoutChunks
import ImagegenBridge.Runtime.Idempotency

/-!
# Output fan-out, `crates/runtime/src/fanout/mod.rs`

One request is split into chunks that run at most `batchParallel` at a time. How
each chunk ends, and in which order, is the environment's choice; `aggregate`
puts the results together.
-/

namespace ImagegenBridge.Fanout

open Batch Idempotency Unordered

/-- How the future of one chunk ends: without a permit, or executed. -/
inductive ChunkEnd where
  | closed | cancelled | elapsed
  | executed (result : Outcome ImageResponse)

/-- One chunk's execution and how long it took. -/
structure ChunkRun where
  elapsedMs : Nat
  finish : ChunkEnd

/-- `execute_chunk`, with the errors of `acquire`. -/
def ChunkRun.result (run : ChunkRun) : Outcome ImageResponse :=
  match run.finish with
  | .closed => .error (.new .cancelled "output fan-out is shutting down")
  | .cancelled => .error (.new .cancelled "output fan-out was cancelled while waiting for capacity")
  | .elapsed => .error ((BridgeError.new .timeout
      "output fan-out timed out while waiting for capacity").setRetryable true)
  | .executed result => result

/-- The sub-request reached the inner provider. -/
def ChunkRun.Dispatched (run : ChunkRun) : Prop := ∃ result, run.finish = .executed result

structure ChunkResult where
  offset : Nat
  count : Nat
  elapsedMs : Nat
  result : Outcome ImageResponse

def chunkResult (entry : ChunkSpec × ChunkRun) : ChunkResult :=
  ⟨entry.1.offset, entry.1.count, entry.2.elapsedMs, entry.2.result⟩

/-- The events of a chunk that reach the caller, a partial image under its index in
the whole batch. -/
def mapEvent (event : ProviderEvent) (offset count : Nat) : Option ProviderEvent :=
  match event with
  | .progress stage => some (.progress stage)
  | .partialImage index partialIndex b64Json =>
    if index < count then some (.partialImage (offset + index) partialIndex b64Json) else none
  | .started | .completed _ => none

/-! ## Aggregation -/

def validateChunkIndices (response : ImageResponse) (offset count : Nat) : Outcome Unit :=
  let indices := response.data.map GeneratedImage.index ++ response.failures.map ImageFailure.index
  Outcome.failIf (indices.insertionSort (· ≤ ·) ≠ List.range count)
    ((BridgeError.new .protocol "fan-out subrequest returned an invalid output set").withDetail
      "output_offset" (.integer offset))

/-- A sub-response whose outputs carry their indices in the whole batch. -/
def placeOutputs (result : ChunkResult) (response : ImageResponse) : ImageResponse :=
  { response with
    data := response.data.map fun image =>
      { image with
        index := image.index + result.offset
        generationMs := some (image.generationMs.getD result.elapsedMs) }
    failures := response.failures.map fun failure =>
      { failure with index := failure.index + result.offset } }

/-- A failed chunk fails each of its outputs. -/
def chunkFailures (result : ChunkResult) (error : BridgeError) : List ImageFailure :=
  (List.range result.count).map fun i =>
    { index := result.offset + i
      error := error.withDetail "output_index" (.integer (result.offset + i : Nat))
      generationMs := result.elapsedMs }

structure Collected where
  successful : List ImageResponse
  failures : List ImageFailure

/-- The loop over the results; an invalid output set ends it. -/
def collect : List ChunkResult → Outcome Collected
  | [] => .ok ⟨[], []⟩
  | result :: rest =>
    match result.result with
    | .ok response => do
      validateChunkIndices response result.offset result.count
      let later ← collect rest
      .ok { later with successful := placeOutputs result response :: later.successful }
    | .error error => do
      let later ← collect rest
      .ok { later with failures := chunkFailures result error ++ later.failures }

def sumOption : Option Nat → Option Nat → Option Nat
  | none, none => none
  | left, right => some (saturatingAdd (left.getD 0) (right.getD 0))

/-- `entry(key).or_default()` with a saturating addition, keys in order. -/
def addProviderUsage (fields : List (String × Nat)) (entry : String × Nat) : List (String × Nat) :=
  match fields with
  | [] => [entry]
  | (key, value) :: rest =>
    if key = entry.1 then (key, saturatingAdd value entry.2) :: rest
    else if entry.1 < key then entry :: (key, value) :: rest
    else (key, value) :: addProviderUsage rest entry

def mergeUsage (target value : Usage) : Usage :=
  { inputTokens := sumOption target.inputTokens value.inputTokens
    outputTokens := sumOption target.outputTokens value.outputTokens
    totalTokens := sumOption target.totalTokens value.totalTokens
    provider := value.provider.foldl addProviderUsage target.provider }

def mergeSessions : List ImageResponse → Option SessionMetadata
  | [] => none
  | first :: rest =>
    first.session.bind fun session =>
      if rest.all (fun response => response.session.any fun other =>
          other.key == session.key && other.threadId == session.threadId)
      then some session else none

/-- What `aggregate` reads of the clock. -/
structure BatchClock where
  created : Nat
  providerMs : Nat
  totalMs : Nat

def partialFailuresError : BridgeError :=
  .new .protocol "fan-out provider returned partial failures under fail-fast policy"

def identityError : BridgeError :=
  .new .protocol "fan-out provider identity changed within one batch"

/-- The response of a batch with a successful chunk. -/
def mergeResponses (request : ImageRequest) (requestId : String) (clock : BatchClock)
    (collected : Collected) (first : ImageResponse) (rest : List ImageResponse) :
    Outcome ImageResponse := do
  Outcome.failIf (rest.any (fun response =>
      response.provider != first.provider || response.model != first.model) = true) identityError
  let successful := first :: rest
  let data := (successful.flatMap ImageResponse.data).insertionSort (·.index ≤ ·.index)
  let failures := (collected.failures ++ successful.flatMap ImageResponse.failures).insertionSort
    (·.index ≤ ·.index)
  Outcome.failIf (failures ≠ [] ∧ request.parameters.failurePolicy ≠ .bestEffort) partialFailuresError
  let standing := "emulated_multi_image_fanout" :: (if request.policies.batchExecution = .sequential
    then ["sequential_multi_image_fanout"] else [])
  let noted := standing ++ successful.flatMap ImageResponse.warnings
    ++ (if failures.isEmpty then [] else ["partial_output_failure"])
  let usages := successful.filterMap ImageResponse.usage
  .ok
    { id := requestId
      created := clock.created
      provider := first.provider
      model := first.model
      requested := request.parameters
      effective := request.parameters
      normalizations := []
      attempts := []
      data
      failures
      revisedPrompt := successful.findSome? ImageResponse.revisedPrompt
      usage := if usages.isEmpty then none else some (usages.foldl mergeUsage {})
      session := mergeSessions successful
      timings := { providerMs := clock.providerMs, totalMs := clock.totalMs }
      warnings := noted.foldl Text.insertSorted [] }

def aggregate (request : ImageRequest) (requestId : String) (clock : BatchClock)
    (results : List ChunkResult) : Outcome ImageResponse := do
  let collected ← collect results
  match collected.successful with
  | [] =>
    let error := match collected.failures with
      | [] => BridgeError.new .upstream "all fan-out outputs failed"
      | failure :: _ => failure.error
    .error (allFailedError error request.parameters.n)
  | first :: rest => mergeResponses request requestId clock collected first rest

/-! ## Execution -/

def batchParallel (config : OutputFanoutConfig) (request : ImageRequest) : Nat :=
  match request.policies.batchExecution with
  | .parallel => config.maxParallelOutputs
  | .auto => if request.session.mode = .isolated then config.maxParallelOutputs else 1
  | .sequential => 1

/-- Under fail-fast the first error stops the batch. -/
def stops (policy : MultiImageFailurePolicy) (run : ChunkRun) : Option BridgeError :=
  match policy, run.result with
  | .failFast, .error error => some error
  | _, _ => none

abbrev ChunkCourse := Course ChunkSpec ChunkRun BridgeError

/-- What the batch returns once its chunks have run. -/
def settle (request : ImageRequest) (requestId : String) (clock : BatchClock) :
    ChunkCourse → Outcome ImageResponse
  | .stopped finished job run error running _ =>
    .error (stopError error job.offset run.elapsedMs (!running.isEmpty || !finished.isEmpty))
  | .completed finished =>
    aggregate request requestId clock
      ((finished.map chunkResult).insertionSort (·.offset ≤ ·.offset))

/-- How the chunks of a batch run under one order of completions. -/
def runChunks (config : OutputFanoutConfig) (request : ImageRequest) (nativeCount : U8Range)
    (completions : List (Completion ChunkRun)) : Option ChunkCourse :=
  course (stops request.parameters.failurePolicy) completions
    (.start (batchParallel config request) (chunks request.parameters.n nativeCount.max))

/-- The sub-requests `OutputFanoutProvider::execute` may send to a provider of one
document: the request itself, or those of the chunks a batch has started. -/
def sentRequests (document : ProviderCapabilities) (request : ImageRequest) (ended : ChunkCourse) :
    List ImageRequest :=
  if request.parameters.n ≤ document.count.max then [request]
  else ended.started.map (chunkRequest request)

def executeFanout (config : OutputFanoutConfig) (request : ImageRequest) (requestId : String)
    (nativeCount : U8Range) (clock : BatchClock) (completions : List (Completion ChunkRun)) :
    Option (Outcome ImageResponse) :=
  (runChunks config request nativeCount completions).map (settle request requestId clock)

end ImagegenBridge.Fanout
