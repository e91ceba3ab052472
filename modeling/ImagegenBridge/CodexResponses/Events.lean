import ImagegenBridge.Core.Response
import ImagegenBridge.Core.Text
import ImagegenBridge.Runtime.Idempotency

/-!
# Streaming events of `codex-responses`, `crates/codex-responses/src/events.rs`

The JSON parser is a parameter: the value of a text, or none for malformed input.
-/

namespace ImagegenBridge.CodexResponses

open Idempotency (saturatingAdd)

def maxRevisedPromptBytes : Nat := 128 * 1024

structure CallResult where
  b64Json : String
  revisedPrompt : Option String
  usage : Usage
  attempts : Nat

structure PartialImageData where
  partialIndex : Nat
  b64Json : String

/-- What one response stream has said so far. -/
structure EventState where
  finalImage : Option String := none
  nextPartialIndex : Nat := 0
  revisedPrompt : Option String := none
  usage : Usage := {}
  failure : Option BridgeError := none
  completed : Bool := false
  outputItemTypes : List String := []
  messageContentTypes : List String := []
  imageCallStatuses : List String := []

def protocolError (message : String) : BridgeError :=
  (BridgeError.new .protocol message).withProvider "codex-responses"

/-- Attaches a set of texts, unless it is empty. -/
def withTexts (error : BridgeError) (key : String) (texts : List String) : BridgeError :=
  if texts.isEmpty then error else error.withDetail key (.array (texts.map .string))

namespace EventState

def missingImageError (state : EventState) : BridgeError :=
  let error :=
    if state.messageContentTypes.contains "refusal" then
      (BridgeError.safetyRejected "Codex Responses declined the image request").withDetail
        "upstream_code" (.string "completed_with_refusal")
    else if state.imageCallStatuses.contains "failed" then
      ((BridgeError.new .upstream "Codex Responses image generation tool failed").setRetryable
        true).withDetail "upstream_code" (.string "image_call_failed")
    else
      ((BridgeError.new .upstream
        "Codex Responses completed without final image data").setRetryable true).withDetail
        "upstream_code" (.string "completed_without_image")
  withTexts (withTexts (withTexts (error.withProvider "codex-responses")
    "output_item_types" state.outputItemTypes)
    "message_content_types" state.messageContentTypes)
    "image_call_statuses" state.imageCallStatuses

def finish (state : EventState) : Outcome CallResult :=
  match state.failure with
  | some error => .error error
  | none =>
    if !state.completed then
      .error (protocolError "Codex Responses stream ended before response.completed")
    else match state.finalImage with
      | none => .error state.missingImageError
      | some b64Json => .ok ⟨b64Json, state.revisedPrompt, state.usage, 1⟩

end EventState

/-! ## Output items -/

/-- A kind by its name: one of the known names, `other`, or `missing`. -/
def kindOf (known : List String) : Option String → String
  | some kind => if known.contains kind then kind else "other"
  | none => "missing"

def outputItemType (item : Json) : String :=
  kindOf ["image_generation_call", "message", "reasoning", "function_call", "web_search_call",
    "computer_call"] (item.index "type").asStr

def imageCallStatus (item : Json) : String :=
  kindOf ["in_progress", "generating", "completed", "failed"] (item.index "status").asStr

def messageContentType (part : Json) : String :=
  kindOf ["refusal", "output_text"] (part.index "type").asStr

def recordOutputItem (item : Json) (state : EventState) : EventState :=
  let itemType := outputItemType item
  let statuses := if itemType = "image_generation_call" then [imageCallStatus item] else []
  let contents :=
    if itemType = "message" then (((item.index "content").asArray).getD []).map messageContentType
    else []
  { state with
    outputItemTypes := Text.insertSorted state.outputItemTypes itemType
    imageCallStatuses := statuses.foldl Text.insertSorted state.imageCallStatuses
    messageContentTypes := contents.foldl Text.insertSorted state.messageContentTypes }

def checkBase64Size (value : String) (maximum : Nat) : Outcome Unit :=
  Outcome.failIf (Text.len value > maximum)
    (protocolError "Codex image base64 exceeds the configured limit")

def nonEmpty (text : Option String) : Option String := text.filter (· ≠ "")

def captureResult (item : Json) (state : EventState) (maximumBase64 : Nat) : Outcome EventState :=
  match nonEmpty (item.index "result").asStr with
  | none => .ok state
  | some result => do
    checkBase64Size result maximumBase64
    Outcome.failIf (state.finalImage.any (· ≠ result) = true)
      (protocolError "Codex Responses returned multiple final images for one tool call")
    .ok { state with finalImage := some result }

def captureRevisedPrompt (item : Json) (state : EventState) : Outcome EventState :=
  match nonEmpty ((item.index "revised_prompt").asStr.orElse fun _ =>
      (item.index "revisedPrompt").asStr) with
  | none => .ok state
  | some revised => do
    Outcome.failIf (Text.len revised > maxRevisedPromptBytes)
      (protocolError "Codex revised prompt exceeds the configured limit")
    .ok { state with revisedPrompt := some revised }

def captureImageItem (item : Json) (state : EventState) (maximumBase64 : Nat) :
    Outcome EventState := do
  let state ← captureResult item state maximumBase64
  captureRevisedPrompt item state

/-- Records an output item and, of an image call, what it delivers. -/
def takeOutputItem (maximumBase64 : Nat) (state : EventState) (item : Json) : Outcome EventState :=
  let state := recordOutputItem item state
  if (item.index "type").isStr "image_generation_call" then captureImageItem item state maximumBase64
  else .ok state

def captureUsage (value : Json) (usage : Usage) : Usage :=
  { usage with
    inputTokens := (value.index "input_tokens").asU64
    outputTokens := (value.index "output_tokens").asU64
    totalTokens := (value.index "total_tokens").asU64 }

def addOptional : Option Nat → Option Nat → Option Nat
  | none, none => none
  | left, right => some (saturatingAdd (left.getD 0) (right.getD 0))

def mergeUsage (total additional : Usage) : Usage :=
  { total with
    inputTokens := addOptional total.inputTokens additional.inputTokens
    outputTokens := addOptional total.outputTokens additional.outputTokens
    totalTokens := addOptional total.totalTokens additional.totalTokens }

/-! ## Upstream failures -/

def sanitizeCode (raw : String) : String :=
  let value := String.ofList ((raw.toList.take 64).filter fun c =>
    Text.isAsciiAlphanumeric c || c == '_' || c == '-')
  if value = "" then "upstream_failure" else value

/-- The code and retry flag of an upstream failure, by the words in its code. -/
def classifyCode (safeCode : String) : ErrorCode × Bool :=
  let lower := Text.lowercase safeCode.toList
  let mentions := fun word : String => Text.containsSlice word.toList lower
  if mentions "auth" || mentions "token" then (.authentication, false)
  else if mentions "permission" || mentions "entitlement" || mentions "forbidden" then
    (.permissionDenied, false)
  else if mentions "safety" || mentions "content_policy" || mentions "moderation" then
    (.safetyRejected, false)
  else if mentions "rate" || mentions "quota" then (.rateLimited, true)
  else if mentions "unsupported" || mentions "capability" || mentions "invalid_model" then
    (.unsupportedCapability, false)
  else if mentions "schema" || mentions "protocol" then (.protocol, false)
  else if mentions "unavailable" || mentions "overloaded" || mentions "server_error" then
    (.upstream, true)
  else (.upstream, false)

def classifiedUpstreamError (rawCode : String) : BridgeError :=
  let safeCode := sanitizeCode rawCode
  let (code, retryable) := classifyCode safeCode
  let error :=
    if code = .safetyRejected then
      BridgeError.safetyRejected "Codex Responses rejected the image request"
    else (BridgeError.new code "Codex Responses reported a failure").setRetryable retryable
  (error.withProvider "codex-responses").withDetail "upstream_code" (.string safeCode)

/-- `value.get(first).or_else(|| value.get(second))`. -/
def getEither (value : Json) (first second : String) : Option Json :=
  (value.get first).orElse fun _ => value.get second

def publicCategories (details : Json) : List String :=
  ((((details.get "categories").bind Json.asArray).getD []).filterMap Json.asStr
    |>.filter (["harassment", "self-harm", "sexual", "violence"].contains ·)).take 8

def withModerationStage (error : BridgeError) (details : Json) : BridgeError :=
  match (getEither details "moderation_stage" "moderationStage").bind Json.asStr with
  | some stage =>
    if ["input", "output", "unknown"].contains stage then
      error.withDetail "moderation_stage" (.string stage)
    else error
  | none => error

def withModerationDetails (error : BridgeError) (upstream : Option Json) : BridgeError :=
  if error.code ≠ .safetyRejected then error
  else match upstream.bind (getEither · "moderation_details" "moderationDetails") with
    | none => error
    | some details =>
      withTexts (withModerationStage error details) "moderation_categories"
        (publicCategories details)

/-- The failure a terminal error event reports. -/
def eventFailure (event : Json) : BridgeError :=
  let error := (event.get "error").orElse fun _ => (event.get "response").bind (·.get "error")
  let code := ((((error.bind (·.get "code")).bind Json.asStr).orElse fun _ =>
    (event.index "code").asStr)).getD "upstream_failure"
  withModerationDetails (classifiedUpstreamError code) error

/-! ## Events -/

/-- An explicit partial index must fit a `u8`. -/
def explicitPartialIndex (event : Json) : Outcome (Option Nat) :=
  match (event.index "partial_image_index").asU64.orElse fun _ =>
      (event.index "partialImageIndex").asU64 with
  | none => .ok none
  | some value => do
    Outcome.failIf (value > 255)
      (protocolError "Codex partial image index is outside the supported range")
    .ok (some value)

def takePartialImage (event : Json) (state : EventState) (maximumBase64 : Nat) :
    Outcome (EventState × Option PartialImageData) :=
  match (event.index "partial_image_b64").asStr.orElse fun _ => (event.index "partial_image").asStr with
  | none => .ok (state, none)
  | some image => do
    checkBase64Size image maximumBase64
    let explicit ← explicitPartialIndex event
    let partialIndex := explicit.getD state.nextPartialIndex
    .ok ({ state with nextPartialIndex := min (partialIndex + 1) 255 }, some ⟨partialIndex, image⟩)

/-- A change of state without a partial image. -/
def quietly (next : Outcome EventState) : Outcome (EventState × Option PartialImageData) := do
  let state ← next
  .ok (state, none)

def takeEvent (event : Json) (state : EventState) (maximumBase64 : Nat) :
    Outcome (EventState × Option PartialImageData) :=
  match (event.index "type").asStr.getD "" with
  | "response.output_item.done" => quietly (takeOutputItem maximumBase64 state (event.index "item"))
  | "response.image_generation_call.partial_image" => takePartialImage event state maximumBase64
  | "response.completed" => quietly do
    let items := ((event.index "response").index "output").asArray.getD []
    let state ← items.foldlM (takeOutputItem maximumBase64) { state with completed := true }
    .ok { state with usage := captureUsage ((event.index "response").index "usage") state.usage }
  | "response.failed" | "response.incomplete" | "error" =>
    .ok ({ state with failure := some (eventFailure event) }, none)
  | _ => .ok (state, none)

def processEvent (parse : String → Option Json) (data : String) (state : EventState)
    (maximumBase64 : Nat) : Outcome (EventState × Option PartialImageData) :=
  if Text.trim data = "[DONE]" ∨ Text.isBlank data then .ok (state, none)
  else match parse data with
    | none => .error (protocolError "Codex Responses sent malformed JSON event")
    | some event => takeEvent event state maximumBase64

end ImagegenBridge.CodexResponses
