import ImagegenBridge.CodexAppServer.Rpc
import ImagegenBridge.Core.Request
import ImagegenBridge.Runtime.Idempotency

/-!
# Turns of `codex-app-server`, `crates/codex-app-server/src/provider.rs`

What a turn is asked for, what its notifications tell and how its failures are reported.
-/

namespace ImagegenBridge.CodexAppServer

open Idempotency (saturatingAdd)

def maxRevisedPromptBytes : Nat := 128 * 1024

/-! ## Requests -/

def requestImages (request : ImageRequest) : List ImageInput :=
  match request.operation with
  | .generate referenceImages => referenceImages
  | .edit images _ referenceImages => images ++ referenceImages

def turnPrompt (request : ImageRequest) (paths : List String) : String :=
  if paths.isEmpty then "Generate this image now with image_gen.imagegen: " ++ request.prompt
  else
    let listed := String.intercalate ", " paths
    match request.operation with
    | .generate referenceImages =>
      "Generate this image now with image_gen.imagegen. Use all " ++ toString referenceImages.length
        ++ " referenced_image_paths as visual references exactly as listed: [" ++ listed
        ++ "]. Prompt: " ++ request.prompt
    | .edit images _ referenceImages =>
      "Edit the first " ++ toString images.length
        ++ " referenced_image_paths with image_gen.imagegen. The following "
        ++ toString referenceImages.length
        ++ " path(s), if any, are visual references only. Use the paths exactly as listed: ["
        ++ listed ++ "]. Prompt: " ++ request.prompt

/-- The input of `turn/start`: the prompt and the local images. -/
def turnInput (request : ImageRequest) (paths : List String) : Json :=
  .array (.object [("type", .string "text"), ("text", .string (turnPrompt request paths)),
      ("textElements", .array [])]
    :: paths.map fun path => .object [("type", .string "localImage"), ("path", .string path),
      ("detail", .string "original")])

/-! ## Errors -/

def appServerProtocolError (message : String) : BridgeError :=
  (BridgeError.new .protocol message).withProvider "codex-app-server"

def unknownAppServerOutcome (code : ErrorCode) (message : String) : BridgeError :=
  (((BridgeError.new code message).withProvider "codex-app-server").setRetryable false).withDetail
    "outcome" (.string "unknown")

/-- How a broadcast receiver fails. -/
inductive RecvError where
  | closed
  | lagged

def notificationError (error : RecvError) : BridgeError :=
  (match error with
    | .closed => BridgeError.new .protocol "app-server notification stream closed"
    | .lagged => BridgeError.new .overloaded
      "app-server notification consumer lagged behind").withProvider "codex-app-server"

def safeFailureLabel (value : String) : Option String :=
  if safeStringCode value then some value else none

def isSafetyFailureLabel (value : String) : Bool := isSafetyCode value

/-- Attaches a label, if there is one. -/
def withLabel (error : BridgeError) (key : String) (label : Option String) : BridgeError :=
  match label with
  | some text => error.withDetail key (.string text)
  | none => error

def turnFailureError (turn : Json) (request : ImageRequest) : BridgeError :=
  let upstreamCode := (((turn.index "error").index "code").asStr.orElse fun _ =>
    (turn.index "errorCode").asStr).bind safeFailureLabel
  let upstreamStatus := (turn.index "status").asStr.bind safeFailureLabel
  let safetyRejected := upstreamCode.any isSafetyFailureLabel
    || upstreamStatus.any isSafetyFailureLabel
  let error := (if safetyRejected then
      ((BridgeError.safetyRejected "Codex app-server rejected the image request").withDetail
        "requested_moderation" (.string request.parameters.moderation.wire)).withDetail
        "input_images_present" (.bool !(requestImages request).isEmpty)
    else BridgeError.new .upstream
      "Codex image generation turn did not complete successfully").withProvider "codex-app-server"
  withLabel (withLabel error "upstream_code" upstreamCode) "upstream_status" upstreamStatus

/-- `string_at`: the text at a path of keys. -/
def stringAt (value : Json) (path : List String) (message : String) : Outcome String :=
  match (path.foldl Json.index value).asStr with
  | some text => .ok text
  | none => .error (appServerProtocolError message)

/-! ## Notifications -/

def belongsTo (params : Json) (threadId turnId : String) : Bool :=
  (params.index "threadId").isStr threadId
    && ((params.index "turnId").isStr turnId || ((params.index "turn").index "id").isStr turnId)

/-- The notification that a turn is over. -/
def completesTurn (notification : RpcNotification) (threadId turnId : String) : Bool :=
  notification.method == "turn/completed" && belongsTo notification.params threadId turnId

structure TurnDiagnostics where
  observedNotifications : Nat := 0
  completedItems : Nat := 0
  imageItems : Nat := 0
  completedImageItems : Nat := 0
  failedImageItems : Nat := 0
  terminalItemCount : Nat := 0
  itemTypes : List (String × Nat) := []
  itemStatuses : List (String × Nat) := []

/-- Counts a label in a `BTreeMap`, listed in order. -/
def countLabel (label : String) : List (String × Nat) → List (String × Nat)
  | [] => [(label, 1)]
  | (other, count) :: rest =>
    if other = label then (other, saturatingAdd count 1) :: rest
    else if label < other then (label, 1) :: (other, count) :: rest
    else (other, count) :: countLabel label rest

/-- A seventeenth label is not counted. -/
def boundedCount (label : String) (counts : List (String × Nat)) : List (String × Nat) :=
  if counts.length < 16 ∨ (counts.lookup label).isSome then countLabel label counts else counts

namespace TurnDiagnostics

def observeItem (item : Json) (diagnostics : TurnDiagnostics) : TurnDiagnostics :=
  let itemType := ((item.index "type").asStr.bind safeFailureLabel).getD "unknown"
  let status := ((item.index "status").asStr.bind safeFailureLabel).getD "unknown"
  let isImage := itemType == "imageGeneration"
  let failed := ["failed", "declined", "cancelled"].contains status
  { diagnostics with
    completedItems := saturatingAdd diagnostics.completedItems 1
    itemTypes := boundedCount itemType diagnostics.itemTypes
    itemStatuses := boundedCount status diagnostics.itemStatuses
    imageItems := saturatingAdd diagnostics.imageItems (if isImage then 1 else 0)
    completedImageItems := saturatingAdd diagnostics.completedImageItems
      (if isImage && status == "completed" then 1 else 0)
    failedImageItems := saturatingAdd diagnostics.failedImageItems
      (if isImage && failed then 1 else 0) }

def observe (notification : RpcNotification) (diagnostics : TurnDiagnostics) : TurnDiagnostics :=
  let diagnostics :=
    { diagnostics with
      observedNotifications := saturatingAdd diagnostics.observedNotifications 1 }
  if notification.method = "turn/completed" then
    let items := ((notification.params.index "turn").index "items").asArray
    { diagnostics with terminalItemCount := (items.map List.length).getD 0 }
  else if notification.method = "item/completed" then
    diagnostics.observeItem (notification.params.index "item")
  else diagnostics

def counts (labels : List (String × Nat)) : Json :=
  .object (labels.map fun (label, count) => (label, .integer count))

def asJson (diagnostics : TurnDiagnostics) : Json :=
  .object [("observed_notifications", .integer diagnostics.observedNotifications),
    ("completed_items", .integer diagnostics.completedItems),
    ("image_items", .integer diagnostics.imageItems),
    ("completed_image_items", .integer diagnostics.completedImageItems),
    ("failed_image_items", .integer diagnostics.failedImageItems),
    ("terminal_item_count", .integer diagnostics.terminalItemCount),
    ("item_types", counts diagnostics.itemTypes),
    ("item_statuses", counts diagnostics.itemStatuses)]

end TurnDiagnostics

structure TurnAccumulator where
  images : List String := []
  revisedPrompt : Option String := none
  completedItemIds : List String := []
  resultBytes : Nat := 0
  maxImages : Nat
  maxResultBytes : Nat
  diagnostics : TurnDiagnostics := {}

def nonEmptyText (value : Json) : Option String := value.asStr.filter (· ≠ "")

/-- A text that must be there. -/
def requiredText (value : Json) (message : String) : Outcome String :=
  match nonEmptyText value with
  | some text => .ok text
  | none => .error (appServerProtocolError message)

namespace TurnAccumulator

def capture (item : Json) (turn : TurnAccumulator) : Outcome TurnAccumulator := do
  let itemId ← requiredText (item.index "id") "completed image has no item ID"
  Outcome.failIf (itemId ∈ turn.completedItemIds)
    (appServerProtocolError "app-server returned a duplicate completed image item")
  Outcome.failIf (turn.images.length ≥ turn.maxImages)
    (appServerProtocolError "app-server returned more images than negotiated")
  let result ← requiredText (item.index "result") "completed image has no result"
  let nextResultBytes := turn.resultBytes + Text.len result
  Outcome.failIf (nextResultBytes ≥ 2 ^ 64)
    (appServerProtocolError "aggregate image result size overflowed")
  Outcome.failIf (nextResultBytes > turn.maxResultBytes)
    (appServerProtocolError "aggregate image results exceed the byte limit")
  let revised := ((item.index "revisedPrompt").asStr.orElse fun _ =>
    (item.index "revised_prompt").asStr).filter (· ≠ "")
  Outcome.failIf (revised.any (fun text => Text.len text > maxRevisedPromptBytes) = true)
    (appServerProtocolError "Codex revised prompt exceeds the configured limit")
  .ok { turn with
    completedItemIds := itemId :: turn.completedItemIds
    resultBytes := nextResultBytes
    images := turn.images ++ [result]
    revisedPrompt := revised.orElse fun _ => turn.revisedPrompt }

def observe (notification : RpcNotification) (turn : TurnAccumulator) : TurnAccumulator :=
  { turn with diagnostics := turn.diagnostics.observe notification }

end TurnAccumulator

structure TurnImages where
  images : List String
  revisedPrompt : Option String

/-- A completed image item of a turn. -/
def completedImage (notification : RpcNotification) (threadId turnId : String) : Option Json :=
  let item := notification.params.index "item"
  if notification.method == "item/completed" && belongsTo notification.params threadId turnId
      && (item.index "type").isStr "imageGeneration" && (item.index "status").isStr "completed" then
    some item
  else none

/-- What a completed turn delivered. -/
def turnResult (notification : RpcNotification) (request : ImageRequest) (turn : TurnAccumulator) :
    Outcome TurnImages :=
  let outcome := notification.params.index "turn"
  if !(outcome.index "status").isStr "completed" then .error (turnFailureError outcome request)
  else if turn.images.isEmpty then
    .error (((BridgeError.new .upstream "Codex turn completed without an image").withProvider
      "codex-app-server").withDetail "turn_diagnostics" turn.diagnostics.asJson)
  else .ok ⟨turn.images, turn.revisedPrompt⟩

/-- The statuses that confirm an interruption. -/
def confirmsInterruption (status : String) : Bool :=
  status == "interrupted" || status == "cancelled" || status == "failed"

/-- The report of a turn that was cancelled or ran into its deadline, by how its
interruption ended. -/
def interruptOutcome (code : ErrorCode) (message : String) : Outcome String → BridgeError
  | .ok status =>
    if confirmsInterruption status then
      ((((BridgeError.new code message).withProvider "codex-app-server").setRetryable
        (code = .timeout)).withDetail "outcome" (.string "cancelled")).withDetail
        "terminal_status" (.string status)
    else (unknownAppServerOutcome code message).withDetail "terminal_status" (.string status)
  | .error _ => unknownAppServerOutcome code message

/-- The report of a turn with an image that cannot be taken. -/
def protocolFailureOutcome (error : BridgeError) : Outcome String → BridgeError
  | .ok status =>
    if confirmsInterruption status then error.withDetail "terminal_status" (.string status)
    else ((error.setRetryable false).withDetail "outcome" (.string "unknown")).withDetail
      "terminal_status" (.string status)
  | .error _ => (error.setRetryable false).withDetail "outcome" (.string "unknown")

end ImagegenBridge.CodexAppServer
