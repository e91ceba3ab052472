import ImagegenBridge.Core.Parameters

/-! # Normalized provider results, `crates/core/src/response.rs` -/

namespace ImagegenBridge

inductive ProviderAttemptOutcome where
  | succeeded | failed
  deriving DecidableEq, Repr

/-- One route attempted by an ordered provider fallback plan. -/
structure ProviderAttempt where
  provider : String
  model : Option String
  outcome : ProviderAttemptOutcome
  errorCode : Option ErrorCode
  durationMs : Nat
  deriving DecidableEq, Repr

/-- A parameter normalization made visible to the caller. -/
structure Normalization where
  field : String
  requested : Option Json
  effective : Option Json
  reason : String

/-- Transport-safe generated image payload. -/
inductive ImagePayload where
  | b64Json (b64Json : String)
  | url (url : String)
  | artifact (id : String) (name : Option String)
  | metadata
  deriving DecidableEq, Repr

structure GeneratedImage where
  index : Nat
  payload : ImagePayload
  format : OutputFormat
  width : Nat
  height : Nat
  bytes : Nat
  sha256 : String
  generationMs : Option Nat
  metadataName : Option String
  deriving DecidableEq, Repr

/-- One failed output in a best-effort batch. -/
structure ImageFailure where
  index : Nat
  error : BridgeError
  generationMs : Nat

/-- Provider usage when known. -/
structure Usage where
  inputTokens : Option Nat := none
  outputTokens : Option Nat := none
  totalTokens : Option Nat := none
  provider : List (String × Nat) := []
  deriving DecidableEq, Repr

structure SessionMetadata where
  key : Option String
  threadId : Option String
  reused : Bool
  deriving DecidableEq, Repr

/-- Request timing breakdown. -/
structure Timings where
  queueMs : Nat := 0
  inputMs : Nat := 0
  providerMs : Nat := 0
  artifactMs : Nat := 0
  totalMs : Nat := 0
  deriving DecidableEq, Repr

/-- Complete normalized image response. -/
structure ImageResponse where
  id : String
  created : Nat
  provider : String
  model : String
  requested : GenerationParameters
  effective : GenerationParameters
  normalizations : List Normalization
  attempts : List ProviderAttempt
  data : List GeneratedImage
  failures : List ImageFailure
  revisedPrompt : Option String
  usage : Option Usage
  session : Option SessionMetadata
  timings : Timings
  warnings : List String

/-- Incremental provider progress. -/
inductive ProviderEvent where
  | started
  | progress (stage : String)
  | partialImage (index partialIndex : Nat) (b64Json : String)
  | completed (response : ImageResponse)

end ImagegenBridge
