import ImagegenBridge.Core.Parameters

/-! # Normalized image requests, `crates/core/src/request.rs` -/

namespace ImagegenBridge

/-- Supported image input locations. -/
inductive ImageSource where
  | file (path : String)
  | url (url : String)
  | dataUrl (dataUrl : String)
  | base64 (data : String)
  deriving DecidableEq

structure ImageInput where
  source : ImageSource
  mediaType : Option String := none
  filename : Option String := none
  deriving DecidableEq

/-- Operation-specific image inputs. -/
inductive ImageOperation where
  | generate (referenceImages : List ImageInput)
  | edit (images : List ImageInput) (mask : Option ImageInput) (referenceImages : List ImageInput)
  deriving DecidableEq

namespace ImageOperation

/-- All reference inputs, without edit sources or masks. -/
def referenceImages : ImageOperation → List ImageInput
  | .generate refs => refs
  | .edit _ _ refs => refs

def editImages : ImageOperation → List ImageInput
  | .generate _ => []
  | .edit images _ _ => images

def mask : ImageOperation → Option ImageInput
  | .generate _ => none
  | .edit _ mask _ => mask

end ImageOperation

/-- One explicit provider/model fallback route. -/
structure ProviderRoute where
  provider : String
  model : Option String
  deriving DecidableEq

structure RoutingOptions where
  provider : Option String := none
  model : Option String := none
  fallbacks : List ProviderRoute := []
  fallbackPolicy : FallbackPolicy := .onUnavailable
  deriving DecidableEq

structure SessionOptions where
  mode : SessionMode := .isolated
  key : Option String := none
  threadId : Option String := none
  deriving DecidableEq

/-- Transparent-background implementation and matte controls. -/
structure TransparencyOptions where
  mode : TransparencyMode := .auto
  keyColor : Option String := none
  transparentThreshold : Nat := 12
  opaqueThreshold : Nat := 96
  despill : Bool := true
  deriving DecidableEq

structure OutputOptions where
  responseFormat : ResponseFormat := .b64Json
  filenamePrefix : Option String := none
  directory : Option String := none
  filename : Option String := none
  collision : ArtifactCollisionPolicy := .error
  metadata : ArtifactMetadataPolicy := .none
  transparency : TransparencyOptions := {}
  deriving DecidableEq

structure RequestPolicies where
  compatibility : CompatibilityMode := .strict
  negativePrompt : NegativePromptMode := .auto
  revisedPrompt : RevisedPromptPolicy := .include
  batchExecution : BatchExecution := .auto
  deriving DecidableEq

def contractVersion : String := "1"

/-- A complete provider-neutral image request. -/
structure ImageRequest where
  version : String := contractVersion
  prompt : String
  negativePrompt : Option String := none
  operation : ImageOperation := .generate []
  parameters : GenerationParameters := {}
  routing : RoutingOptions := {}
  session : SessionOptions := {}
  output : OutputOptions := {}
  policies : RequestPolicies := {}
  idempotencyKey : Option String := none
  timeoutMs : Option Nat := none
  user : Option String := none
  deriving DecidableEq

namespace ImageRequest

/-- `ImageRequest::generate`: a generation request using safe defaults. -/
def generate (prompt : String) : ImageRequest := { prompt }

end ImageRequest

end ImagegenBridge
