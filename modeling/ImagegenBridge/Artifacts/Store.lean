import ImagegenBridge.Artifacts.Inspect
import ImagegenBridge.Artifacts.Names
import ImagegenBridge.Runtime.EmbeddedRecord

/-!
# The artifact store, `crates/artifacts/src/store.rs`

Its functions are programs over the file tree below the artifact root. The new
identifier and the clock's reading are arguments.
-/

namespace ImagegenBridge.ArtifactStore

open Text Inspect Materialize Files
open EmbeddedRecord (optionalString utf8)
open Jobs (encodeFields objectText)

abbrev Fs := Program Files.interface

/-- `Result<_, BridgeError>`. -/
abbrev Action := ExceptT BridgeError Fs

/-- `Result<_, ()>`. -/
abbrev Check := OptionT Fs

def ownershipDirectory : String := ".imagegen-bridge-ownership"

def ownershipRoot : Path := [ownershipDirectory]

def maxMarkerBytes : Nat := 4 * 1024

def maxSidecarBytes : Nat := 1024 * 1024

def artifactError (message : String) : BridgeError := .new .artifact message

/-! ## Ownership records -/

structure OwnershipRecord where
  version : UInt8
  id : String
  name : String
  createdAt : UInt64
  sha256 : String
  sidecarName : Option String
  sidecarSha256 : Option String
  deriving DecidableEq

def ownershipFields (record : OwnershipRecord) : EmbeddedRecord.Fields :=
  [("version", .integer record.version.toNat), ("id", .string record.id),
    ("name", .string record.name), ("created_at", .integer record.createdAt.toNat),
    ("sha256", .string record.sha256)]
    ++ optionalString "sidecar_name" record.sidecarName
    ++ optionalString "sidecar_sha256" record.sidecarSha256

/-- `serde_json::to_vec`, which writes the members of a struct in its order. -/
@[irreducible] def encodeOwnership (record : OwnershipRecord) : Bytes :=
  utf8 (objectText (encodeFields (ownershipFields record)))

def isDigest (text : String) : Bool := len text == 64 && text.toList.all isAsciiHexdigit

/-- What the store uses of other crates: decoders, checksums and JSON. A checksum is
written in hexadecimal digits, and a record that was written can be read. -/
structure Tools extends Decoders where
  /-- Whether the bytes are a JSON object. -/
  isObject : Bytes → Bool
  parseOwnership : Bytes → Option OwnershipRecord
  sha256_digest : ∀ bytes, isDigest (sha256 bytes) = true
  parse_encode : ∀ record, parseOwnership (encodeOwnership record) = some record

structure Store where
  tools : Tools
  limits : ImageLimits

structure OwnedCandidate where
  marker : Path
  artifact : Path
  sidecar : Option Path
  record : OwnershipRecord
  deriving DecidableEq

inductive SidecarState where
  | none
  | missing
  | valid
  | invalid
  deriving DecidableEq

inductive OwnedPathState where
  | missing
  | regular (length : Nat)
  | invalid
  deriving DecidableEq

def markerName (id : String) : String := id ++ ".json"

def markerPath (id : String) : Path := ownershipRoot ++ [markerName id]

def sidecarValid : Option String → Option String → Bool
  | none, none => true
  | some name, some sha256 => safeRelative name && isDigest sha256
  | _, _ => false

def wellFormed (record : OwnershipRecord) (name : String) : Bool :=
  record.version == 1 && name == markerName record.id && parsesAsUuid record.id
    && safeRelative record.name && isDigest record.sha256
    && sidecarValid record.sidecarName record.sidecarSha256

def owned (marker : Path) (record : OwnershipRecord) : OwnedCandidate where
  marker := marker
  artifact := relativePath record.name
  sidecar := record.sidecarName.map relativePath
  record := record

/-! ## Reading -/

/-- An operation whose answer decides. -/
def orRaise {α β : Type} (p : Fs α) (decides : α → Except BridgeError β) : Action β :=
  ExceptT.mk (p >>= fun answer => .done (decides answer))

def given {α β : Type} (p : Fs α) (decides : α → Option β) : Check β :=
  OptionT.mk (p >>= fun answer => .done (decides answer))

def known {α : Type} (value : Option α) : Check α := OptionT.mk (.done value)

def demand (p : Prop) [Decidable p] : Check Unit := known (if p then some () else none)

def refuse (p : Prop) [Decidable p] (message : String) : Action Unit :=
  ExceptT.mk (.done (if p then .error (artifactError message) else .ok ()))

/-- `result.map_err(|_| ())`. -/
def hushed {α : Type} (x : Action α) : Check α := given x.run Except.toOption

def checkOwnershipRoot : Stat → Except BridgeError Unit
  | .found .directory => .ok ()
  | .found _ => .error (artifactError "artifact ownership root is invalid")
  | _ => .error (artifactError "artifact ownership root is unavailable")

def verifyOwnershipRoot : Action Unit := orRaise (stat ownershipRoot) checkOwnershipRoot

def checkMarker : Stat → Option Unit
  | .found (.file length) => if length ≤ maxMarkerBytes then some () else none
  | _ => none

def readCandidate (store : Store) (marker : Path) : Check OwnedCandidate := do
  demand (marker.dropLast = ownershipRoot)
  hushed verifyOwnershipRoot
  given (stat marker) checkMarker
  let name ← known marker.getLast?
  let encoded ← given (read marker) id
  let record ← known (store.tools.parseOwnership encoded)
  demand (wellFormed record name = true)
  pure (owned marker record)

/-- The walk of `owned_path_state_beneath`. -/
def walk (current : Path) : List String → Fs OwnedPathState
  | [] => .done .invalid
  | component :: rest => do
    match ← stat (current ++ [component]) with
    | .missing => pure .missing
    | .failed => pure .invalid
    | .found .link => pure .invalid
    | .found .directory => if rest = [] then pure .invalid else walk (current ++ [component]) rest
    | .found (.file length) => pure (if rest = [] then .regular length else .invalid)
    | .found .special => pure .invalid

def ownedPathState (path : Path) : Fs OwnedPathState := walk [] path

def regularLength : OwnedPathState → Option Nat
  | .regular length => some length
  | _ => none

def verifyArtifact (store : Store) (candidate : OwnedCandidate) : Check Unit := do
  let length ← given (ownedPathState candidate.artifact) regularLength
  demand (length ≤ store.limits.maxEncodedBytes)
  let bytes ← given (read candidate.artifact) id
  demand (store.tools.sha256 bytes = candidate.record.sha256 ∧
    (inspectImage store.tools.toDecoders store.limits bytes).isOk = true)

/-- The state of a sidecar of some content. -/
def sidecarContent (store : Store) (expected : String) : Option Bytes → SidecarState
  | none => .invalid
  | some encoded =>
    if store.tools.sha256 encoded ≠ expected ∨ store.tools.isObject encoded = false then .invalid
    else .valid

def sidecarState (store : Store) (candidate : OwnedCandidate) : Fs SidecarState :=
  match candidate.sidecar, candidate.record.sidecarSha256 with
  | some sidecar, some expected => do
    match ← ownedPathState sidecar with
    | .missing => pure .missing
    | .invalid => pure .invalid
    | .regular length =>
      if length > maxSidecarBytes then pure .invalid
      else do
        let encoded ← read sidecar
        pure (sidecarContent store expected encoded)
  | _, _ => pure .none

def acceptable : SidecarState → Option Unit
  | .none | .valid => some ()
  | _ => none

def verifyCandidate (store : Store) (candidate : OwnedCandidate) : Check Unit := do
  verifyArtifact store candidate
  given (sidecarState store candidate) acceptable

/-- The check that `cleanup` makes of every marker. -/
def verifiedRecord (store : Store) (marker : Path) : Check OwnedCandidate := do
  let candidate ← readCandidate store marker
  verifyCandidate store candidate
  pure candidate

structure StoredArtifactContent where
  id : String
  name : String
  bytes : Bytes
  metadata : ImageMetadata
  deriving DecidableEq

def readArtifact (store : Store) (artifactId : String) : Action StoredArtifactContent := do
  refuse (parsesAsUuid artifactId = false) "artifact identity is invalid"
  let candidate ← orRaise (readCandidate store (markerPath artifactId)).run
    fun found => found.elim (.error (artifactError "artifact was not found or is invalid")) .ok
  orRaise (verifyCandidate store candidate).run
    fun verified => verified.elim (.error (artifactError "artifact was not found or is invalid")) .ok
  let bytes ← orRaise (read candidate.artifact)
    fun content => content.elim (.error (artifactError "artifact could not be read")) .ok
  match inspectImage store.tools.toDecoders store.limits bytes with
  | .error _ => throw (artifactError "artifact failed delivery verification")
  | .ok metadata => pure { id := candidate.record.id, name := candidate.record.name, bytes, metadata }

/-! ## Writing -/

def finished (p : Fs Completion) (message : String → String) : Action Unit :=
  orRaise p fun
    | .done => .ok ()
    | .failed reason => .error (artifactError (message reason))

def syncDirectory (directory : Path) : Action Unit :=
  finished (perform (.sync directory)) fun reason => "could not sync artifact directory: " ++ reason

/-- `NamedTempFile::new_in`, `write_all` and `sync_all`. A dropped temporary file is
removed. -/
def writeTemporary (directory : Path) (bytes : Bytes) (uncreated unwritten : String → String) :
    Action Path := do
  let name ← orRaise (createTemporary directory) fun
    | .ok name => .ok name
    | .error reason => .error (artifactError (uncreated reason))
  let temporary := directory ++ [name]
  match ← ExceptT.lift (write temporary bytes) with
  | .complete => pure temporary
  | .partway _ reason => do
    let _ ← ExceptT.lift (perform (.discard temporary))
    throw (artifactError (unwritten reason))

/-- `persist_noclobber`, where an occupied name is an error. -/
def placeTemporary (temporary destination : Path) (message : String → String) : Action Unit := do
  match ← ExceptT.lift (persistNoclobber temporary destination) with
  | .moved => pure ()
  | .occupied reason | .failed reason => do
    let _ ← ExceptT.lift (perform (.discard temporary))
    throw (artifactError (message reason))

/-- `persist`, which replaces a file of that name. -/
def swapTemporary (temporary destination : Path) (message : String → String) : Action Unit := do
  match ← ExceptT.lift (perform (.persist temporary destination)) with
  | .done => pure ()
  | .failed reason => do
    let _ ← ExceptT.lift (perform (.discard temporary))
    throw (artifactError (message reason))

/-- Compensating acts, whose failures are ignored. -/
def performAll : List Act → Fs Unit
  | [] => .done ()
  | act :: rest => do
    let _ ← perform act
    performAll rest

def compensated {α : Type} (x : Action α) (undo : List Act) : Action α := do
  match ← ExceptT.lift x.run with
  | .ok a => pure a
  | .error error => do
    ExceptT.lift (performAll undo)
    throw error

def checkMarkerSize (encoded : Bytes) : Action Unit :=
  refuse (encoded.length > maxMarkerBytes) "artifact ownership record is too large"

def publishOwnership (record : OwnershipRecord) : Action Unit := do
  verifyOwnershipRoot
  checkMarkerSize (encodeOwnership record)
  let temporary ← writeTemporary ownershipRoot (encodeOwnership record)
    (fun reason => "could not create ownership record: " ++ reason)
    (fun reason => "could not write ownership record: " ++ reason)
  placeTemporary temporary (markerPath record.id)
    (fun reason => "could not publish ownership record: " ++ reason)
  syncDirectory ownershipRoot

def replaceOwnership (record : OwnershipRecord) : Action Unit := do
  verifyOwnershipRoot
  checkMarkerSize (encodeOwnership record)
  let temporary ← writeTemporary ownershipRoot (encodeOwnership record)
    (fun _ => "could not create ownership record") (fun _ => "could not write ownership record")
  swapTemporary temporary (markerPath record.id) fun _ => "could not replace ownership record"
  syncDirectory ownershipRoot

structure ArtifactPublication where
  directory : Option String
  filename : Option String
  collision : ArtifactCollisionPolicy

structure StoredArtifact where
  id : String
  name : String
  path : Path
  metadata : ImageMetadata

def enterComponent (path : Path) : Action Unit := do
  match ← ExceptT.lift (stat path) with
  | .found .directory => pure ()
  | .found _ => throw (artifactError "output directory component must not be a file or symlink")
  | .missing =>
    finished (perform (.createDirectory path)) fun _ => "could not create output directory component"
  | .failed => throw (artifactError "could not inspect output directory")

/-- Enters the components of a directory and creates those that are missing. -/
def enterDirectory (current : Path) : List String → Action Path
  | [] => pure current
  | component :: rest => do
    enterComponent (current ++ [component])
    enterDirectory (current ++ [component]) rest

def checkCanonical : Option (Option Path) → Except BridgeError Path
  | none => .error (artifactError "could not open output directory")
  | some none => .error (artifactError "output directory escapes the artifact root")
  | some (some path) =>
    if path = ownershipRoot then
      .error (artifactError "output directory escapes the artifact root")
    else .ok path

def publicationDirectory : Option String → Action Path
  | none => pure []
  | some relative => do
    refuse (safeRelative relative = false) "output directory is not a safe relative path"
    let directory ← enterDirectory [] (relativePath relative)
    orRaise (canonicalize directory) checkCanonical

/-- The name of an attempt, of which the first is number 0. -/
def candidateName (requested : String) (attempt : Nat) : String :=
  if attempt = 0 then requested else suffixedFilename requested (attempt + 1)

/-- The attempts of `publish_noclobber` that are left, from one on. -/
def attemptNames (directory : Path) (requested : String) (bytes : Bytes) :
    Nat → Nat → Action (Path × String)
  | 0, _ => throw (artifactError "artifact collision suffix limit was reached")
  | remaining + 1, attempt => do
    let name := candidateName requested attempt
    let temporary ← writeTemporary directory bytes
      (fun _ => "could not create temporary artifact") (fun _ => "could not write artifact")
    match ← ExceptT.lift (persistNoclobber temporary (directory ++ [name])) with
    | .moved => pure (directory ++ [name], name)
    | .occupied _ => do
      let _ ← ExceptT.lift (perform (.discard temporary))
      attemptNames directory requested bytes remaining (attempt + 1)
    | .failed _ => do
      let _ ← ExceptT.lift (perform (.discard temporary))
      throw (artifactError "could not publish artifact without overwrite")

def collisionAttempts (collision : ArtifactCollisionPolicy) (explicit : Bool) : Nat :=
  if explicit = true ∧ collision = .suffix then 10000 else 1

def publishNoclobber (directory : Path) (requested : String) (bytes : Bytes)
    (collision : ArtifactCollisionPolicy) (explicit : Bool) : Action (Path × String) :=
  attemptNames directory requested bytes (collisionAttempts collision explicit) 0

/-- The file name a publication asks for. -/
def requestedName (publication : ArtifactPublication) (filenamePrefix : Option String) (id : Uuid)
    (format : OutputFormat) : String :=
  match publication.filename with
  | none => generatedName filenamePrefix id format
  | some filename => filenameWithExtension filename format

def unixTimestamp (time : Option UInt64) : Action UInt64 :=
  match time with
  | none => throw (artifactError "system time is before the Unix epoch")
  | some seconds => pure seconds

/-- The record of a new artifact. -/
def newRecord (id : Uuid) (name : String) (createdAt : UInt64) (sha256 : String) :
    OwnershipRecord where
  version := 1
  id := id.text
  name := name
  createdAt := createdAt
  sha256 := sha256
  sidecarName := none
  sidecarSha256 := none

/-- The publication of an inspected image. -/
def publishInspected (id : Uuid) (now : Option UInt64) (bytes : Bytes)
    (filenamePrefix : Option String) (publication : ArtifactPublication)
    (metadata : ImageMetadata) : Action StoredArtifact := do
  let directory ← publicationDirectory publication.directory
  refuse (publication.filename.any (fun filename => !safeFilename filename metadata.format) = true)
    "output filename must be a safe component with a matching image extension"
  let (destination, filename) ← publishNoclobber directory
    (requestedName publication filenamePrefix id metadata.format) bytes publication.collision
    publication.filename.isSome
  compensated (syncDirectory directory) [.remove destination]
  let createdAt ← unixTimestamp now
  compensated
    (publishOwnership
      (newRecord id (placedName publication.directory filename) createdAt metadata.sha256))
    [.remove destination, .sync []]
  pure
    { id := id.text
      name := placedName publication.directory filename
      path := destination
      metadata := metadata }

def publishWithOptions (store : Store) (id : Uuid) (now : Option UInt64) (bytes : Bytes)
    (filenamePrefix : Option String) (expectedFormat : Option OutputFormat)
    (publication : ArtifactPublication) : Action StoredArtifact :=
  match inspectImage store.tools.toDecoders store.limits bytes with
  | .error error => throw { error with code := .artifact }
  | .ok metadata => do
    refuse (expectedFormat.any (· ≠ metadata.format) = true)
      "generated image format does not match the effective request"
    publishInspected id now bytes filenamePrefix publication metadata

def sidecarFilename (artifactId : String) : String := "metadata-" ++ artifactId ++ ".json"

/-- The record with a reference to its sidecar. -/
def withSidecar (record : OwnershipRecord) (name sha256 : String) : OwnershipRecord :=
  { record with sidecarName := some name, sidecarSha256 := some sha256 }

/-- The second half of `attach_metadata`, for a candidate the sidecar belongs to. -/
def attachSidecar (store : Store) (candidate : OwnedCandidate) (artifactId artifactName : String)
    (encoded : Bytes) : Action String := do
  let temporary ← writeTemporary candidate.artifact.dropLast encoded
    (fun _ => "could not create metadata sidecar") (fun _ => "could not write metadata sidecar")
  placeTemporary temporary (candidate.artifact.dropLast ++ [sidecarFilename artifactId])
    fun _ => "could not publish metadata sidecar without overwrite"
  syncDirectory candidate.artifact.dropLast
  compensated
    (replaceOwnership (withSidecar candidate.record
      (placedName (parentName artifactName) (sidecarFilename artifactId))
      (store.tools.sha256 encoded)))
    [.remove (candidate.artifact.dropLast ++ [sidecarFilename artifactId]),
      .sync candidate.artifact.dropLast]
  pure (placedName (parentName artifactName) (sidecarFilename artifactId))

/-- `attach_metadata`, which returns the name of the sidecar. -/
def attachMetadata (store : Store) (artifactId artifactName : String) (encoded : Bytes) :
    Action String := do
  refuse (parsesAsUuid artifactId = false ∨ safeRelative artifactName = false)
    "artifact identity is invalid"
  refuse (encoded = [] ∨ encoded.length > maxSidecarBytes ∨ store.tools.isObject encoded = false)
    "artifact metadata must be a bounded JSON object"
  let candidate ← orRaise (readCandidate store (markerPath artifactId)).run
    fun found => found.elim (.error (artifactError "artifact ownership record is invalid")) .ok
  refuse (candidate.record.name ≠ artifactName ∨ candidate.record.sidecarName.isSome = true
      ∨ candidate.record.sidecarSha256.isSome = true)
    "artifact metadata cannot be attached to this artifact"
  orRaise (verifyCandidate store candidate).run fun verified =>
    verified.elim (.error (artifactError "artifact metadata cannot be attached to this artifact")) .ok
  attachSidecar store candidate artifactId artifactName encoded

end ImagegenBridge.ArtifactStore
