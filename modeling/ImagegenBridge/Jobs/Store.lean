import ImagegenBridge.Jobs.Encoding
import ImagegenBridge.Lib.Table

/-!
# The durable job store, `crates/runtime/src/sqlite_jobs.rs`

The table `image_jobs` is the list of its rows. One method is the checks it makes and
the statements of its one transaction. The texts of requests and results, the digest
and the case folding are made elsewhere and are the fields of a codec.
-/

namespace ImagegenBridge.Jobs

open Table Text

def i64Max : Nat := 2 ^ 63 - 1

def activeResultReserveBytes : Nat := 256 * 1024

/-- Bytes every row is charged beside its texts. -/
def rowOverheadBytes : Nat := 128

/-- Durable lifecycle state for one asynchronous image operation. -/
inductive ImageJobStatus where
  | queued | running | succeeded | failed | cancelled | interrupted
  deriving DecidableEq, Repr

namespace ImageJobStatus

def terminal : ImageJobStatus → Bool
  | .succeeded | .failed | .cancelled | .interrupted => true
  | .queued | .running => false

end ImageJobStatus

/-- One row of `image_jobs`. -/
structure JobRow where
  id : String
  authScope : String
  status : ImageJobStatus
  created : Nat
  updated : Nat
  started : Option Nat
  completed : Option Nat
  request : String
  promptSearch : String
  submissionKeyHash : Option String
  requestFingerprint : Option String
  progressStage : Option String
  partialImages : Nat
  response : Option String
  error : Option String
  cancelRequested : Bool
  favorite : Bool
  deleted : Option Nat
  deriving DecidableEq, Repr

/-- `serde_json`, `sha2` with its lowercase hexadecimal text, and `str::to_lowercase`. -/
structure Codec where
  encodeRequest : ImageRequest → String
  decodeRequest : String → Option ImageRequest
  encodeResponse : ImageResponse → String
  decodeResponse : String → Option ImageResponse
  decodeError : String → Option SuggestedError
  digest : String → String
  toLowercase : String → String

/-- Complete durable job record returned by detail lookup. -/
structure ImageJob where
  id : String
  status : ImageJobStatus
  created : Nat
  updated : Nat
  started : Option Nat
  completed : Option Nat
  progress : Option (String × Nat)
  favorite : Bool
  deleted : Option Nat
  request : ImageRequest
  result : Option ImageResponse
  error : Option SuggestedError
  cancelRequested : Bool

/-! ## Checks -/

def jobError (message : String) : BridgeError := .new .internal message

def notFound : BridgeError :=
  (BridgeError.new .invalidRequest "durable job was not found").withDetail "resource" (.string "job")

def toI64 (value : Nat) : Outcome Nat :=
  if value ≤ i64Max then .ok value else .error (jobError "job timestamp is out of range")

def validateAuthScope (scope : String) : Outcome Unit :=
  Outcome.failIf (scope.isEmpty = true ∨ len scope > 256 ∨ hasControl scope = true)
    (.new .invalidRequest "durable job authorization scope is invalid")

def validateSubmissionKey (key : String) : Outcome Unit :=
  Outcome.failIf (isBlank key = true ∨ len key > 512 ∨ hasControl key = true)
    (.new .invalidRequest "durable job idempotency key is invalid")

def validateOptionalKey : Option String → Outcome Unit
  | some key => validateSubmissionKey key
  | none => .ok ()

def optionalLen (text : Option String) : Nat := (text.map len).getD 0

/-- The texts a row is charged for in every state. -/
def JobRow.recordBytes (row : JobRow) : Nat :=
  len row.id + len row.authScope + len row.request + len row.promptSearch
    + optionalLen row.submissionKeyHash + optionalLen row.requestFingerprint

/-- One row's part in `logical_bytes_query`. -/
def JobRow.logicalBytes (row : JobRow) : Nat :=
  row.recordBytes
    + (if row.status.terminal then optionalLen row.response + optionalLen row.error
      else activeResultReserveBytes)
    + rowOverheadBytes

def logicalBytes (rows : List JobRow) : Nat := total JobRow.logicalBytes rows

/-- `usize::saturating_add` of the parts, then the conversion to `i64`. -/
def logicalNewJobBytes (row : JobRow) : Outcome Nat :=
  let bytes := min (row.recordBytes + activeResultReserveBytes + rowOverheadBytes)
    Idempotency.usizeMax
  if bytes ≤ i64Max then .ok bytes else .error (jobError "durable job is too large to account")

def persistedRequest (request : ImageRequest) : ImageRequest := { request with idempotencyKey := none }

def canonicalRequest (request : ImageRequest) : ImageRequest :=
  { request with idempotencyKey := none, timeoutMs := none }

def durableRequestFingerprint (codec : Codec) (request : ImageRequest) : String :=
  codec.digest (codec.encodeRequest (canonicalRequest request))

/-- A transaction that runs only after its checks pass. -/
def checked {α β : Type} (check : Outcome α) (rows : List JobRow)
    (run : α → Outcome β × List JobRow) : Outcome β × List JobRow :=
  match check with
  | .error e => (.error e, rows)
  | .ok a => run a

/-! ## Submission -/

inductive CreateOutcome where
  | created (id : String)
  | replay (id : String)
  | conflict
  | full
  deriving DecidableEq, Repr

/-- The row of a new job. -/
def newJob (codec : Codec) (scope id : String) (request : ImageRequest) (now : Nat) : JobRow where
  id := id
  authScope := scope
  status := .queued
  created := now
  updated := now
  started := none
  completed := none
  request := codec.encodeRequest (persistedRequest request)
  promptSearch := codec.toLowercase request.prompt
  submissionKeyHash := request.idempotencyKey.map codec.digest
  requestFingerprint := request.idempotencyKey.map fun _ => durableRequestFingerprint codec request
  progressStage := none
  partialImages := 0
  response := none
  error := none
  cancelRequested := false
  favorite := false
  deleted := none

/-- The checks of a submission, with the bytes the new row is charged. -/
def checkSubmission (codec : Codec) (scope id : String) (request : ImageRequest) (now : Nat) :
    Outcome Nat := do
  validateAuthScope scope
  validateOptionalKey request.idempotencyKey
  let now ← toI64 now
  logicalNewJobBytes (newJob codec scope id request now)

/-- The row a scope already has for a key. -/
def findSubmission (scope : String) (keyHash : Option String) (rows : List JobRow) :
    Option JobRow :=
  match keyHash with
  | none => none
  | some hash => rows.find? fun row => row.authScope = scope ∧ row.submissionKeyHash = some hash

def submissionFailed : BridgeError := jobError "could not submit durable job"

/-- The primary key and the unique index over scopes and keys. -/
def insertRow (row : JobRow) (rows : List JobRow) : Outcome CreateOutcome × List JobRow :=
  if rows.any (fun other => other.id = row.id)
      || (findSubmission row.authScope row.submissionKeyHash rows).isSome then
    (.error submissionFailed, rows)
  else (.ok (.created row.id), rows ++ [row])

/-- The transaction of `create`. -/
def createTransaction (row : JobRow) (newBytes maxPending maxDatabaseBytes : Nat)
    (rows : List JobRow) : Outcome CreateOutcome × List JobRow :=
  match findSubmission row.authScope row.submissionKeyHash rows with
  | some existing => (match existing.requestFingerprint with
      | none => .error submissionFailed
      | some fingerprint => if row.requestFingerprint = some fingerprint
          then .ok (.replay existing.id) else .ok .conflict, rows)
  | none =>
    if rows.countP (fun other => other.status = .queued) ≥ min maxPending i64Max then
      (.ok .full, rows)
    else if logicalBytes rows > i64Max then (.error submissionFailed, rows)
    else if min (logicalBytes rows + newBytes) i64Max > min maxDatabaseBytes i64Max then
      (.ok .full, rows)
    else insertRow row rows

/-- `create` up to the end of its transaction. -/
def create (codec : Codec) (scope id : String) (request : ImageRequest)
    (now maxPending maxDatabaseBytes : Nat) (rows : List JobRow) :
    Outcome CreateOutcome × List JobRow :=
  checked (checkSubmission codec scope id request now) rows fun newBytes =>
    createTransaction (newJob codec scope id request now) newBytes maxPending maxDatabaseBytes rows

def decoded {α : Type} (message : String) : Option α → Outcome α
  | some value => .ok value
  | none => .error (jobError message)

/-- A column that may be null. -/
def decodeColumn {α : Type} (decode : String → Option α) (message : String) :
    Option String → Outcome (Option α)
  | none => .ok none
  | some text => do
    let value ← decoded message (decode text)
    .ok (some value)

def decodeJob (codec : Codec) (row : JobRow) : Outcome ImageJob := do
  Outcome.failIf (row.partialImages ≥ 2 ^ 32) (jobError "stored partial image count is invalid")
  let request ← decoded "stored job request is invalid" (codec.decodeRequest row.request)
  let result ← decodeColumn codec.decodeResponse "stored job result is invalid" row.response
  let error ← decodeColumn codec.decodeError "stored job error is invalid" row.error
  .ok { row with
    progress := row.progressStage.map (·, row.partialImages), request, result, error }

/-- Returns one complete job record. -/
def get (codec : Codec) (scope id : String) (rows : List JobRow) : Outcome ImageJob := do
  validateAuthScope scope
  match rows.find? fun row => row.id = id ∧ row.authScope = scope with
  | none => .error notFound
  | some row => decodeJob codec row

structure SqliteJobSubmission where
  job : ImageJob
  created : Bool

/-- The rest of `create`: the separate read of the job its transaction chose. -/
def readSubmission (codec : Codec) (scope : String) (rows : List JobRow) :
    CreateOutcome → Outcome SqliteJobSubmission
  | .created id => do
    let job ← get codec scope id rows
    .ok ⟨job, true⟩
  | .replay id => do
    let job ← get codec scope id rows
    .ok ⟨job, false⟩
  | .conflict => .error (.new .idempotencyConflict
      "idempotency key was already used for a different request")
  | .full => .error ((BridgeError.new .overloaded "durable job queue is full").setRetryable true)

/-! ## Execution -/

/-- The error a stopped process leaves in its running jobs. -/
def interruption : SuggestedError :=
  .ofError ((BridgeError.new .cancelled "bridge stopped while provider completion was uncertain"
    ).withDetail "recovery" (.string "inspect_history_before_retrying"))

/-- Marks previously running jobs interrupted without retrying paid work. -/
def recoverInterrupted (now : Nat) (rows : List JobRow) : Outcome Nat × List JobRow :=
  checked (toI64 now) rows fun now =>
    let chosen := fun row : JobRow => decide (row.status = .running)
    (.ok (changed chosen rows), update chosen (fun row => { row with
      status := .interrupted, updated := now, completed := some now,
      error := some interruption.encode }) rows)

/-- The order `ORDER BY created_at ASC, id ASC`. -/
def olderFirst (a b : JobRow) : Prop := a.created < b.created ∨ a.created = b.created ∧ a.id ≤ b.id

instance : DecidableRel olderFirst := fun _ _ => inferInstanceAs (Decidable (_ ∨ _))

/-- Oldest-first queued identities across ownership scopes. -/
def queuedIdentities (limit : Nat) (rows : List JobRow) : List (String × String) :=
  ((((rows.filter fun row => row.status = .queued).insertionSort olderFirst).take
    (min limit i64Max)).map fun row => (row.authScope, row.id))

/-- The row a job's statement selects. -/
def JobRow.isJob (row : JobRow) (scope id : String) : Bool :=
  decide (row.id = id) && decide (row.authScope = scope)

def JobRow.claimable (row : JobRow) (scope id : String) : Bool :=
  row.isJob scope id && decide (row.status = .queued) && !row.cancelRequested

def JobRow.runningJob (row : JobRow) (scope id : String) : Bool :=
  row.isJob scope id && decide (row.status = .running)

def JobRow.start (now : Nat) (row : JobRow) : JobRow :=
  { row with
    status := .running, started := some now, updated := now, progressStage := some "starting" }

/-- Atomically claims one queued job for execution. -/
def claim (scope id : String) (now : Nat) (rows : List JobRow) : Outcome Bool × List JobRow :=
  checked (do validateAuthScope scope; toI64 now) rows fun now =>
    (.ok (changed (·.claimable scope id) rows == 1),
      update (·.claimable scope id) (JobRow.start now) rows)

def validStage (stage : String) : Bool :=
  !stage.isEmpty && decide (len stage ≤ 64)
    && stage.toList.all fun c => isAsciiAlphanumeric c || c == '-' || c == '_'

/-- Stores only the latest safe progress label and partial count. -/
def progress (scope id stage : String) (partialImages now : Nat) (rows : List JobRow) :
    Outcome Unit × List JobRow :=
  checked (do
    validateAuthScope scope
    Outcome.failIf (validStage stage = false) (jobError "job progress stage is invalid")
    toI64 now) rows fun now =>
    (.ok (), update (·.runningJob scope id)
      (fun row => { row with progressStage := some stage, partialImages, updated := now }) rows)

def finish (scope id : String) (status : ImageJobStatus) (response error : Option String)
    (now : Nat) (rows : List JobRow) : Outcome Unit × List JobRow :=
  checked (do validateAuthScope scope; toI64 now) rows fun now =>
    (Outcome.failIf (changed (·.runningJob scope id) rows ≠ 1)
        (jobError "could not finish durable job"),
      update (·.runningJob scope id) (fun row => { row with
        status, updated := now, completed := some now, progressStage := some "completed",
        response, error }) rows)

/-- Stores a verified terminal result. -/
def succeed (codec : Codec) (scope id : String) (response : ImageResponse) (now : Nat)
    (rows : List JobRow) : Outcome Unit × List JobRow :=
  let encoded := codec.encodeResponse response
  if len encoded > activeResultReserveBytes then
    (.error (.new .artifact "durable job result metadata exceeds the storage reserve"), rows)
  else finish scope id .succeeded (some encoded) none now rows

def oversizedError : SuggestedError :=
  .ofError (.new .internal "durable job failed with oversized error metadata")

/-- The text a terminal error is stored as. -/
def boundedError (error : SuggestedError) : String :=
  if len error.encode > activeResultReserveBytes then oversizedError.encode else error.encode

def failureStatus : ImageJobStatus → Bool
  | .failed | .cancelled | .interrupted => true
  | _ => false

/-- Stores a structured terminal error or cancellation. -/
def fail (scope id : String) (status : ImageJobStatus) (error : SuggestedError) (now : Nat)
    (rows : List JobRow) : Outcome Unit × List JobRow :=
  if failureStatus status = false then
    (.error (jobError "invalid terminal job failure status"), rows)
  else finish scope id status none (some (boundedError error)) now rows

/-- The transaction of `request_cancel`. -/
def requestCancel (scope id : String) (now : Nat) (rows : List JobRow) :
    Outcome Unit × List JobRow :=
  checked (do validateAuthScope scope; toI64 now) rows fun now =>
    let chosen := fun row : JobRow => row.isJob scope id
    match (rows.find? chosen).map JobRow.status with
    | none => (.error notFound, rows)
    | some .queued => (.ok (), update chosen (fun row => { row with
        status := .cancelled, cancelRequested := true, updated := now, completed := some now,
        progressStage := some "completed" }) rows)
    | some .running => (.ok (), update chosen (fun row => { row with
        cancelRequested := true, updated := now }) rows)
    | some _ => (.ok (), rows)

/-! ## History -/

/-- A history update that has read its job and is about to write. -/
structure HistoryUpdate where
  scope : String
  id : String
  favorite : Option Bool
  deleted : Option Bool
  now : Nat
  deriving DecidableEq, Repr

/-- `update_history` up to its statement. -/
def readHistory (codec : Codec) (request : HistoryUpdate) (rows : List JobRow) :
    Outcome HistoryUpdate := do
  validateAuthScope request.scope
  Outcome.failIf (request.favorite = none ∧ request.deleted = none)
    (.new .invalidRequest "history update must change favorite or deleted state")
  let existing ← get codec request.scope request.id rows
  Outcome.failIf (request.deleted ≠ none ∧ existing.status.terminal = false)
    ((BridgeError.new .invalidRequest "only terminal jobs can be deleted from history").withDetail
      "field" (.string "deleted"))
  let now ← toI64 request.now
  .ok { request with now }

/-- The statement of `update_history`. -/
def writeHistory (request : HistoryUpdate) (rows : List JobRow) : Outcome Unit × List JobRow :=
  let chosen := fun row : JobRow => row.isJob request.scope request.id
  (Outcome.failIf (changed chosen rows ≠ 1) (jobError "could not update durable job history"),
    update chosen (fun row => { row with
      favorite := request.favorite.getD row.favorite
      deleted := match request.deleted with
        | none => row.deleted
        | some true => some request.now
        | some false => none
      updated := request.now }) rows)

/-- Whether retention may remove a row. -/
def JobRow.prunable (row : JobRow) : Bool := row.status.terminal && !row.favorite

def JobRow.retainedBytes (row : JobRow) : Nat :=
  row.recordBytes + optionalLen row.response + optionalLen row.error + rowOverheadBytes

/-- The order `ORDER BY created_at DESC, id DESC`. -/
def newerFirst (a b : JobRow) : Prop := olderFirst b a

instance : DecidableRel newerFirst := fun a b => inferInstanceAs (Decidable (olderFirst b a))

/-- The identities beyond the count and byte bounds, with `ROW_NUMBER` and the running
sum over the rows in order. -/
def excess (maximum maximumBytes : Nat) : Nat → Nat → List JobRow → List String
  | _, _, [] => []
  | ordinal, cumulative, row :: rest =>
    let ordinal := ordinal + 1
    let cumulative := cumulative + row.retainedBytes
    let later := excess maximum maximumBytes ordinal cumulative rest
    if ordinal > maximum ∨ cumulative > maximumBytes then row.id :: later else later

/-- Removes terminal records outside time/count retention bounds. -/
def prune (now retentionSecs maxRetained maxRetainedBytes : Nat) (rows : List JobRow) :
    Outcome Nat × List JobRow :=
  checked (toI64 (now - retentionSecs)) rows fun cutoff =>
    let expires := fun row : JobRow =>
      row.prunable && decide (∃ completed ∈ row.completed, completed ≤ cutoff)
    let current := rows.filter fun row => !expires row
    let retained := (current.filter JobRow.prunable).insertionSort newerFirst
    if total JobRow.retainedBytes retained > i64Max then
      (.error (jobError "could not prune durable jobs"), rows)
    else
      let gone := excess (min maxRetained i64Max) (min maxRetainedBytes i64Max) 0 0 retained
      let kept := current.filter fun row => !gone.contains row.id
      (.ok (rows.length - kept.length), kept)

/-! ## A codec of one request -/

def kite : ImageRequest := .generate "a red kite"

def kiteText : String :=
  "\x7b\"version\":\"1\",\"prompt\":\"a red kite\",\"operation\":\"generate\","
    ++ "\"parameters\":\x7b\"n\":1,\"size\":\"auto\",\"quality\":\"auto\","
    ++ "\"output_format\":\"png\",\"background\":\"auto\",\"moderation\":\"auto\","
    ++ "\"partial_images\":0,\"failure_policy\":\"fail_fast\",\"action\":\"auto\"\x7d,"
    ++ "\"routing\":\x7b\"fallback_policy\":\"on_unavailable\"\x7d,"
    ++ "\"session\":\x7b\"mode\":\"isolated\"\x7d,"
    ++ "\"output\":\x7b\"response_format\":\"b64_json\",\"collision\":\"error\","
    ++ "\"metadata\":\"none\",\"transparency\":\x7b\"mode\":\"auto\","
    ++ "\"transparent_threshold\":12,\"opaque_threshold\":96,\"despill\":true\x7d\x7d,"
    ++ "\"policies\":\x7b\"compatibility\":\"strict\",\"negative_prompt\":\"auto\","
    ++ "\"revised_prompt\":\"include\",\"batch_execution\":\"auto\"\x7d\x7d"

theorem len_kiteText : len kiteText = 603 := by
  unfold kiteText
  apply Eq.trans
  · repeat' first
      | exact len_spelled rfl
      | apply len_joined
  · rfl

def kiteFingerprint : String := "79dcc793e7896a73d535402cc9640566a13eca318956dad14937edabf5ad7441"

def kiteKeyHash : String := "be2974546978e3739e6d6da85c4be9f334ce32df2b9fd4b6ff1b55c0d57e9d44"

/-- The codec as far as one request under one key needs it. -/
def kiteCodec : Codec where
  encodeRequest := fun request => if request = kite then kiteText else request.prompt
  decodeRequest := fun text => if text = kiteText then some kite else none
  encodeResponse := fun response => response.id
  decodeResponse := fun _ => none
  decodeError := fun text =>
    if text = interruption.encode then some interruption
    else if text = oversizedError.encode then some oversizedError else none
  digest := fun text =>
    if text = "key-1" then kiteKeyHash else if text = kiteText then kiteFingerprint else text
  toLowercase := fun text => String.ofList (text.toList.map toAsciiLowercase)

def keyedKite : ImageRequest := { kite with idempotencyKey := some "key-1" }

/-- The row of the keyed request. -/
def kiteRow (id : String) (now : Nat) : JobRow where
  id := id
  authScope := "operator"
  status := .queued
  created := now
  updated := now
  started := none
  completed := none
  request := kiteText
  promptSearch := "a red kite"
  submissionKeyHash := some kiteKeyHash
  requestFingerprint := some kiteFingerprint
  progressStage := none
  partialImages := 0
  response := none
  error := none
  cancelRequested := false
  favorite := false
  deleted := none

theorem kiteText_ne_key : kiteText ≠ "key-1" := by
  intro same
  have longer := congrArg len same
  rw [len_kiteText] at longer
  exact absurd longer (by decide)

theorem kite_fingerprint : durableRequestFingerprint kiteCodec keyedKite = kiteFingerprint := by
  have canonical : canonicalRequest keyedKite = kite := rfl
  rw [durableRequestFingerprint, canonical]
  unfold kiteCodec
  dsimp only
  rw [if_pos rfl, if_neg kiteText_ne_key, if_pos rfl]

theorem kite_newJob (id : String) (now : Nat) :
    newJob kiteCodec "operator" id keyedKite now = kiteRow id now := by
  have persisted : persistedRequest keyedKite = kite := rfl
  have key : keyedKite.idempotencyKey = some "key-1" := rfl
  have lower : kiteCodec.toLowercase keyedKite.prompt = "a red kite" := lowercase_spelled rfl rfl
  simp only [newJob, kiteRow, persisted, key, lower, Option.map_some, kite_fingerprint]
  simp [kiteCodec]

theorem kite_recordBytes (id : String) (now : Nat) : (kiteRow id now).recordBytes = len id + 749 := by
  have others : len "operator" = 8 ∧ len "a red kite" = 10 ∧ len kiteKeyHash = 64 ∧
      len kiteFingerprint = 64 :=
    ⟨len_spelled rfl, len_spelled rfl, len_spelled rfl, len_spelled rfl⟩
  have request := len_kiteText
  simp only [JobRow.recordBytes, kiteRow, optionalLen, Option.map_some, Option.getD_some]
  omega

theorem kite_checks {id : String} {now : Nat} (short : len id ≤ 36) (time : now ≤ i64Max) :
    checkSubmission kiteCodec "operator" id keyedKite now = .ok (len id + 263021) := by
  have unsaturated : 263057 ≤ Idempotency.usizeMax ∧ 263057 ≤ i64Max := by decide
  have bytes : logicalNewJobBytes (newJob kiteCodec "operator" id keyedKite now)
      = .ok (len id + 263021) := by
    have sum : len id + 749 + activeResultReserveBytes + rowOverheadBytes = len id + 263021 := by
      simp [activeResultReserveBytes, rowOverheadBytes, Nat.add_assoc]
    rw [kite_newJob, logicalNewJobBytes, kite_recordBytes, sum,
      Nat.min_eq_left (by omega), if_pos (by omega)]
  have scope : validateAuthScope "operator" = .ok () := by rfl
  have key : validateOptionalKey keyedKite.idempotencyKey = .ok () := by rfl
  exact Outcome.bind_ok.mpr ⟨(), scope, Outcome.bind_ok.mpr ⟨(), key,
    Outcome.bind_ok.mpr ⟨now, if_pos time, bytes⟩⟩⟩

end ImagegenBridge.Jobs
