import ImagegenBridge.Core.SizeText
import ImagegenBridge.Jobs.Listing

/-!
# Pages of the job history, `list_jobs` of `crates/server/src/routes.rs`

A page asks the store for one row more than it shows. The cursor of the next page is the time and
the identity of the last row shown, as base64.
-/

namespace ImagegenBridge.Server

open Text Jobs Decimal

def maxCursorBytes : Nat := 256
def maxPageSize : Nat := 100
def maxJobSearchBytes : Nat := 512

/-! ## Identities -/

def isLowerHex (c : Char) : Bool := c.isDigit || (decide ('a' ≤ c) && decide (c ≤ 'f'))

/-- The character that a hyphenated UUID may have at a place. -/
def hyphenatedAt (place : Nat) (c : Char) : Bool :=
  if place = 8 ∨ place = 13 ∨ place = 18 ∨ place = 23 then c == '-' else isLowerHex c

/-- The text of a UUID: five groups of lowercase hexadecimal digits. -/
def hyphenated (id : String) : Bool :=
  id.toList.length == 36 && id.toList.zipIdx.all fun (c, place) => hyphenatedAt place c

/-- `base64::engine::general_purpose::URL_SAFE_NO_PAD` and `Uuid::parse_str`. -/
structure CursorText where
  encode : List UInt8 → String
  decode : String → Option (List UInt8)
  parseUuid : String → Bool
  restores : ∀ bytes, decode (encode bytes) = some bytes
  length : ∀ bytes, len (encode bytes) = (4 * bytes.length + 2) / 3
  printed : ∀ id, hyphenated id = true → parseUuid id = true

/-! ## Cursors -/

def utf8 (text : String) : List UInt8 := text.toByteArray.data.toList

def fromUtf8 (bytes : List UInt8) : Option String := String.fromUTF8? ⟨bytes.toArray⟩

variable (cursors : CursorText)

def encodeCursor (value : String) : String := cursors.encode (utf8 value)

/-- `ok_or`. -/
def okOr {ε α : Type} (error : ε) : Option α → Except ε α
  | none => .error error
  | some value => .ok value

/-- A check that returns early. -/
def refuseIf {ε : Type} (condition : Bool) (error : ε) : Except ε Unit :=
  if condition then .error error else .ok ()

def decodeCursor (value : String) : Except String String := do
  refuseIf (value.isEmpty || decide (len value > maxCursorBytes)) "provider cursor length is invalid"
  let decoded ← okOr "provider cursor is malformed" (cursors.decode value)
  let decoded ← okOr "provider cursor is malformed" (fromUtf8 decoded)
  refuseIf (decoded.isEmpty || decide (len decoded > 64)) "provider cursor is malformed"
  .ok decoded

def encodeJobCursor (created : Nat) (id : String) : String :=
  encodeCursor cursors (toString created ++ ":" ++ id)

/-- `text.parse::<u64>()`. -/
def parseU64 (text : List Char) : Option Nat :=
  if unsigned text = [] then none else accumulate (2 ^ 64) 0 (unsigned text)

def jobCursorMalformed : String := "job cursor is malformed"

def decodeJobCursor (value : String) : Except String (Nat × String) := do
  let decoded ← (decodeCursor cursors value).mapError fun _ => jobCursorMalformed
  let (created, id) ← okOr jobCursorMalformed (splitOnce ':' decoded.toList)
  let created ← okOr jobCursorMalformed (parseU64 created)
  refuseIf (!cursors.parseUuid (String.ofList id)) jobCursorMalformed
  .ok (created, String.ofList id)

/-! ## The endpoint -/

structure JobQuery where
  limit : Nat := 20
  cursor : Option String := none
  status : Option ImageJobStatus := none
  visibility : Option ImageJobVisibility := none
  favorite : Option Bool := none
  search : Option String := none
  /-- Deprecated alias of the visibility `all`. -/
  includeDeleted : Bool := false

/-- An error response, without its request id. -/
inductive ApiError where
  | badRequest (message : String)
  | bridge (error : BridgeError)

structure ImageJobPage where
  items : List ImageJobSummary
  nextCursor : Option String

namespace JobQuery

/-- The trimmed search text, unless it is empty. -/
def searchText (query : JobQuery) : Option String :=
  (query.search.map trim).filter fun value => !value.isEmpty

/-- The visibility that a query asks for. -/
def gallery (query : JobQuery) : ImageJobVisibility :=
  query.visibility.getD (if query.includeDeleted then .all else .active)

def filter (query : JobQuery) (before : Option (Nat × String)) : ImageJobListFilter where
  before := before
  limit := query.limit + 1
  visibility := query.gallery
  status := query.status
  favorite := query.favorite
  search := query.searchText

end JobQuery

def decodeBefore (cursor : Option String) : Except ApiError (Option (Nat × String)) :=
  match cursor with
  | none => .ok none
  | some cursor => ((decodeJobCursor cursors cursor).map some).mapError .badRequest

def jobsDisabled : BridgeError := .new .configuration "durable jobs are disabled"

/-- The page of the rows that the store has listed. -/
def pageOf (limit : Nat) (items : List ImageJobSummary) : ImageJobPage where
  items := items.take limit
  nextCursor := if items.length > limit then
    (items.take limit).getLast?.map fun item => encodeJobCursor cursors item.created item.id
    else none

/-- `GET /v1/jobs`; without a store durable jobs are disabled. -/
def listJobs (codec : Codec) (scope : String) (query : JobQuery) (store : Option (List JobRow)) :
    Except ApiError ImageJobPage := do
  refuseIf (query.limit == 0 || decide (query.limit > maxPageSize))
    (ApiError.badRequest "job page limit must be between 1 and 100")
  refuseIf (query.includeDeleted && query.visibility.isSome)
    (.badRequest "include_deleted cannot be combined with visibility")
  refuseIf (query.searchText.any fun value =>
    decide (len value > maxJobSearchBytes) || hasControl value)
    (.badRequest "job search must contain at most 512 bytes and no control characters")
  let before ← decodeBefore cursors query.cursor
  let rows ← okOr (.bridge jobsDisabled) store
  let items ← (Jobs.list codec scope (query.filter before) rows).mapError .bridge
  .ok (pageOf cursors query.limit items)

end ImagegenBridge.Server
