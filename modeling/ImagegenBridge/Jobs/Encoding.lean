import Mathlib.Data.List.Sort
import ImagegenBridge.Runtime.Orchestrator

/-!
# Stored errors

Errors are stored as the compact text `serde_json` writes. A stored error also has
its suggestions, which start as the defaults of its code.
-/

namespace ImagegenBridge.Jobs

open Text

/-- `ESCAPE` of `serde_json`: quotes, backslashes and control characters. -/
def escape (c : Char) : String :=
  match c.toNat with
  | 0x22 => "\\\""
  | 0x5C => "\\\\"
  | 0x08 => "\\b"
  | 0x09 => "\\t"
  | 0x0A => "\\n"
  | 0x0C => "\\f"
  | 0x0D => "\\r"
  | n =>
    if n < 0x20 then "\\u00" ++ String.ofList [Nat.digitChar (n / 16), Nat.digitChar (n % 16)]
    else String.ofList [c]

def quote (text : String) : String := "\"" ++ String.join (text.toList.map escape) ++ "\""

def bracket (opening closing : String) (parts : List String) : String :=
  opening ++ ",".intercalate parts ++ closing

def objectText (fields : List (String × String)) : String :=
  bracket "\x7b" "\x7d" (fields.map fun field => quote field.1 ++ ":" ++ field.2)

/-- A map is written in the order of its keys. -/
def mapText (fields : List (String × String)) : String :=
  objectText (fields.insertionSort fun a b => a.1 ≤ b.1)

mutual

/-- `serde_json::to_string` of a value. -/
def encodeJson : Json → String
  | .null => "null"
  | .bool value => if value then "true" else "false"
  | .integer value => toString value
  | .decimal text => text
  | .string value => quote value
  | .array items => bracket "[" "]" (encodeItems items)
  | .object fields => mapText (encodeFields fields)

def encodeItems : List Json → List String
  | [] => []
  | item :: rest => encodeJson item :: encodeItems rest

def encodeFields : List (String × Json) → List (String × String)
  | [] => []
  | (key, value) :: rest => (key, encodeJson value) :: encodeFields rest

end

def defaultSuggestions : ErrorCode → List String
  | .invalidRequest => ["Inspect the reported field/details and compare the request with " ++
      "`imagegen-bridge providers capabilities`."]
  | .unsupportedCapability => ["Run `imagegen-bridge providers capabilities --json` and remove or " ++
      "change unsupported parameters."]
  | .configuration => ["Run `imagegen-bridge config check` to list every invalid field and its " ++
      "source.", "Run `imagegen-bridge doctor` after correcting the configuration."]
  | .authentication => ["Run `imagegen-bridge auth-doctor` and refresh the provider login if it is " ++
      "expired or missing."]
  | .permissionDenied => ["Verify the bridge bearer scope and the provider account entitlement for " ++
      "this operation."]
  | .safetyRejected => ["Revise the prompt or input images; retrying the unchanged request will not " ++
      "help."]
  | .rateLimited => ["Honor Retry-After when present; if rate limits persist, set an explicit lower " ++
      "provider concurrency instead of `unlimited`/`auto`."]
  | .overloaded => ["Inspect `imagegen-bridge diagnostics` for the exhausted gate or open circuit.",
      "For a configured admission gate, increase its capacity or set `max_concurrent = " ++
      "\"unlimited\"`; keep a finite value only when you want backpressure."]
  | .timeout => ["Compare provider and queue timing, then increase `runtime.default_timeout_ms` and " ++
      "`runtime.request.max_timeout_ms` if the provider is still making progress."]
  | .cancelled => ["Retry only if the caller intentionally cancelled before provider dispatch."]
  | .upstream => ["Use the request ID with provider/bridge logs, honor `retryable`, and run " ++
      "`imagegen-bridge doctor` if failures persist."]
  | .protocol => ["Run `imagegen-bridge update check`; if already current, capture the request ID and " ++
      "provider diagnostics for a compatibility report."]
  | .input => ["Verify that every input is readable, within configured byte/pixel limits, and under " ++
      "an allowed local or remote source."]
  | .artifact => ["Check artifact-root permissions, free space, and configured image/response size " ++
      "ceilings."]
  | .session => ["List existing sessions or retry with an isolated session when conversational " ++
      "continuity is not required."]
  | .idempotencyConflict => ["Reuse an idempotency key only with the identical request, or generate a " ++
      "new key."]
  | .internal => ["Run `imagegen-bridge doctor` and `imagegen-bridge update check`, then correlate " ++
      "the failure with its request ID."]

/-- An error with its recovery actions. -/
structure SuggestedError where
  error : BridgeError
  suggestions : List String

namespace SuggestedError

/-- An error as it is created, with the suggestions of its code. -/
def ofError (error : BridgeError) : SuggestedError := ⟨error, defaultSuggestions error.code⟩

def optionalField (name : String) (value : Option String) : List (String × String) :=
  (value.map fun text => (name, quote text)).toList

/-- `serde_json::to_string(&error)`: absent and empty fields are left out. -/
def encode (e : SuggestedError) : String :=
  objectText ([("code", quote (Orchestrator.codeWire e.error.code)),
      ("message", quote e.error.message), ("retryable", encodeJson (.bool e.error.retryable))]
    ++ optionalField "provider" e.error.provider
    ++ optionalField "upstream_request_id" e.error.upstreamRequestId
    ++ (if e.error.details.isEmpty then []
      else [("details", mapText (encodeFields e.error.details))])
    ++ (if e.suggestions.isEmpty then []
      else [("suggestions", bracket "[" "]" (e.suggestions.map quote))]))

end SuggestedError

theorem len_escape (c : Char) : len (escape c) ≤ 12 := by
  have two : ∀ {text : String} {chars : List Char}, text = String.ofList chars → chars.length = 2 →
      len text ≤ 12 := fun {text chars} spelled pair => by
    have short := len_le chars
    rw [spelled]
    omega
  unfold escape
  split
  all_goals try exact two rfl rfl
  split
  · exact len_append_le (m := 4) (Nat.le_of_eq ((len_spelled rfl).trans rfl)) (len_le _)
  · exact Nat.le_trans (len_le _) (Nat.le_of_ble_eq_true rfl)

theorem len_quote_le {text : String} {bound : Nat} (short : text.length ≤ bound) :
    len (quote text) ≤ 12 * bound + 2 := by
  have body : ∀ chars : List Char, len (String.join (chars.map escape)) ≤ 12 * chars.length := by
    intro chars
    induction chars with
    | nil => exact Nat.le_of_eq (len_spelled rfl)
    | cons c chars ih =>
      have more := len_escape c
      rw [List.map_cons, String.join_cons, len_append, List.length_cons]
      omega
  have mark : len "\"" = 1 := len_spelled rfl
  have inside := body text.toList
  rw [String.length_toList] at inside
  rw [quote, len_append, len_append, mark]
  omega

theorem len_bracket_le {opening closing : String} {parts : List String} {bound : Nat}
    (first : len opening ≤ 1) (last : len closing ≤ 1) (short : ∀ part ∈ parts, len part ≤ bound) :
    len (bracket opening closing parts) ≤ parts.length * (bound + 1) + 2 := by
  have comma : len "," = 1 := len_spelled rfl
  have inside : len (",".intercalate parts) ≤ parts.length * (bound + 1) := by
    induction parts with
    | nil => exact Nat.le_of_eq ((len_spelled rfl).trans (Nat.zero_mul _).symm)
    | cons part rest ih =>
      obtain ⟨own, others⟩ := List.forall_mem_cons.mp short
      have later := ih others
      rw [List.length_cons, Nat.succ_mul]
      cases rest with
      | nil =>
        rw [String.intercalate_singleton]
        omega
      | cons next rest =>
        rw [String.intercalate_cons_cons, len_append, len_append, comma]
        omega
  rw [bracket, len_append, len_append]
  omega

theorem len_objectText_le {fields : List (String × String)} {bound : Nat}
    (short : ∀ field ∈ fields, field.1.length ≤ 20 ∧ len field.2 ≤ bound) :
    len (objectText fields) ≤ fields.length * (bound + 244) + 2 := by
  have colon : len ":" = 1 := len_spelled rfl
  have parts : ∀ part ∈ fields.map fun field => quote field.1 ++ ":" ++ field.2, len part ≤ bound + 243 := by
    intro part member
    obtain ⟨field, present, rfl⟩ := List.mem_map.mp member
    obtain ⟨name, own⟩ := short field present
    have quoted := len_quote_le name
    rw [len_append, len_append, colon]
    omega
  have opening : len "\x7b" ≤ 1 := Nat.le_of_eq (len_spelled rfl)
  have closing : len "\x7d" ≤ 1 := Nat.le_of_eq (len_spelled rfl)
  have bracketed := len_bracket_le opening closing parts
  rwa [List.length_map] at bracketed

example : (SuggestedError.mk ((BridgeError.new .session "line\n").withDetail "n" (.integer 2)) []).encode
    = "\x7b\"code\":\"session\",\"message\":\"line\\n\",\"retryable\":false,\"details\":\x7b\"n\":2\x7d\x7d" := by
  decide +kernel

end ImagegenBridge.Jobs
