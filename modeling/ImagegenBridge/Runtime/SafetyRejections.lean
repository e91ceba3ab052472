import ImagegenBridge.CodexAppServer.Turn
import ImagegenBridge.CodexResponses.Calls
import ImagegenBridge.Runtime.Policy

/-!
# Safety rejections of the upstreams

Both adapters classify an upstream failure by the words in its code. A code that names a
safety system must end the request: no other route is taken and no other attempt is made.
-/

namespace ImagegenBridge.SafetyRejections

open CodexAppServer CodexResponses Orchestrator Text

/-! ## Words in a code -/

theorem containsSlice_iff {pattern text : List Char} :
    containsSlice pattern text = true ↔ pattern <:+: text := by
  induction text with
  | nil => simp [containsSlice]
  | cons c text ih =>
    rw [containsSlice, Bool.or_eq_true, ih, List.isPrefixOf_iff_prefix, List.infix_cons_iff]

/-- A code contains one of these words, in any letter case. -/
def Mentions (words : List String) (code : String) : Prop :=
  ∃ word ∈ words, word.toList <:+: lowercase code.toList

def safetyMarkers : List String := ["safety", "content_policy", "moderation", "refusal"]

/-- A code with a safety marker. -/
def Marked (code : String) : Prop := Mentions safetyMarkers code

theorem isSafetyCode_iff {code : String} : isSafetyCode code = true ↔ Marked code := by
  simp only [isSafetyCode, List.any_eq_true, containsSlice_iff, Marked, Mentions, safetyMarkers]

/-- The words that `codex-responses` takes for a safety rejection, and those it tests first. -/
def knownMarkers : List String := ["safety", "content_policy", "moderation"]

def accountWords : List String := ["auth", "token", "permission", "entitlement", "forbidden"]

theorem classifyCode_safety {code : String} :
    (classifyCode code).1 = .safetyRejected ↔
      Mentions knownMarkers code ∧ ¬ Mentions accountWords code := by
  have safety : Mentions knownMarkers code ↔
      (containsSlice "safety".toList (lowercase code.toList) ||
        containsSlice "content_policy".toList (lowercase code.toList) ||
        containsSlice "moderation".toList (lowercase code.toList)) = true := by
    simp only [Mentions, knownMarkers, List.mem_cons, List.not_mem_nil, or_false, exists_eq_or_imp,
      exists_eq_left, Bool.or_eq_true, containsSlice_iff, or_assoc]
  have account : Mentions accountWords code ↔
      (containsSlice "auth".toList (lowercase code.toList) ||
        containsSlice "token".toList (lowercase code.toList)) = true ∨
      (containsSlice "permission".toList (lowercase code.toList) ||
        containsSlice "entitlement".toList (lowercase code.toList) ||
        containsSlice "forbidden".toList (lowercase code.toList)) = true := by
    simp only [Mentions, accountWords, List.mem_cons, List.not_mem_nil, or_false, exists_eq_or_imp,
      exists_eq_left, Bool.or_eq_true, containsSlice_iff, or_assoc]
  rw [safety, account]
  unfold classifyCode
  dsimp only
  split_ifs <;> simp_all

/-- The request ends with the error: no other route and no other attempt follows. -/
structure Rejects (error : BridgeError) : Prop where
  code : error.code = .safetyRejected
  ends : ∀ policy, shouldFallback error policy = false
  once : error.retryable = false ∧ safeTransientRetry error = false

theorem rejects_iff {error : BridgeError}
    (safe : error.code = .safetyRejected → error.retryable = false) :
    Rejects error ↔ error.code = .safetyRejected := by
  constructor
  · exact Rejects.code
  · intro code
    refine ⟨code, ?_, safe code, by simp [safeTransientRetry, safe code]⟩
    intro policy
    unfold shouldFallback
    rw [code]
    split_ifs <;> rfl

/-! ## Failures of `codex-responses` -/

def codeAt (value : Option Json) : Option String := (value.bind (·.get "code")).bind Json.asStr

/-- The codes of a failure event, in each position. -/
def eventCodes (event : Json) : List String :=
  [codeAt (event.get "error"), codeAt ((event.get "response").bind (·.get "error")),
    (event.index "code").asStr].reduceOption

/-- The code that is read: that of the error, of the response's error where there is no
error at all, or else of the event. -/
def readCode (event : Json) : String :=
  ((codeAt ((event.get "error").orElse fun _ => (event.get "response").bind (·.get "error"))).orElse
    fun _ => (event.index "code").asStr).getD "upstream_failure"

@[simp] theorem withTexts_code (error : BridgeError) (key : String) (texts : List String) :
    (withTexts error key texts).code = error.code := by
  unfold withTexts
  split_ifs <;> rfl

@[simp] theorem withTexts_retryable (error : BridgeError) (key : String) (texts : List String) :
    (withTexts error key texts).retryable = error.retryable := by
  unfold withTexts
  split_ifs <;> rfl

theorem withModerationStage_keeps (error : BridgeError) (details : Json) :
    (withModerationStage error details).code = error.code ∧
      (withModerationStage error details).retryable = error.retryable := by
  unfold withModerationStage
  split
  · split_ifs <;> exact ⟨rfl, rfl⟩
  · exact ⟨rfl, rfl⟩

/-- Moderation details change neither the code nor the retry flag. -/
theorem withModerationDetails_keeps (error : BridgeError) (upstream : Option Json) :
    (withModerationDetails error upstream).code = error.code ∧
      (withModerationDetails error upstream).retryable = error.retryable := by
  unfold withModerationDetails
  split_ifs
  · exact ⟨rfl, rfl⟩
  · split
    · exact ⟨rfl, rfl⟩
    · rename_i details _
      obtain ⟨code, retryable⟩ := withModerationStage_keeps error details
      rw [withTexts_code, withTexts_retryable]
      exact ⟨code, retryable⟩

theorem classifiedUpstreamError_safety (code : String) :
    ((classifiedUpstreamError code).code = .safetyRejected ↔
      (classifyCode (sanitizeCode code)).1 = .safetyRejected) ∧
    ((classifiedUpstreamError code).code = .safetyRejected →
      (classifiedUpstreamError code).retryable = false) := by
  unfold classifiedUpstreamError
  dsimp only
  by_cases safety : (classifyCode (sanitizeCode code)).1 = .safetyRejected
  · simp [safety, BridgeError.safetyRejected]
  · simp [safety]

/-- A failure event rejects the request exactly if the code it is read by, cut off after 64
characters and without any but letters, digits, `_` and `-`, names a safety system and no
account matter. -/
theorem eventFailure_rejects_iff (event : Json) :
    Rejects (eventFailure event) ↔
      Mentions knownMarkers (sanitizeCode (readCode event)) ∧
        ¬ Mentions accountWords (sanitizeCode (readCode event)) := by
  have failure : eventFailure event = withModerationDetails (classifiedUpstreamError (readCode event))
      ((event.get "error").orElse fun _ => (event.get "response").bind (·.get "error")) := rfl
  obtain ⟨code, retryable⟩ := withModerationDetails_keeps (classifiedUpstreamError (readCode event))
    ((event.get "error").orElse fun _ => (event.get "response").bind (·.get "error"))
  obtain ⟨classified, safe⟩ := classifiedUpstreamError_safety (readCode event)
  rw [← failure] at code retryable
  rw [rejects_iff (by rw [code, retryable]; exact safe), code, classified, classifyCode_safety]

/-! ## Failures of `codex-app-server` -/

theorem any_marked {label : Option String} :
    (label.filter safeStringCode).any isSafetyCode = true ↔
      ∃ code, label = some code ∧ safeStringCode code = true ∧ Marked code := by
  cases label with
  | none => simp
  | some code =>
    by_cases safe : safeStringCode code = true
    · simp [Option.filter, safe, isSafetyCode_iff]
    · simp [Option.filter, safe]

/-- A request fails for safety exactly if its code is a label with a safety marker. -/
theorem rpcResponseError_rejects_iff (value : Json) :
    Rejects (rpcResponseError value) ↔
      ∃ code, codeAt (some value) = some code ∧ safeStringCode code = true ∧ Marked code := by
  have kind : ((rpcResponseError value).code = .safetyRejected ↔
      (((value.get "code").bind Json.asStr).filter safeStringCode).any isSafetyCode = true) ∧
      (rpcResponseError value).retryable = false := by
    unfold rpcResponseError
    dsimp only
    generalize ((value.get "code").bind Json.asStr).filter safeStringCode = safe
    cases (value.get "code").bind Json.asI64 <;> cases safe <;> simp [BridgeError.safetyRejected] <;>
      split_ifs <;> simp_all
  rw [rejects_iff fun _ => kind.2, kind.1, any_marked]
  rfl

/-- The codes of a turn that failed. -/
def turnCodes (turn : Json) : List String :=
  [((turn.index "error").index "code").asStr, (turn.index "errorCode").asStr].reduceOption

/-- The code that a failed turn is read by. -/
def turnCode (turn : Json) : Option String :=
  ((turn.index "error").index "code").asStr.orElse fun _ => (turn.index "errorCode").asStr

@[simp] theorem withLabel_code (error : BridgeError) (key : String) (label : Option String) :
    (withLabel error key label).code = error.code := by
  cases label <;> rfl

@[simp] theorem withLabel_retryable (error : BridgeError) (key : String) (label : Option String) :
    (withLabel error key label).retryable = error.retryable := by
  cases label <;> rfl

theorem bind_safeFailureLabel (label : Option String) :
    label.bind safeFailureLabel = label.filter safeStringCode := by
  cases label with
  | none => rfl
  | some code => by_cases safe : safeStringCode code = true <;> simp [safeFailureLabel, safe, Option.filter]

/-- A turn fails for safety exactly if the code it is read by or its status is a label with a
safety marker. -/
theorem turnFailureError_rejects_iff (turn : Json) (request : ImageRequest) :
    Rejects (turnFailureError turn request) ↔
      ∃ code, (turnCode turn = some code ∨ (turn.index "status").asStr = some code) ∧
        safeStringCode code = true ∧ Marked code := by
  have kind : ((turnFailureError turn request).code = .safetyRejected ↔
      ((turnCode turn).filter safeStringCode).any isSafetyCode = true ∨
        ((turn.index "status").asStr.filter safeStringCode).any isSafetyCode = true) ∧
      (turnFailureError turn request).retryable = false := by
    unfold turnFailureError turnCode
    dsimp only
    rw [bind_safeFailureLabel, bind_safeFailureLabel]
    have same : isSafetyFailureLabel = isSafetyCode := rfl
    rw [withLabel_code, withLabel_code, withLabel_retryable, withLabel_retryable, same,
      ← Bool.or_eq_true]
    generalize (Option.any isSafetyCode _ || Option.any isSafetyCode _) = marked
    cases marked <;> simp [BridgeError.safetyRejected]
  rw [rejects_iff fun _ => kind.2, kind.1, any_marked, any_marked]
  simp only [or_and_right, exists_or]

/-! ## Every position -/

/-- A marked code in some position is recognised exactly if the code that is read there is a
plain one. -/
theorem safety_recognised_iff (event value turn : Json) (request : ImageRequest) :
    (((∃ code ∈ eventCodes event, Marked code) → Rejects (eventFailure event)) ↔
      ((∃ code ∈ eventCodes event, Marked code) →
        Mentions knownMarkers (sanitizeCode (readCode event)) ∧
          ¬ Mentions accountWords (sanitizeCode (readCode event)))) ∧
    (((∃ code, codeAt (some value) = some code ∧ Marked code) → Rejects (rpcResponseError value)) ↔
      ∀ code, codeAt (some value) = some code → Marked code → safeStringCode code = true) ∧
    (((∃ code ∈ turnCodes turn, Marked code) → Rejects (turnFailureError turn request)) ↔
      ((∃ code ∈ turnCodes turn, Marked code) →
        ∃ code, (turnCode turn = some code ∨ (turn.index "status").asStr = some code) ∧
          safeStringCode code = true ∧ Marked code)) := by
  refine ⟨?_, ?_, ?_⟩
  · rw [eventFailure_rejects_iff]
  · rw [rpcResponseError_rejects_iff]
    constructor
    · intro recognised code there marked
      obtain ⟨code', there', safe, _⟩ := recognised ⟨code, there, marked⟩
      obtain rfl := Option.some.inj (there.symm.trans there')
      exact safe
    · rintro plain ⟨code, there, marked⟩
      exact ⟨code, there, plain code there marked, marked⟩
  · rw [turnFailureError_rejects_iff]

/-- The codes of labels are read as they are. -/
theorem sanitizeCode_label {code : String} (some_text : code ≠ "") (short : code.toList.length ≤ 64)
    (plain : ∀ c ∈ code.toList, (isAsciiAlphanumeric c || c == '_' || c == '-') = true) :
    sanitizeCode code = code := by
  have kept : String.ofList ((code.toList.take 64).filter fun c =>
      isAsciiAlphanumeric c || c == '_' || c == '-') = code := by
    rw [List.take_of_length_le short, List.filter_eq_self.mpr plain, String.ofList_toList]
  unfold sanitizeCode
  dsimp only
  rw [kept, if_neg some_text]

def failedWith (error : Json) : Json := .object [("type", .string "error"), ("error", error)]

/-- A refusal is retried as a rate limit, an authorisation word hides a safety rejection, a
null error hides the response's, and a code with a blank is no label. -/
theorem safety_missed :
    (eventFailure (failedWith (.object [("code", .string "refusal_rate_exceeded")]))).code =
        .rateLimited ∧
      safeTransientRetry
        (eventFailure (failedWith (.object [("code", .string "refusal_rate_exceeded")]))) = true ∧
      shouldFallback (eventFailure (failedWith
        (.object [("code", .string "unauthorized_safety_content")]))) .onUnavailable = true ∧
      (eventFailure (.object [("type", .string "response.failed"), ("error", .null),
        ("response", .object [("error", .object [("code", .string "content_policy")])])])).code =
          .upstream ∧
      (rpcResponseError (.object [("code", .string "content_policy violation")])).code = .upstream ∧
      shouldFallback (rpcResponseError (.object [("code", .string "content_policy violation")]))
        .onError = true := by
  decide +kernel

end ImagegenBridge.SafetyRejections
