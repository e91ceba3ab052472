import Mathlib.Algebra.Order.Ring.Nat

/-!
# Structured errors

`crates/core/src/error.rs`. An error carries a stable code, a retry flag and a
map of details; the runtime's fallback and idempotency decisions read the one
detail `outcome`. A map lists its entries, and insertion keeps keys unique.
-/

namespace ImagegenBridge

/-- `serde_json::Value`. A number that is not an integer keeps its text. -/
inductive Json where
  | null
  | bool (value : Bool)
  | integer (value : Int)
  | decimal (text : String)
  | string (value : String)
  | array (items : List Json)
  | object (fields : List (String × Json))

namespace Json

def asStr : Json → Option String
  | .string value => some value
  | _ => none

def asU64 : Json → Option Nat
  | .integer value => if 0 ≤ value ∧ value < 2 ^ 64 then some value.toNat else none
  | _ => none

def asI64 : Json → Option Int
  | .integer value => if -2 ^ 63 ≤ value ∧ value < 2 ^ 63 then some value else none
  | _ => none

def asArray : Json → Option (List Json)
  | .array items => some items
  | _ => none

def asObject : Json → Option (List (String × Json))
  | .object fields => some fields
  | _ => none

/-- `value.get(key)`: a member of an object. -/
def get (value : Json) (key : String) : Option Json :=
  value.asObject.bind (·.lookup key)

/-- `value[key]`: null when the member is absent. -/
def index (value : Json) (key : String) : Json :=
  (value.get key).getD .null

def isStr (value : Json) (text : String) : Bool :=
  value.asStr == some text

end Json

/-- Map insertion: an existing key keeps its place and takes the new value. -/
def insertField {α : Type} (key : String) (value : α) : List (String × α) → List (String × α)
  | [] => [(key, value)]
  | (k, v) :: rest => if k = key then (key, value) :: rest else (k, v) :: insertField key value rest

@[simp] theorem lookup_insertField_self {α : Type} (key : String) (value : α)
    (fields : List (String × α)) : (insertField key value fields).lookup key = some value := by
  induction fields with
  | nil => simp [insertField]
  | cons entry rest ih =>
    obtain ⟨k, v⟩ := entry
    by_cases h : k = key
    · simp [insertField, h]
    · have hne : (key == k) = false := by simpa using Ne.symm h
      simp [insertField, h, List.lookup_cons, hne, ih]

theorem lookup_insertField_ne {α : Type} {key other : String} (value : α)
    (fields : List (String × α)) (h : other ≠ key) :
    (insertField key value fields).lookup other = fields.lookup other := by
  induction fields with
  | nil => simp [insertField, h]
  | cons entry rest ih =>
    obtain ⟨k, v⟩ := entry
    by_cases hk : k = key
    · subst hk
      have hne : (other == k) = false := by simpa using h
      simp [insertField, List.lookup_cons, hne]
    · simp only [insertField, hk, if_false, List.lookup_cons, ih]

/-- Stable machine-readable error classification. -/
inductive ErrorCode where
  | invalidRequest
  | unsupportedCapability
  | configuration
  | authentication
  | permissionDenied
  | safetyRejected
  | rateLimited
  | overloaded
  | timeout
  | cancelled
  | upstream
  | protocol
  | input
  | artifact
  | session
  | idempotencyConflict
  | internal
  deriving DecidableEq, Repr

/-- Public, redaction-safe error returned by the bridge. -/
structure BridgeError where
  code : ErrorCode
  message : String
  retryable : Bool
  provider : Option String
  upstreamRequestId : Option String
  details : List (String × Json)

abbrev Outcome (α : Type) := Except BridgeError α

namespace Outcome

/-- A guard: `if condition { return Err(error) }`. -/
def failIf (condition : Prop) [Decidable condition] (error : BridgeError) : Outcome Unit :=
  if condition then .error error else .ok ()

variable {α β : Type}

@[simp] theorem failIf_ok (p : Prop) [Decidable p] (e : BridgeError) (u : Unit) :
    failIf p e = .ok u ↔ ¬p := by
  by_cases h : p <;> simp [failIf, h]

@[simp] theorem failIf_error (p : Prop) [Decidable p] (e e' : BridgeError) :
    failIf p e = .error e' ↔ p ∧ e = e' := by
  by_cases h : p <;> simp [failIf, h]

theorem bind_ok {x : Outcome α} {f : α → Outcome β} {b : β} :
    (x >>= f) = .ok b ↔ ∃ a, x = .ok a ∧ f a = .ok b := by
  cases x with
  | error e => simp [bind, Except.bind]
  | ok a => simp [bind, Except.bind]

theorem bind_error {x : Outcome α} {f : α → Outcome β} {e : BridgeError} :
    (x >>= f) = .error e ↔ x = .error e ∨ ∃ a, x = .ok a ∧ f a = .error e := by
  cases x with
  | error e => simp [bind, Except.bind]
  | ok a => simp [bind, Except.bind]

/-- Two computations that agree up to what their continuations keep agree as a whole. -/
theorem map_bind_congr {γ δ : Type} {x y : Outcome α} {f : α → γ} {g : β → δ}
    {k l : α → Outcome β} (agree : x.map f = y.map f)
    (next : ∀ a b, f a = f b → (k a).map g = (l b).map g) : (x >>= k).map g = (y >>= l).map g := by
  cases x with
  | error e =>
    cases y with
    | error e' =>
      cases agree
      rfl
    | ok b => cases agree
  | ok a =>
    cases y with
    | error e' => cases agree
    | ok b => exact next a b (Except.ok.inj agree)

/-- The computation fails with an error of one kind. -/
def Fails (kind : BridgeError → Prop) (x : Outcome α) : Prop := ∃ e, x = .error e ∧ kind e

variable {kind : BridgeError → Prop}

@[simp] theorem fails_ok (a : α) : ¬Fails kind (.ok a : Outcome α) := by simp [Fails]

@[simp] theorem fails_pure (a : α) : ¬Fails kind (pure a : Outcome α) := fails_ok a

@[simp] theorem fails_error (e : BridgeError) : Fails kind (.error e : Outcome α) ↔ kind e := by
  simp [Fails]

@[simp] theorem fails_failIf (p : Prop) [Decidable p] (e : BridgeError) :
    Fails kind (failIf p e) ↔ p ∧ kind e := by
  by_cases h : p <;> simp [failIf, h]

theorem fails_bind {x : Outcome α} {f : α → Outcome β} :
    Fails kind (x >>= f) ↔ Fails kind x ∨ ∃ a, x = .ok a ∧ Fails kind (f a) := by
  cases x with
  | error e => simp [bind, Except.bind]
  | ok a => simp [bind, Except.bind]

/-- A loop fails where its first failing round fails. -/
theorem fails_foldlM {f : β → α → Outcome β} {items : List α} {b : β} :
    Fails kind (items.foldlM f b) ↔ ∃ before item after reached,
      items = before ++ item :: after ∧ before.foldlM f b = .ok reached ∧
        Fails kind (f reached item) := by
  induction items generalizing b with
  | nil =>
    constructor
    · intro failed
      exact absurd failed (fails_ok b)
    · rintro ⟨before, item, after, _, impossible, _⟩
      simp at impossible
  | cons first rest ih =>
    rw [List.foldlM_cons, fails_bind]
    constructor
    · rintro (now | ⟨next, ran, later⟩)
      · exact ⟨[], first, rest, b, rfl, rfl, now⟩
      · obtain ⟨before, item, after, reached, split, through, failed⟩ := ih.mp later
        refine ⟨first :: before, item, after, reached, by rw [split]; rfl, ?_, failed⟩
        rw [List.foldlM_cons, ran]
        exact through
    · rintro ⟨before, item, after, reached, split, through, failed⟩
      cases before with
      | nil =>
        cases split
        cases through
        exact Or.inl failed
      | cons head before =>
        cases split
        rw [List.foldlM_cons, bind_ok] at through
        obtain ⟨next, ran, through⟩ := through
        exact Or.inr ⟨next, ran, ih.mpr ⟨before, item, after, reached, rfl, through, failed⟩⟩

/-- What relates a loop's state to the items it has done relates its result to all of them. -/
theorem foldlM_relates {f : β → α → Outcome β} {R : List α → β → Prop} {items : List α}
    {b result : β} (start : R [] b)
    (step : ∀ before b item b', R before b → f b item = .ok b' → R (before ++ [item]) b')
    (ran : items.foldlM f b = .ok result) : R items result := by
  have onward : ∀ before b, R before b → items.foldlM f b = .ok result →
      R (before ++ items) result := by
    clear start ran
    induction items with
    | nil =>
      intro before b related ran
      cases ran
      simpa using related
    | cons item rest ih =>
      intro before b related ran
      rw [List.foldlM_cons, bind_ok] at ran
      obtain ⟨next, stepped, ran⟩ := ran
      simpa using ih (before ++ [item]) next (step before b item next related stepped) ran
  exact onward [] b start ran

end Outcome

namespace BridgeError

/-- Creates a non-retryable error without provider details. -/
def new (code : ErrorCode) (message : String) : BridgeError :=
  { code, message, retryable := false, provider := none, upstreamRequestId := none, details := [] }

def setRetryable (error : BridgeError) (value : Bool) : BridgeError :=
  { error with retryable := value }

def withProvider (error : BridgeError) (provider : String) : BridgeError :=
  { error with provider := some provider }

def withDetail (error : BridgeError) (key : String) (value : Json) : BridgeError :=
  { error with details := insertField key value error.details }

def detail (error : BridgeError) (key : String) : Option Json :=
  error.details.lookup key

/-- A safety rejection with stable, non-bypass recovery guidance. -/
def safetyRejected (message : String) : BridgeError :=
  (((new .safetyRejected message).withDetail "safety_category" (.string "content_policy")).withDetail
    "recovery" (.string "revise_prompt_or_inputs")).withDetail "retry_same_request" (.bool false)
    |>.withDetail "safety_controls_relaxed" (.bool false)

/-- The test the runtime makes before it retries, falls back or releases a key. -/
def outcomeUnknown (error : BridgeError) : Bool :=
  (error.detail "outcome").bind Json.asStr == some "unknown"

@[simp] theorem new_code (code : ErrorCode) (message : String) : (new code message).code = code := rfl
@[simp] theorem new_retryable (code : ErrorCode) (message : String) :
    (new code message).retryable = false := rfl
@[simp] theorem new_outcome (code : ErrorCode) (message : String) :
    (new code message).outcomeUnknown = false := rfl

@[simp] theorem setRetryable_code (e : BridgeError) (b : Bool) : (e.setRetryable b).code = e.code := rfl
@[simp] theorem setRetryable_retryable (e : BridgeError) (b : Bool) :
    (e.setRetryable b).retryable = b := rfl
@[simp] theorem setRetryable_outcome (e : BridgeError) (b : Bool) :
    (e.setRetryable b).outcomeUnknown = e.outcomeUnknown := rfl

@[simp] theorem withProvider_code (e : BridgeError) (p : String) : (e.withProvider p).code = e.code := rfl
@[simp] theorem withProvider_retryable (e : BridgeError) (p : String) :
    (e.withProvider p).retryable = e.retryable := rfl
@[simp] theorem withProvider_outcome (e : BridgeError) (p : String) :
    (e.withProvider p).outcomeUnknown = e.outcomeUnknown := rfl

@[simp] theorem withDetail_code (e : BridgeError) (k : String) (v : Json) :
    (e.withDetail k v).code = e.code := rfl
@[simp] theorem withDetail_retryable (e : BridgeError) (k : String) (v : Json) :
    (e.withDetail k v).retryable = e.retryable := rfl

@[simp] theorem withDetail_unknown (e : BridgeError) :
    (e.withDetail "outcome" (.string "unknown")).outcomeUnknown = true := by
  simp [outcomeUnknown, detail, withDetail, Json.asStr]

/-- Only the detail `outcome` decides: every other detail leaves the test as it was. -/
theorem withDetail_outcome_ne (e : BridgeError) {k : String} (v : Json) (h : k ≠ "outcome") :
    (e.withDetail k v).outcomeUnknown = e.outcomeUnknown := by
  simp only [outcomeUnknown, detail, withDetail, lookup_insertField_ne v e.details (Ne.symm h)]

end BridgeError

end ImagegenBridge
