import ImagegenBridge.CodexResponses.Listening

/-!
# What becomes of paid images and of unknown outcomes

The error of a call is read by two policies. The provider makes another attempt after some
of them, and the runtime takes another route unless the error says that the outcome is
unknown.
-/

namespace ImagegenBridge.CodexResponses

open Batch Orchestrator

variable {config : CallConfig}

/-- The events that are heard in an attempt. -/
def attemptEvents (config : CallConfig) : Attempt → List Json
  | .streamed stream => eventsOf config.parse (listen config stream).1
  | _ => []

/-- The whole stream of the attempt was taken. -/
def ReadToEnd (config : CallConfig) : Attempt → Prop
  | .streamed stream => ∃ state, (listen config stream).2 = .finished state
  | _ => False

/-- A stream that carries a final image and whose last failure invites another attempt. -/
def PaidFailure (config : CallConfig) (attempt : Attempt) : Prop :=
  ReadToEnd config attempt ∧ finalImages (attemptEvents config attempt) ≠ [] ∧
    ∃ error, lastFailure (attemptEvents config attempt) = some error ∧
      safeTransientRetry error = true

/-- The upstream told how the attempt ended. -/
def Reported (config : CallConfig) : Attempt → Prop
  | .refused _ => True
  | attempt => ∃ event ∈ attemptEvents config attempt, Terminal event

/-- The stream of the attempt could not be taken at some place. -/
def Broken (config : CallConfig) : Attempt → Prop
  | .streamed stream => (listen config stream).2 = .unreadable
  | _ => False

/-- A stream that ends before the upstream tells how the response ended, or cannot be read
so far. -/
def Untold (config : CallConfig) (attempt : Attempt) : Prop :=
  (∀ event ∈ attemptEvents config attempt, ¬ Terminal event) ∧
    (ReadToEnd config attempt ∨ Broken config attempt)

/-! ## The result of a finished stream -/

theorem lastFailure_eq_none {events : List Json} :
    lastFailure events = none ↔ ∀ event ∈ events, ¬ ReportsFailure event := by
  unfold lastFailure
  rw [Option.map_eq_none_iff, List.getLast?_eq_none_iff, List.filter_eq_nil_iff]
  simp

/-- The result is the one final image, of a response that completes without a failure. -/
theorem finish_ok_iff {events : List Json} {state : EventState} (tells : Tells events state)
    (image : String) :
    (∃ result, state.finish = .ok result ∧ result.b64Json = image) ↔
      (∃ event ∈ events, Completes event) ∧ (∀ event ∈ events, ¬ ReportsFailure event) ∧
        ∀ other, other ∈ finalImages events ↔ other = image := by
  rw [← tells.completed, ← lastFailure_eq_none, ← tells.failure]
  have final : state.finalImage = some image ↔
      ∀ other, other ∈ finalImages events ↔ other = image := by
    constructor
    · intro there other
      constructor
      · intro among
        exact Option.some.inj ((tells.held.every other among).symm.trans there)
      · rintro rfl
        exact tells.held.one other there
    · intro only
      exact tells.held.every image ((only image).mpr rfl)
  rw [← final]
  unfold EventState.finish
  cases state.failure with
  | some error => simp
  | none =>
    cases completed : state.completed with
    | false => simp
    | true => cases state.finalImage <;> simp

theorem finish_error_cases {state : EventState} {error : BridgeError}
    (failed : state.finish = .error error) :
    state.failure = some error ∨
      (state.failure = none ∧ state.completed = false ∧ Unreadable error) ∨
      (state.failure = none ∧ state.completed = true ∧ state.finalImage = none) := by
  unfold EventState.finish at failed
  split at failed
  · rename_i reported
    cases failed
    exact .inl reported
  · rename_i sound
    split_ifs at failed with unfinished
    · cases failed
      exact .inr (.inl ⟨sound, by simpa using unfinished, _, rfl⟩)
    · split at failed
      · rename_i missing
        exact .inr (.inr ⟨sound, by simpa using unfinished, missing⟩)
      · cases failed

/-! ## Attempts that are made again -/

theorem Stops.not_retried {error : BridgeError} {stop : Stop} (stops : Stops error stop) :
    safeTransientRetry error = false := by
  unfold safeTransientRetry
  cases stop with
  | unreadable => simp [Unreadable.retryable stops]
  | disconnected =>
    obtain rfl : error = consumerGone := stops
    rfl
  | interrupted => simp [stops.1]
  | finished state => exact stops.elim

/-- A stream fails where reading stops, or finishes without a result. -/
theorem stream_fails {stream : ResponseStream} {error : BridgeError}
    (failed : consumeStream config stream = .error error) :
    Stops error (listen config stream).2 ∨
      ∃ state, (listen config stream).2 = .finished state ∧ state.finish = .error error ∧
        Tells (eventsOf config.parse (listen config stream).1) state := by
  have listens := @consumeStream_listens config stream
  cases stop : (listen config stream).2 with
  | finished state =>
    rw [stop] at listens
    exact .inr ⟨state, rfl, listens.1.symm.trans failed, listens.2⟩
  | unreadable | disconnected | interrupted =>
    rw [stop] at listens
    obtain ⟨e, same, stops⟩ := listens
    obtain rfl := Except.error.inj (same.symm.trans failed)
    exact .inl stops

/-- An attempt is made again after a final image exactly if its stream carries one and ends
in a failure that invites it. -/
theorem paidFailure_iff (attempt : Attempt) :
    (finalImages (attemptEvents config attempt) ≠ [] ∧
      ∃ error, callOnce config attempt = .error error ∧ safeTransientRetry error = true) ↔
    PaidFailure config attempt := by
  cases attempt with
  | streamed stream =>
    constructor
    · rintro ⟨paid, error, failed, retried⟩
      rcases stream_fails failed with stops | ⟨state, finished, fails, tells⟩
      · rw [stops.not_retried] at retried
        cases retried
      · refine ⟨⟨state, finished⟩, paid, error, ?_, retried⟩
        rcases finish_error_cases fails with reported | ⟨_, _, unreadable⟩ | ⟨_, _, missing⟩
        · exact tells.failure.symm.trans reported
        · simp [safeTransientRetry, unreadable.retryable] at retried
        · obtain ⟨image, among⟩ := List.exists_mem_of_ne_nil _ paid
          rw [tells.held.every image among] at missing
          cases missing
    · rintro ⟨⟨state, finished⟩, paid, error, last, retried⟩
      have listens := @consumeStream_listens config stream
      rw [finished] at listens
      obtain ⟨same, tells⟩ := listens
      refine ⟨paid, error, ?_, retried⟩
      have reported : state.failure = some error := tells.failure.trans last
      show consumeStream config stream = .error error
      rw [same, EventState.finish, reported]
  | _ => simp [PaidFailure, attemptEvents, finalImages, ReadToEnd]

/-- Every attempt but the last one failed with an error that invites another. -/
theorem attemptsFrom_retries (world : CallWorld) (left : Nat) {attempt i : Nat} (first : attempt ≤ i)
    (later : i < (attemptsFrom config world attempt left).attempts) :
    ∃ error, callOnce config (world.attempt i) = .error error ∧
      safeTransientRetry error = true := by
  induction left generalizing attempt with
  | zero =>
    simp only [attemptsFrom] at later
    omega
  | succ left ih =>
    rw [attemptsFrom] at later
    split at later
    · simp only at later
      omega
    · rename_i error failed
      split_ifs at later with again short cancelled
      · simp only at later
        omega
      · simp only at later
        omega
      · by_cases here : i = attempt
        · rw [here]
          exact ⟨error, failed, again.2⟩
        · exact ih (by omega) later
      · simp only at later
        omega

/-- A call that has attempts left starts the next one. -/
theorem attemptsFrom_first (config : CallConfig) (world : CallWorld) (attempt left : Nat) :
    attempt ≤ (attemptsFrom config world attempt (left + 1)).attempts := by
  induction left generalizing attempt with
  | zero =>
    rw [attemptsFrom]
    split
    · exact Nat.le_refl _
    · split_ifs <;> simp_all
  | succ left ih =>
    rw [attemptsFrom]
    split
    · exact Nat.le_refl _
    · split_ifs
      · exact Nat.le_refl _
      · exact Nat.le_refl _
      · exact Nat.le_of_succ_le (ih (attempt + 1))
      · exact Nat.le_refl _

/-- The state after the texts of a stream. -/
def interpret (config : CallConfig) (heard : List String) : Outcome EventState :=
  heard.foldlM (fun state data =>
    (processEvent config.parse data state config.maxBase64Chars).map Prod.fst) {}

theorem interpret_tells {heard : List String} {state : EventState}
    (read : interpret config heard = .ok state) : Tells (eventsOf config.parse heard) state := by
  refine Outcome.foldlM_relates (R := fun heard state => Tells (eventsOf config.parse heard) state)
    tells_nil ?_ read
  intro before state data next tells step
  cases processed : processEvent config.parse data state config.maxBase64Chars with
  | error e =>
    rw [processed] at step
    cases step
  | ok result =>
    obtain ⟨after, image⟩ := result
    rw [processed] at step
    cases step
    exact processEvent_tells processed tells

/-- No attempt follows one that captured a final image, unless its stream ended in a failure
that invites it; then one does, if any is left. A stream has a result exactly if the
response completes without a failure and one final image, which is the result. -/
theorem retry_discards_image_iff (config : CallConfig) :
    (∀ world : CallWorld, (∀ i, ¬ PaidFailure config (world.attempt i)) →
      ∀ i, 1 ≤ i → i < (callResilient config world).attempts →
        finalImages (attemptEvents config (world.attempt i)) = []) ∧
    (∀ attempt, PaidFailure config attempt → 2 ≤ config.maxTransientAttempts →
      ∃ world : CallWorld, world.attempt 1 = attempt ∧ 1 < (callResilient config world).attempts ∧
        finalImages (attemptEvents config (world.attempt 1)) ≠ []) ∧
    ∀ heard state, interpret config heard = .ok state → ∀ image,
      (∃ result, state.finish = .ok result ∧ result.b64Json = image) ↔
        (∃ event ∈ eventsOf config.parse heard, Completes event) ∧
        (∀ event ∈ eventsOf config.parse heard, ¬ ReportsFailure event) ∧
        ∀ other, other ∈ finalImages (eventsOf config.parse heard) ↔ other = image := by
  refine ⟨?_, ?_, fun heard state read image => finish_ok_iff (interpret_tells read) image⟩
  · intro world sound i first later
    by_contra paid
    obtain ⟨error, failed, retried⟩ := attemptsFrom_retries world _ first later
    exact sound i ((paidFailure_iff _).mp ⟨paid, error, failed, retried⟩)
  · intro attempt paid many
    obtain ⟨images, error, failed, retried⟩ := (paidFailure_iff attempt).mpr paid
    let pause : Pause := ⟨retryDelay config 1 + 1, false⟩
    refine ⟨⟨fun _ => attempt, fun _ => pause⟩, rfl, ?_, images⟩
    obtain ⟨left, enough⟩ : ∃ left, config.maxTransientAttempts = left + 1 + 1 :=
      ⟨config.maxTransientAttempts - 2, by omega⟩
    have more : ¬ pause.remaining ≤ retryDelay config 1 := by
      simp only [pause]
      omega
    have again := attemptsFrom_first config ⟨fun _ => attempt, fun _ => pause⟩ 2 left
    have starts : attemptsFrom config ⟨fun _ => attempt, fun _ => pause⟩ 1 (left + 1 + 1) =
        attemptsFrom config ⟨fun _ => attempt, fun _ => pause⟩ 2 (left + 1) := by
      rw [attemptsFrom, failed]
      simp [retried, more, pause]
    unfold callResilient
    rw [enough, starts]
    omega

/-- The events of an image that is paid, and of a failure after it. -/
def paidText : String :=
  "\x7b\"type\":\"response.output_item.done\",\"item\":\x7b\"type\":\"image_generation_call\",\"result\":\"aW1hZ2U=\"\x7d\x7d"

def overloadedText : String := "\x7b\"type\":\"error\",\"code\":\"server_error\"\x7d"

def parseSample (text : String) : Option Json :=
  if text = paidText then
    some (.object [("type", .string "response.output_item.done"),
      ("item", .object [("type", .string "image_generation_call"), ("result", .string "aW1hZ2U=")])])
  else if text = overloadedText then
    some (.object [("type", .string "error"), ("code", .string "server_error")])
  else none

def sampleCalls : CallConfig where
  parse := parseSample
  sseLimits := .default
  maxBase64Chars := 64
  maxTransientAttempts := 2
  transientRetryBackoff := 0

def streamOf (texts : List String) : ResponseStream where
  chunks := texts.map fun text => ("data: " ++ text ++ "\n\n").toUTF8.toList
  ending := .ended
  consumer := none

def everyAttempt (attempt : Attempt) : CallWorld := ⟨fun _ => attempt, fun _ => ⟨1, false⟩⟩

/-- An image that was delivered is paid once more after a late failure. -/
theorem paid_image_discarded :
    (callResilient sampleCalls (everyAttempt (.streamed (streamOf [paidText, overloadedText])))).attempts
        = 2 ∧
      finalImages (attemptEvents sampleCalls (.streamed (streamOf [paidText, overloadedText]))) =
        ["aW1hZ2U="] := by
  decide +kernel

/-! ## Unknown outcomes -/

theorem reported_of_terminal {stream : ResponseStream}
    (told : ∃ event ∈ eventsOf config.parse (listen config stream).1, Terminal event) :
    Reported config (.streamed stream) := told

/-- A failure of a finished stream was reported, or the stream ended without a word. -/
theorem Tells.reported {events : List Json} {state : EventState} {error : BridgeError}
    (tells : Tells events state) (fails : state.finish = .error error) :
    (∃ event ∈ events, Terminal event) ∨ Unreadable error := by
  rcases finish_error_cases fails with reported | ⟨_, _, unreadable⟩ | ⟨_, completed, _⟩
  · left
    by_contra silent
    push Not at silent
    have none_reported : lastFailure events = none :=
      lastFailure_eq_none.mpr fun event among fails => silent event among (.inr fails)
    rw [← tells.failure, reported] at none_reported
    cases none_reported
  · exact .inr unreadable
  · obtain ⟨event, among, completes⟩ := tells.completed.mp completed
    exact .inl ⟨event, among, .inl completes⟩

theorem Unreadable.not_reports {error : BridgeError} (unreadable : Unreadable error) :
    ¬ ReportsUnknown error := by
  unfold ReportsUnknown interrupts
  simp [unreadable.known, unreadable.code]

/-- The upstream told the end of every attempt that is made again. -/
theorem retried_reported {attempt : Attempt} {error : BridgeError} (handed : attempt.handed = true)
    (failed : callOnce config attempt = .error error) (retried : safeTransientRetry error = true) :
    Reported config attempt := by
  cases attempt with
  | noCredentials | tooLate => cases handed
  | cancelled =>
    cases failed
    cases retried
  | transport timeout =>
    cases failed
    simp [safeTransientRetry, httpTransportError, postDispatchUnknown] at retried
  | refused status => trivial
  | streamed stream =>
    rcases stream_fails failed with stops | ⟨state, _, fails, tells⟩
    · rw [stops.not_retried] at retried
      cases retried
    · rcases tells.reported fails with told | unreadable
      · exact told
      · simp [safeTransientRetry, unreadable.retryable] at retried

/-- Reading that was interrupted reports the unknown outcome. -/
theorem Stops.reports {error : BridgeError} {stop : Stop} (stops : Stops error stop)
    (readable : stop ≠ .unreadable) : ReportsUnknown error := by
  unfold ReportsUnknown
  cases stop with
  | unreadable => exact absurd rfl readable
  | disconnected =>
    obtain rfl : error = consumerGone := stops
    rfl
  | interrupted => simp [stops.1, stops.2]
  | finished state => exact stops.elim

/-- The error of an attempt that was handed over reports the unknown outcome, or the
upstream told it, exactly if the attempt is not left untold. -/
theorem attempt_reported_iff {attempt : Attempt} {error : BridgeError}
    (handed : attempt.handed = true) (failed : callOnce config attempt = .error error) :
    Reported config attempt ∨ ReportsUnknown error ↔ ¬ Untold config attempt := by
  cases attempt with
  | noCredentials | tooLate => cases handed
  | cancelled =>
    cases failed
    simp [Untold, ReadToEnd, Broken, ReportsUnknown, interrupts]
  | transport timeout =>
    cases failed
    simp [Untold, ReadToEnd, Broken, ReportsUnknown, httpTransportError, postDispatchUnknown]
  | refused status => simp [Untold, ReadToEnd, Broken, Reported]
  | streamed stream =>
    have finished := stream_fails failed
    constructor
    · rintro (⟨event, among, terminal⟩ | reports) ⟨silent, stopped⟩
      · exact silent event among terminal
      · rcases finished with stops | ⟨state, _, fails, tells⟩
        · rcases stopped with ⟨state, there⟩ | there
          · rw [there] at stops
            exact stops
          · rw [show (listen config stream).2 = .unreadable from there] at stops
            exact Unreadable.not_reports stops reports
        · rcases tells.reported fails with ⟨event, among, terminal⟩ | unreadable
          · exact silent event among terminal
          · exact unreadable.not_reports reports
    · intro told
      by_contra lost
      push Not at lost
      obtain ⟨unheard, silent⟩ := lost
      apply told
      refine ⟨fun event among terminal => unheard ⟨event, among, terminal⟩, ?_⟩
      rcases finished with stops | ⟨state, there, _, _⟩
      · by_cases unreadable : (listen config stream).2 = .unreadable
        · exact .inr unreadable
        · exact absurd (stops.reports unreadable) silent
      · exact .inl ⟨state, there⟩

/-- What a result is read from is told by the upstream. -/
theorem result_reported {attempt : Attempt} {result : CallResult}
    (succeeded : callOnce config attempt = .ok result) : Reported config attempt := by
  cases attempt with
  | noCredentials | tooLate | cancelled | transport => cases succeeded
  | refused status => trivial
  | streamed stream =>
    have listens := @consumeStream_listens config stream
    have read : consumeStream config stream = .ok result := succeeded
    cases stop : (listen config stream).2 with
    | finished state =>
      rw [stop] at listens
      obtain ⟨same, tells⟩ := listens
      have finished : state.finish = .ok result := same.symm.trans read
      obtain ⟨⟨event, among, completes⟩, _⟩ :=
        (finish_ok_iff tells result.b64Json).mp ⟨result, finished, rfl⟩
      exact ⟨event, among, .inl completes⟩
    | unreadable | disconnected | interrupted =>
      rw [stop] at listens
      obtain ⟨e, fails, _⟩ := listens
      rw [read] at fails
      cases fails

theorem Reported.not_untold {attempt : Attempt} (reported : Reported config attempt) :
    ¬ Untold config attempt := by
  rintro ⟨silent, stopped⟩
  cases attempt with
  | refused status => rcases stopped with stopped | stopped <;> exact stopped
  | noCredentials | tooLate | cancelled | transport | streamed =>
    obtain ⟨event, among, terminal⟩ := reported
    exact silent event among terminal

/-- How a call ends after its last attempt. -/
def EndsAfter (config : CallConfig) (world : CallWorld) (call : FinishedCall) : Prop :=
  (∃ result, callOnce config (world.attempt call.attempts) = .ok result) ∨
    ∃ error, callOnce config (world.attempt call.attempts) = .error error ∧
      (call.result = .error (withAttempts error call.attempts) ∨
        safeTransientRetry error = true ∧ call.result = .error (retryCancelled call.attempts))

/-- A call ends with the result or the error of its last attempt, or is cancelled in the
pause after it. -/
theorem attemptsFrom_ends (world : CallWorld) (left attempt : Nat) :
    EndsAfter config world (attemptsFrom config world attempt (left + 1)) := by
  induction left generalizing attempt with
  | zero =>
    rw [attemptsFrom]
    split
    · rename_i result succeeded
      exact .inl ⟨result, succeeded⟩
    · rename_i error failed
      rw [if_neg (by simp)]
      exact .inr ⟨error, failed, .inl rfl⟩
  | succ left ih =>
    rw [attemptsFrom]
    split
    · rename_i result succeeded
      exact .inl ⟨result, succeeded⟩
    · rename_i error failed
      split_ifs with again
      · exact .inr ⟨error, failed, .inl rfl⟩
      · exact .inr ⟨error, failed, .inr ⟨again.2, rfl⟩⟩
      · exact ih (attempt + 1)
      · exact .inr ⟨error, failed, .inl rfl⟩

theorem reportsUnknown_withAttempts (error : BridgeError) (attempt : Nat) :
    ReportsUnknown (withAttempts error attempt) ↔ ReportsUnknown error := by
  have same : (withAttempts error attempt).outcomeUnknown = error.outcomeUnknown :=
    BridgeError.withDetail_outcome_ne error _ (by decide)
  unfold ReportsUnknown
  rw [same]
  rfl

theorem reportsUnknown_retryCancelled (attempt : Nat) : ReportsUnknown (retryCancelled attempt) := by
  unfold retryCancelled
  rw [reportsUnknown_withAttempts]
  simp [ReportsUnknown, interrupts]

theorem Untold.handed {attempt : Attempt} (untold : Untold config attempt) :
    attempt.handed = true := by
  cases attempt with
  | streamed stream => rfl
  | noCredentials | tooLate | cancelled | transport | refused =>
    rcases untold.2 with stopped | stopped <;> exact stopped.elim

/-- An attempt of a call that was handed over is told by the upstream, or the call reports
that its outcome is unknown, so that no other route is taken, exactly if no attempt is left
untold. -/
theorem unknown_outcome_reported_iff (config : CallConfig) (world : CallWorld) :
    (∀ i, 1 ≤ i → i ≤ (callResilient config world).attempts →
      (world.attempt i).handed = true → Reported config (world.attempt i) ∨
        Dominated (callResilient config world).result) ↔
    ∀ i, 1 ≤ i → i ≤ (callResilient config world).attempts →
      ¬ Untold config (world.attempt i) := by
  have retries := fun i => @attemptsFrom_retries config world config.maxTransientAttempts 1 i
  have ends := fun left => @attemptsFrom_ends config world left 1
  unfold callResilient
  cases many : config.maxTransientAttempts with
  | zero =>
    have none_made : (attemptsFrom config world 1 0).attempts = 0 := rfl
    rw [none_made]
    constructor <;> intro _ i first last <;> omega
  | succ left =>
    rw [many] at retries
    specialize ends left
    generalize attemptsFrom config world 1 (left + 1) = call at retries ends ⊢
    constructor
    · intro reports i first last untold
      have unreported : ¬ Reported config (world.attempt i) := fun told => told.not_untold untold
      have dominated := (reports i first last untold.handed).resolve_left unreported
      rcases Nat.lt_or_ge i call.attempts with before | after
      · obtain ⟨error, failed, retried⟩ := retries i first before
        exact unreported (retried_reported untold.handed failed retried)
      · obtain rfl : i = call.attempts := Nat.le_antisymm last after
        rcases ends with ⟨result, succeeded⟩ | ⟨error, failed, result | ⟨retried, _⟩⟩
        · exact unreported (result_reported succeeded)
        · rw [result, dominated_error, reportsUnknown_withAttempts] at dominated
          exact (attempt_reported_iff untold.handed failed).mp (.inr dominated) untold
        · exact unreported (retried_reported untold.handed failed retried)
    · intro told i first last handed
      rcases Nat.lt_or_ge i call.attempts with before | after
      · obtain ⟨error, failed, retried⟩ := retries i first before
        exact .inl (retried_reported handed failed retried)
      · obtain rfl : i = call.attempts := Nat.le_antisymm last after
        rcases ends with ⟨result, succeeded⟩ | ⟨error, failed, result | ⟨_, result⟩⟩
        · exact .inl (result_reported succeeded)
        · rw [result, dominated_error, reportsUnknown_withAttempts]
          exact (attempt_reported_iff handed failed).mpr (told _ first last)
        · rw [result, dominated_error]
          exact .inr (reportsUnknown_retryCancelled _)

/-- The runtime takes the next route after a result. -/
def takesNextRoute (result : Outcome CallResult) : Bool :=
  match classifyProviderExecutionResult result with
  | .ok _ => false
  | .error error => !error.outcomeUnknown && shouldFallback error .onError

/-- A stream that breaks off after an image and before its response completes passes for a
known failure, and the next route is taken. -/
theorem truncated_stream_unreported :
    finalImages (attemptEvents sampleCalls (.streamed (streamOf [paidText]))) = ["aW1hZ2U="] ∧
      (∀ event ∈ attemptEvents sampleCalls (.streamed (streamOf [paidText])), ¬ Terminal event) ∧
      takesNextRoute
        (callResilient sampleCalls (everyAttempt (.streamed (streamOf [paidText])))).result =
          true := by
  decide +kernel

end ImagegenBridge.CodexResponses
