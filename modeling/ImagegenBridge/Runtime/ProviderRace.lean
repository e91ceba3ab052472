import ImagegenBridge.Runtime.IdempotencyAccounting
import ImagegenBridge.Runtime.Policy

/-!
# The race for a provider's result

`await_provider_execution`, one wake-up of its task at a time. What a wake-up finds ready is
the environment's choice, and so is the branch a `select!` polls first.
-/

namespace ImagegenBridge.Orchestrator

open Idempotency

/-- The branches of the `select!`, as they are written. -/
inductive Branch where
  | provider | external | shutdown | deadline
  deriving DecidableEq, Repr

/-- One poll goes through all branches from a random one on. -/
def Branch.order : Branch → List Branch
  | .provider => [.provider, .external, .shutdown, .deadline]
  | .external => [.external, .shutdown, .deadline, .provider]
  | .shutdown => [.shutdown, .deadline, .provider, .external]
  | .deadline => [.deadline, .provider, .external, .shutdown]

/-- What one wake-up finds: the answer of the future if it is polled, the tokens, the timers of
the deadline and of the cancellation grace, and where the random order starts. -/
structure Wake (α : Type) where
  provider : Option (Outcome α) := none
  external : Bool := false
  shutdown : Bool := false
  deadline : Bool := false
  grace : Bool := false
  first : Branch := .provider

namespace Wake

variable {α : Type}

def ready (w : Wake α) : Branch → Bool
  | .provider => w.provider.isSome
  | .external => w.external
  | .shutdown => w.shutdown
  | .deadline => w.deadline

/-- The branch that completes the `select!`. -/
def winner (w : Wake α) : Option Branch := w.first.order.find? w.ready

/-- No branch before the future is ready. -/
def polls (w : Wake α) : Bool :=
  (w.first.order.takeWhile (· ≠ .provider)).all fun branch => !w.ready branch

theorem polls_of_winner {w : Wake α} (won : w.winner = some .provider) : w.polls = true := by
  obtain ⟨_, before, after, order, unready⟩ := List.find?_eq_some_iff_append.mp won
  have skipped : w.first.order.takeWhile (· ≠ .provider) = before := by
    have distinct : w.first.order.Nodup := by cases w.first <;> decide
    rw [order] at distinct ⊢
    have earlier : .provider ∉ before := fun present =>
      (List.nodup_append.mp distinct).2.2 _ present _ (List.mem_cons_self ..) rfl
    rw [List.takeWhile_append_of_pos]
    · simp
    · intro branch present
      have other : branch ≠ .provider := by
        rintro rfl
        exact earlier present
      simpa using other
  unfold polls
  rw [skipped]
  simpa using unready

end Wake

inductive WaitPhase (α : Type) where
  | selecting
  | grace (interruption : Interruption)
  | done (result : Outcome α)

structure Race (α : Type) where
  phase : WaitPhase α
  /-- The provider's future was polled. -/
  polled : Bool
  /-- The operation's token was cancelled. -/
  cancelled : Bool

namespace Race

variable {α : Type}

/-- The check of the deadline before the first poll. -/
def enter (elapsed : Bool) : Race α :=
  if elapsed then ⟨.done (.error timeoutError), false, true⟩ else ⟨.selecting, false, false⟩

def interrupt (interruption : Interruption) (polled : Bool) : Race α :=
  ⟨.grace interruption, polled, true⟩

/-- `tokio::time::timeout` polls its future before its timer. -/
def awaitGrace (interruption : Interruption) (w : Wake α) : WaitPhase α :=
  match w.provider with
  | some (.ok value) => .done (.ok value)
  | some (.error e) =>
    if interrupts e then .done (.error (interruptedError interruption)) else .done (.error e)
  | none => if w.grace then .done (.error (interruptedError interruption)) else .grace interruption

def wake (race : Race α) (w : Wake α) : Race α :=
  match race.phase with
  | .done _ => race
  | .grace interruption => ⟨awaitGrace interruption w, true, race.cancelled⟩
  | .selecting =>
    let polled := race.polled || w.polls
    match w.winner, w.provider with
    | some .external, _ => interrupt .cancelled polled
    | some .shutdown, _ => interrupt .shutdown polled
    | some .deadline, _ => interrupt .deadline polled
    | some .provider, some result =>
      ⟨.done (classifyProviderExecutionResult result), polled, race.cancelled⟩
    | _, _ => { race with polled }

end Race

/-- `await_provider_execution` after some wake-ups. -/
def raceProvider {α : Type} (elapsed : Bool) (wakes : List (Wake α)) : Race α :=
  wakes.foldl Race.wake (Race.enter elapsed)

/-- What follows from an error that may hide a paid result: it stays unknown everywhere. -/
structure KeepsUnknown (config : IdempotencyConfig) (e : BridgeError) : Prop where
  outcome : e.outcomeUnknown = true
  final : e.retryable = false
  routes : ∀ policy, shouldFallback e policy = false
  tombstone : ∀ (Fingerprint : Type) [DecidableEq Fingerprint] (c : IdempotencyState Fingerprint)
    (now : Nat) (token : IdempotencyToken Fingerprint) (entry : Entry Fingerprint),
    Matches c token entry → ∃ kept told,
      (fail config now token e c).entries.lookup token.recordKey = some kept ∧
      kept.uncertain = true ∧ kept.expiresAt = some (now + config.unknownTtl) ∧
      (fail config now token e c).channels kept.sender = .unknown told ∧
      told.code = e.code ∧ told.outcomeUnknown = true ∧ told.retryable = false

/-- What is promised once the future was polled. -/
structure PostDispatch {α : Type} (config : IdempotencyConfig) (elapsed : Bool)
    (wakes : List (Wake α)) : Prop where
  unknown : ∀ e, (raceProvider elapsed wakes).phase = .done (.error e) →
    (raceProvider elapsed wakes).polled = true → interrupts e = true → KeepsUnknown config e
  value : ∀ before w after interruption value, wakes = before ++ w :: after →
    (raceProvider elapsed before).phase = .grace interruption → w.provider = some (.ok value) →
      (raceProvider elapsed wakes).phase = .done (.ok value)
  failure : ∀ before w after interruption e, wakes = before ++ w :: after →
    (raceProvider elapsed before).phase = .grace interruption → w.provider = some (.error e) →
      interrupts e = false → (raceProvider elapsed wakes).phase = .done (.error e)

/-- No interruption comes first, and the future answers with a timeout or a cancellation that it
already calls unknown, and retryable. -/
def RelaysRetryable {α : Type} (elapsed : Bool) (wakes : List (Wake α)) : Prop :=
  elapsed = false ∧ ∃ before w after e, wakes = before ++ w :: after ∧
    (∀ earlier ∈ before, earlier.winner = none) ∧ w.winner = some .provider ∧
    w.provider = some (.error e) ∧ interrupts e = true ∧ e.outcomeUnknown = true ∧
    e.retryable = true

section

variable {α : Type} {config : IdempotencyConfig} {elapsed : Bool} {wakes before after : List (Wake α)}
  {race : Race α} {w : Wake α} {result : Outcome α} {interruption : Interruption} {e : BridgeError}

/-! ## Errors with an unknown outcome -/

theorem fail_tombstone {Fingerprint : Type} [DecidableEq Fingerprint]
    {c : IdempotencyState Fingerprint} {token : IdempotencyToken Fingerprint}
    {entry : Entry Fingerprint} (now : Nat) (unknown : e.outcomeUnknown = true)
    (matched : Matches c token entry) : ∃ kept told,
      (fail config now token e c).entries.lookup token.recordKey = some kept ∧
      kept.uncertain = true ∧ kept.expiresAt = some (now + config.unknownTtl) ∧
      (fail config now token e c).channels kept.sender = .unknown told ∧
      told.code = e.code ∧ told.outcomeUnknown = true ∧ told.retryable = false := by
  obtain ⟨absent, _⟩ | ⟨found, held, ⟨_, failed⟩ | ⟨known, _⟩⟩ := @fail_cases _ _ config _ now token e
  · exact absurd matched (absent entry)
  · rw [failed]
    refine ⟨{ found with expiresAt := some (now + config.unknownTtl), uncertain := true },
      unknownError e, by simp, rfl, rfl, by simp [IdempotencyState.send], ?_⟩
    simp [unknownError]
  · rw [unknown] at known
    cases known

theorem keepsUnknown (unknown : e.outcomeUnknown = true) (final : e.retryable = false) :
    KeepsUnknown config e where
  outcome := unknown
  final := final
  routes := fun policy => unknown_never_falls_back policy unknown
  tombstone := fun _ _ _ now _ _ matched => fail_tombstone now unknown matched

theorem interruptedError_final (interruption : Interruption) :
    (interruptedError interruption).retryable = false := by
  cases interruption <;> rfl

theorem interrupted_keepsUnknown (interruption : Interruption) :
    KeepsUnknown config (interruptedError interruption) :=
  keepsUnknown (interruptedError_unknown interruption) (interruptedError_final interruption)

/-! ## Runs of the race -/

/-- A call that has ended stays as it is. -/
theorem wakes_done (done : race.phase = .done result) (wakes : List (Wake α)) :
    wakes.foldl Race.wake race = race := by
  induction wakes with
  | nil => rfl
  | cons w rest ih =>
    have same : race.wake w = race := by
      unfold Race.wake
      rw [done]
    rw [List.foldl_cons, same]
    exact ih

theorem raceProvider_append (before after : List (Wake α)) :
    raceProvider elapsed (before ++ after) = after.foldl Race.wake (raceProvider elapsed before) :=
  List.foldl_append ..

/-- A wake-up within the grace that ends the call decides its result. -/
theorem graced (waiting : (raceProvider elapsed before).phase = .grace interruption)
    (decided : Race.awaitGrace interruption w = .done result) :
    (raceProvider elapsed (before ++ w :: after)).phase = .done result := by
  have ended : ((raceProvider elapsed before).wake w).phase = .done result := by
    unfold Race.wake
    rw [waiting]
    exact decided
  rw [raceProvider_append, List.foldl_cons, wakes_done ended]
  exact ended

/-- A wake-up within the grace waits on, or ends the call as `awaitProviderExecution` has it. -/
theorem awaitGrace_cases (interruption : Interruption) (w : Wake α) :
    Race.awaitGrace interruption w = .grace interruption ∨ ∃ late,
      Race.awaitGrace interruption w =
        .done (awaitProviderExecution (.interrupted interruption late)) := by
  unfold Race.awaitGrace
  cases w.provider with
  | none =>
    cases w.grace with
    | false => exact Or.inl rfl
    | true => exact Or.inr ⟨none, rfl⟩
  | some answer =>
    right
    refine ⟨some answer, ?_⟩
    cases answer with
    | ok value => rfl
    | error e => simp only [awaitProviderExecution]; split <;> rfl

theorem grace_ends (waiting : race.phase = .grace interruption)
    (ended : (wakes.foldl Race.wake race).phase = .done result) :
    ∃ late, result = awaitProviderExecution (.interrupted interruption late) := by
  induction wakes generalizing race with
  | nil =>
    rw [List.foldl_nil, waiting] at ended
    cases ended
  | cons w rest ih =>
    have woken : (race.wake w).phase = Race.awaitGrace interruption w := by
      unfold Race.wake
      rw [waiting]
    obtain longer | ⟨late, settled⟩ := awaitGrace_cases interruption w
    · exact ih (woken.trans longer) ended
    · rw [List.foldl_cons, wakes_done (woken.trans settled), woken, settled] at ended
      cases ended
      exact ⟨late, rfl⟩

/-- What one wake-up makes of a call that still selects. -/
theorem selecting_cases (selecting : race.phase = .selecting) (w : Wake α) :
    (w.winner = none ∧ (race.wake w).phase = .selecting) ∨
    (∃ answer, w.winner = some .provider ∧ w.provider = some answer ∧
      (race.wake w).phase = .done (classifyProviderExecutionResult answer) ∧
      (race.wake w).polled = true) ∨
    ∃ interruption, w.winner ≠ none ∧ w.winner ≠ some .provider ∧
      (race.wake w).phase = .grace interruption := by
  unfold Race.wake
  rw [selecting]
  cases won : w.winner with
  | none => exact Or.inl ⟨rfl, rfl⟩
  | some branch =>
    right
    cases branch with
    | external => exact Or.inr ⟨.cancelled, by simp, by simp, rfl⟩
    | shutdown => exact Or.inr ⟨.shutdown, by simp, by simp, rfl⟩
    | deadline => exact Or.inr ⟨.deadline, by simp, by simp, rfl⟩
    | provider =>
      have ready : w.ready .provider = true := List.find?_some won
      obtain ⟨answer, answered⟩ := Option.isSome_iff_exists.mp ready
      refine Or.inl ⟨answer, rfl, answered, ?_⟩
      rw [answered]
      exact ⟨rfl, by simp [Wake.polls_of_winner won]⟩

/-- The future answers before any interruption. -/
def Answers (wakes : List (Wake α)) (answer : Outcome α) : Prop :=
  ∃ before w after, wakes = before ++ w :: after ∧ (∀ earlier ∈ before, earlier.winner = none) ∧
    w.winner = some .provider ∧ w.provider = some answer

theorem select_ends (selecting : race.phase = .selecting)
    (ended : (wakes.foldl Race.wake race).phase = .done result) :
    (∃ answer, Answers wakes answer ∧ result = classifyProviderExecutionResult answer) ∨
      ∃ interruption late, result = awaitProviderExecution (.interrupted interruption late) := by
  induction wakes generalizing race with
  | nil =>
    rw [List.foldl_nil, selecting] at ended
    cases ended
  | cons w rest ih =>
    obtain ⟨quiet, still⟩ | ⟨answer, won, answered, settled, _⟩ | ⟨interruption, _, _, waiting⟩ :=
      selecting_cases selecting w
    · obtain ⟨answer, ⟨before, v, after, split, earlier, won, answered⟩, same⟩ | interrupted :=
        ih still ended
      · refine Or.inl ⟨answer, ⟨w :: before, v, after, by rw [split]; rfl, ?_, won, answered⟩, same⟩
        intro other among
        obtain rfl | later := List.mem_cons.mp among
        · exact quiet
        · exact earlier other later
      · exact Or.inr interrupted
    · rw [List.foldl_cons, wakes_done settled, settled] at ended
      cases ended
      exact Or.inl ⟨answer, ⟨[], w, rest, rfl, by simp, won, answered⟩, rfl⟩
    · exact Or.inr ⟨interruption, grace_ends waiting ended⟩

theorem quiet_selects (selecting : race.phase = .selecting)
    (quiet : ∀ w ∈ wakes, w.winner = none) : (wakes.foldl Race.wake race).phase = .selecting := by
  induction wakes generalizing race with
  | nil => exact selecting
  | cons w rest ih =>
    have unready : w.winner = none := quiet w (List.mem_cons_self ..)
    obtain ⟨_, still⟩ | ⟨_, won, _⟩ | ⟨_, won, _⟩ := selecting_cases selecting w
    · exact ih still fun v among => quiet v (List.mem_cons_of_mem w among)
    · rw [unready] at won
      cases won
    · exact absurd unready won

/-- Every run that ends has an end of `awaitProviderExecution`. -/
theorem race_refines (ended : (raceProvider elapsed wakes).phase = .done result) :
    ∃ finish, result = awaitProviderExecution finish := by
  cases elapsed with
  | true =>
    rw [raceProvider, wakes_done rfl] at ended
    cases ended
    exact ⟨.elapsed, rfl⟩
  | false =>
    obtain ⟨answer, _, same⟩ | ⟨interruption, late, same⟩ := select_ends rfl ended
    · exact ⟨.finished answer, same⟩
    · exact ⟨.interrupted interruption late, same⟩

/-! ## What is promised -/

/-- An interrupted call ends in an interruption only with an error of its own. -/
theorem interrupted_error {late : Option (Outcome α)} (interrupted : interrupts e = true)
    (ended : awaitProviderExecution (.interrupted interruption late) = .error e) :
    e = interruptedError interruption := by
  cases late with
  | none =>
    cases ended
    rfl
  | some answer =>
    cases answer with
    | ok value => cases ended
    | error original =>
      simp only [awaitProviderExecution] at ended
      split at ended
      · cases ended
        rfl
      · rename_i own
        cases ended
        exact absurd interrupted own

/-- Only an error that says so itself stays retryable. -/
theorem classified_retryable {answer : Outcome α} (interrupted : interrupts e = true)
    (classified : classifyProviderExecutionResult answer = .error e)
    (retryable : e.retryable = true) : answer = .error e := by
  cases answer with
  | ok value => cases classified
  | error original =>
    simp only [classifyProviderExecutionResult] at classified
    split at classified
    · cases classified
      simp at retryable
    · cases classified
      rfl

theorem answer_ends {answer : Outcome α} (answers : Answers wakes answer) :
    (raceProvider false wakes).phase = .done (classifyProviderExecutionResult answer) ∧
      (raceProvider false wakes).polled = true := by
  obtain ⟨before, w, after, rfl, quiet, won, answered⟩ := answers
  have selecting : (raceProvider false before).phase = .selecting := quiet_selects rfl quiet
  rw [raceProvider_append, List.foldl_cons]
  obtain ⟨unready, _⟩ | ⟨other, _, answered', settled, polled⟩ | ⟨_, _, other, _⟩ :=
    selecting_cases selecting w
  · rw [won] at unready
    cases unready
  · rw [answered] at answered'
    cases answered'
    rw [wakes_done settled]
    exact ⟨settled, polled⟩
  · exact absurd won other

/-- The outcome of a polled call is kept unknown exactly when no answer that calls itself
unknown and retryable comes before every interruption. -/
theorem post_dispatch_iff (config : IdempotencyConfig) (elapsed : Bool) (wakes : List (Wake α)) :
    PostDispatch config elapsed wakes ↔ ¬RelaysRetryable elapsed wakes := by
  constructor
  · rintro promised ⟨rfl, before, w, after, e, split, quiet, won, answered, interrupted, unknown,
      retryable⟩
    obtain ⟨ended, polled⟩ := answer_ends ⟨before, w, after, split, quiet, won, answered⟩
    have relayed : classifyProviderExecutionResult (α := α) (.error e) = .error e := by
      simp [classifyProviderExecutionResult, unknown]
    rw [relayed] at ended
    have final := (promised.unknown e ended polled interrupted).final
    rw [retryable] at final
    cases final
  · intro avoids
    refine ⟨?_, ?_, ?_⟩
    · intro e ended polled interrupted
      cases elapsed with
      | true =>
        rw [raceProvider, wakes_done rfl] at polled
        cases polled
      | false =>
        obtain ⟨answer, answers, same⟩ | ⟨interruption, late, same⟩ := select_ends rfl ended
        · refine keepsUnknown (classified_interrupts same.symm interrupted) ?_
          by_contra kept
          have retryable : e.retryable = true := by simpa using kept
          have relayed := classified_retryable interrupted same.symm retryable
          obtain ⟨before, w, after, split, quiet, won, answered⟩ := answers
          exact avoids ⟨rfl, before, w, after, e, split, quiet, won, by rw [answered, relayed],
            interrupted, classified_interrupts same.symm interrupted, retryable⟩
        · rw [interrupted_error interrupted same.symm]
          exact interrupted_keepsUnknown interruption
    · rintro before w after interruption value rfl waiting answered
      exact graced waiting (by simp [Race.awaitGrace, answered])
    · rintro before w after interruption e rfl waiting answered own
      exact graced waiting (by simp [Race.awaitGrace, answered, own])

end

/-- A timeout that its provider calls unknown and retryable. -/
def retryableTimeout : BridgeError :=
  ((BridgeError.new .timeout "provider result is uncertain").setRetryable true).withDetail "outcome"
    (.string "unknown")

theorem unknown_timeout_stays_retryable :
    ¬PostDispatch {} false [({ provider := some (.error retryableTimeout) } : Wake ImageResponse)] := by
  intro promised
  have final := (promised.unknown retryableTimeout rfl rfl rfl).final
  cases final

end ImagegenBridge.Orchestrator
