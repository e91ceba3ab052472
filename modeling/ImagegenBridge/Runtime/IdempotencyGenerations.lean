import ImagegenBridge.Runtime.IdempotencyAccounting

/-!
# Generations of one idempotency key

Each pending entry opens a channel of its own, so the channel's number names the
generation. Tokens carry only key and fingerprint; the generation a token was
handed out for is recorded here beside it.
-/

namespace ImagegenBridge.Idempotency

open AssocTotals IdempotencyState

/-- What a leader tells the coordinator about its operation. -/
inductive Report where
  | completed (response : ImageResponse)
  | failed (error : BridgeError)

/-- An outstanding token and the generation it was handed out for. -/
structure Held (Fingerprint : Type) where
  token : IdempotencyToken Fingerprint
  generation : Nat

structure System (Fingerprint : Type) where
  coordinator : IdempotencyState Fingerprint
  held : List (Held Fingerprint)
  reports : Nat → Option Report
  followers : List Nat

inductive Event (Fingerprint : Type) where
  | begin (now : Nat) (scope key : String) (request : ImageRequest)
  | complete (now : Nat) (holder : Held Fingerprint) (response : ImageResponse)
  | fail (now : Nat) (holder : Held Fingerprint) (error : BridgeError)

variable {Fingerprint : Type} [DecidableEq Fingerprint]

namespace System

def initial : System Fingerprint :=
  ⟨Idempotency.initial, [], fun _ => none, []⟩

/-- A caller keeps its token or its receiver; a leader's channel is the next free one. -/
def began (s : System Fingerprint)
    (result : Outcome (IdempotencyAction Fingerprint) × IdempotencyState Fingerprint) :
    System Fingerprint :=
  match result.1 with
  | .ok (.leader token) =>
    { s with coordinator := result.2, held := ⟨token, s.coordinator.nextSender⟩ :: s.held }
  | .ok (.wait receiver) =>
    { s with coordinator := result.2, followers := receiver :: s.followers }
  | .ok (.cached _) | .error _ => { s with coordinator := result.2 }

/-- A settled token is gone, and its generation has its one report. -/
def settled (s : System Fingerprint) (holder : Held Fingerprint) (report : Report)
    (coordinator : IdempotencyState Fingerprint) : System Fingerprint :=
  { s with
    coordinator
    held := s.held.filter (fun other => other.generation != holder.generation)
    reports := fun g => if g = holder.generation then some report else s.reports g }

end System

/-- Begins, completions and failures in any order; each token is settled once at most. -/
inductive Step (codec : Codec Fingerprint) (config : IdempotencyConfig) :
    System Fingerprint → Event Fingerprint → System Fingerprint → Prop
  | begin (s : System Fingerprint) (now : Nat) (scope key : String) (request : ImageRequest) :
      Step codec config s (.begin now scope key request)
        (s.began (begin codec config now scope key request s.coordinator))
  | complete (s : System Fingerprint) (now : Nat) (holder : Held Fingerprint)
      (response : ImageResponse) (outstanding : holder ∈ s.held) :
      Step codec config s (.complete now holder response)
        (s.settled holder (.completed response)
          (complete codec config now holder.token response s.coordinator))
  | fail (s : System Fingerprint) (now : Nat) (holder : Held Fingerprint) (error : BridgeError)
      (outstanding : holder ∈ s.held) :
      Step codec config s (.fail now holder error)
        (s.settled holder (.failed error) (fail config now holder.token error s.coordinator))

/-- The entry a token was handed out for is still live. -/
def OwnLive (s : System Fingerprint) (holder : Held Fingerprint) : Prop :=
  ∃ entry, s.coordinator.entries.lookup holder.token.recordKey = some entry ∧
    entry.sender = holder.generation

/-- A settled token finds its own entry, or no entry of its fingerprint. -/
def Undisturbing (s : System Fingerprint) : Event Fingerprint → Prop
  | .begin .. => True
  | .complete _ holder _ | .fail _ holder _ =>
    OwnLive s holder ∨ ∀ entry, ¬Matches s.coordinator holder.token entry

/-- The outcomes a report may leave on a channel. A response may turn out too
large to replay. -/
def Report.Leaves : Report → EntryOutcome → Prop
  | .completed response, outcome =>
    outcome = .completed response ∨ outcome = .unknown unreplayableError
  | .failed error, outcome =>
    outcome = if error.outcomeUnknown then .unknown (unknownError error) else .failed error

/-- What followers of a generation can observe: nothing yet, its expiry, or what
its own leader reported. -/
def Honest (s : System Fingerprint) (g : Nat) : Prop :=
  s.coordinator.channels g = .pending ∨ s.coordinator.channels g = .failed expiryError ∨
    ∃ report, s.reports g = some report ∧ report.Leaves (s.coordinator.channels g)

/-- A token whose entry was removed settles without any effect. -/
def Isolated (s : System Fingerprint) (event : Event Fingerprint) (s' : System Fingerprint) : Prop :=
  match event with
  | .begin .. => True
  | .complete _ holder _ | .fail _ holder _ =>
    ¬OwnLive s holder → s'.coordinator = s.coordinator

variable {codec : Codec Fingerprint} {config : IdempotencyConfig}

section Coordinator

variable {c : IdempotencyState Fingerprint}

omit [DecidableEq Fingerprint] in
/-- Entering announces expiries and nothing else. -/
theorem enter_channels (c : IdempotencyState Fingerprint) (config : IdempotencyConfig) (now g : Nat) :
    (c.enter config now).channels g = c.channels g ∨
      (c.enter config now).channels g = .failed expiryError := by
  have kept : ∀ g, (c.cleanup now config.inFlightTtl).channels g = c.channels g ∨
      (c.cleanup now config.inFlightTtl).channels g = .failed expiryError := by
    refine cleanup_invariant (P := fun t => ∀ g, t.channels g = c.channels g ∨
      t.channels g = .failed expiryError) ?_ ?_ now config.inFlightTtl (fun g => Or.inl rfl)
    · intro t k held g
      rw [remove_channels]
      exact held g
    · intro t sender held g
      unfold send
      simp only
      split
      · exact Or.inr rfl
      · exact held g
  exact kept g

omit [DecidableEq Fingerprint] in
theorem enter_nextSender (c : IdempotencyState Fingerprint) (config : IdempotencyConfig) (now : Nat) :
    (c.enter config now).nextSender = c.nextSender :=
  cleanup_invariant (P := fun t => t.nextSender = c.nextSender)
    (fun t k held => by rw [remove_nextSender, held]) (fun t g held => held) now config.inFlightTtl rfl

omit [DecidableEq Fingerprint] in
theorem makeCapacity_same {maximum : Nat} {roomy : IdempotencyState Fingerprint}
    (room : c.makeCapacity maximum = .ok roomy) :
    roomy.channels = c.channels ∧ roomy.nextSender = c.nextSender := by
  obtain ⟨rfl, _⟩ | ⟨key, _, rfl, _⟩ := makeCapacity_ok room
  · exact ⟨rfl, rfl⟩
  · exact ⟨remove_channels c key, remove_nextSender c key⟩

/-- A begin leaves every channel as it was, expires it, or opens it as pending;
it opens a channel exactly when it elects a leader. -/
theorem begin_channels (codec : Codec Fingerprint) (config : IdempotencyConfig)
    (c : IdempotencyState Fingerprint) (now : Nat) (scope key : String) (request : ImageRequest) :
    let result := begin codec config now scope key request c
    (∀ g, result.2.channels g = c.channels g ∨ result.2.channels g = .failed expiryError ∨
      result.2.channels g = .pending) ∧
    (∀ token, result.1 = .ok (.leader token) → result.2.nextSender = c.nextSender + 1) ∧
    c.nextSender ≤ result.2.nextSender := by
  have entered := enter_channels c config now
  have sender := enter_nextSender c config now
  unfold begin
  split
  · exact ⟨fun g => Or.inl rfl, (fun _ impossible => nomatch impossible), Nat.le_refl _⟩
  · exact ⟨fun g => Or.inl rfl, (fun _ impossible => nomatch impossible), Nat.le_refl _⟩
  · unfold beginLocked
    simp only
    have same : ∀ g, (c.enter config now).channels g = c.channels g ∨
        (c.enter config now).channels g = .failed expiryError ∨
        (c.enter config now).channels g = .pending :=
      fun g => (entered g).elim Or.inl (fun expired => Or.inr (Or.inl expired))
    split
    · rename_i entry found
      split
      · exact ⟨same, (fun _ impossible => nomatch impossible), Nat.le_of_eq sender.symm⟩
      · refine ⟨same, ?_, Nat.le_of_eq sender.symm⟩
        intro token led
        unfold answer at led
        split at led <;> cases led
    · split
      · exact ⟨same, (fun _ impossible => nomatch impossible), Nat.le_of_eq sender.symm⟩
      · rename_i roomy room
        obtain ⟨channels, next⟩ := makeCapacity_same room
        have opened : roomy.nextSender + 1 = c.nextSender + 1 := by rw [next, sender]
        refine ⟨?_, fun _ _ => opened, Nat.le_trans (Nat.le_succ _) (Nat.le_of_eq opened.symm)⟩
        intro g
        unfold insertPending send
        simp only [put_channels]
        split
        · exact Or.inr (Or.inr rfl)
        · rw [channels]
          exact same g

end Coordinator

/-! ## Clean runs -/

/-- What a clean run keeps. -/
structure Valid (s : System Fingerprint) : Prop where
  honest : ∀ g, Honest s g
  unreported : ∀ holder ∈ s.held, s.reports holder.generation = none
  opened : ∀ holder ∈ s.held, holder.generation < s.coordinator.nextSender
  unopened : ∀ g, s.coordinator.nextSender ≤ g → s.reports g = none

omit [DecidableEq Fingerprint] in
theorem initial_valid : Valid (System.initial : System Fingerprint) where
  honest := fun _ => Or.inl rfl
  unreported := fun _ impossible => nomatch impossible
  opened := fun _ impossible => nomatch impossible
  unopened := fun _ _ => rfl

variable {s s' : System Fingerprint} {event : Event Fingerprint}

theorem begin_valid (now : Nat) (scope key : String) (request : ImageRequest) (valid : Valid s) :
    Valid (s.began (begin codec config now scope key request s.coordinator)) := by
  obtain ⟨channels, leads, grows⟩ := begin_channels codec config s.coordinator now scope key
    request
  generalize begin codec config now scope key request s.coordinator = result at *
  obtain ⟨action, after⟩ := result
  have honest : ∀ g, after.channels g = .pending ∨ after.channels g = .failed expiryError ∨
      ∃ report, s.reports g = some report ∧ report.Leaves (after.channels g) := by
    intro g
    obtain same | expired | pending := channels g
    · simp only at same
      rw [same]
      exact valid.honest g
    · exact Or.inr (Or.inl expired)
    · exact Or.inl pending
  have unopened : ∀ g, after.nextSender ≤ g → s.reports g = none :=
    fun g beyond => valid.unopened g (Nat.le_trans grows beyond)
  have opened : ∀ holder ∈ s.held, holder.generation < after.nextSender :=
    fun holder member => Nat.lt_of_lt_of_le (valid.opened holder member) grows
  obtain error | ⟨token | response | receiver⟩ := action
  · exact ⟨honest, valid.unreported, opened, unopened⟩
  · have next : after.nextSender = s.coordinator.nextSender + 1 := leads token rfl
    refine ⟨honest, ?_, ?_, unopened⟩
    · intro holder member
      obtain rfl | held := List.mem_cons.mp member
      · exact valid.unopened _ (Nat.le_refl _)
      · exact valid.unreported holder held
    · intro holder member
      obtain rfl | held := List.mem_cons.mp member
      · show s.coordinator.nextSender < after.nextSender
        rw [next]
        exact Nat.lt_succ_self _
      · exact opened holder held
  · exact ⟨honest, valid.unreported, opened, unopened⟩
  · exact ⟨honest, valid.unreported, opened, unopened⟩

/-- What a settlement does to the channels: nothing, or the report on the
matching entry's channel. -/
def Announces (s : IdempotencyState Fingerprint) (token : IdempotencyToken Fingerprint)
    (report : Report) (s' : IdempotencyState Fingerprint) : Prop :=
  s'.nextSender = s.nextSender ∧
    (((∀ entry, ¬Matches s token entry) ∧ s' = s) ∨
      ∃ entry, Matches s token entry ∧ (∀ g, g ≠ entry.sender → s'.channels g = s.channels g) ∧
        report.Leaves (s'.channels entry.sender))

theorem complete_announces (codec : Codec Fingerprint) (config : IdempotencyConfig)
    (c : IdempotencyState Fingerprint) (now : Nat) (token : IdempotencyToken Fingerprint)
    (response : ImageResponse) :
    Announces c token (.completed response) (complete codec config now token response c) := by
  rcases complete_cases (P := fun _ => True) token (fun _ _ _ _ => trivial) now response trivial
      with ⟨unmatched, same⟩ | ⟨entry, reserved, matched, _, still, outcome⟩
  · exact ⟨by rw [same], Or.inl ⟨unmatched, same⟩⟩
  · have sent : ∀ (t : IdempotencyState Fingerprint) (o : EntryOutcome),
        t.channels = c.channels → ∀ g, g ≠ entry.sender →
          (t.send entry.sender o).channels g = c.channels g := by
      intro t o same g other
      simp [send, other, same]
    obtain unreplayable | ⟨_, recorded⟩ := outcome
    · rw [unreplayable]
      refine ⟨still.nextSender, Or.inr ⟨entry, matched, sent _ _ still.channels, ?_⟩⟩
      simp [settleUnreplayable, send, Report.Leaves]
    · rw [recorded]
      refine ⟨still.nextSender, Or.inr ⟨entry, matched, sent _ _ still.channels, ?_⟩⟩
      simp [settleCompleted, send, Report.Leaves]

theorem fail_announces (config : IdempotencyConfig) (c : IdempotencyState Fingerprint) (now : Nat)
    (token : IdempotencyToken Fingerprint) (error : BridgeError) :
    Announces c token (.failed error) (fail config now token error c) := by
  rcases fail_cases now token error
      with ⟨unmatched, same⟩ | ⟨entry, matched, ⟨unknown, kept⟩ | ⟨known, freed⟩⟩
  · exact ⟨by rw [same], Or.inl ⟨unmatched, same⟩⟩
  · rw [kept]
    refine ⟨rfl, Or.inr ⟨entry, matched, ?_, ?_⟩⟩
    · intro g other
      simp [send, other]
    · simp [send, Report.Leaves, unknown]
  · rw [freed]
    refine ⟨remove_nextSender c _, Or.inr ⟨entry, matched, ?_, ?_⟩⟩
    · intro g other
      simp [send, other]
    · simp [send, Report.Leaves, known]

omit [DecidableEq Fingerprint] in
/-- A settlement that meets its own entry or none keeps every generation honest. -/
theorem settle_valid {holder : Held Fingerprint} {report : Report}
    {after : IdempotencyState Fingerprint} (valid : Valid s) (outstanding : holder ∈ s.held)
    (announces : Announces s.coordinator holder.token report after)
    (undisturbing : OwnLive s holder ∨ ∀ entry, ¬Matches s.coordinator holder.token entry) :
    Valid (s.settled holder report after) := by
  obtain ⟨sender, effect⟩ := announces
  have unreported := valid.unreported holder outstanding
  have opened := valid.opened holder outstanding
  refine ⟨?_, ?_, ?_, ?_⟩
  · intro g
    unfold Honest System.settled
    simp only
    obtain ⟨_, same⟩ | ⟨entry, matched, others, leaves⟩ := effect
    · rw [same]
      by_cases own : g = holder.generation
      · subst own
        obtain pending | expired | ⟨earlier, reported, _⟩ := valid.honest holder.generation
        · exact Or.inl pending
        · exact Or.inr (Or.inl expired)
        · rw [unreported] at reported
          cases reported
      · simpa [own, Honest] using valid.honest g
    · have own : entry.sender = holder.generation := by
        obtain ⟨live, found, sender⟩ | unmatched := undisturbing
        · rw [matched.1] at found
          cases found
          exact sender
        · exact absurd matched (unmatched entry)
      by_cases same : g = holder.generation
      · subst same
        rw [← own]
        exact Or.inr (Or.inr ⟨report, by simp, leaves⟩)
      · rw [others g (by rw [own]; exact same)]
        simpa [same, Honest] using valid.honest g
  · intro other member
    obtain ⟨held, distinct⟩ := List.mem_filter.mp member
    simp only [bne_iff_ne, ne_eq] at distinct
    simp only [System.settled, distinct, if_false]
    exact valid.unreported other held
  · intro other member
    simp only [System.settled, sender]
    exact valid.opened other (List.mem_filter.mp member).1
  · intro g beyond
    simp only [System.settled, sender] at beyond ⊢
    have distinct : g ≠ holder.generation := by omega
    simp only [distinct, if_false]
    exact valid.unopened g beyond

theorem step_valid (step : Step codec config s event s') (clean : Undisturbing s event)
    (valid : Valid s) : Valid s' := by
  cases step with
  | begin now scope key request => exact begin_valid now scope key request valid
  | complete now holder response outstanding =>
    exact settle_valid valid outstanding
      (complete_announces codec config s.coordinator now _ response) clean
  | fail now holder error outstanding =>
    exact settle_valid valid outstanding (fail_announces config s.coordinator now _ error) clean

/-- A token that meets no entry of its fingerprint changes nothing at all. -/
theorem step_isolated (step : Step codec config s event s') (clean : Undisturbing s event) :
    Isolated s event s' := by
  cases step with
  | begin => trivial
  | complete now holder response outstanding =>
    intro removed
    rcases complete_announces codec config s.coordinator now holder.token
        response with ⟨_, ⟨_, same⟩ | ⟨entry, matched, _⟩⟩
    · exact same
    · exact absurd matched ((clean.resolve_left removed) entry)
  | fail now holder error outstanding =>
    intro removed
    rcases fail_announces config s.coordinator now holder.token error
        with ⟨_, ⟨_, same⟩ | ⟨entry, matched, _⟩⟩
    · exact same
    · exact absurd matched ((clean.resolve_left removed) entry)

inductive GenerationRun (codec : Codec Fingerprint) (config : IdempotencyConfig) :
    System Fingerprint → Prop
  | initial : GenerationRun codec config System.initial
  | step {s s' : System Fingerprint} {event : Event Fingerprint} : GenerationRun codec config s →
      Step codec config s event s' → GenerationRun codec config s'

/-- A run in which every settled token finds its own entry or none of its fingerprint. -/
inductive CleanGenerationRun (codec : Codec Fingerprint) (config : IdempotencyConfig) :
    System Fingerprint → Prop
  | initial : CleanGenerationRun codec config System.initial
  | step {s s' : System Fingerprint} {event : Event Fingerprint} :
      CleanGenerationRun codec config s → Step codec config s event s' → Undisturbing s event →
        CleanGenerationRun codec config s'

theorem reachable_valid (run : CleanGenerationRun codec config s) : Valid s := by
  induction run with
  | initial => exact initial_valid
  | step _ step clean ih => exact step_valid step clean ih

/-- Along a clean run every generation shows only its own leader's report or its
own expiry, and a token whose entry is gone has no effect. -/
theorem generations_isolated (run : CleanGenerationRun codec config s) : (∀ g, Honest s g) ∧
    ∀ event s', Step codec config s event s' → Undisturbing s event → Isolated s event s' :=
  ⟨(reachable_valid run).honest, fun _ _ step clean => step_isolated step clean⟩

/-- A stale token that meets a pending successor always decides it. -/
theorem stale_completion_decides {c : IdempotencyState Fingerprint} {entry : Entry Fingerprint}
    {token : IdempotencyToken Fingerprint} (matched : Matches c token entry) (now : Nat)
    (response : ImageResponse) :
    (complete codec config now token response c).channels entry.sender ≠ .pending := by
  rcases complete_announces codec config c now token response
      with ⟨_, ⟨unmatched, _⟩ | ⟨other, found, _, leaves⟩⟩
  · exact absurd matched (unmatched entry)
  · have same : other = entry := Option.some.inj (found.1.symm.trans matched.1)
    subst same
    rcases leaves with decided | decided <;> simp [decided]

section LateToken

def oldHolder : Held Unit := ⟨plainToken, 0⟩

/-- Two generations of one key, both tokens outstanding. -/
def twoGenerations : System Unit :=
  ⟨secondLeader, [⟨plainToken, 1⟩, oldHolder], fun _ => none, []⟩

theorem twoGenerations_reachable : CleanGenerationRun plainCodec {} twoGenerations :=
  .step (.step .initial (.begin _ 0 "scope" "key" lighthouse) trivial)
    (.begin _ (31 * 60) "scope" "key" lighthouse) trivial

/-- The first leader's late response becomes the outcome of the second generation,
whose own leader has reported nothing. -/
theorem late_token_decides_successor : ∃ s s' : System Unit, GenerationRun plainCodec {} s ∧
    Step plainCodec {} s (.complete (31 * 60 + 1) oldHolder plainResponse) s' ∧
    ¬OwnLive s oldHolder ∧ s.coordinator.channels 1 = .pending ∧ s'.reports 1 = none ∧
    s'.coordinator.channels 1 = .completed plainResponse ∧ ¬Honest s' 1 := by
  have reachable : GenerationRun plainCodec {} twoGenerations :=
    .step (.step .initial (.begin _ 0 "scope" "key" lighthouse))
      (.begin _ (31 * 60) "scope" "key" lighthouse)
  refine ⟨twoGenerations, _, reachable, .complete _ _ oldHolder plainResponse (by
    exact List.mem_cons_of_mem _ (List.mem_singleton.mpr rfl)), ?_, rfl, rfl, rfl, ?_⟩
  · rintro ⟨entry, found, own⟩
    cases found
    exact absurd own (by decide)
  · rintro (pending | expired | ⟨report, reported, _⟩)
    · cases pending
    · cases expired
    · cases reported

/-- The second leader settles its own generation. -/
def ownSettled : System Unit :=
  twoGenerations.settled ⟨plainToken, 1⟩ (.completed plainResponse)
    (complete plainCodec {} (31 * 60 + 1) plainToken plainResponse secondLeader)

theorem own_settlement_isolated : (∀ g, Honest ownSettled g) ∧
    ∀ event s', Step plainCodec {} ownSettled event s' → Undisturbing ownSettled event →
      Isolated ownSettled event s' := by
  have settles : Step plainCodec {} twoGenerations
      (.complete (31 * 60 + 1) ⟨plainToken, 1⟩ plainResponse) ownSettled :=
    .complete _ _ _ _ (List.mem_cons_self ..)
  have own : OwnLive twoGenerations ⟨plainToken, 1⟩ := ⟨_, rfl, rfl⟩
  exact generations_isolated (.step twoGenerations_reachable settles (Or.inl own))

end LateToken

end ImagegenBridge.Idempotency
