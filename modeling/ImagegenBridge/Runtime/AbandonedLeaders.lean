import ImagegenBridge.Runtime.PaidCalls
import ImagegenBridge.Runtime.PendingEntries

/-!
# Leaders that are dropped

A leader's future may be dropped wherever it awaits; nothing settles its entry
then. The entry stays pending until a `begin` finds it older than the in-flight
lifetime.
-/

namespace ImagegenBridge.Orchestrator

open Idempotency IdempotencyState Materialize Program Snapshot

variable {Fingerprint : Type} [DecidableEq Fingerprint]

/-- Any call, with or without a key. -/
def AnyCall (rt : Runtime) (p : Program (calls Fingerprint) (Outcome ImageResponse)) : Prop :=
  ∃ (request : ImageRequest) (context : ExecutionContext), p = (executeWith rt request context).run

/-- Operations at any instants. -/
abbrev Unhurried (codec : Codec Fingerprint) (config : IdempotencyConfig) :=
  behavior codec config fun _ _ => True

/-- Operations whose begins come within the in-flight lifetime of one entry. -/
abbrev WithinLifetime (codec : Codec Fingerprint) (config : IdempotencyConfig)
    (entry : Entry Fingerprint) :=
  behavior codec config fun now _ => now - entry.createdAt < config.inFlightTtl

abbrev CallRun (rt : Runtime) (codec : Codec Fingerprint) (config : IdempotencyConfig) :
    Calls Fingerprint → Prop :=
  Pool.Run (AnyCall rt) (Unhurried codec config) Phase.start Shared.initial fun _ _ => True

/-- What a run goes on to while one entry is within its in-flight lifetime. -/
abbrev Continues (rt : Runtime) (codec : Codec Fingerprint) (config : IdempotencyConfig)
    (entry : Entry Fingerprint) : Calls Fingerprint → Calls Fingerprint → Prop :=
  Pool.Path (AnyCall rt) (WithinLifetime codec config entry) Phase.start fun _ _ => True

def anyTerms (rt : Runtime) : Terms where
  careful := False
  admits := fun _ _ => True
  config := rt.materializer.config

omit [DecidableEq Fingerprint] in
theorem anyCall_keeps {rt : Runtime} {p : Program (calls Fingerprint) (Outcome ImageResponse)}
    (any : AnyCall rt p) :
    p.Keeps (callContract Fingerprint (anyTerms rt)) Phase.start fun _ t => HandsFree t := by
  obtain ⟨request, context, rfl⟩ := any
  have kept : Tries (callContract Fingerprint (anyTerms rt)) (executeWith rt request context)
      Phase.start (fun _ t => HandsFree t) (fun _ t => HandsFree t) :=
    executeWith_keeps rfl (fun impossible => impossible.elim) (fun _ _ => trivial)
  apply Keeps.mono kept
  intro result t held
  cases result <;> exact held

omit [DecidableEq Fingerprint] in
theorem any_justifies {rt : Runtime} {b : Behavior (calls Fingerprint) (Shared Fingerprint)} :
    Pool.Justifies (fun _ _ => True) b (callContract Fingerprint (anyTerms rt)) :=
  fun _ _ _ _ _ _ _ _ _ impossible => impossible.elim

variable {rt : Runtime} {codec : Codec Fingerprint} {config : IdempotencyConfig}
  {s s' : View Fingerprint} {event : PoolEvent (calls Fingerprint)} {id : Nat}
  {phase next : Phase Fingerprint} {shared : Shared Fingerprint} {key : RecordKey}
  {entry : Entry Fingerprint}

/-! ## Where calls stand -/

omit [DecidableEq Fingerprint] in
/-- A call that is past its begin keeps its stage or settles. -/
theorem next_stage {terms : Terms} {op : Op Fingerprint} {answer : op.Ans}
    (allowed : (callContract Fingerprint terms).Allow phase op) (past : phase.stage ≠ .fresh) :
    (phase.next op answer).stage = phase.stage ∨ (phase.next op answer).stage = .settled := by
  cases op with
  | begin scope name request => exact absurd allowed.1 past
  | acquireGlobal =>
    left
    show phase.admitted.stage = phase.stage
    unfold Phase.admitted
    cases stage : phase.stage with
    | fresh => exact absurd stage past
    | _ => rfl
  | complete token response => exact Or.inr rfl
  | fail token e => exact Or.inr rfl
  | _ => exact Or.inl rfl

omit [DecidableEq Fingerprint] in
/-- A drop leaves everything but the log of dispatches. -/
theorem abandons_keeps {op : Op Fingerprint} {before after : Shared Fingerprint}
    (abandons : Abandons id op before after) : after.coordinator = before.coordinator ∧
      after.elections = before.elections ∧ after.asks = before.asks := by
  cases op with
  | execute index provider request => rcases abandons with rfl | rfl <;> exact ⟨rfl, rfl, rfl⟩
  | _ =>
    cases abandons
    exact ⟨rfl, rfl, rfl⟩

/-- A call that began a key leads it or is settled; one that dispatched is past its begin. -/
structure Placed (s : View Fingerprint) : Prop where
  asked : ∀ ask ∈ s.shared.asks, ask.caller < s.spawned ∧
    ∀ phase, s.phase ask.caller = some phase → phase.stage = .settled ∨
      ∃ token, phase.stage = .leading token ∧ token.recordKey = ask.key
  dispatched : ∀ d ∈ s.shared.dispatches, d.caller < s.spawned ∧
    ∀ phase, s.phase d.caller = some phase → phase.stage ≠ .fresh

omit [DecidableEq Fingerprint] in
theorem Placed.spawn (placed : Placed s) : Placed (s.spawn Phase.start) where
  asked := by
    intro ask member
    obtain ⟨old, stands⟩ := placed.asked ask member
    refine ⟨Nat.lt_succ_of_lt old, fun ph live => stands ph ?_⟩
    exact (set_other _ _ (Nat.ne_of_lt old)).symm.trans live
  dispatched := by
    intro d member
    obtain ⟨old, stands⟩ := placed.dispatched d member
    refine ⟨Nat.lt_succ_of_lt old, fun ph live => stands ph ?_⟩
    exact (set_other _ _ (Nat.ne_of_lt old)).symm.trans live

omit [DecidableEq Fingerprint] in
/-- A dropped call is not live, so it may have dispatched. -/
theorem Placed.drop (placed : Placed s) (spawned : id < s.spawned)
    (asks : shared.asks = s.shared.asks)
    (dispatched : ∀ d ∈ shared.dispatches, d ∈ s.shared.dispatches ∨ d.caller = id) :
    Placed (s.drop id shared) := by
  have still : ∀ other ph, (s.drop id shared).phase other = some ph →
      other ≠ id ∧ s.phase other = some ph := by
    intro other ph live
    by_cases own : other = id
    · subst own
      simp [Snapshot.drop] at live
    · exact ⟨own, (set_other _ _ own).symm.trans live⟩
  refine ⟨fun ask member => ?_, fun d member => ?_⟩
  · rw [show (s.drop id shared).shared.asks = _ from asks] at member
    obtain ⟨old, stands⟩ := placed.asked ask member
    exact ⟨old, fun ph live => stands ph (still _ _ live).2⟩
  · obtain before | own := dispatched d member
    · obtain ⟨old, stands⟩ := placed.dispatched d before
      exact ⟨old, fun ph live => stands ph (still _ _ live).2⟩
    · exact ⟨own ▸ spawned, fun ph live => absurd own (still _ _ live).1⟩

omit [DecidableEq Fingerprint] in
/-- An exchange keeps every call placed when what it records is. -/
theorem Placed.exchange (placed : Placed s) (spawned : id < s.spawned)
    (live : s.phase id = some phase)
    (moves : phase.stage ≠ .fresh → next.stage = phase.stage ∨ next.stage = .settled)
    (asked : ∀ ask ∈ shared.asks, ask ∈ s.shared.asks ∨ (ask.caller = id ∧
      (next.stage = .settled ∨ ∃ token, next.stage = .leading token ∧ token.recordKey = ask.key)))
    (dispatched : ∀ d ∈ shared.dispatches, d ∈ s.shared.dispatches ∨
      (d.caller = id ∧ phase.stage ≠ .fresh)) : Placed (s.exchange id next shared) where
  asked := by
    intro ask member
    obtain before | ⟨own, stands⟩ := asked ask member
    · obtain ⟨old, stands⟩ := placed.asked ask before
      refine ⟨old, fun ph now => ?_⟩
      by_cases own : ask.caller = id
      · rw [own] at now stands
        simp only [Snapshot.exchange, set_self, Option.some.injEq] at now
        subst now
        obtain settled | ⟨token, leads, of_key⟩ := stands phase live
        · have begun : phase.stage ≠ .fresh := by rw [settled]; simp
          obtain same | done := moves begun
          · exact Or.inl (same.trans settled)
          · exact Or.inl done
        · have begun : phase.stage ≠ .fresh := by rw [leads]; simp
          obtain same | done := moves begun
          · exact Or.inr ⟨token, same.trans leads, of_key⟩
          · exact Or.inl done
      · exact stands ph ((set_other _ _ own).symm.trans now)
    · refine ⟨own ▸ spawned, fun ph now => ?_⟩
      rw [own] at now
      simp only [Snapshot.exchange, set_self, Option.some.injEq] at now
      subst now
      exact stands
  dispatched := by
    have past : phase.stage ≠ .fresh → next.stage ≠ .fresh := by
      intro begun fresh
      obtain same | done := moves begun
      · exact begun (same.symm.trans fresh)
      · rw [done] at fresh
        cases fresh
    intro d member
    have stands : d.caller < s.spawned ∧ ∀ ph, s.phase d.caller = some ph → ph.stage ≠ .fresh := by
      rcases dispatched d member with before | ⟨own, begun⟩
      · exact placed.dispatched d before
      · rw [own]
        exact ⟨spawned, fun ph now => Option.some.inj (live.symm.trans now) ▸ begun⟩
    refine ⟨stands.1, fun ph now => ?_⟩
    by_cases own : d.caller = id
    · rw [own] at now
      simp only [Snapshot.exchange, set_self, Option.some.injEq] at now
      subst now
      exact past (stands.2 phase (own ▸ live))
    · exact stands.2 ph ((set_other _ _ own).symm.trans now)

/-- A begin hands out tokens of its own key only. -/
theorem begin_token {c : IdempotencyState Fingerprint} {now : Nat} {scope name : String}
    {request : ImageRequest} {token : IdempotencyToken Fingerprint}
    (elected : (begin codec config now scope name request c).1 = .ok (.leader token)) :
    token.recordKey = ⟨scope, name⟩ := by
  unfold Idempotency.begin at elected
  split at elected
  · cases elected
  · cases elected
  · unfold beginLocked at elected
    dsimp only at elected
    split at elected
    · split at elected
      · cases elected
      · unfold answer at elected
        dsimp only at elected
        split at elected <;> cases elected
    · split at elected
      · cases elected
      · cases elected
        rfl

theorem step_placed {timely : Nat → IdempotencyState Fingerprint → Prop} (placed : Placed s)
    (wellFormed : s.WellFormed)
    (step : Snapshot.Step (callContract Fingerprint (anyTerms rt)) (behavior codec config timely)
      Phase.start s event s') : Placed s' := by
  cases step with
  | spawn => exact placed.spawn
  | @drop id phase op shared live allowed abandons =>
    have spawned := wellFormed.live_spawned live
    cases op with
    | execute index provider request =>
      rcases abandons with rfl | rfl
      · exact placed.drop spawned rfl fun _ => Or.inl
      · refine placed.drop spawned rfl fun d member => ?_
        rcases List.mem_cons.mp member with rfl | before
        · exact Or.inr rfl
        · exact Or.inl before
    | _ =>
      cases abandons
      exact placed.drop spawned rfl fun _ => Or.inl
  | @exchange id phase op answer shared live allowed expected performs =>
    have spawned := wellFormed.live_spawned live
    have moves : phase.stage ≠ .fresh → (phase.next op answer).stage = phase.stage ∨
        (phase.next op answer).stage = .settled := next_stage allowed
    cases op with
    | begin scope name request =>
      obtain ⟨now, _, rfl, rfl⟩ := performs
      refine placed.exchange spawned live moves (fun ask member => ?_) (fun d member => Or.inl member)
      obtain rfl | before := List.mem_cons.mp member
      · refine Or.inr ⟨rfl, ?_⟩
        show (phase.begun _).stage = .settled ∨ _
        cases answered : (begin codec config now scope name request s.shared.coordinator).1 with
        | error e => exact Or.inl rfl
        | ok action =>
          cases action with
          | leader token => exact Or.inr ⟨token, rfl, begin_token answered⟩
          | cached response => exact Or.inl rfl
          | wait receiver => exact Or.inl rfl
      · exact Or.inl before
    | execute index provider request =>
      cases performs
      refine placed.exchange spawned live moves (fun ask member => Or.inl member) (fun d member => ?_)
      unfold Shared.dispatch at member
      cases answer with
      | elapsed => exact Or.inl member
      | finished result =>
        obtain rfl | before := List.mem_cons.mp member
        · exact Or.inr ⟨rfl, allowed.live.1⟩
        · exact Or.inl before
      | interrupted interruption late =>
        obtain rfl | before := List.mem_cons.mp member
        · exact Or.inr ⟨rfl, allowed.live.1⟩
        · exact Or.inl before
    | complete token response =>
      obtain ⟨now, rfl⟩ := performs
      exact placed.exchange spawned live moves (fun _ => Or.inl) (fun _ => Or.inl)
    | fail token e =>
      obtain ⟨now, rfl⟩ := performs
      exact placed.exchange spawned live moves (fun _ => Or.inl) (fun _ => Or.inl)
    | wait receiver =>
      obtain ⟨_, rfl⟩ := performs
      exact placed.exchange spawned live moves (fun _ => Or.inl) (fun _ => Or.inl)
    | _ =>
      cases performs
      exact placed.exchange spawned live moves (fun _ => Or.inl) (fun _ => Or.inl)

/-! ## Who owns a pending entry -/

/-- A call leads a token, or was dropped while it did. -/
def Owns (s : View Fingerprint) (id : Nat) (token : IdempotencyToken Fingerprint) : Prop :=
  ∃ phase, (s.phase id = some phase ∨ s.dropped id = some phase) ∧ phase.stage = .leading token

def keyToken (key : RecordKey) (entry : Entry Fingerprint) : IdempotencyToken Fingerprint :=
  { recordKey := key, fingerprint := entry.fingerprint }

/-- Every pending entry was opened for a call that leads it or was dropped. -/
def Owned (s : View Fingerprint) : Prop :=
  ∀ key entry, Pending s.shared.coordinator key entry →
    ∃ caller, ⟨caller, keyToken key entry, entry.sender⟩ ∈ s.shared.elections ∧
      Owns s caller (keyToken key entry)

omit [DecidableEq Fingerprint] in
theorem Owned.spawn (owned : Owned s) (wellFormed : s.WellFormed) : Owned (s.spawn Phase.start) := by
  intro key entry pending
  obtain ⟨caller, elected, ph, there, leads⟩ := owned key entry pending
  refine ⟨caller, elected, ph, ?_, leads⟩
  obtain live | gone := there
  · have other : caller ≠ s.spawned := Nat.ne_of_lt (wellFormed.live_spawned live)
    exact Or.inl ((set_other _ _ other).trans live)
  · exact Or.inr gone

omit [DecidableEq Fingerprint] in
theorem Owned.drop (owned : Owned s) (wellFormed : s.WellFormed) (live : s.phase id = some phase)
    (coordinator : shared.coordinator = s.shared.coordinator)
    (elections : shared.elections = s.shared.elections) : Owned (s.drop id shared) := by
  intro key entry pending
  rw [show (s.drop id shared).shared.coordinator = _ from coordinator] at pending
  rw [show (s.drop id shared).shared.elections = _ from elections]
  obtain ⟨caller, elected, ph, there, leads⟩ := owned key entry pending
  refine ⟨caller, elected, ph, ?_, leads⟩
  by_cases own : caller = id
  · subst own
    obtain still | gone := there
    · exact Or.inr ((set_self ..).trans still)
    · rw [wellFormed.exclusive caller ph gone] at live
      cases live
  · obtain still | gone := there
    · exact Or.inl ((set_other _ _ own).trans still)
    · exact Or.inr ((set_other _ _ own).trans gone)

omit [DecidableEq Fingerprint] in
/-- An exchange keeps every pending entry owned: it was pending before and is not
the one the call settles, or it was opened for the call. -/
theorem Owned.exchange (owned : Owned s) (live : s.phase id = some phase)
    (elections : ∀ election ∈ s.shared.elections, election ∈ shared.elections)
    (origin : ∀ key entry, Pending shared.coordinator key entry →
      (∃ before, Pending s.shared.coordinator key before ∧ before.fingerprint = entry.fingerprint ∧
        before.sender = entry.sender ∧
        (phase.stage = .leading (keyToken key entry) → next.stage = phase.stage)) ∨
      (⟨id, keyToken key entry, entry.sender⟩ ∈ shared.elections ∧
        next.stage = .leading (keyToken key entry))) :
    Owned (s.exchange id next shared) := by
  intro key entry pending
  obtain ⟨before, there, fingerprint, sender, keeps⟩ | ⟨elected, leads⟩ := origin key entry pending
  · obtain ⟨caller, elected, ph, stands, leads⟩ := owned key before there
    have same : keyToken key before = keyToken key entry := by
      unfold keyToken
      rw [fingerprint]
    rw [same, sender] at elected
    rw [same] at leads
    refine ⟨caller, elections _ elected, ?_⟩
    by_cases own : caller = id
    · subst own
      obtain still | gone := stands
      · cases live.symm.trans still
        exact ⟨next, Or.inl (set_self ..), (keeps leads).trans leads⟩
      · exact ⟨ph, Or.inr gone, leads⟩
    · refine ⟨ph, ?_, leads⟩
      obtain still | gone := stands
      · exact Or.inl ((set_other _ _ own).trans still)
      · exact Or.inr gone
  · exact ⟨id, elected, next, Or.inl (set_self ..), leads⟩

theorem step_owned {timely : Nat → IdempotencyState Fingerprint → Prop} (owned : Owned s)
    (wellFormed : s.WellFormed)
    (step : Snapshot.Step (callContract Fingerprint (anyTerms rt)) (behavior codec config timely)
      Phase.start s event s') : Owned s' := by
  cases step with
  | spawn => exact owned.spawn wellFormed
  | drop live allowed abandons =>
    obtain ⟨coordinator, elections, _⟩ := abandons_keeps abandons
    exact owned.drop wellFormed live coordinator elections
  | @exchange id phase op answer shared live allowed expected performs =>
    have quiet : (∀ token, phase.stage = .leading token →
        (phase.next op answer).stage = phase.stage) →
        shared.coordinator = s.shared.coordinator → shared.elections = s.shared.elections →
        Owned (s.exchange id (phase.next op answer) shared) := by
      intro keeps coordinator elections
      refine owned.exchange live (fun e member => elections ▸ member) fun key entry pending => ?_
      rw [coordinator] at pending
      exact Or.inl ⟨entry, pending, rfl, rfl, keeps _⟩
    cases op with
    | begin scope name request =>
      obtain ⟨now, _, rfl, rfl⟩ := performs
      refine owned.exchange live (fun e member => ?_) fun key entry pending => ?_
      · unfold Shared.began
        dsimp only
        split
        · exact List.mem_cons_of_mem _ member
        · exact member
      · obtain ⟨before, there, same⟩ | ⟨elected, opened⟩ := begin_pending pending
        · refine Or.inl ⟨before, there, same.1, same.2, fun leads => ?_⟩
          rw [allowed.1] at leads
          cases leads
        · right
          rw [opened]
          unfold Shared.began
          rw [elected]
          exact ⟨List.mem_cons_self .., rfl⟩
    | execute index provider request =>
      cases performs
      exact quiet (fun _ _ => rfl) rfl rfl
    | complete token response =>
      obtain ⟨now, rfl⟩ := performs
      refine owned.exchange live (fun _ member => member) fun key entry pending => ?_
      obtain ⟨before, other⟩ := complete_pending pending
      refine Or.inl ⟨entry, before, rfl, rfl, fun leads => ?_⟩
      exact absurd (Stage.leading.inj (allowed.1.symm.trans leads)) other
    | fail token e =>
      obtain ⟨now, rfl⟩ := performs
      refine owned.exchange live (fun _ member => member) fun key entry pending => ?_
      obtain ⟨before, other⟩ := fail_pending pending
      refine Or.inl ⟨entry, before, rfl, rfl, fun leads => ?_⟩
      exact absurd (Stage.leading.inj (allowed.1.symm.trans leads)) other
    | wait receiver =>
      obtain ⟨_, rfl⟩ := performs
      exact quiet (fun _ _ => rfl) rfl rfl
    | acquireGlobal =>
      cases performs
      exact quiet (fun token leads => congrArg Phase.stage (Phase.admitted_leading leads)) rfl rfl
    | _ =>
      cases performs
      exact quiet (fun _ _ => rfl) rfl rfl

/-! ## Runs -/

/-- What every run keeps. -/
structure Tracked (config : IdempotencyConfig) (s : View Fingerprint) : Prop where
  wellFormed : s.WellFormed
  placed : Placed s
  owned : Owned s
  threaded : Threaded s.shared.coordinator
  bounded : Bounded config s.shared.coordinator

omit [DecidableEq Fingerprint] in
theorem initial_tracked : Tracked config (Snapshot.empty Shared.initial : View Fingerprint) where
  wellFormed := Snapshot.empty_wellFormed _
  placed := ⟨(fun _ impossible => nomatch impossible), (fun _ impossible => nomatch impossible)⟩
  owned := fun _ _ pending => nomatch pending.1
  threaded := initial_threaded
  bounded := ⟨Nat.zero_le _, Nat.zero_le _⟩

/-- Whatever the coordinator answers, it stays threaded and bounded. -/
theorem performs_coordinator {timely : Nat → IdempotencyState Fingerprint → Prop}
    {op : Op Fingerprint} {answer : op.Ans} {before after : Shared Fingerprint}
    (performs : Performs codec config timely id op answer before after)
    (threaded : Threaded before.coordinator) (bounded : Bounded config before.coordinator) :
    Threaded after.coordinator ∧ Bounded config after.coordinator := by
  cases op with
  | begin scope name request =>
    obtain ⟨now, _, _, rfl⟩ := performs
    exact ⟨threaded.begin now scope name request, begin_bounded now scope name request bounded⟩
  | complete token response =>
    obtain ⟨now, rfl⟩ := performs
    exact ⟨threaded.complete now token response, complete_bounded now token response bounded⟩
  | fail token e =>
    obtain ⟨now, rfl⟩ := performs
    exact ⟨threaded.fail now token e, fail_bounded now token e bounded⟩
  | wait receiver =>
    obtain ⟨_, rfl⟩ := performs
    exact ⟨threaded, bounded⟩
  | _ =>
    cases performs
    exact ⟨threaded, bounded⟩

theorem step_tracked {timely : Nat → IdempotencyState Fingerprint → Prop} (tracked : Tracked config s)
    (step : Snapshot.Step (callContract Fingerprint (anyTerms rt)) (behavior codec config timely)
      Phase.start s event s') : Tracked config s' := by
  have coordinator : Threaded s'.shared.coordinator ∧ Bounded config s'.shared.coordinator := by
    cases step with
    | spawn => exact ⟨tracked.threaded, tracked.bounded⟩
    | @drop id _ _ shared _ _ abandons =>
      rw [show (s.drop id shared).shared.coordinator = _ from (abandons_keeps abandons).1]
      exact ⟨tracked.threaded, tracked.bounded⟩
    | exchange live allowed expected performs =>
      exact performs_coordinator performs tracked.threaded tracked.bounded
  exact {
    wellFormed := step.wellFormed tracked.wellFormed
    placed := step_placed tracked.placed tracked.wellFormed step
    owned := step_owned tracked.owned tracked.wellFormed step
    threaded := coordinator.1
    bounded := coordinator.2 }

theorem run_tracked
    (run : Snapshot.Path (callContract Fingerprint (anyTerms rt)) (Unhurried codec config) Phase.start
      (Snapshot.empty Shared.initial) s) : Tracked config s := by
  induction run with
  | here => exact initial_tracked
  | step _ step ih => exact step_tracked ih step

/-! ## An abandoned entry -/

/-- No live call leads the key. -/
def Leaderless (s : View Fingerprint) (key : RecordKey) : Prop :=
  ∀ id phase token, Leads s id phase token → token.recordKey ≠ key

/-- What has become of an abandoned entry: it is still there, nobody was elected for
its key since, and no call that began the key has dispatched since. -/
structure Abandoned (origin : View Fingerprint) (key : RecordKey) (entry : Entry Fingerprint)
    (s : View Fingerprint) : Prop where
  stays : Stays s.shared.coordinator key entry
  leaderless : Leaderless s key
  elections : ∀ election ∈ s.shared.elections, election.token.recordKey = key →
    election ∈ origin.shared.elections
  dispatches : ∃ since, s.shared.dispatches = since ++ origin.shared.dispatches ∧
    ∀ d ∈ since, ∀ ask ∈ s.shared.asks, ask.key = key → ask.caller ≠ d.caller

variable {origin : View Fingerprint}

omit [DecidableEq Fingerprint] in
/-- An exchange that records nothing and hands out no token of the key. -/
theorem Abandoned.quiet (abandoned : Abandoned origin key entry s)
    (leads : ∀ token, next.stage = .leading token → token.recordKey ≠ key)
    (stays : Stays shared.coordinator key entry) (elections : shared.elections = s.shared.elections)
    (dispatches : shared.dispatches = s.shared.dispatches) (asks : shared.asks = s.shared.asks) :
    Abandoned origin key entry (s.exchange id next shared) where
  stays := stays
  leaderless := by
    intro other ph token led
    obtain ⟨_, before⟩ | ⟨_, _, now⟩ := exchange_leads led
    · exact abandoned.leaderless other ph token before
    · exact leads token now
  elections := by
    intro election member
    rw [show (s.exchange id next shared).shared.elections = _ from elections] at member
    exact abandoned.elections election member
  dispatches := by
    obtain ⟨since, log, apart⟩ := abandoned.dispatches
    refine ⟨since, dispatches.trans log, fun d member ask asked => ?_⟩
    rw [show (s.exchange id next shared).shared.asks = _ from asks] at asked
    exact apart d member ask asked

theorem begin_abandoned (tracked : Tracked config s) (abandoned : Abandoned origin key entry s)
    (pending : entry.expiresAt = none) {now : Nat} (live : s.phase id = some phase)
    (fresh : phase.stage = .fresh) (young : now - entry.createdAt < config.inFlightTtl)
    (scope name : String) (request : ImageRequest) :
    let result := begin codec config now scope name request s.shared.coordinator
    Abandoned origin key entry
      (s.exchange id (phase.begun result.1) (s.shared.began id ⟨scope, name⟩ result)) := by
  obtain ⟨stays, own⟩ := begin_stays codec tracked.threaded pending young abandoned.stays
    scope name request
  have tokens : ∀ token, (begin codec config now scope name request s.shared.coordinator).1 =
      .ok (.leader token) → token.recordKey ≠ key := by
    intro token elected of_key
    exact (own ((begin_token elected).symm.trans of_key)).1 token elected
  dsimp only
  refine ⟨stays, ?_, ?_, ?_⟩
  · intro other ph token led
    obtain ⟨_, before⟩ | ⟨_, _, now_leads⟩ := exchange_leads led
    · exact abandoned.leaderless other ph token before
    · unfold Phase.begun at now_leads
      dsimp only at now_leads
      split at now_leads
      · rename_i elected
        cases now_leads
        exact tokens _ elected
      · cases now_leads
  · intro election member of_key
    unfold Snapshot.exchange Shared.began at member
    dsimp only at member
    split at member
    · rename_i token elected
      obtain rfl | before := List.mem_cons.mp member
      · exact absurd of_key (tokens token elected)
      · exact abandoned.elections election before of_key
    · exact abandoned.elections election member of_key
  · obtain ⟨since, log, apart⟩ := abandoned.dispatches
    refine ⟨since, log, fun d member ask asked of_key => ?_⟩
    obtain rfl | before := List.mem_cons.mp asked
    · -- The call that begins now is fresh, so it has dispatched nothing.
      rintro rfl
      have dispatched : d ∈ s.shared.dispatches := log ▸ List.mem_append_left _ member
      exact (tracked.placed.dispatched d dispatched).2 phase live fresh
    · exact apart d member ask before of_key

omit [DecidableEq Fingerprint] in
/-- A call that may dispatch has not begun the key, so its dispatch is none of the key's. -/
theorem Abandoned.dispatched (abandoned : Abandoned origin key entry s) (placed : Placed s)
    (live : s.phase id = some phase) (unsettled : phase.stage ≠ .settled) (d : Dispatch)
    (own : d.caller = id) : ∃ since, d :: s.shared.dispatches = since ++ origin.shared.dispatches ∧
      ∀ d' ∈ since, ∀ ask ∈ s.shared.asks, ask.key = key → ask.caller ≠ d'.caller := by
  obtain ⟨since, log, apart⟩ := abandoned.dispatches
  have unasked : ∀ ask ∈ s.shared.asks, ask.key = key → ask.caller ≠ id := by
    rintro ask asked of_key rfl
    rcases (placed.asked ask asked).2 phase live with settled | ⟨token, leads, same⟩
    · exact unsettled settled
    · exact abandoned.leaderless ask.caller phase token ⟨live, leads⟩ (same.trans of_key)
  refine ⟨d :: since, by rw [log, List.cons_append], fun d' member ask asked of_key => ?_⟩
  obtain rfl | before := List.mem_cons.mp member
  · rw [own]
    exact unasked ask asked of_key
  · exact apart d' before ask asked of_key

omit [DecidableEq Fingerprint] in
theorem dispatch_abandoned (placed : Placed s) (abandoned : Abandoned origin key entry s)
    (live : s.phase id = some phase) (unsettled : phase.stage ≠ .settled)
    (finish : ProviderEnd ImageResponse) :
    Abandoned origin key entry (s.exchange id { phase with progress := phase.progress.after finish }
      (s.shared.dispatch id finish)) where
  stays := abandoned.stays
  leaderless := by
    intro other ph token led
    obtain ⟨_, before⟩ | ⟨_, _, now⟩ := exchange_leads led
    · exact abandoned.leaderless other ph token before
    · exact abandoned.leaderless id phase token ⟨live, now⟩
  elections := abandoned.elections
  dispatches := by
    show ∃ since, (s.shared.dispatch id finish).dispatches = _ ∧ _
    unfold Shared.dispatch
    cases finish with
    | elapsed => exact abandoned.dispatches
    | finished result => exact abandoned.dispatched placed live unsettled _ rfl
    | interrupted interruption late => exact abandoned.dispatched placed live unsettled _ rfl

omit [DecidableEq Fingerprint] in
theorem drop_abandoned {op : Op Fingerprint} (placed : Placed s)
    (abandoned : Abandoned origin key entry s) (live : s.phase id = some phase)
    (allowed : (callContract Fingerprint (anyTerms rt)).Allow phase op)
    (abandons : Abandons id op s.shared shared) :
    Abandoned origin key entry (s.drop id shared) := by
  have leaderless : Leaderless (s.drop id shared) key :=
    fun other ph token leads => abandoned.leaderless other ph token (drop_leads leads).2
  cases op with
  | execute index provider request =>
    obtain rfl | rfl := abandons
    · exact ⟨abandoned.stays, leaderless, abandoned.elections, abandoned.dispatches⟩
    · exact ⟨abandoned.stays, leaderless, abandoned.elections,
        abandoned.dispatched placed live allowed.live.2 _ rfl⟩
  | _ =>
    cases abandons
    exact ⟨abandoned.stays, leaderless, abandoned.elections, abandoned.dispatches⟩

/-- One step within the entry's lifetime. -/
theorem step_abandoned (tracked : Tracked config s) (abandoned : Abandoned origin key entry s)
    (pending : entry.expiresAt = none)
    (step : Snapshot.Step (callContract Fingerprint (anyTerms rt))
      (WithinLifetime codec config entry) Phase.start s event s') :
    Abandoned origin key entry s' := by
  cases step with
  | spawn =>
    refine ⟨abandoned.stays, fun other ph token ⟨live, leads⟩ => ?_, abandoned.elections,
      abandoned.dispatches⟩
    by_cases fresh : other = s.spawned
    · subst fresh
      simp only [Snapshot.spawn, set_self, Option.some.injEq] at live
      subst live
      cases leads
    · exact abandoned.leaderless other ph token ⟨(set_other _ _ fresh).symm.trans live, leads⟩
  | drop live allowed abandons =>
    exact drop_abandoned tracked.placed abandoned live allowed abandons
  | @exchange id phase op answer shared live allowed expected performs =>
    have before : ∀ token, phase.stage = .leading token → token.recordKey ≠ key :=
      fun token leads => abandoned.leaderless id phase token ⟨live, leads⟩
    cases op with
    | begin scope name request =>
      obtain ⟨now, young, rfl, rfl⟩ := performs
      exact begin_abandoned tracked abandoned pending live allowed.1 young scope name request
    | execute index provider request =>
      cases performs
      exact dispatch_abandoned tracked.placed abandoned live allowed.live.2 answer
    | complete token response =>
      obtain ⟨now, rfl⟩ := performs
      exact abandoned.quiet (by simp [Phase.next, Phase.settle])
        (complete_stays tracked.threaded pending abandoned.stays response (before token allowed.1)) rfl
        rfl rfl
    | fail token e =>
      obtain ⟨now, rfl⟩ := performs
      exact abandoned.quiet (by simp [Phase.next, Phase.settle])
        (fail_stays abandoned.stays e (before token allowed.1)) rfl rfl rfl
    | wait receiver =>
      obtain ⟨_, rfl⟩ := performs
      exact abandoned.quiet before abandoned.stays rfl rfl rfl
    | acquireGlobal =>
      cases performs
      exact abandoned.quiet (fun token leads => before token (Phase.leading_of_admitted leads))
        abandoned.stays rfl rfl rfl
    | _ =>
      cases performs
      exact abandoned.quiet before abandoned.stays rfl rfl rfl

theorem path_abandoned (tracked : Tracked config origin) (pending : entry.expiresAt = none)
    (found : Pending origin.shared.coordinator key entry) (leaderless : Leaderless origin key)
    (path : Snapshot.Path (callContract Fingerprint (anyTerms rt))
      (WithinLifetime codec config entry) Phase.start origin s) :
    Tracked config s ∧ Abandoned origin key entry s := by
  induction path with
  | here =>
    refine ⟨tracked, ⟨entry.lastAccess, found.1⟩, leaderless, fun _ member _ => member, [], rfl, ?_⟩
    intro d impossible
    cases impossible
  | step _ step ih => exact ⟨step_tracked ih.1 step, step_abandoned ih.1 ih.2 pending step⟩

/-- What a begin of the entry's key finds: within the lifetime the same request waits,
after it a new leader is elected and those who waited are told. -/
structure Lifetime (codec : Codec Fingerprint) (config : IdempotencyConfig) (key : RecordKey)
    (entry : Entry Fingerprint) (c : IdempotencyState Fingerprint) : Prop where
  waits : ∀ now scope name request, key = ⟨scope, name⟩ → validateScope scope = .ok () →
    requestFingerprint codec request = .ok entry.fingerprint →
    now - entry.createdAt < config.inFlightTtl →
    (begin codec config now scope name request c).1 = .ok (.wait entry.sender)
  expires : ∀ now scope name request fingerprint, key = ⟨scope, name⟩ →
    validateScope scope = .ok () → requestFingerprint codec request = .ok fingerprint →
    config.inFlightTtl ≤ now - entry.createdAt →
    (begin codec config now scope name request c).1 = .ok (.leader { recordKey := key, fingerprint }) ∧
      (begin codec config now scope name request c).2.channels entry.sender = .failed expiryError

theorem stays_lifetime (tracked : Tracked config s) (pending : entry.expiresAt = none)
    (stays : Stays s.shared.coordinator key entry) :
    Lifetime codec config key entry s.shared.coordinator where
  waits := by
    intro now scope name request own valid same young
    obtain ⟨_, answered⟩ := begin_stays codec tracked.threaded pending young stays scope name
      request
    exact (answered own.symm).2 valid same
  expires := by
    intro now scope name request fingerprint own valid measured old
    obtain ⟨access, found⟩ := stays
    have there : Pending s.shared.coordinator key { entry with lastAccess := access } := ⟨found, pending⟩
    exact begin_expires tracked.threaded tracked.bounded there old own valid measured

omit [DecidableEq Fingerprint] in
/-- A leader that exists has not finished: it still awaits something. -/
theorem owner_exists {pool : Calls Fingerprint} {caller : Nat} {token : IdempotencyToken Fingerprint}
    (kept : pool.Keeps (callContract Fingerprint (anyTerms rt)) fun _ t => HandsFree t)
    (owns : Owns pool.view caller token) :
    (∃ phase op later, pool.view.phase caller = some phase ∧ phase.stage = .leading token ∧
        pool.code caller = .await op later) ∨
      ∃ phase, pool.view.dropped caller = some phase ∧ phase.stage = .leading token := by
  obtain ⟨phase, live | gone, leads⟩ := owns
  · left
    have own := kept caller phase live
    cases awaits : pool.code caller with
    | done result =>
      rw [awaits] at own
      exact absurd leads (own token)
    | await op later => exact ⟨phase, op, later, live, leads, rfl⟩
  · exact Or.inr ⟨phase, gone, leads⟩

/-- In every run, with drops at any await point: a pending entry belongs to a leader
that exists or was dropped. Once no leader of its key is left, wherever it was
dropped, the entry stays and nobody dispatches for the key until a begin finds it
older than the in-flight lifetime, which frees the key. -/
theorem pending_entries_settle_by_lifetime {pool : Calls Fingerprint}
    (run : CallRun rt codec config pool)
    (pending : Pending pool.view.shared.coordinator key entry) :
    (∃ caller, ⟨caller, keyToken key entry, entry.sender⟩ ∈ pool.view.shared.elections ∧
      ((∃ phase op later, pool.view.phase caller = some phase ∧
          phase.stage = .leading (keyToken key entry) ∧ pool.code caller = .await op later) ∨
        ∃ phase, pool.view.dropped caller = some phase ∧
          phase.stage = .leading (keyToken key entry))) ∧
    (Leaderless pool.view key → ∀ later, Continues rt codec config entry pool later →
      Abandoned pool.view key entry later.view ∧
        Lifetime codec config key entry later.view.shared.coordinator) := by
  obtain ⟨reached, kept⟩ := Pool.run_refines (fun _ any => anyCall_keeps any) any_justifies run
  have tracked : Tracked config pool.view := run_tracked reached
  constructor
  · obtain ⟨caller, elected, owns⟩ := tracked.owned key entry pending
    exact ⟨caller, elected, owner_exists kept owns⟩
  · intro leaderless later path
    obtain ⟨continued, _⟩ :=
      Pool.path_refines kept (fun _ any => anyCall_keeps any) any_justifies path
    obtain ⟨tracked', abandoned⟩ := path_abandoned tracked pending.2 pending leaderless continued
    exact ⟨abandoned, stays_lifetime tracked' pending.2 abandoned.stays⟩

section Disconnect

/-- Some steps of a call of the keyed request whose image is delivered. -/
def playLighthouse (now steps id : Nat) (s : Shared Unit) :
    Option (Phase Unit × Shared Unit × Program (calls Unit) (Outcome ImageResponse)) :=
  play (m := callMonitor Unit) (answers plainCodec {} now id delivered) (fun _ _ _ _ => true) steps
    Phase.start s keyedLighthouseCall

def awaitsExecute : Program (calls Unit) (Outcome ImageResponse) → Bool
  | .await (.execute ..) _ => true
  | _ => false

def lighthouseKey : RecordKey := ⟨"scope", "key"⟩

/-- The log of a call dropped while its provider executes. -/
def Shared.abandoned (s : Shared Unit) : Shared Unit :=
  { s with dispatches := ⟨0, true⟩ :: s.dispatches }

/-- The first call gets as far as its provider; the second comes 31 minutes later. -/
theorem disconnect_plays :
    ((playLighthouse 0 12 0 Shared.initial).any fun first =>
      awaitsExecute first.2.2 && first.2.1.dispatches.isEmpty
        && (first.2.1.coordinator.entries.lookup lighthouseKey).any (fun e => e.expiresAt.isNone)
        && (playLighthouse (31 * 60) 40 1 first.2.1.abandoned).any fun second =>
          second.2.1.dispatches == [⟨1, true⟩, ⟨0, true⟩]) = true := by
  decide +kernel

/-- The client is gone while the provider executes: a pending entry and no call. -/
theorem disconnected : ∃ (pool : Calls Unit) (entry : Entry Unit),
    CallRun plainRuntime plainCodec {} pool ∧
    Pending pool.view.shared.coordinator lighthouseKey entry ∧ (∀ id, pool.view.phase id = none) ∧
    pool.view.shared.dispatches = [⟨0, true⟩] ∧ pool.view.spawned = 1 ∧
    ((playLighthouse (31 * 60) 40 1 pool.view.shared).any fun second =>
      second.2.1.dispatches == [⟨1, true⟩, ⟨0, true⟩]) = true := by
  have any : AnyCall plainRuntime keyedLighthouseCall :=
    ⟨keyedLighthouse, { idempotencyScope := "scope" }, rfl⟩
  obtain ⟨⟨phase, after, rest⟩, played, checked⟩ := (Option.any_eq_true ..).mp disconnect_plays
  simp only [Bool.and_eq_true] at checked
  obtain ⟨⟨⟨executes, unpaid⟩, opened⟩, retried⟩ := checked
  obtain ⟨entry, found, unsettled⟩ := (Option.any_eq_true ..).mp opened
  have start : Pool.Path (AnyCall plainRuntime) (Unhurried plainCodec {}) Phase.start
      (fun _ _ => True) noCalls noCalls := .here
  obtain ⟨first, path, view, code⟩ := plays_call start any (fun _ _ => trivial)
    (fun _ _ _ _ _ _ => ⟨trivial, trivial⟩) played
  have live : first.view.phase 0 = some phase := by
    rw [view]
    exact Snapshot.set_self (noCalls.view.spawn Phase.start).phase 0 (some phase)
  have shared : first.view.shared = after := by rw [view]; rfl
  obtain ⟨op, next, awaits, abandons⟩ : ∃ op next, first.code 0 = .await op next ∧
      Abandons 0 op first.view.shared after.abandoned := by
    cases rest with
    | done result => cases executes
    | await op next =>
      cases op with
      | execute index provider request => exact ⟨_, next, code, Or.inr (by rw [shared]; rfl)⟩
      | _ => cases executes
  have dropped := Pool.Path.step path (.drop first live awaits abandons) trivial
  refine ⟨⟨first.view.drop 0 after.abandoned, first.code⟩, entry, ⟨_, dropped⟩,
    ⟨found, Option.isNone_iff_eq_none.mp unsettled⟩, ?_, ?_, by rw [view]; rfl, retried⟩
  · intro id
    by_cases own : id = 0
    · subst own
      exact Snapshot.set_self first.view.phase 0 none
    · rw [view]
      exact (Snapshot.set_other _ _ own).trans
        ((Snapshot.set_other _ _ own).trans (Snapshot.set_other _ _ own))
  · exact congrArg (⟨0, true⟩ :: ·) (List.isEmpty_iff.mp unpaid)

/-- The entry is pending although no call exists, and 31 minutes later, long before
an unknown outcome would be forgotten, a retry is elected and dispatches again. -/
theorem disconnected_leader_pays_again : ∃ (pool later : Calls Unit) (entry : Entry Unit),
    CallRun plainRuntime plainCodec {} pool ∧
    Pending pool.view.shared.coordinator lighthouseKey entry ∧
    (∀ id, pool.view.phase id = none) ∧ pool.view.shared.dispatches = [⟨0, true⟩] ∧
    Pool.Path (AnyCall plainRuntime) (behavior plainCodec {} fun now _ => now < 24 * 60 * 60)
      Phase.start (fun _ _ => True) pool later ∧
    later.view.shared.dispatches = [⟨1, true⟩, ⟨0, true⟩] := by
  obtain ⟨pool, entry, run, pending, nobody, unpaid, spawned, retried⟩ := disconnected
  obtain ⟨⟨phase, last, rest⟩, played, dispatches⟩ := (Option.any_eq_true ..).mp retried
  have any : AnyCall plainRuntime keyedLighthouseCall :=
    ⟨keyedLighthouse, { idempotencyScope := "scope" }, rfl⟩
  have start : Pool.Path (AnyCall plainRuntime)
      (behavior plainCodec {} fun now _ => now < 24 * 60 * 60) Phase.start (fun _ _ => True) pool
      pool := .here
  rw [← spawned] at played
  obtain ⟨later, retry, view, _⟩ := plays_call start any (fun _ _ => trivial)
    (fun _ _ _ _ _ _ => ⟨by decide, trivial⟩) played
  refine ⟨pool, later, entry, run, pending, nobody, unpaid, retry, ?_⟩
  rw [view]
  exact eq_of_beq dispatches

/-- The leader of that entry was dropped; the entry stays and nobody leads its key. -/
theorem disconnected_entry_stays : ∃ (pool : Calls Unit) (entry : Entry Unit),
    (∃ caller phase, pool.view.dropped caller = some phase ∧
      phase.stage = .leading (keyToken lighthouseKey entry)) ∧
    Stays pool.view.shared.coordinator lighthouseKey entry ∧ Leaderless pool.view lighthouseKey := by
  obtain ⟨pool, entry, run, pending, nobody, _⟩ := disconnected
  obtain ⟨⟨caller, _, owner⟩, lasts⟩ := pending_entries_settle_by_lifetime run pending
  have leaderless : Leaderless pool.view lighthouseKey := by
    intro id phase token ⟨live, _⟩
    rw [nobody id] at live
    cases live
  obtain ⟨abandoned, _⟩ := lasts leaderless pool .here
  refine ⟨pool, entry, ⟨caller, ?_⟩, abandoned.stays, abandoned.leaderless⟩
  obtain ⟨phase, _, _, live, _⟩ | gone := owner
  · rw [nobody caller] at live
    cases live
  · exact gone

end Disconnect

end ImagegenBridge.Orchestrator
