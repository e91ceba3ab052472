import ImagegenBridge.Runtime.Calls
import ImagegenBridge.Runtime.Fallback

/-!
# At most one paid call for each key

Calls of one scope and key, within the retention periods. As long as no stage
after a returned result fails, a key whose provider call was spent stays held, so
nobody else is elected.
-/

namespace ImagegenBridge.Orchestrator

open Idempotency IdempotencyState Materialize Program Snapshot

variable {Fingerprint : Type} [DecidableEq Fingerprint]

/-- After a spent dispatch only the same call dispatches again. -/
def AtMostOnePaid (dispatches : List Dispatch) : Prop :=
  dispatches.Pairwise fun later earlier => earlier.spent = true → later.caller = earlier.caller

instance (dispatches : List Dispatch) : Decidable (AtMostOnePaid dispatches) :=
  inferInstanceAs (Decidable (dispatches.Pairwise _))

/-- A call of one scope and key. -/
def KeyedCall (rt : Runtime) (scope key : String)
    (p : Program (calls Fingerprint) (Outcome ImageResponse)) : Prop :=
  ∃ (request : ImageRequest) (context : ExecutionContext), request.idempotencyKey = some key ∧
    context.idempotencyScope = scope ∧ p = (executeWith rt request context).run

/-- Pools of such calls, within the retention periods. -/
abbrev KeyedRun (rt : Runtime) (codec : Codec Fingerprint) (config : IdempotencyConfig)
    (scope key : String) (condition : View Fingerprint → PoolEvent (calls Fingerprint) → Prop) :
    Calls Fingerprint → Prop :=
  Pool.Run (KeyedCall rt scope key) (behavior codec config (Retained config)) Phase.start
    Shared.initial condition

/-- No stage after a returned result fails in this event. -/
def Careful (config : MaterializationConfig) (s : View Fingerprint) :
    PoolEvent (calls Fingerprint) → Prop
  | .exchanged id exchange => ∀ phase, s.phase id = some phase →
      untroubled config phase exchange.op exchange.answer = true
  | _ => True

def carefulTerms (rt : Runtime) (scope key : String) : Terms where
  careful := True
  admits := fun s k => s = scope ∧ k = key
  config := rt.materializer.config

omit [DecidableEq Fingerprint] in
theorem keyedCall_keeps {rt : Runtime} {scope key : String}
    {p : Program (calls Fingerprint) (Outcome ImageResponse)} (keyed : KeyedCall rt scope key p) :
    p.Keeps (callContract Fingerprint (carefulTerms rt scope key)) Phase.start
      fun _ t => HandsFree t := by
  obtain ⟨request, context, present, within, rfl⟩ := keyed
  have kept : Tries (callContract Fingerprint (carefulTerms rt scope key))
      (executeWith rt request context) Phase.start (fun _ t => HandsFree t)
      (fun _ t => HandsFree t) := by
    refine executeWith_keeps rfl (fun _ => ?_) ?_
    · rw [present]
      exact Option.some_ne_none key
    · intro other same
      rw [present] at same
      exact ⟨within, (Option.some.inj same).symm⟩
  apply Keeps.mono kept
  intro result t held
  cases result <;> exact held

/-- A live call has a token in its hand. -/
def Leads (s : View Fingerprint) (id : Nat) (phase : Phase Fingerprint)
    (token : IdempotencyToken Fingerprint) : Prop :=
  s.phase id = some phase ∧ phase.stage = .leading token

def Held (s : View Fingerprint) (key : RecordKey) : Prop :=
  (s.shared.coordinator.entries.lookup key).isSome = true

/-- What careful calls keep. -/
structure OneLeader (key : RecordKey) (s : View Fingerprint) : Prop where
  holds : ∀ id phase token, Leads s id phase token → token.recordKey = key ∧ Held s key
  alone : ∀ id id' phase phase' token token', Leads s id phase token → Leads s id' phase' token' →
    id = id'
  spent : ∀ d ∈ s.shared.dispatches, d.spent = true → Held s key ∧
    ∀ id phase token, Leads s id phase token → id = d.caller ∧ phase.progress ≠ .clean
  ordered : AtMostOnePaid s.shared.dispatches

variable {key : RecordKey} {s s' : View Fingerprint}

omit [DecidableEq Fingerprint] in
theorem initial_oneLeader : OneLeader key (Snapshot.empty Shared.initial : View Fingerprint) where
  holds := fun _ _ _ leads => nomatch leads.1
  alone := fun _ _ _ _ _ _ leads => nomatch leads.1
  spent := fun _ member => nomatch member
  ordered := .nil

omit [DecidableEq Fingerprint] in
/-- A step that keeps the key, dispatches nothing and elects nobody. -/
theorem OneLeader.kept (inv : OneLeader key s)
    (leaders : ∀ id phase token, Leads s' id phase token →
      ∃ before, Leads s id before token ∧ phase.progress = before.progress)
    (dispatches : s'.shared.dispatches = s.shared.dispatches) (held : Held s key → Held s' key) :
    OneLeader key s' where
  holds := by
    intro id phase token leads
    obtain ⟨before, led, _⟩ := leaders id phase token leads
    obtain ⟨own, there⟩ := inv.holds id before token led
    exact ⟨own, held there⟩
  alone := by
    intro id id' phase phase' token token' leads leads'
    obtain ⟨before, led, _⟩ := leaders id phase token leads
    obtain ⟨before', led', _⟩ := leaders id' phase' token' leads'
    exact inv.alone id id' before before' token token' led led'
  spent := by
    intro d member spent
    rw [dispatches] at member
    obtain ⟨there, only⟩ := inv.spent d member spent
    refine ⟨held there, fun id phase token leads => ?_⟩
    obtain ⟨before, led, same⟩ := leaders id phase token leads
    obtain ⟨caller, dirty⟩ := only id before token led
    exact ⟨caller, same ▸ dirty⟩
  ordered := by
    rw [dispatches]
    exact inv.ordered

section Exchange

variable {id : Nat} {phase next : Phase Fingerprint} {shared : Shared Fingerprint}

omit [DecidableEq Fingerprint] in
/-- The leaders after an exchange: the others, and this call if it still leads. -/
theorem exchange_leads {other : Nat} {ph : Phase Fingerprint} {token : IdempotencyToken Fingerprint}
    (leads : Leads (s.exchange id next shared) other ph token) :
    (other ≠ id ∧ Leads s other ph token) ∨ (other = id ∧ ph = next ∧ next.stage = .leading token) := by
  obtain ⟨live, stage⟩ := leads
  by_cases own : other = id
  · subst own
    simp only [Snapshot.exchange, set_self, Option.some.injEq] at live
    subst live
    exact Or.inr ⟨rfl, rfl, stage⟩
  · simp only [Snapshot.exchange, set_other _ _ own] at live
    exact Or.inl ⟨own, live, stage⟩

omit [DecidableEq Fingerprint] in
theorem drop_leads {other : Nat} {ph : Phase Fingerprint} {token : IdempotencyToken Fingerprint}
    (leads : Leads (s.drop id shared) other ph token) : other ≠ id ∧ Leads s other ph token := by
  obtain ⟨live, stage⟩ := leads
  by_cases own : other = id
  · subst own
    simp [Snapshot.drop] at live
  · exact ⟨own, (set_other _ _ own).symm.trans live, stage⟩

omit [DecidableEq Fingerprint] in
theorem OneLeader.dropped (inv : OneLeader key s) (id : Nat) (shared : Shared Fingerprint)
    (dispatches : shared.dispatches = s.shared.dispatches)
    (held : Held s key → (shared.coordinator.entries.lookup key).isSome = true) :
    OneLeader key (s.drop id shared) := by
  refine inv.kept ?_ dispatches held
  intro other ph token leads
  exact ⟨ph, (drop_leads leads).2, rfl⟩

omit [DecidableEq Fingerprint] in
/-- While a call leads with nothing spent, no dispatch of the pool was spent. -/
theorem OneLeader.unspent (inv : OneLeader key s) {token : IdempotencyToken Fingerprint}
    (led : Leads s id phase token) (clean : phase.progress = .clean) :
    ∀ d ∈ s.shared.dispatches, d.spent = false := by
  intro d member
  cases spent : d.spent with
  | false => rfl
  | true => exact absurd clean ((inv.spent d member spent).2 id phase token led).2

omit [DecidableEq Fingerprint] in
/-- A leader dropped while its provider executes: nobody leads any more, and the key stays held. -/
theorem OneLeader.dropped_dispatching (inv : OneLeader key s) (live : s.phase id = some phase)
    {token : IdempotencyToken Fingerprint} (leads : phase.stage = .leading token)
    (clean : phase.progress = .clean) :
    OneLeader key (s.drop id { s.shared with dispatches := ⟨id, true⟩ :: s.shared.dispatches }) := by
  have led : Leads s id phase token := ⟨live, leads⟩
  have unspent := inv.unspent led clean
  have nobody : ∀ other ph token', ¬Leads
      (s.drop id { s.shared with dispatches := ⟨id, true⟩ :: s.shared.dispatches }) other ph token' := by
    intro other ph token' now
    obtain ⟨different, before⟩ := drop_leads now
    exact different (inv.alone other id ph phase token' token before led)
  refine ⟨fun other ph token' now => absurd now (nobody other ph token'),
    fun other _ ph _ token' _ now => absurd now (nobody other ph token'), ?_, ?_⟩
  · intro d _ _
    exact ⟨(inv.holds id phase token led).2, fun other ph token' now => absurd now (nobody other ph token')⟩
  · refine List.pairwise_cons.mpr ⟨fun d member spent => ?_, inv.ordered⟩
    rw [unspent d member] at spent
    cases spent

omit [DecidableEq Fingerprint] in
/-- An exchange that hands nobody a token and keeps the call's progress, the key and
the log. -/
theorem OneLeader.quiet (inv : OneLeader key s) (live : s.phase id = some phase)
    (stage : ∀ token, next.stage = .leading token → phase.stage = .leading token)
    (progress : next.progress = phase.progress)
    (dispatches : shared.dispatches = s.shared.dispatches)
    (held : Held s key → (shared.coordinator.entries.lookup key).isSome = true) :
    OneLeader key (s.exchange id next shared) := by
  refine inv.kept ?_ dispatches held
  intro other ph token leads
  obtain ⟨_, led⟩ | ⟨rfl, rfl, led⟩ := exchange_leads leads
  · exact ⟨ph, led, rfl⟩
  · exact ⟨phase, ⟨live, stage token led⟩, progress⟩

omit [DecidableEq Fingerprint] in
/-- An exchange after which the call leads no more. -/
theorem OneLeader.released (inv : OneLeader key s) (free : HandsFree next)
    (dispatches : shared.dispatches = s.shared.dispatches)
    (held : Held s key → (shared.coordinator.entries.lookup key).isSome = true) :
    OneLeader key (s.exchange id next shared) := by
  refine inv.kept ?_ dispatches held
  intro other ph token leads
  obtain ⟨_, led⟩ | ⟨_, _, led⟩ := exchange_leads leads
  · exact ⟨ph, led, rfl⟩
  · exact absurd led (free token)

omit [DecidableEq Fingerprint] in
/-- An election: nobody held the key, so nobody led and nothing was spent. -/
theorem OneLeader.elected (inv : OneLeader key s) {token : IdempotencyToken Fingerprint}
    (free : ¬Held s key) (leads : next.stage = .leading token) (own : token.recordKey = key)
    (dispatches : shared.dispatches = s.shared.dispatches)
    (held : (shared.coordinator.entries.lookup key).isSome = true) :
    OneLeader key (s.exchange id next shared) := by
  have only : ∀ other ph token', Leads (s.exchange id next shared) other ph token' →
      other = id ∧ ph = next ∧ next.stage = .leading token' := by
    intro other ph token' led
    obtain ⟨_, before⟩ | now := exchange_leads led
    · exact absurd (inv.holds other ph token' before).2 free
    · exact now
  refine ⟨?_, ?_, ?_, ?_⟩
  · intro other ph token' led
    obtain ⟨_, _, stage⟩ := only other ph token' led
    rw [leads] at stage
    cases stage
    exact ⟨own, held⟩
  · intro other other' ph ph' token' token'' led led'
    rw [(only other ph token' led).1, (only other' ph' token'' led').1]
  · intro d member spent
    simp only [Snapshot.exchange, dispatches] at member
    exact absurd (inv.spent d member spent).1 free
  · simp only [Snapshot.exchange, dispatches]
    exact inv.ordered

omit [DecidableEq Fingerprint] in
/-- A dispatch: the call leads with nothing spent, so it is the first to be spent. -/
theorem OneLeader.dispatched (inv : OneLeader key s) (live : s.phase id = some phase)
    {token : IdempotencyToken Fingerprint} (leads : phase.stage = .leading token)
    (clean : phase.progress = .clean) (finish : ProviderEnd ImageResponse) :
    OneLeader key (s.exchange id { phase with progress := phase.progress.after finish }
      (s.shared.dispatch id finish)) := by
  have led : Leads s id phase token := ⟨live, leads⟩
  have unspent := inv.unspent led clean
  have log : ∀ d ∈ (s.shared.dispatch id finish).dispatches, d.spent = true →
      d.caller = id ∧ phase.progress.after finish ≠ .clean := by
    intro d member spent
    unfold Shared.dispatch at member
    have fresh : d = ⟨id, finish.returned.isSome || finish.ambiguous⟩ ∨ d ∈ s.shared.dispatches := by
      cases finish with
      | elapsed => exact Or.inr member
      | finished result => exact List.mem_cons.mp member
      | interrupted interruption late => exact List.mem_cons.mp member
    obtain rfl | earlier := fresh
    · refine ⟨rfl, ?_⟩
      unfold Progress.after
      split
      · decide
      · rename_i unreturned
        have ambiguous : finish.ambiguous = true := by simpa [unreturned] using spent
        rw [if_pos ambiguous]
        decide
    · rw [unspent d earlier] at spent
      cases spent
  have others : ∀ other ph token', Leads (s.exchange id
      { phase with progress := phase.progress.after finish } (s.shared.dispatch id finish)) other ph
      token' → other = id ∧ ph = { phase with progress := phase.progress.after finish } := by
    intro other ph token' now
    obtain ⟨different, before⟩ | ⟨own, same, _⟩ := exchange_leads now
    · exact absurd (inv.alone other id ph phase token' token before led) different
    · exact ⟨own, same⟩
  have held : Held (s.exchange id { phase with progress := phase.progress.after finish }
      (s.shared.dispatch id finish)) key := (inv.holds id phase token led).2
  refine ⟨?_, ?_, ?_, ?_⟩
  · intro other ph token' now
    obtain ⟨_, rfl⟩ := others other ph token' now
    have same : token' = token := Stage.leading.inj (now.2.symm.trans leads)
    exact ⟨same ▸ (inv.holds id phase token led).1, held⟩
  · intro other other' ph ph' token' token'' now now'
    rw [(others other ph token' now).1, (others other' ph' token'' now').1]
  · intro d member spent
    obtain ⟨caller, dirty⟩ := log d member spent
    refine ⟨held, fun other ph token' now => ?_⟩
    obtain ⟨own, rfl⟩ := others other ph token' now
    exact ⟨own.trans caller.symm, dirty⟩
  · have earlier : ∀ d ∈ s.shared.dispatches, d.spent = true → id = d.caller := by
      intro d member spent
      rw [unspent d member] at spent
      cases spent
    show AtMostOnePaid (s.shared.dispatch id finish).dispatches
    unfold Shared.dispatch
    cases finish with
    | elapsed => exact inv.ordered
    | finished result => exact List.pairwise_cons.mpr ⟨earlier, inv.ordered⟩
    | interrupted interruption late => exact List.pairwise_cons.mpr ⟨earlier, inv.ordered⟩

end Exchange

variable {rt : Runtime} {codec : Codec Fingerprint} {config : IdempotencyConfig} {scope name : String}
  {event : PoolEvent (calls Fingerprint)}

/-- A begin within the retention periods. -/
theorem begin_oneLeader (inv : OneLeader ⟨scope, name⟩ s) {id : Nat} {phase : Phase Fingerprint}
    {now : Nat} (retained : Retained config now s.shared.coordinator) (request : ImageRequest) :
    let result := begin codec config now scope name request s.shared.coordinator
    OneLeader ⟨scope, name⟩
      (s.exchange id (phase.begun result.1) (s.shared.began id ⟨scope, name⟩ result)) := by
  obtain ⟨held, elects⟩ := retained_begin codec retained scope name request
  generalize begin codec config now scope name request s.shared.coordinator = result at *
  obtain ⟨answer, after⟩ := result
  have same : (s.shared.began id ⟨scope, name⟩ (answer, after)).dispatches = s.shared.dispatches := rfl
  by_cases leader : ∃ token, answer = .ok (.leader token)
  · obtain ⟨token, rfl⟩ := leader
    obtain ⟨own, opened⟩ := elects token rfl
    exact inv.elected (fun there => (held there).2 token rfl) rfl own same opened
  · refine inv.released ?_ same (fun there => (held there).1)
    intro token leads
    unfold Phase.begun at leads
    dsimp only at leads
    split at leads
    · rename_i token'
      exact leader ⟨token', rfl⟩
    · cases leads

/-- One step: every operation keeps the key of a spent call. -/
theorem step_oneLeader (inv : OneLeader ⟨scope, name⟩ s)
    (step : Snapshot.Step (callContract Fingerprint (carefulTerms rt scope name))
      (behavior codec config (Retained config)) Phase.start s event s') :
    OneLeader ⟨scope, name⟩ s' := by
  cases step with
  | spawn =>
    refine inv.kept ?_ rfl id
    intro other ph token leads
    by_cases fresh : other = s.spawned
    · subst fresh
      obtain ⟨live, stage⟩ := leads
      simp only [Snapshot.spawn, set_self, Option.some.injEq] at live
      subst live
      cases stage
    · exact ⟨ph, ⟨by simpa [Snapshot.spawn, set_other _ _ fresh] using leads.1, leads.2⟩, rfl⟩
  | @drop id phase op shared live allowed abandons =>
    cases op with
    | execute index provider request =>
      rcases abandons with rfl | rfl
      · exact inv.dropped id s.shared rfl (fun there => there)
      · obtain ⟨⟨token, leads⟩, clean⟩ := allowed.careful trivial
        exact inv.dropped_dispatching live leads clean
    | _ =>
      cases abandons
      exact inv.dropped id s.shared rfl (fun there => there)
  | @exchange id phase op answer shared live allowed expected performs =>
    cases op with
    | begin scope' name' request =>
      obtain ⟨_, _, rfl, rfl⟩ := allowed
      obtain ⟨now, retained, rfl, rfl⟩ := performs
      exact begin_oneLeader inv retained request
    | execute index provider request =>
      cases performs
      obtain ⟨⟨token, leads⟩, clean⟩ := allowed.careful trivial
      exact inv.dispatched live leads clean answer
    | complete token response =>
      obtain ⟨now, rfl⟩ := performs
      have own := (inv.holds id phase token ⟨live, allowed.1⟩).1
      refine inv.released (settle_handsFree phase) rfl fun there => ?_
      rw [← own] at there ⊢
      exact complete_keeps_key now token response there
    | fail token e =>
      obtain ⟨now, rfl⟩ := performs
      have leads : Leads s id phase token := ⟨live, allowed.1⟩
      obtain ⟨own, there⟩ := inv.holds id phase token leads
      by_cases unknown : e.outcomeUnknown = true
      · refine inv.released (settle_handsFree phase) rfl fun there => ?_
        rw [← own] at there ⊢
        exact unknown_keeps_key now token e unknown there
      · -- A known failure frees the key, so nothing may have been spent.
        have clean : phase.progress = .clean := by
          cases progress : phase.progress with
          | clean => rfl
          | paid => exact absurd progress (allowed.2.careful trivial)
          | ambiguous => exact absurd (allowed.2.unknown progress) unknown
        have nobody : ∀ other ph token', ¬Leads (s.exchange id phase.settle
            { s.shared with coordinator := fail config now token e s.shared.coordinator }) other ph
            token' := by
          intro other ph token' led
          obtain ⟨different, before⟩ | ⟨_, _, stage⟩ := exchange_leads led
          · exact different (inv.alone other id ph phase token' token before leads)
          · exact settle_handsFree phase token' stage
        refine ⟨fun other ph token' led => absurd led (nobody other ph token'),
          fun other _ ph _ token' _ led => absurd led (nobody other ph token'), ?_, inv.ordered⟩
        intro d member spent
        exact absurd clean ((inv.spent d member spent).2 id phase token leads).2
    | wait receiver =>
      obtain ⟨_, rfl⟩ := performs
      exact inv.quiet live (fun _ leads => leads) rfl rfl (fun there => there)
    | acquireGlobal =>
      cases performs
      exact inv.quiet live (fun _ leads => Phase.leading_of_admitted leads) rfl rfl
        (fun there => there)
    | _ =>
      cases performs
      exact inv.quiet live (fun _ leads => leads) rfl rfl (fun there => there)

/-- The run lemma, over the monitors of the calls. -/
theorem run_oneLeader
    (run : Snapshot.Path (callContract Fingerprint (carefulTerms rt scope name))
      (behavior codec config (Retained config)) Phase.start (Snapshot.empty Shared.initial) s) :
    OneLeader ⟨scope, name⟩ s := by
  induction run with
  | here => exact initial_oneLeader
  | step _ step ih => exact step_oneLeader ih step

omit [DecidableEq Fingerprint] in
theorem careful_justifies {b : Behavior (calls Fingerprint) (Shared Fingerprint)} :
    Pool.Justifies (Careful rt.materializer.config) b
      (callContract Fingerprint (carefulTerms rt scope name)) :=
  fun _ _ phase _ _ _ live _ careful _ => careful phase live

/-- In every run of calls of one scope and key, within the retention periods and in
any interleaving with drops, no other call dispatches after a spent one, as long as
no stage after a returned result fails. -/
theorem at_most_one_paid_call {pool : Calls Fingerprint}
    (run : KeyedRun rt codec config scope name (Careful rt.materializer.config) pool) :
    AtMostOnePaid pool.view.shared.dispatches :=
  (run_oneLeader (Pool.run_refines (fun _ keyed => keyedCall_keeps keyed) careful_justifies
    run).1).ordered

section LateDelivery

def keyedLighthouse : ImageRequest := { lighthouse with idempotencyKey := some "key" }

def keyedLighthouseCall : Program (calls Unit) (Outcome ImageResponse) :=
  (executeWith plainRuntime keyedLighthouse { idempotencyScope := "scope" }).run

def noCalls : Calls Unit := ⟨Snapshot.empty Shared.initial, fun _ => keyedLighthouseCall⟩

/-- Pools of such calls behind the plain runtime. -/
abbrev LighthouseRun
    (condition : View Unit → PoolEvent (calls Unit) → Prop) : Calls Unit → Prop :=
  KeyedRun plainRuntime plainCodec {} "scope" "key" condition

/-- What is checked of an answer: that begins are in time, and that a careful run
stays careful. -/
def checks (careful : Bool) (phase : Phase Unit) (s : Shared Unit) (op : Op Unit)
    (answer : op.Ans) : Bool :=
  (s.coordinator.staleKeys 0 (31 * 60)).isEmpty
    && (!careful || untroubled {} phase op answer)

/-- One call, from its start to its end. -/
def playCall (careful : Bool) (environment : (op : Op Unit) → op.Ans) (id : Nat) (s : Shared Unit) :
    Option (Phase Unit × Shared Unit × Program (calls Unit) (Outcome ImageResponse)) :=
  play (m := callMonitor Unit) (answers plainCodec {} 0 id environment) (checks careful) 40
    Phase.start s keyedLighthouseCall

theorem playCall_run {careful : Bool} {environment : (op : Op Unit) → op.Ans}
    {condition : View Unit → PoolEvent (calls Unit) → Prop} {pool : Calls Unit}
    (starts : ∀ v id, condition v (.spawned id))
    (met : ∀ v id exchange, (careful = true → Careful {} v (.exchanged id exchange)) →
      condition v (.exchanged id exchange))
    (run : LighthouseRun condition pool) {phase : Phase Unit} {after : Shared Unit}
    {rest : Program (calls Unit) (Outcome ImageResponse)}
    (played : playCall careful environment pool.view.spawned pool.view.shared =
      some (phase, after, rest)) :
    ∃ pool', LighthouseRun condition pool' ∧ pool'.view.shared = after ∧
      pool'.view.spawned = pool.view.spawned + 1 := by
  have keyed : KeyedCall plainRuntime "scope" "key" keyedLighthouseCall :=
    ⟨keyedLighthouse, { idempotencyScope := "scope" }, rfl, rfl, rfl⟩
  obtain ⟨code, path⟩ := run
  have fine : ∀ (v : View Unit) phase op answer, v.phase pool.view.spawned = some phase →
      checks careful phase v.shared op answer = true → Retained {} 0 v.shared.coordinator ∧
        condition v (.exchanged pool.view.spawned ⟨op, answer⟩) := by
    intro v phase op answer live checked
    simp only [checks, Bool.and_eq_true, List.isEmpty_iff] at checked
    refine ⟨checked.1, met _ _ _ ?_⟩
    intro is_careful phase' live'
    cases live.symm.trans live'
    simpa [is_careful] using checked.2
  obtain ⟨pool', path', view, _⟩ := plays_call path keyed starts fine played
  exact ⟨pool', ⟨code, path'⟩, by rw [view]; rfl, by rw [view]; rfl⟩

/-- The provider returns, and the deadline passes while its output is materialized. -/
def lateDelivery : (op : Op Unit) → op.Ans
  | .materialize .. => .interrupted .deadline
  | op => serves hostedResponse op

theorem lateDelivery_plays :
    ((playCall false lateDelivery 0 Shared.initial >>= fun first =>
      playCall false lateDelivery 1 first.2.1).any fun second =>
        second.2.1.dispatches == [⟨1, true⟩, ⟨0, true⟩]) = true := by
  decide +kernel

/-- The first call's result is lost to its deadline and its key is released; the
second call is elected and pays again. -/
theorem late_delivery_pays_twice : ∃ (pool : Calls Unit), LighthouseRun (fun _ _ => True) pool ∧
    pool.view.shared.dispatches = [⟨1, true⟩, ⟨0, true⟩] ∧
    ¬AtMostOnePaid pool.view.shared.dispatches := by
  obtain ⟨last, played, dispatches⟩ := (Option.any_eq_true ..).mp lateDelivery_plays
  obtain ⟨first, firstPlayed, lastPlayed⟩ := Option.bind_eq_some_iff.mp played
  have start : LighthouseRun (fun _ _ => True) noCalls := ⟨fun _ => keyedLighthouseCall, .here⟩
  obtain ⟨pool, run, shared, spawned⟩ := playCall_run (fun _ _ => trivial)
    (fun _ _ _ _ => trivial) start firstPlayed
  rw [← shared, show 1 = pool.view.spawned from spawned.symm] at lastPlayed
  obtain ⟨pool', run', shared', _⟩ := playCall_run (fun _ _ => trivial)
    (fun _ _ _ _ => trivial) run lastPlayed
  have paid : pool'.view.shared.dispatches = [⟨1, true⟩, ⟨0, true⟩] := by
    rw [shared']
    exact eq_of_beq dispatches
  refine ⟨pool', run', paid, ?_⟩
  rw [paid]
  decide

def inlineImage : GeneratedImage := { hostedImage with payload := .b64Json "" }

def servingWorld : World :=
  { emptyWorld with
    decode := fun _ => some []
    inspectImage := fun _ => .ok ⟨.png, 1, 1, 1, ""⟩ }

/-- The provider returns an image that is materialized. -/
def delivered : (op : Op Unit) → op.Ans
  | .materialize .. => .finished servingWorld
  | op => serves { plainResponse with model := "test-image", data := [inlineImage] } op

theorem delivered_plays :
    ((playCall true delivered 0 Shared.initial >>= fun first =>
      playCall true delivered 1 first.2.1).any fun second =>
        second.2.1.dispatches == [⟨0, true⟩]) = true := by
  decide +kernel

/-- Two careful calls, of which the second is answered from the first. -/
theorem delivered_once : ∃ (pool : Calls Unit), LighthouseRun (Careful {}) pool ∧
    pool.view.shared.dispatches = [⟨0, true⟩] ∧ AtMostOnePaid pool.view.shared.dispatches := by
  obtain ⟨last, played, dispatches⟩ := (Option.any_eq_true ..).mp delivered_plays
  obtain ⟨first, firstPlayed, lastPlayed⟩ := Option.bind_eq_some_iff.mp played
  have start : LighthouseRun (Careful {}) noCalls := ⟨fun _ => keyedLighthouseCall, .here⟩
  obtain ⟨pool, run, shared, spawned⟩ := playCall_run (fun _ _ => trivial)
    (fun _ _ _ careful => careful rfl) start firstPlayed
  rw [← shared, show 1 = pool.view.spawned from spawned.symm] at lastPlayed
  obtain ⟨pool', run', shared', _⟩ := playCall_run (fun _ _ => trivial)
    (fun _ _ _ careful => careful rfl) run lastPlayed
  refine ⟨pool', run', ?_, at_most_one_paid_call run'⟩
  rw [shared']
  exact eq_of_beq dispatches

end LateDelivery

end ImagegenBridge.Orchestrator
