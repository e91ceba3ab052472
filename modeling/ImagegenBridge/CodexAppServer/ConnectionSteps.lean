import ImagegenBridge.CodexAppServer.Connection

/-!
# What every run of a connection keeps

An id is taken once. From its registration on it is pending or answered until its own
request removes it, so an answer is never replaced. The writer is held by the program
that writes a line.
-/

namespace ImagegenBridge.CodexAppServer

open Program Snapshot

abbrev RpcView := Snapshot rpcMonitor Connection

/-- A step of the programs as the contract describes them. -/
abbrev RpcStep (codec : JsonText) (config : RpcConfig) (v : RpcView) (event : PoolEvent rpcCalls)
    (v' : RpcView) : Prop :=
  Snapshot.Step (rpcContract codec) (behavior codec config) {} v event v'

/-- The state of all ids. -/
structure Ids (v : RpcView) : Prop where
  fresh : ∀ id, v.shared.nextId ≤ id → id ∉ v.shared.pending ∧ v.shared.channels id = none
  unanswered : ∀ id ∈ v.shared.pending, v.shared.channels id = none
  numbered : ∀ caller phase id, v.phase caller = some phase → phase.number = some id →
    id < v.shared.nextId ∧ id ∉ v.shared.pending ∧ v.shared.channels id = none
  entered : ∀ caller phase id, v.phase caller = some phase → phase.entry = some id →
    id ∈ v.shared.pending ∨ v.shared.channels id ≠ none
  numbers : ∀ a b phase phase' id, v.phase a = some phase → v.phase b = some phase' →
    phase.number = some id → phase'.number = some id → a = b
  entries : ∀ a b phase phase' id, v.phase a = some phase → v.phase b = some phase' →
    phase.entry = some id → phase'.entry = some id → a = b

/-- The writer is held by the program that writes a line. -/
structure Held (v : RpcView) : Prop where
  holds : ∀ caller phase, v.phase caller = some phase → phase.line ≠ none →
    v.shared.writer = some caller
  holder : ∀ caller, v.shared.writer = some caller →
    ∃ phase, v.phase caller = some phase ∧ phase.line ≠ none

/-- A connection is closed after its map was taken. -/
structure Flagged (v : RpcView) : Prop where
  drains : ∀ caller phase, v.phase caller = some phase → phase.drains = true →
    v.shared.drained = true
  closes : ∀ caller phase, v.phase caller = some phase → phase.closes = true →
    v.shared.closed ≠ none
  closed : v.shared.closed ≠ none → v.shared.drained = true

section

variable {codec : JsonText} {config : RpcConfig} {v : RpcView} {caller : Nat}
  {phase phase' : CallPhase} {c c' : Connection}

/-- A message reaches the map, the channels and the subscribers only. -/
theorem receive_frame {line : String} : ∃ pending channels notifications,
    (c.receive codec config line).2 = { c with pending, channels, notifications } := by
  unfold Connection.receive
  cases dispatchMessage codec config.maxNotificationBytes line with
  | error e => exact ⟨_, _, _, rfl⟩
  | ok message =>
    cases message with
    | answers id result =>
      by_cases expected : id ∈ c.pending
      · simp only [Connection.take, Connection.answer, if_pos expected]
        exact ⟨_, _, _, rfl⟩
      · simp only [Connection.take, Connection.answer, if_neg expected]
        exact ⟨_, _, _, rfl⟩
    | notifies | ignored => exact ⟨_, _, _, rfl⟩

theorem abandons_released {op : RpcOp} (abandons : Abandons caller op c c') :
    c' = c.release caller := by
  cases op <;> first | exact abandons | cases abandons

/-! ## Ids -/

/-- An operation that takes no id: every id that is pending or answered stays so, but for
one that is given up. -/
structure Settles (c c' : Connection) (given : Option Nat) : Prop where
  nextId : c'.nextId = c.nextId
  pending : ∀ id ∈ c'.pending, id ∈ c.pending ∧ c'.channels id = c.channels id
  sent : ∀ id, c'.channels id ≠ none → c.channels id ≠ none ∨ id ∈ c.pending
  stays : ∀ id, given ≠ some id → id ∈ c.pending ∨ c.channels id ≠ none →
    id ∈ c'.pending ∨ c'.channels id ≠ none

theorem Settles.unused {given : Option Nat} (settles : Settles c c' given) {id : Nat}
    (idle : id ∉ c.pending ∧ c.channels id = none) : id ∉ c'.pending ∧ c'.channels id = none := by
  constructor
  · exact fun member => idle.1 (settles.pending id member).1
  · apply Classical.byContradiction
    intro answered
    obtain before | before := settles.sent id answered
    · exact before idle.2
    · exact idle.1 before

theorem settles_untouched (nextId : c'.nextId = c.nextId) (pending : c'.pending = c.pending)
    (channels : c'.channels = c.channels) : Settles c c' none := by
  constructor
  · exact nextId
  · intro id member
    rw [pending] at member
    exact ⟨member, congrFun channels id⟩
  · intro id answered
    rw [channels] at answered
    exact .inl answered
  · intro id _ before
    rwa [pending, channels]

theorem settles_remove {id : Nat} : Settles c (c.remove id) (some id) := by
  constructor
  · rfl
  · intro other member
    exact ⟨(List.mem_filter.mp member).1, rfl⟩
  · intro other answered
    exact .inl answered
  · intro other apart before
    apply before.imp_left
    intro member
    exact List.mem_filter.mpr ⟨member, decide_eq_true fun same => apart (same ▸ rfl)⟩

theorem settles_answer {id : Nat} {result : Outcome Json} : Settles c (c.answer id result) none := by
  unfold Connection.answer
  by_cases expected : id ∈ c.pending
  · rw [if_pos expected]
    constructor
    · rfl
    · intro other member
      obtain ⟨present, apart⟩ := List.mem_filter.mp member
      exact ⟨present, set_other _ _ (of_decide_eq_true apart)⟩
    · intro other answered
      by_cases own : other = id
      · exact .inr (own ▸ expected)
      · simp only [set_other _ _ own] at answered
        exact .inl answered
    · intro other _ before
      by_cases own : other = id
      · subst own
        simp [set_self]
      · simp only [set_other _ _ own]
        apply before.imp_left
        intro member
        exact List.mem_filter.mpr ⟨member, decide_eq_true own⟩
  · rw [if_neg expected]
    exact settles_untouched rfl rfl rfl

theorem settles_drain {error : BridgeError} : Settles c (c.drain error) none := by
  constructor
  · rfl
  · intro id member
    cases member
  · intro id answered
    by_cases expected : id ∈ c.pending
    · exact .inr expected
    · simp only [Connection.drain, if_neg expected] at answered
      exact .inl answered
  · intro id _ before
    apply Or.inr
    by_cases expected : id ∈ c.pending
    · simp [Connection.drain, expected]
    · simp only [Connection.drain, if_neg expected]
      exact before.resolve_left expected

theorem settles_take {message : Dispatched} : Settles c (c.take message) none := by
  cases message with
  | answers id result => exact settles_answer
  | notifies | ignored => exact settles_untouched rfl rfl rfl

/-- The ids of the programs are ids they had. -/
theorem Ids.among {v' : RpcView} {given : Option Nat} (ids : Ids v)
    (settles : Settles v.shared v'.shared given)
    (numbers : ∀ other p id, v'.phase other = some p → p.number = some id →
      ∃ q, v.phase other = some q ∧ q.number = some id)
    (entries : ∀ other p id, v'.phase other = some p → p.entry = some id →
      ∃ q, v.phase other = some q ∧ q.entry = some id ∧ given ≠ some id) : Ids v' := by
  constructor
  · intro id large
    rw [settles.nextId] at large
    exact settles.unused (ids.fresh id large)
  · intro id member
    obtain ⟨before, same⟩ := settles.pending id member
    exact same.trans (ids.unanswered id before)
  · intro other p id found named
    obtain ⟨q, old, named⟩ := numbers other p id found named
    obtain ⟨below, idle⟩ := ids.numbered other q id old named
    exact ⟨settles.nextId ▸ below, settles.unused idle⟩
  · intro other p id found named
    obtain ⟨q, old, named, stays⟩ := entries other p id found named
    exact settles.stays id stays (ids.entered other q id old named)
  · intro a b p q id at_a at_b named named'
    obtain ⟨p', old, named⟩ := numbers a p id at_a named
    obtain ⟨q', old', named'⟩ := numbers b q id at_b named'
    exact ids.numbers a b p' q' id old old' named named'
  · intro a b p q id at_a at_b named named'
    obtain ⟨p', old, named, _⟩ := entries a p id at_a named
    obtain ⟨q', old', named', _⟩ := entries b q id at_b named'
    exact ids.entries a b p' q' id old old' named named'

theorem settles_receive {line : String} : Settles c (c.receive codec config line).2 none := by
  unfold Connection.receive
  cases dispatchMessage codec config.maxNotificationBytes line with
  | error e => exact settles_untouched rfl rfl rfl
  | ok message => exact settles_take

theorem Ids.settled {given : Option Nat} (ids : Ids v) (live : v.phase caller = some phase)
    (settles : Settles v.shared c' given) (own : ∀ id, given = some id → phase.entry = some id)
    (number : phase'.number = phase.number)
    (entry : ∀ id, phase'.entry = some id → phase.entry = some id ∧ given = none) :
    Ids (v.exchange caller phase' c') := by
  apply ids.among settles
  · intro other p id found named
    obtain ⟨rfl, rfl⟩ | ⟨_, still⟩ := live_exchange found
    · exact ⟨phase, live, number ▸ named⟩
    · exact ⟨p, still, named⟩
  · intro other p id found named
    obtain ⟨rfl, rfl⟩ | ⟨apart, still⟩ := live_exchange found
    · obtain ⟨same, kept⟩ := entry id named
      exact ⟨phase, live, same, by simp [kept]⟩
    · refine ⟨p, still, named, fun gone => ?_⟩
      exact apart (ids.entries other caller p phase id still live named (own id gone))

theorem Ids.taken (ids : Ids v) (live : v.phase caller = some phase) :
    Ids (v.exchange caller { phase with number := some v.shared.nextId }
      { v.shared with nextId := v.shared.nextId + 1 }) := by
  obtain ⟨unused, unsent⟩ := ids.fresh _ (Nat.le_refl _)
  have earlier : ∀ other p id, v.phase other = some p → p.number = some id →
      id < v.shared.nextId := fun other p id at_other named => (ids.numbered other p id at_other named).1
  constructor
  · intro id large
    exact ids.fresh id (Nat.le_of_succ_le large)
  · exact ids.unanswered
  · intro other p id found named
    obtain ⟨rfl, rfl⟩ | ⟨_, still⟩ := live_exchange found
    · cases named
      exact ⟨Nat.lt_succ_self _, unused, unsent⟩
    · obtain ⟨below, rest⟩ := ids.numbered other p id still named
      exact ⟨Nat.lt_succ_of_lt below, rest⟩
  · intro other p id found named
    obtain ⟨rfl, rfl⟩ | ⟨_, still⟩ := live_exchange found
    · exact ids.entered _ phase id live named
    · exact ids.entered other p id still named
  · intro a b p q id at_a at_b named named'
    obtain ⟨rfl, rfl⟩ | ⟨_, was_a⟩ := live_exchange at_a <;>
      obtain ⟨rfl, rfl⟩ | ⟨_, was_b⟩ := live_exchange at_b
    · rfl
    · cases named
      exact absurd (earlier b q _ was_b named') (Nat.lt_irrefl _)
    · cases named'
      exact absurd (earlier a p _ was_a named) (Nat.lt_irrefl _)
    · exact ids.numbers a b p q id was_a was_b named named'
  · intro a b p q id at_a at_b named named'
    obtain ⟨rfl, rfl⟩ | ⟨_, was_a⟩ := live_exchange at_a <;>
      obtain ⟨rfl, rfl⟩ | ⟨_, was_b⟩ := live_exchange at_b
    · rfl
    · exact ids.entries _ b phase q id live was_b named named'
    · exact ids.entries a _ p phase id was_a live named named'
    · exact ids.entries a b p q id was_a was_b named named'

theorem Ids.registered {id : Nat} (ids : Ids v) (live : v.phase caller = some phase)
    (number : phase.number = some id) :
    Ids (v.exchange caller { phase with number := none, entry := some id }
      { v.shared with pending := id :: v.shared.pending }) := by
  obtain ⟨below, unused, unsent⟩ := ids.numbered caller phase id live number
  constructor
  · intro other large
    obtain ⟨idle, empty⟩ := ids.fresh other large
    have apart : other ≠ id := by
      rintro rfl
      exact Nat.lt_irrefl _ (Nat.lt_of_lt_of_le below large)
    exact ⟨fun member => (List.mem_cons.mp member).elim apart idle, empty⟩
  · intro other member
    obtain rfl | older := List.mem_cons.mp member
    · exact unsent
    · exact ids.unanswered other older
  · intro other p n found named
    obtain ⟨rfl, rfl⟩ | ⟨apart, still⟩ := live_exchange found
    · cases named
    · obtain ⟨known, idle, empty⟩ := ids.numbered other p n still named
      refine ⟨known, fun member => ?_, empty⟩
      obtain rfl | older := List.mem_cons.mp member
      · exact apart (ids.numbers other caller p phase n still live named number)
      · exact idle older
  · intro other p n found named
    obtain ⟨rfl, rfl⟩ | ⟨_, still⟩ := live_exchange found
    · cases named
      exact .inl (List.mem_cons_self ..)
    · exact (ids.entered other p n still named).imp_left (List.mem_cons_of_mem _)
  · intro a b p q n at_a at_b named named'
    obtain ⟨rfl, rfl⟩ | ⟨_, was_a⟩ := live_exchange at_a
    · cases named
    · obtain ⟨rfl, rfl⟩ | ⟨_, was_b⟩ := live_exchange at_b
      · cases named'
      · exact ids.numbers a b p q n was_a was_b named named'
  · have elsewhere : ∀ other p, v.phase other = some p → p.entry ≠ some id := by
      intro other p at_other named
      obtain present | sent := ids.entered other p id at_other named
      · exact unused present
      · exact sent unsent
    intro a b p q n at_a at_b named named'
    obtain ⟨rfl, rfl⟩ | ⟨_, was_a⟩ := live_exchange at_a <;>
      obtain ⟨rfl, rfl⟩ | ⟨_, was_b⟩ := live_exchange at_b
    · rfl
    · cases named
      exact absurd named' (elsewhere b q was_b)
    · cases named'
      exact absurd named (elsewhere a p was_a)
    · exact ids.entries a b p q n was_a was_b named named'

/-- An operation that leaves the ids of its program. -/
theorem Ids.quiet (ids : Ids v) (live : v.phase caller = some phase)
    (settles : Settles v.shared c' none) (number : phase'.number = phase.number)
    (entry : phase'.entry = phase.entry) : Ids (v.exchange caller phase' c') := by
  apply ids.settled live settles
  · intro id given
    cases given
  · exact number
  · intro id named
    exact ⟨entry ▸ named, rfl⟩

theorem step_ids {v' : RpcView} {event : PoolEvent rpcCalls} (ids : Ids v)
    (step : RpcStep codec config v event v') : Ids v' := by
  cases step with
  | spawn =>
    have same : Settles v.shared (v.spawn ({} : CallPhase)).shared none :=
      settles_untouched rfl rfl rfl
    apply ids.among same
    · intro other p id found named
      obtain rfl | still := live_spawn found
      · cases named
      · exact ⟨p, still, named⟩
    · intro other p id found named
      obtain rfl | still := live_spawn found
      · cases named
      · exact ⟨p, still, named, by simp⟩
  | @drop id phase op shared live allowed abandons =>
    obtain rfl := abandons_released abandons
    have same : Settles v.shared (v.drop id (v.shared.release id)).shared none :=
      settles_untouched rfl rfl rfl
    apply ids.among same
    · intro other p id found named
      exact ⟨p, (live_drop found).2, named⟩
    · intro other p id found named
      exact ⟨p, (live_drop found).2, named, by simp⟩
  | @exchange id phase op answer shared live allowed _ performs =>
    cases op with
    | checkClosed =>
      obtain ⟨_, rfl⟩ := performs
      exact ids.quiet live (settles_untouched rfl rfl rfl) rfl rfl
    | nextId =>
      obtain ⟨rfl, rfl⟩ := performs
      exact ids.taken live
    | register n =>
      obtain rfl := performs
      exact ids.registered live allowed.1
    | unregister n =>
      obtain rfl := performs
      apply ids.settled live settles_remove
      · intro id given
        cases given
        exact allowed
      · rfl
      · intro id named
        cases named
    | lockWriter =>
      obtain ⟨_, rfl⟩ := performs
      exact ids.quiet live (settles_untouched rfl rfl rfl) rfl rfl
    | writeByte byte =>
      obtain rfl := performs
      cases answer <;> exact ids.quiet live (settles_untouched rfl rfl rfl) rfl rfl
    | flush =>
      obtain rfl := performs
      exact ids.quiet live (settles_untouched rfl rfl rfl) rfl rfl
    | unlockWriter =>
      obtain rfl := performs
      exact ids.quiet live (settles_untouched rfl rfl rfl) rfl rfl
    | wait n =>
      obtain ⟨rfl, _⟩ := performs
      cases answer with
      | answered result =>
        apply ids.settled live (settles_untouched rfl rfl rfl)
        · intro id given
          cases given
        · rfl
        · intro id named
          cases named
      | cancelled | elapsed => exact ids.quiet live (settles_untouched rfl rfl rfl) rfl rfl
    | dispatch line =>
      obtain ⟨rfl, rfl⟩ := performs
      exact ids.quiet live settles_receive rfl rfl
    | drain error =>
      obtain rfl := performs
      exact ids.quiet live settles_drain rfl rfl
    | publish error =>
      obtain rfl := performs
      exact ids.quiet live (settles_untouched rfl rfl rfl) rfl rfl

/-! ## The writer -/

theorem Held.quiet (held : Held v) (live : v.phase caller = some phase)
    (writer : c'.writer = v.shared.writer) (line : phase'.line ≠ none ↔ phase.line ≠ none) :
    Held (v.exchange caller phase' c') := by
  constructor
  · intro other p found writes
    apply writer.trans
    obtain ⟨rfl, rfl⟩ | ⟨_, still⟩ := live_exchange found
    · exact held.holds _ phase live (line.mp writes)
    · exact held.holds other p still writes
  · intro other owns
    obtain ⟨p, still, writes⟩ := held.holder other (writer ▸ owns)
    by_cases own : other = caller
    · subst own
      rw [live] at still
      cases still
      exact ⟨phase', set_self .., line.mpr writes⟩
    · exact ⟨p, (set_other _ _ own).trans still, writes⟩

theorem Held.locked (held : Held v) (free : v.shared.writer = none)
    (writer : c'.writer = some caller) (line : phase'.line ≠ none) :
    Held (v.exchange caller phase' c') := by
  constructor
  · intro other p found writes
    obtain ⟨rfl, rfl⟩ | ⟨_, still⟩ := live_exchange found
    · exact writer
    · have owns := held.holds other p still writes
      rw [free] at owns
      cases owns
  · intro other owns
    obtain rfl : caller = other := Option.some.inj (writer.symm.trans owns)
    exact ⟨phase', set_self .., line⟩

theorem Held.unlocked (held : Held v) (live : v.phase caller = some phase)
    (writes : phase.line ≠ none) (writer : c'.writer = none) (line : phase'.line = none) :
    Held (v.exchange caller phase' c') := by
  have owns := held.holds caller phase live writes
  constructor
  · intro other p found writes'
    obtain ⟨rfl, rfl⟩ | ⟨apart, still⟩ := live_exchange found
    · exact absurd line writes'
    · have also := held.holds other p still writes'
      exact absurd (Option.some.inj (also.symm.trans owns)) apart
  · intro other owns'
    rw [show (v.exchange caller phase' c').shared.writer = c'.writer from rfl, writer] at owns'
    cases owns'

theorem Held.dropped (held : Held v) : Held (v.drop caller (v.shared.release caller)) := by
  constructor
  · intro other p found writes
    obtain ⟨apart, still⟩ := live_drop found
    have owns := held.holds other p still writes
    have kept : v.shared.writer ≠ some caller := by
      rw [owns]
      exact fun same => apart (Option.some.inj same)
    simp only [Snapshot.drop, Connection.release, if_neg kept]
    exact owns
  · intro other owns
    simp only [Snapshot.drop, Connection.release] at owns
    split at owns
    · cases owns
    · rename_i kept
      obtain ⟨p, still, writes⟩ := held.holder other owns
      have apart : other ≠ caller := fun same => kept (same ▸ owns)
      exact ⟨p, (set_other _ _ apart).trans still, writes⟩

theorem step_held {v' : RpcView} {event : PoolEvent rpcCalls} (held : Held v)
    (fresh : ∀ caller, v.spawned ≤ caller → v.phase caller = none)
    (step : RpcStep codec config v event v') : Held v' := by
  cases step with
  | spawn =>
    constructor
    · intro other p found writes
      obtain rfl | still := live_spawn found
      · exact absurd rfl writes
      · exact held.holds other p still writes
    · intro other owns
      obtain ⟨p, still, writes⟩ := held.holder other owns
      have apart : other ≠ v.spawned := by
        rintro rfl
        rw [fresh _ (Nat.le_refl _)] at still
        cases still
      exact ⟨p, (set_other _ _ apart).trans still, writes⟩
  | @drop id phase op shared live allowed abandons =>
    obtain rfl := abandons_released abandons
    exact held.dropped
  | @exchange id phase op answer shared live allowed _ performs =>
    cases op with
    | checkClosed =>
      obtain ⟨_, rfl⟩ := performs
      exact held.quiet live rfl Iff.rfl
    | nextId =>
      obtain ⟨_, rfl⟩ := performs
      exact held.quiet live rfl Iff.rfl
    | register n | unregister n | flush | drain error | publish error =>
      obtain rfl := performs
      exact held.quiet live rfl Iff.rfl
    | lockWriter =>
      obtain ⟨free, rfl⟩ := performs
      exact held.locked free rfl (by simp [CallPhase.next])
    | writeByte byte =>
      obtain rfl := performs
      obtain ⟨written, rest, writes, _⟩ := allowed
      cases answer
      · exact held.quiet live rfl Iff.rfl
      · exact held.quiet live rfl (by simp [CallPhase.next, writes])
    | unlockWriter =>
      obtain rfl := performs
      obtain ⟨written, writes, _⟩ := allowed
      exact held.unlocked live (by simp [writes]) rfl rfl
    | wait n =>
      obtain ⟨rfl, _⟩ := performs
      cases answer <;> exact held.quiet live rfl Iff.rfl
    | dispatch line =>
      obtain ⟨_, rfl⟩ := performs
      obtain ⟨_, _, _, same⟩ := receive_frame (c := v.shared)
      exact held.quiet live (by rw [same]) Iff.rfl

/-! ## The closed flag -/

theorem Flagged.moved (flagged : Flagged v)
    (drained : v.shared.drained = true → c'.drained = true)
    (closed : v.shared.closed ≠ none → c'.closed ≠ none)
    (after : c'.closed ≠ none → c'.drained = true)
    (drains : phase'.drains = true → c'.drained = true)
    (closes : phase'.closes = true → c'.closed ≠ none) :
    Flagged (v.exchange caller phase' c') := by
  constructor
  · intro other p found taken
    obtain ⟨rfl, rfl⟩ | ⟨_, still⟩ := live_exchange found
    · exact drains taken
    · exact drained (flagged.drains other p still taken)
  · intro other p found ended
    obtain ⟨rfl, rfl⟩ | ⟨_, still⟩ := live_exchange found
    · exact closes ended
    · exact closed (flagged.closes other p still ended)
  · exact after

theorem Flagged.quiet (flagged : Flagged v) (live : v.phase caller = some phase)
    (drained : c'.drained = v.shared.drained) (closed : c'.closed = v.shared.closed)
    (drains : phase'.drains = phase.drains) (closes : phase'.closes = phase.closes) :
    Flagged (v.exchange caller phase' c') := by
  apply flagged.moved
  · exact fun taken => drained ▸ taken
  · exact fun ended => closed ▸ ended
  · intro ended
    rw [closed] at ended
    exact drained ▸ flagged.closed ended
  · intro taken
    rw [drains] at taken
    exact drained ▸ flagged.drains caller phase live taken
  · intro ended
    rw [closes] at ended
    exact closed ▸ flagged.closes caller phase live ended

theorem step_flagged {v' : RpcView} {event : PoolEvent rpcCalls} (flagged : Flagged v)
    (step : RpcStep codec config v event v') : Flagged v' := by
  cases step with
  | spawn =>
    constructor
    · intro other p found taken
      obtain rfl | still := live_spawn found
      · cases taken
      · exact flagged.drains other p still taken
    · intro other p found ended
      obtain rfl | still := live_spawn found
      · cases ended
      · exact flagged.closes other p still ended
    · exact flagged.closed
  | @drop id phase op shared live allowed abandons =>
    obtain rfl := abandons_released abandons
    constructor
    · intro other p found taken
      exact flagged.drains other p (live_drop found).2 taken
    · intro other p found ended
      exact flagged.closes other p (live_drop found).2 ended
    · exact flagged.closed
  | @exchange id phase op answer shared live allowed _ performs =>
    cases op with
    | checkClosed | nextId =>
      obtain ⟨_, rfl⟩ := performs
      exact flagged.quiet live rfl rfl rfl rfl
    | register n | unregister n | flush | unlockWriter =>
      obtain rfl := performs
      exact flagged.quiet live rfl rfl rfl rfl
    | lockWriter =>
      obtain ⟨_, rfl⟩ := performs
      exact flagged.quiet live rfl rfl rfl rfl
    | writeByte byte =>
      obtain rfl := performs
      cases answer <;> exact flagged.quiet live rfl rfl rfl rfl
    | wait n =>
      obtain ⟨rfl, _⟩ := performs
      cases answer <;> exact flagged.quiet live rfl rfl rfl rfl
    | dispatch line =>
      obtain ⟨_, rfl⟩ := performs
      obtain ⟨_, _, _, same⟩ := receive_frame (c := v.shared)
      exact flagged.quiet live (by rw [same]) (by rw [same]) rfl rfl
    | drain error =>
      obtain rfl := performs
      apply flagged.moved
      · exact fun _ => rfl
      · exact fun ended => ended
      · exact fun _ => rfl
      · exact fun _ => rfl
      · exact flagged.closes _ phase live
    | publish error =>
      obtain rfl := performs
      have taken := flagged.drains _ phase live allowed
      apply flagged.moved
      · exact fun _ => taken
      · exact fun _ => Option.some_ne_none error
      · exact fun _ => taken
      · exact fun _ => taken
      · exact fun _ => Option.some_ne_none error

/-! ## Runs -/

/-- What every run keeps. -/
structure Orderly (v : RpcView) : Prop where
  formed : v.WellFormed
  ids : Ids v
  held : Held v
  flagged : Flagged v

theorem initial_orderly : Orderly (Snapshot.empty Connection.initial) := by
  refine ⟨empty_wellFormed _, ?_, ?_, ?_⟩
  · constructor <;> simp [Snapshot.empty, Connection.initial]
  · constructor <;> simp [Snapshot.empty, Connection.initial]
  · constructor <;> simp [Snapshot.empty, Connection.initial]

theorem step_orderly {v' : RpcView} {event : PoolEvent rpcCalls} (orderly : Orderly v)
    (step : RpcStep codec config v event v') : Orderly v' where
  formed := step.wellFormed orderly.formed
  ids := step_ids orderly.ids step
  held := step_held orderly.held (fun caller beyond => (orderly.formed.fresh caller beyond).1) step
  flagged := step_flagged orderly.flagged step

end

abbrev RpcPool := Pool rpcMonitor Connection RpcEnd

/-- The runs of a connection whose events all meet a condition. -/
abbrev RpcRun (codec : JsonText) (config : RpcConfig)
    (condition : RpcView → PoolEvent rpcCalls → Prop) (s : RpcPool) : Prop :=
  Pool.Run (Tasks codec config) (behavior codec config) ({} : CallPhase) Connection.initial
    condition s

abbrev RpcPoolStep (codec : JsonText) (config : RpcConfig) (s : RpcPool)
    (event : PoolEvent rpcCalls) (s' : RpcPool) : Prop :=
  Pool.Step (Tasks codec config) (behavior codec config) ({} : CallPhase) s event s'

section

variable {codec : JsonText} {config : RpcConfig} {condition : RpcView → PoolEvent rpcCalls → Prop}
  {Inv : RpcView → Prop} {s s' : RpcPool} {event : PoolEvent rpcCalls}

theorem rpc_justified :
    Pool.Justifies condition (behavior codec config) (rpcContract codec) :=
  fun _ _ _ _ _ _ _ _ _ => trivial

/-- An invariant of runs may use that they are orderly. -/
theorem rpcRun_invariant (initial : Inv (Snapshot.empty Connection.initial))
    (preserved : ∀ v event v', Orderly v → Inv v → RpcStep codec config v event v' →
      condition v event → Inv v') (run : RpcRun codec config condition s) :
    (Orderly s.view ∧ Inv s.view) ∧ s.Keeps (rpcContract codec) fun _ _ => True := by
  have tasks : ∀ p, Tasks codec config p → p.Keeps (rpcContract codec) ({} : CallPhase)
      fun _ _ => True := fun _ => tasks_keep
  let Both : RpcView → Prop := fun v => Orderly v ∧ Inv v
  have start : Both (Snapshot.empty Connection.initial) := ⟨initial_orderly, initial⟩
  have kept : ∀ v event v', Both v → RpcStep codec config v event v' → condition v event →
      Both v' := by
    intro v event v' ⟨orderly, holds⟩ step met
    exact ⟨step_orderly orderly step, preserved v event v' orderly holds step met⟩
  exact Pool.run_invariant tasks rpc_justified start kept run

/-- A step of the programs is a step of their phases. -/
theorem rpcStep_refines (kept : s.Keeps (rpcContract codec) fun _ _ => True)
    (step : RpcPoolStep codec config s event s') : RpcStep codec config s.view event s'.view := by
  have tasks : ∀ p, Tasks codec config p → p.Keeps (rpcContract codec) ({} : CallPhase)
      fun _ _ => True := fun _ => tasks_keep
  have free : Pool.Justifies (fun _ _ => True) (behavior codec config) (rpcContract codec) :=
    rpc_justified
  exact (Pool.step_refines kept tasks free step trivial).1

end

/-! ## Schedules -/

/-- The answers of a peer that takes every byte: what the connection does not answer never
comes. -/
def rpcAnswers (codec : JsonText) (config : RpcConfig) (caller : Nat) :
    (op : RpcOp) → Connection → Option (op.Ans × Connection)
  | .checkClosed, c => some (c.closed, c)
  | .nextId, c => some (c.nextId, { c with nextId := c.nextId + 1 })
  | .register id, c => some ((), { c with pending := id :: c.pending })
  | .unregister id, c => some ((), c.remove id)
  | .lockWriter, c => if c.writer = none then some ((), { c with writer := some caller }) else none
  | .writeByte byte, c => some (true, { c with output := c.output ++ [byte] })
  | .flush, c => some (true, c)
  | .unlockWriter, c => some ((), { c with writer := none })
  | .wait id, c => if id ∈ c.pending then none else some (.answered (c.channels id), c)
  | .dispatch line, c => some (c.receive codec config line)
  | .drain error, c => some ((), c.drain error)
  | .publish error, c => some ((), { c with closed := some error })

def rpcLeaves (caller : Nat) : RpcOp → Connection → Option Connection
  | .lockWriter, c | .writeByte _, c | .flush, c | .wait _, c => some (c.release caller)
  | _, _ => none

theorem rpcAnswers_performs {codec : JsonText} {config : RpcConfig} (caller : Nat) (op : RpcOp)
    (c : Connection) (answer : op.Ans) (c' : Connection)
    (answered : rpcAnswers codec config caller op c = some (answer, c')) :
    Performs codec config caller op answer c c' := by
  cases op with
  | checkClosed | nextId =>
    cases answered
    exact ⟨rfl, rfl⟩
  | dispatch line =>
    have both := Option.some.inj answered
    exact ⟨(congrArg Prod.fst both).symm, (congrArg Prod.snd both).symm⟩
  | register id | unregister id | writeByte byte | flush | unlockWriter | drain error
  | publish error =>
    cases answered
    rfl
  | lockWriter =>
    by_cases free : c.writer = none
    · rw [rpcAnswers, if_pos free] at answered
      cases answered
      exact ⟨free, rfl⟩
    · rw [rpcAnswers, if_neg free] at answered
      cases answered
  | wait id =>
    by_cases expected : id ∈ c.pending
    · rw [rpcAnswers, if_pos expected] at answered
      cases answered
    · rw [rpcAnswers, if_neg expected] at answered
      cases answered
      refine ⟨rfl, fun result told => ?_⟩
      cases told
      exact ⟨expected, rfl⟩

theorem rpcLeaves_abandons (caller : Nat) (op : RpcOp) (c c' : Connection)
    (left : rpcLeaves caller op c = some c') : Abandons caller op c c' := by
  cases op <;> cases left <;> rfl

def noTasks : RpcPool := ⟨Snapshot.empty Connection.initial, fun _ => .done .reader⟩

def rpcSchedule (codec : JsonText) (config : RpcConfig) (moves : List (Pool.Move rpcCalls RpcEnd)) :
    Option RpcPool :=
  Pool.schedule (rpcAnswers codec config) rpcLeaves ({} : CallPhase) moves noTasks

theorem rpcSchedule_run {codec : JsonText} {config : RpcConfig}
    {moves : List (Pool.Move rpcCalls RpcEnd)} {s : RpcPool}
    (allowed : ∀ p, Pool.Move.spawn p ∈ moves → Tasks codec config p)
    (scheduled : rpcSchedule codec config moves = some s) :
    RpcRun codec config (fun _ _ => True) s :=
  ⟨_, Pool.schedule_path rpcAnswers_performs rpcLeaves_abandons allowed .here scheduled⟩

/-- The first request of a connection, as `serde_json` writes it. -/
def firstLine : List UInt8 :=
  "\x7b\"id\":1,\"method\":\"turn/start\",\"params\":null\x7d".toList.map fun c => c.toNat.toUInt8

/-- `serde_json` as far as one request and one message of the peer need it. -/
def turnCodec (message : Json) : JsonText := ⟨fun _ => some message, fun _ => firstLine⟩

def turnConfig : RpcConfig := ⟨1024, 1024⟩

def startTurn (codec : JsonText) : Rpc RpcEnd :=
  requestWithDelivery codec turnConfig "turn/start" .null true >>= fun result =>
    pure (.request result)

end ImagegenBridge.CodexAppServer
