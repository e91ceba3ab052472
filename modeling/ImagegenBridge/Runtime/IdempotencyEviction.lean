import ImagegenBridge.Runtime.PendingEntries

/-!
# What the coordinator evicts

Both evictions choose the least recently used record that can be replayed. A pending entry or a
tombstone is not one, so only its expiry or a report removes it.
-/

namespace ImagegenBridge.Idempotency

open AssocTotals IdempotencyState

variable {Fingerprint : Type} {c c' : IdempotencyState Fingerprint} {config : IdempotencyConfig}
  {key victim : RecordKey} {entry : Entry Fingerprint} {now : Nat}

/-! ## The least recently used entry -/

/-- The fold of `leastRecent` goes from an entry to one that no entry on the way precedes. -/
theorem foldl_least (entries : List (Sigma fun _ : RecordKey => Entry Fingerprint))
    (previous : Sigma fun _ : RecordKey => Entry Fingerprint) : ∃ chosen,
      entries.foldl (fun best entry => match best with
        | none => some entry
        | some chosen => if entry.2.lastAccess < chosen.2.lastAccess then some entry else best)
        (some previous) = some chosen ∧ (chosen = previous ∨ chosen ∈ entries) ∧
      chosen.2.lastAccess ≤ previous.2.lastAccess ∧
      ∀ other ∈ entries, chosen.2.lastAccess ≤ other.2.lastAccess := by
  induction entries generalizing previous with
  | nil => exact ⟨previous, rfl, Or.inl rfl, Nat.le_refl _, by simp⟩
  | cons e rest ih =>
    by_cases older : e.2.lastAccess < previous.2.lastAccess
    · obtain ⟨chosen, found, among, least, others⟩ := ih e
      refine ⟨chosen, by simpa [older] using found, Or.inr (List.mem_cons.mpr among), by omega, ?_⟩
      rintro other (_ | ⟨_, later⟩)
      · exact least
      · exact others other later
    · obtain ⟨chosen, found, among, least, others⟩ := ih previous
      refine ⟨chosen, by simpa [older] using found, among.imp_right (List.mem_cons_of_mem e), least, ?_⟩
      rintro other (_ | ⟨_, later⟩)
      · omega
      · exact others other later

theorem leastRecent_least {entries : List (Sigma fun _ : RecordKey => Entry Fingerprint)}
    (some_entry : entries ≠ []) : ∃ chosen ∈ entries, leastRecent entries = some chosen.1 ∧
      ∀ other ∈ entries, chosen.2.lastAccess ≤ other.2.lastAccess := by
  cases entries with
  | nil => exact absurd rfl some_entry
  | cons e rest =>
    obtain ⟨chosen, found, among, least, others⟩ := foldl_least rest e
    refine ⟨chosen, List.mem_cons.mpr among, congrArg (Option.map Sigma.fst) found, ?_⟩
    rintro other (_ | ⟨_, later⟩)
    · exact least
    · exact others other later

/-- What a choice over the live entries finds: the least recently used of those a filter keeps,
if there are any. -/
theorem leastRecent_live (eligible : (Sigma fun _ : RecordKey => Entry Fingerprint) → Bool) :
    (leastRecent (c.entries.entries.filter eligible) = none ∧
      ∀ key entry, c.entries.lookup key = some entry → eligible ⟨key, entry⟩ = false) ∨
    ∃ victim entry, leastRecent (c.entries.entries.filter eligible) = some victim ∧
      c.entries.lookup victim = some entry ∧ eligible ⟨victim, entry⟩ = true ∧
      ∀ other e, c.entries.lookup other = some e → eligible ⟨other, e⟩ = true →
        entry.lastAccess ≤ e.lastAccess := by
  have listed (k : RecordKey) (e : Entry Fingerprint) (live : c.entries.lookup k = some e)
      (kept : eligible ⟨k, e⟩ = true) :
      (⟨k, e⟩ : Sigma fun _ : RecordKey => Entry Fingerprint) ∈ c.entries.entries.filter eligible :=
    List.mem_filter.mpr ⟨List.of_mem_dlookup live, kept⟩
  by_cases none_eligible : c.entries.entries.filter eligible = []
  · refine Or.inl ⟨by rw [none_eligible]; rfl, ?_⟩
    intro k e live
    rw [Bool.eq_false_iff]
    intro kept
    have present := listed k e live kept
    rw [none_eligible] at present
    cases present
  · right
    obtain ⟨⟨victim, entry⟩, among, chosen, others⟩ := leastRecent_least none_eligible
    obtain ⟨live, kept⟩ := List.mem_filter.mp among
    exact ⟨victim, entry, chosen, mem_entries live, kept,
      fun other e live kept => others _ (listed other e live kept)⟩

/-! ## Flags and channels -/

/-- What an entry's flags say of the last value on its channel. -/
structure Flagged (entry : Entry Fingerprint) (outcome : EntryOutcome) : Prop where
  settled : entry.expiresAt.isSome = true → entry.uncertain = false →
    0 < entry.retainedBytes ∧ ∃ response, outcome = .completed response
  uncertain : entry.uncertain = true → entry.expiresAt.isSome = true ∧ ∃ e, outcome = .unknown e

theorem Flagged.of_uncertain {outcome : EntryOutcome} {e : BridgeError}
    (uncertain : entry.uncertain = true) (expires : entry.expiresAt.isSome = true)
    (told : outcome = .unknown e) : Flagged entry outcome where
  settled := by
    intro _ certain
    rw [uncertain] at certain
    cases certain
  uncertain := fun _ => ⟨expires, e, told⟩

theorem Flagged.of_certain {outcome : EntryOutcome} (certain : entry.uncertain = false)
    (settled : entry.expiresAt.isSome = true → 0 < entry.retainedBytes ∧
      ∃ response, outcome = .completed response) : Flagged entry outcome where
  settled := fun expires _ => settled expires
  uncertain := by
    intro uncertain
    rw [certain] at uncertain
    cases uncertain

/-- Every entry's flags agree with its channel. -/
def Labelled (c : IdempotencyState Fingerprint) : Prop :=
  ∀ key entry, c.entries.lookup key = some entry → Flagged entry (c.channels entry.sender)

/-- An entry goes, and at most its own channel changes. -/
theorem Labelled.vacate (threaded : Threaded c) (labelled : Labelled c)
    (found : c.entries.lookup key = some entry) (entries : c'.entries = c.entries.erase key)
    (channels : ∀ g, g ≠ entry.sender → c'.channels g = c.channels g) : Labelled c' := by
  intro k e there
  rw [entries] at there
  obtain ⟨other, before⟩ := lookup_erase_cases there
  have own : e.sender ≠ entry.sender :=
    fun same => other (threaded.distinct k key e entry before found same)
  rw [channels _ own]
  exact labelled k e before

/-- An entry is rewritten on its own channel. -/
theorem Labelled.rewrite (threaded : Threaded c) (labelled : Labelled c) {new : Entry Fingerprint}
    (found : c.entries.lookup key = some entry) (entries : c'.entries = c.entries.insert key new)
    (sender : new.sender = entry.sender)
    (channels : ∀ g, g ≠ entry.sender → c'.channels g = c.channels g)
    (flagged : Flagged new (c'.channels entry.sender)) : Labelled c' := by
  intro k e there
  rw [entries] at there
  obtain ⟨rfl, rfl⟩ | ⟨other, before⟩ := lookup_insert_cases there
  · rw [sender]
    exact flagged
  · have own : e.sender ≠ entry.sender :=
      fun same => other (threaded.distinct k key e entry before found same)
    rw [channels _ own]
    exact labelled k e before

theorem Labelled.remove (threaded : Threaded c) (labelled : Labelled c) (key : RecordKey) :
    Labelled (c.remove key) := by
  cases found : c.entries.lookup key with
  | none =>
    have same : c.remove key = c := by simp [IdempotencyState.remove, found]
    rw [same]
    exact labelled
  | some entry =>
    exact labelled.vacate threaded found (remove_entries c key) fun g _ => by rw [remove_channels]

/-- Threads and labels together, as every operation keeps them. -/
structure Kept (c : IdempotencyState Fingerprint) : Prop where
  threaded : Threaded c
  labelled : Labelled c

theorem Kept.remove (kept : Kept c) (key : RecordKey) : Kept (c.remove key) :=
  ⟨kept.threaded.remove key, kept.labelled.remove kept.threaded key⟩

theorem Kept.expireKey (kept : Kept c) (key : RecordKey) : Kept (c.expireKey key) := by
  refine ⟨kept.threaded.expireKey key, ?_⟩
  unfold IdempotencyState.expireKey
  cases found : c.entries.lookup key with
  | none => exact kept.labelled
  | some entry =>
    dsimp only
    split
    · refine kept.labelled.vacate kept.threaded found (remove_entries c key) fun g other => ?_
      rw [send_others _ _ other, remove_channels]
    · exact kept.labelled.remove kept.threaded key

theorem Kept.enter (kept : Kept c) (now : Nat) : Kept (c.enter config now) := by
  have cleaned : Kept (c.cleanup now config.inFlightTtl) :=
    expireKeys_invariant (fun _ k _ held => Kept.expireKey held k) kept
  exact ⟨kept.threaded.enter now, cleaned.labelled⟩

theorem Kept.insertPending (kept : Kept c) (key : RecordKey) (fingerprint : Fingerprint)
    (now access : Nat) : Kept (c.insertPending key fingerprint now access) := by
  refine ⟨kept.threaded.insertPending fingerprint now access, ?_⟩
  intro k e there
  obtain ⟨rfl, rfl⟩ | ⟨_, before⟩ := lookup_insert_cases there
  · exact .of_certain rfl fun impossible => by cases impossible
  · have used := kept.threaded.opened k e before
    have other : e.sender ≠ c.nextSender := by omega
    show Flagged e (((c.put key _).send c.nextSender .pending).channels e.sender)
    rw [send_others _ _ other]
    exact kept.labelled k e before


theorem responseWeight_pos (codec : Codec Fingerprint) (response : ImageResponse) :
    0 < responseWeight codec response := by
  unfold responseWeight usizeMax
  split
  · split <;> omega
  · omega

theorem settleUnreplayable_kept (kept : Kept c) (found : c.entries.lookup key = some entry)
    (expires : Nat) : Labelled (c.settleUnreplayable key entry expires) := by
  refine kept.labelled.rewrite kept.threaded found rfl rfl (fun g other => send_others _ _ other) ?_
  exact .of_uncertain rfl rfl (e := unreplayableError) (by simp [settleUnreplayable, send])

theorem settleCompleted_kept (kept : Kept c) (found : c.entries.lookup key = some entry)
    (expires : Nat) {bytes : Nat} (heavy : 0 < bytes) (response : ImageResponse) :
    Labelled (c.settleCompleted key entry expires bytes response) := by
  refine kept.labelled.rewrite kept.threaded found rfl rfl (fun g other => send_others _ _ other) ?_
  exact .of_certain rfl fun _ => ⟨heavy, response, by simp [settleCompleted, send]⟩

/-! ## Evictions -/

/-- A completed record that `begin` answers with. -/
def Replayable (c : IdempotencyState Fingerprint) (key : RecordKey) (entry : Entry Fingerprint) :
    Prop :=
  c.entries.lookup key = some entry ∧ entry.uncertain = false ∧
    ∃ response, c.channels entry.sender = .completed response

/-- The least recently used of the replayable records of other keys. -/
def Victim (c : IdempotencyState Fingerprint) (exclude victim : RecordKey) : Prop :=
  victim ≠ exclude ∧ ∃ entry, Replayable c victim entry ∧
    ∀ other e, other ≠ exclude → Replayable c other e → entry.lastAccess ≤ e.lastAccess

/-- Victims go one by one, each while the incoming bytes do not fit. -/
inductive Evicts (incoming maximum : Nat) (exclude : RecordKey) :
    IdempotencyState Fingerprint → IdempotencyState Fingerprint → Prop
  | enough {c : IdempotencyState Fingerprint}
      (fits : saturatingAdd c.completedBytes incoming ≤ maximum) : Evicts incoming maximum exclude c c
  | evict {c c' : IdempotencyState Fingerprint} {victim : RecordKey}
      (needed : maximum < saturatingAdd c.completedBytes incoming)
      (chosen : Victim c exclude victim) (rest : Evicts incoming maximum exclude (c.remove victim) c') :
      Evicts incoming maximum exclude c c'

/-- In a kept state the replayable records are those that have an expiry and are certain. -/
theorem replayable_settled (kept : Kept c) (found : c.entries.lookup key = some entry) :
    Replayable c key entry ↔ entry.expiresAt.isSome = true ∧ entry.uncertain = false := by
  constructor
  · rintro ⟨_, certain, response, told⟩
    refine ⟨?_, certain⟩
    rw [Option.isSome_iff_ne_none]
    intro pending
    rw [(kept.threaded.pending key entry found).mp pending] at told
    cases told
  · rintro ⟨expires, certain⟩
    exact ⟨found, certain, ((kept.labelled key entry found).settled expires certain).2⟩

/-- They are also those that retain bytes and are certain. -/
theorem replayable_heavy (kept : Kept c) (found : c.entries.lookup key = some entry) :
    Replayable c key entry ↔ 0 < entry.retainedBytes ∧ entry.uncertain = false := by
  rw [replayable_settled kept found]
  apply and_congr_left
  intro certain
  constructor
  · intro expires
    exact ((kept.labelled key entry found).settled expires certain).1
  · intro heavy
    rw [Option.isSome_iff_ne_none]
    intro pending
    rw [kept.threaded.weightless key entry found pending] at heavy
    cases heavy

/-- A choice by any filter that keeps exactly the replayable records of other keys. -/
theorem victim_choice {exclude : RecordKey}
    {eligible : (Sigma fun _ : RecordKey => Entry Fingerprint) → Bool}
    (exact_filter : ∀ k e, c.entries.lookup k = some e →
      (eligible ⟨k, e⟩ = true ↔ k ≠ exclude ∧ Replayable c k e)) :
    (leastRecent (c.entries.entries.filter eligible) = none ∧
      ∀ k e, k ≠ exclude → ¬Replayable c k e) ∨
    ∃ victim, leastRecent (c.entries.entries.filter eligible) = some victim ∧
      Victim c exclude victim := by
  obtain ⟨absent, all⟩ | ⟨victim, entry, chosen, live, kept, least⟩ :=
    leastRecent_live (c := c) eligible
  · refine Or.inl ⟨absent, ?_⟩
    intro k e other replayable
    have unkept := all k e replayable.1
    rw [(exact_filter k e replayable.1).mpr ⟨other, replayable⟩] at unkept
    cases unkept
  · obtain ⟨other, replayable⟩ := (exact_filter victim entry live).mp kept
    refine Or.inr ⟨victim, chosen, other, entry, replayable, ?_⟩
    intro k e distinct same
    exact least k e same.1 ((exact_filter k e same.1).mpr ⟨distinct, same⟩)

theorem byteVictim_choice (kept : Kept c) (exclude : RecordKey) :
    (c.byteVictim exclude = none ∧ ∀ k e, k ≠ exclude → ¬Replayable c k e) ∨
    ∃ victim, c.byteVictim exclude = some victim ∧ Victim c exclude victim := by
  refine victim_choice fun k e found => ?_
  rw [replayable_heavy kept found]
  simp [and_assoc]

/-- What lets a reservation succeed: the counter is the sum, and what cannot be evicted
retains nothing. -/
structure Reservable (exclude : RecordKey) (c : IdempotencyState Fingerprint) : Prop where
  kept : Kept c
  summed : Exact c
  uncertain : ∀ k e, c.entries.lookup k = some e → e.uncertain = true → e.retainedBytes = 0
  own : ∀ e, c.entries.lookup exclude = some e → e.retainedBytes = 0

theorem Reservable.remove {exclude : RecordKey} (reservable : Reservable exclude c)
    (victim : RecordKey) : Reservable exclude (c.remove victim) where
  kept := reservable.kept.remove victim
  summed := remove_exact victim reservable.summed
  uncertain := by
    intro k e there
    rw [remove_entries] at there
    exact reservable.uncertain k e (lookup_erase_cases there).2
  own := by
    intro e there
    rw [remove_entries] at there
    exact reservable.own e (lookup_erase_cases there).2

/-- Nothing is retained where nothing can be evicted. -/
theorem Reservable.empty {exclude : RecordKey} (reservable : Reservable exclude c)
    (spent : ∀ k e, k ≠ exclude → ¬Replayable c k e) : c.completedBytes = 0 := by
  rw [reservable.summed, retained, total, List.sum_eq_zero_iff_forall_eq_nat]
  intro weight among
  obtain ⟨⟨k, e⟩, present, rfl⟩ := List.mem_map.mp among
  have found := mem_entries present
  by_cases own : k = exclude
  · subst own
    exact reservable.own e found
  · cases certain : e.uncertain with
    | true => exact reservable.uncertain k e found certain
    | false =>
      have light := spent k e own
      rw [replayable_heavy reservable.kept found] at light
      simpa [certain] using light

theorem Reservable.fits {exclude : RecordKey} {incoming maximum : Nat} (small : incoming ≤ maximum)
    (reservable : Reservable exclude c) (spent : ∀ k e, k ≠ exclude → ¬Replayable c k e) :
    saturatingAdd c.completedBytes incoming ≤ maximum := by
  rw [reservable.empty spent, saturatingAdd]
  omega

/-- The loop ends with room for the incoming bytes. -/
theorem reserveLoop_succeeds {incoming maximum : Nat} {exclude : RecordKey} (small : incoming ≤ maximum)
    (reservable : Reservable exclude c) (fuel : Nat) (enough : size c.entries ≤ fuel) :
    ∃ reserved, reserveLoop incoming maximum exclude fuel c = (reserved, true) ∧
      Evicts incoming maximum exclude c reserved := by
  induction fuel generalizing c with
  | zero =>
    have fits : saturatingAdd c.completedBytes incoming ≤ maximum := by
      apply reservable.fits small
      intro k e _ replayable
      have present := size_erase replayable.1
      omega
    exact ⟨c, by simp [reserveLoop, fits], .enough fits⟩
  | succ fuel ih =>
    by_cases fits : saturatingAdd c.completedBytes incoming ≤ maximum
    · exact ⟨c, by simp [reserveLoop, fits], .enough fits⟩
    · obtain ⟨_, spent⟩ | ⟨victim, chosen, least⟩ := byteVictim_choice reservable.kept exclude
      · exact absurd (reservable.fits small spent) fits
      · have smaller : size c.entries = size (c.remove victim).entries + 1 := by
          obtain ⟨_, entry, replayable, _⟩ := least
          rw [remove_entries]
          exact size_erase replayable.1
        obtain ⟨reserved, looped, evicts⟩ := ih (reservable.remove victim) (by omega)
        refine ⟨reserved, ?_, .evict (by omega) least evicts⟩
        simp [reserveLoop, fits, chosen, looped]

/-- The eviction touches neither the entry nor any channel. -/
theorem Evicts.spares {incoming maximum : Nat} {exclude : RecordKey}
    (evicts : Evicts incoming maximum exclude c c') :
    c'.entries.lookup exclude = c.entries.lookup exclude ∧ c'.channels = c.channels := by
  induction evicts with
  | enough => exact ⟨rfl, rfl⟩
  | evict _ chosen _ ih =>
    rw [ih.1, ih.2, remove_entries, remove_channels, AList.lookup_erase_ne (Ne.symm chosen.1)]
    exact ⟨rfl, rfl⟩

theorem Evicts.kept {incoming maximum : Nat} {exclude : RecordKey}
    (evicts : Evicts incoming maximum exclude c c') (kept : Kept c) : Kept c' := by
  induction evicts with
  | enough => exact kept
  | evict _ _ _ ih => exact ih (kept.remove _)

/-- Entering removes stale entries only. -/
theorem enter_spares (fresh : expired now config.inFlightTtl entry = false)
    (found : c.entries.lookup key = some entry) :
    (c.enter config now).entries.lookup key = some entry := by
  have unlisted : ∀ k ∈ c.staleKeys now config.inFlightTtl, k ≠ key := by
    rintro k member rfl
    obtain ⟨⟨k', stale⟩, listed, same⟩ := List.mem_map.mp member
    obtain ⟨live, old⟩ := List.mem_filter.mp listed
    dsimp only at same
    subst same
    rw [mem_entries live] at found
    cases found
    rw [fresh] at old
    cases old
  have cleaned : (c.cleanup now config.inFlightTtl).entries.lookup key = c.entries.lookup key := by
    refine expireKeys_invariant (P := fun t => t.entries.lookup key = c.entries.lookup key) ?_ rfl
    intro t k member same
    rw [expireKey_entries, AList.lookup_erase_ne (Ne.symm (unlisted k member)), same]
  exact cleaned.trans found

/-- A state that stays full through a sweep had nothing to sweep. -/
theorem cleanup_full (bounded : size c.entries ≤ config.maxEntries)
    (full : config.maxEntries ≤ size (c.enter config now).entries) :
    c.cleanup now config.inFlightTtl = c := by
  have still : size (c.cleanup now config.inFlightTtl).entries = size c.entries := by
    have fewer : size (c.cleanup now config.inFlightTtl).entries ≤ size c.entries :=
      cleanup_invariant (P := fun t => size t.entries ≤ size c.entries)
        (fun t k held => by rw [remove_entries]; exact Nat.le_trans size_erase_le held)
        (fun _ _ held => held) now config.inFlightTtl (Nat.le_refl _)
    exact Nat.le_antisymm fewer (Nat.le_trans bounded full)
  unfold cleanup at still ⊢
  cases stale : c.staleKeys now config.inFlightTtl with
  | nil => rfl
  | cons k rest =>
    have listed : k ∈ c.staleKeys now config.inFlightTtl := by
      rw [stale]
      exact List.mem_cons_self ..
    obtain ⟨⟨k', old⟩, among, same⟩ := List.mem_map.mp listed
    dsimp only at same
    subst same
    have present := size_erase (mem_entries (List.mem_filter.mp among).1)
    have fewer : size (rest.foldl expireKey (c.expireKey k')).entries ≤ size (c.entries.erase k') :=
      expireKeys_invariant (P := fun t => size t.entries ≤ size (c.entries.erase k'))
        (fun t k _ held => by rw [expireKey_entries]; exact Nat.le_trans size_erase_le held)
        (by rw [expireKey_entries])
    rw [stale, List.foldl_cons] at still
    omega

theorem makeCapacity_choice (kept : Kept c) {exclude : RecordKey} {maximum : Nat}
    (absent : c.entries.lookup exclude = none) (full : maximum ≤ size c.entries) :
    ((∃ e, c.makeCapacity maximum = .error e ∧ e.code = .overloaded ∧ e.retryable = true) ∧
      ∀ k e, ¬Replayable c k e) ∨
    ∃ victim, c.makeCapacity maximum = .ok (c.remove victim) ∧ Victim c exclude victim := by
  have distinct (k : RecordKey) (e : Entry Fingerprint) (found : c.entries.lookup k = some e) :
      k ≠ exclude := by
    rintro rfl
    rw [absent] at found
    cases found
  obtain ⟨spent, none_left⟩ | ⟨victim, chosen, least⟩ := @victim_choice _ c exclude
    (fun entry => entry.2.expiresAt.isSome && !entry.2.uncertain)
    fun k e found => by
      rw [replayable_settled kept found]
      simp [distinct k e found]
  · have refused : c.makeCapacity maximum = .error
        ((BridgeError.new .overloaded "idempotency capacity is exhausted").setRetryable true) := by
      unfold makeCapacity
      rw [if_neg (Nat.not_lt.mpr full), spent]
    exact Or.inl ⟨⟨_, refused, rfl, rfl⟩,
      fun k e replayable => none_left k e (distinct k e replayable.1) replayable⟩
  · refine Or.inr ⟨victim, ?_, least⟩
    unfold makeCapacity
    rw [if_neg (Nat.not_lt.mpr full), chosen]

variable [DecidableEq Fingerprint] {codec : Codec Fingerprint}

theorem Kept.begin (kept : Kept c) (now : Nat) (scope name : String) (request : ImageRequest) :
    Kept (begin codec config now scope name request c).2 := by
  refine ⟨kept.threaded.begin now scope name request, ?_⟩
  have entered : Kept (c.enter config now) := kept.enter now
  unfold Idempotency.begin
  split
  · exact kept.labelled
  · exact kept.labelled
  · unfold beginLocked
    dsimp only
    split
    · rename_i entry found
      split
      · exact entered.labelled
      · have flagged := entered.labelled _ entry found
        exact entered.labelled.rewrite entered.threaded found (put_entries ..) rfl (fun _ _ => rfl)
          ⟨flagged.settled, flagged.uncertain⟩
    · split
      · exact entered.labelled
      · rename_i roomy room
        have made : Kept roomy := by
          obtain ⟨rfl, _⟩ | ⟨victim, _, rfl, _⟩ := makeCapacity_ok room
          · exact entered
          · exact entered.remove victim
        exact (made.insertPending _ _ now _).labelled

theorem Kept.complete (kept : Kept c) (now : Nat) (token : IdempotencyToken Fingerprint)
    (response : ImageResponse) : Kept (complete codec config now token response c) := by
  refine ⟨kept.threaded.complete now token response, ?_⟩
  obtain ⟨_, same⟩ | ⟨entry, reserved, matched, made, still, outcome⟩ :=
    complete_cases (P := Kept) token (fun _ victim _ held => Kept.remove held victim) now response kept
  · rw [same]
    exact kept.labelled
  · have found := still.entry.trans matched.1
    obtain unreplayable | ⟨_, recorded⟩ := outcome
    · rw [unreplayable]
      exact settleUnreplayable_kept made found _
    · rw [recorded]
      exact settleCompleted_kept made found _ (responseWeight_pos codec response) response

theorem Kept.fail (kept : Kept c) (now : Nat) (token : IdempotencyToken Fingerprint)
    (e : BridgeError) : Kept (fail config now token e c) := by
  refine ⟨kept.threaded.fail now token e, ?_⟩
  obtain ⟨_, same⟩ | ⟨entry, matched, ⟨_, unknown⟩ | ⟨_, freed⟩⟩ := fail_cases now token e
  · rw [same]
    exact kept.labelled
  · rw [unknown]
    refine kept.labelled.rewrite kept.threaded matched.1 rfl rfl
      (fun g other => send_others _ _ other) ?_
    exact .of_uncertain rfl rfl (e := unknownError e) (by simp [send])
  · rw [freed]
    refine kept.labelled.vacate kept.threaded matched.1 (remove_entries c _) fun g other => ?_
    rw [send_others _ _ other, remove_channels]

theorem run_kept (run : Run codec config c) : Kept c := by
  induction run with
  | initial => exact ⟨initial_threaded, fun _ _ impossible => nomatch impossible⟩
  | step op _ ih =>
    cases op with
    | begin now scope name request => exact ih.begin now scope name request
    | complete now token response => exact ih.complete now token response
    | fail now token e => exact ih.fail now token e


/-! ## Completion -/

/-- The counter is the sum of what entries retain, and uncertain entries retain nothing. -/
structure Accounted (c : IdempotencyState Fingerprint) : Prop where
  summed : Exact c
  uncertain : ∀ k e, c.entries.lookup k = some e → e.uncertain = true → e.retainedBytes = 0

/-- A completion that fits under the maximum evicts what it must and is replayed until it expires. -/
structure Replays (codec : Codec Fingerprint) (config : IdempotencyConfig)
    (c : IdempotencyState Fingerprint) (now : Nat) (token : IdempotencyToken Fingerprint)
    (entry : Entry Fingerprint) (response : ImageResponse) : Prop where
  evictions : ∃ reserved,
    Evicts (responseWeight codec response) config.maxCompletedBytes token.recordKey c reserved ∧
    complete codec config now token response c =
      reserved.settleCompleted token.recordKey entry (now + config.completedTtl)
        (responseWeight codec response) response
  replayed : ∀ later request, later < now + config.completedTtl →
    validateScope token.recordKey.scope = .ok () →
    requestFingerprint codec request = .ok token.fingerprint →
    (begin codec config later token.recordKey.scope token.recordKey.key request
      (complete codec config now token response c)).1 = .ok (.cached response)

/-- A begin before the expiry of a completed record answers with its response. -/
theorem begin_replays {response : ImageResponse} {scope name : String} {request : ImageRequest}
    {expires : Nat} (kept : Kept c) (found : c.entries.lookup ⟨scope, name⟩ = some entry)
    (live : entry.expiresAt = some expires) (certain : entry.uncertain = false)
    (told : c.channels entry.sender = .completed response)
    (early : now < expires) (valid : validateScope scope = .ok ())
    (measured : requestFingerprint codec request = .ok entry.fingerprint) :
    (begin codec config now scope name request c).1 = .ok (.cached response) := by
  have fresh : expired now config.inFlightTtl entry = false := by simp [expired, live, early]
  have still := enter_spares fresh found
  have entered : (c.enter config now).channels entry.sender = .completed response := by
    obtain same | failed := enter_channels c config now entry.sender
    · rw [same, told]
    · obtain ⟨_, response', settled⟩ := ((kept.enter now).labelled _ entry still).settled
        (by rw [live]; rfl) certain
      rw [failed] at settled
      cases settled
  unfold Idempotency.begin
  simp [valid, measured, beginLocked, still, answer, entered]

theorem complete_replays {token : IdempotencyToken Fingerprint} (kept : Kept c)
    (accounted : Accounted c) (matched : Matches c token entry) (pending : entry.expiresAt = none)
    {response : ImageResponse} (small : responseWeight codec response ≤ config.maxCompletedBytes) :
    Replays codec config c now token entry response := by
  have reservable : Reservable token.recordKey c := by
    refine ⟨kept, accounted.summed, accounted.uncertain, fun e found => ?_⟩
    rw [matched.1] at found
    cases found
    exact kept.threaded.weightless _ entry matched.1 pending
  obtain ⟨reserved, looped, evicts⟩ := reserveLoop_succeeds small reservable _ (Nat.le_refl _)
  have recorded : complete codec config now token response c =
      reserved.settleCompleted token.recordKey entry (now + config.completedTtl)
        (responseWeight codec response) response := by
    simp [complete, completeEntry, matched.1, matched.2, Nat.not_lt.mpr small,
      reserveCompletedBytes, looped, evicts.spares.1]
  refine ⟨⟨reserved, evicts, recorded⟩, ?_⟩
  intro later request early valid measured
  have after : Kept (complete codec config now token response c) := kept.complete now token response
  rw [recorded] at after ⊢
  exact begin_replays after (AList.lookup_insert ..) rfl rfl (by simp [settleCompleted, send]) early
    valid (by rw [measured, ← matched.2])

/-! ## Capacity -/

/-- A new key at capacity takes the place of the least recently used replayable record, or is
refused and only the access clock moves. -/
def Admits (codec : Codec Fingerprint) (config : IdempotencyConfig)
    (c : IdempotencyState Fingerprint) : Prop :=
  ∀ now scope name request fingerprint, validateScope scope = .ok () →
    requestFingerprint codec request = .ok fingerprint →
    (c.enter config now).entries.lookup ⟨scope, name⟩ = none →
    config.maxEntries ≤ size (c.enter config now).entries →
    (∃ victim, Victim (c.enter config now) ⟨scope, name⟩ victim ∧
      begin codec config now scope name request c =
        (.ok (.leader ⟨⟨scope, name⟩, fingerprint⟩),
          ((c.enter config now).remove victim).insertPending ⟨scope, name⟩ fingerprint now
            (c.enter config now).accessClock)) ∨
    (∃ e, e.code = .overloaded ∧ e.retryable = true ∧
      begin codec config now scope name request c =
        (.error e, { c with accessClock := saturatingAdd c.accessClock 1 })) ∧
      ∀ k e, ¬Replayable c k e

theorem begin_admits (kept : Kept c) (bounded : Bounded config c) : Admits codec config c := by
  intro now scope name request fingerprint valid measured absent full
  have located : begin codec config now scope name request c =
      beginLocked config now ⟨scope, name⟩ fingerprint c := by
    unfold Idempotency.begin
    rw [valid, measured]
  rw [located]
  unfold beginLocked
  dsimp only
  rw [absent]
  obtain ⟨⟨e, refused, code, retryable⟩, spent⟩ | ⟨victim, granted, least⟩ :=
    makeCapacity_choice (kept.enter now) absent full
  · have same := cleanup_full bounded.entries full
    right
    have entered : c.enter config now = { c with accessClock := saturatingAdd c.accessClock 1 } := by
      unfold enter
      rw [same]
    rw [entered] at refused spent ⊢
    exact ⟨⟨e, code, retryable, by rw [refused]⟩, spent⟩
  · left
    exact ⟨victim, least, by rw [granted]⟩

/-! ## What stays -/

/-- A pending entry or a tombstone. -/
def Guarded (entry : Entry Fingerprint) : Prop := entry.expiresAt = none ∨ entry.uncertain = true

/-- The event sweeps entries of this age. -/
def Due (config : IdempotencyConfig) (entry : Entry Fingerprint) : Event Fingerprint → Prop
  | .begin now .. => expired now config.inFlightTtl entry = true
  | .complete .. | .fail .. => False

/-- The event is the report of the entry's own leader. -/
def OwnReport (entry : Entry Fingerprint) : Event Fingerprint → Prop
  | .begin .. => False
  | .complete _ holder _ | .fail _ holder _ => holder.generation = entry.sender

/-- What is pending or uncertain stays until it is due or its own leader reports. -/
def Keeps (config : IdempotencyConfig) (s : System Fingerprint) (event : Event Fingerprint)
    (s' : System Fingerprint) : Prop :=
  ∀ key entry, s.coordinator.entries.lookup key = some entry → Guarded entry →
    ¬Due config entry event → ¬OwnReport entry event →
    ∃ entry', s'.coordinator.entries.lookup key = some entry' ∧ entry'.sender = entry.sender

/-- A leader of an earlier generation reports a known failure to an entry that is pending or
uncertain. -/
def StaleRelease (s : System Fingerprint) : Event Fingerprint → Prop
  | .begin .. | .complete .. => False
  | .fail _ holder e => e.outcomeUnknown = false ∧ ∃ entry,
      Matches s.coordinator holder.token entry ∧ Guarded entry ∧ holder.generation ≠ entry.sender

omit [DecidableEq Fingerprint] in
theorem guarded_irreplaceable (kept : Kept c) (guarded : Guarded entry) : ¬Replayable c key entry := by
  intro replayable
  obtain ⟨expires, certain⟩ := (replayable_settled kept replayable.1).mp replayable
  obtain pending | uncertain := guarded
  · rw [pending] at expires
    cases expires
  · rw [uncertain] at certain
    cases certain

omit [DecidableEq Fingerprint] in
/-- Removing a victim keeps a guarded entry. -/
theorem victim_spares {exclude : RecordKey} (kept : Kept c) (guarded : Guarded entry)
    (found : c.entries.lookup key = some entry) (chosen : Victim c exclude victim) :
    (c.remove victim).entries.lookup key = some entry := by
  rw [remove_entries, AList.lookup_erase_ne, found]
  rintro rfl
  obtain ⟨_, e, replayable, _⟩ := chosen
  have same := replayable.1
  rw [found] at same
  cases same
  exact guarded_irreplaceable kept guarded replayable

theorem begin_keeps (kept : Kept c) (found : c.entries.lookup key = some entry)
    (guarded : Guarded entry) (fresh : expired now config.inFlightTtl entry = false)
    (scope name : String) (request : ImageRequest) :
    ∃ entry', (begin codec config now scope name request c).2.entries.lookup key = some entry' ∧
      entry'.sender = entry.sender := by
  have still := enter_spares fresh found
  unfold Idempotency.begin
  split
  · exact ⟨entry, found, rfl⟩
  · exact ⟨entry, found, rfl⟩
  · unfold beginLocked
    dsimp only
    split
    · rename_i e there
      split
      · exact ⟨entry, still, rfl⟩
      · by_cases own : key = ⟨scope, name⟩
        · subst own
          rw [still] at there
          cases there
          exact ⟨_, AList.lookup_insert .., rfl⟩
        · exact ⟨entry, (AList.lookup_insert_ne own).trans still, rfl⟩
    · rename_i absent
      have other : key ≠ ⟨scope, name⟩ := by
        rintro rfl
        rw [still] at absent
        cases absent
      split
      · exact ⟨entry, still, rfl⟩
      · rename_i roomy room
        refine ⟨entry, (AList.lookup_insert_ne other).trans ?_, rfl⟩
        by_cases full : config.maxEntries ≤ size (c.enter config now).entries
        · obtain ⟨⟨e, refused, _⟩, _⟩ | ⟨victim, granted, least⟩ :=
            makeCapacity_choice (kept.enter now) absent full
          · rw [refused] at room
            cases room
          · rw [granted] at room
            cases room
            exact victim_spares (kept.enter now) guarded still least
        · rw [makeCapacity, if_pos (by omega)] at room
          cases room
          exact still

omit [DecidableEq Fingerprint] in
theorem byteVictim_spares {exclude : RecordKey} (kept : Kept c) (guarded : Guarded entry)
    (found : c.entries.lookup key = some entry) (chosen : c.byteVictim exclude = some victim) :
    (c.remove victim).entries.lookup key = some entry := by
  obtain ⟨spent, _⟩ | ⟨victim', chosen', least⟩ := byteVictim_choice kept exclude
  · rw [spent] at chosen
    cases chosen
  · rw [chosen'] at chosen
    cases chosen
    exact victim_spares kept guarded found least

/-- A completion removes no guarded entry, whoever reports it. -/
theorem complete_keeps (kept : Kept c) (found : c.entries.lookup key = some entry)
    (guarded : Guarded entry) (now : Nat) (token : IdempotencyToken Fingerprint)
    (response : ImageResponse) :
    ∃ entry', (complete codec config now token response c).entries.lookup key = some entry' ∧
      entry'.sender = entry.sender := by
  obtain ⟨_, same⟩ | ⟨settled, reserved, matched, ⟨made, there⟩, still, outcome⟩ :=
    @complete_cases _ _ config _ codec
      (fun t => Kept t ∧ t.entries.lookup key = some entry) token
      (fun t victim chosen held => ⟨held.1.remove victim, byteVictim_spares held.1 guarded held.2 chosen⟩)
      now response ⟨kept, found⟩
  · rw [same]
    exact ⟨entry, found, rfl⟩
  · obtain ⟨new, entries, sender⟩ : ∃ new : Entry Fingerprint,
        (complete codec config now token response c).entries =
          reserved.entries.insert token.recordKey new ∧ new.sender = settled.sender := by
      obtain unreplayable | ⟨_, recorded⟩ := outcome
      · rw [unreplayable]
        exact ⟨_, rfl, rfl⟩
      · rw [recorded]
        exact ⟨_, rfl, rfl⟩
    rw [entries]
    by_cases own : key = token.recordKey
    · subst own
      have same := found.symm.trans matched.1
      cases same
      exact ⟨new, AList.lookup_insert .., sender⟩
    · exact ⟨entry, (AList.lookup_insert_ne own).trans there, rfl⟩

theorem fail_keeps (found : c.entries.lookup key = some entry) (now : Nat)
    (token : IdempotencyToken Fingerprint) (e : BridgeError)
    (held : e.outcomeUnknown = true ∨ ¬(token.recordKey = key ∧ entry.fingerprint = token.fingerprint)) :
    ∃ entry', (fail config now token e c).entries.lookup key = some entry' ∧
      entry'.sender = entry.sender := by
  obtain ⟨_, same⟩ | ⟨settled, matched, ⟨_, unknown⟩ | ⟨known, freed⟩⟩ :=
    @fail_cases _ _ config _ now token e
  · rw [same]
    exact ⟨entry, found, rfl⟩
  · rw [unknown]
    by_cases own : key = token.recordKey
    · subst own
      have same := found.symm.trans matched.1
      cases same
      exact ⟨_, AList.lookup_insert .., rfl⟩
    · exact ⟨entry, (AList.lookup_insert_ne own).trans found, rfl⟩
  · have other : key ≠ token.recordKey := by
      rintro rfl
      have same := found.symm.trans matched.1
      cases same
      obtain unknown | unmatched := held
      · rw [known] at unknown
        cases unknown
      · exact unmatched ⟨rfl, matched.2⟩
    rw [freed, send_entries, remove_entries, AList.lookup_erase_ne other]
    exact ⟨entry, found, rfl⟩

variable {s s' : System Fingerprint} {event : Event Fingerprint}

omit [DecidableEq Fingerprint] in
theorem began_coordinator (s : System Fingerprint)
    (result : Outcome (IdempotencyAction Fingerprint) × IdempotencyState Fingerprint) :
    (s.began result).coordinator = result.2 := by
  unfold System.began
  split <;> rfl

theorem step_keeps (kept : Kept s.coordinator) (step : Step codec config s event s')
    (own : ¬StaleRelease s event) : Keeps config s event s' := by
  intro key entry found guarded young unreported
  cases step with
  | begin now scope name request =>
    have fresh : expired now config.inFlightTtl entry = false := by
      rw [Bool.eq_false_iff]
      exact young
    rw [began_coordinator]
    exact begin_keeps kept found guarded fresh scope name request
  | complete now holder response outstanding =>
    exact complete_keeps kept found guarded now holder.token response
  | fail now holder e outstanding =>
    refine fail_keeps found now holder.token e ?_
    by_cases unknown : e.outcomeUnknown = true
    · exact Or.inl unknown
    · right
      rintro ⟨rfl, matching⟩
      exact own ⟨by simpa using unknown, entry, ⟨found, matching⟩, guarded, unreported⟩

/-- A stale release takes the entry away. -/
theorem stale_release_removes (step : Step codec config s event s') (stale : StaleRelease s event) :
    ¬Keeps config s event s' := by
  cases step with
  | begin => exact stale.elim
  | complete => exact stale.elim
  | fail now holder e outstanding =>
    intro keeps
    obtain ⟨known, entry, matched, guarded, other⟩ := stale
    obtain ⟨entry', there, _⟩ := keeps _ entry matched.1 guarded (fun due => due) other
    have removed : (fail config now holder.token e s.coordinator).entries.lookup
        holder.token.recordKey = none := by
      simp [fail, matched.1, matched.2, known]
    exact absurd (removed.symm.trans there) (by simp)

theorem generation_run (run : GenerationRun codec config s) : Run codec config s.coordinator := by
  induction run with
  | initial => exact .initial
  | step _ step ih =>
    cases step with
    | begin now scope name request =>
      rw [began_coordinator]
      exact .step (.begin now scope name request) ih
    | complete now holder response => exact .step (.complete now holder.token response) ih
    | fail now holder e => exact .step (.fail now holder.token e) ih

/-- Completions replay, a full coordinator makes room or refuses, and guarded entries stay. -/
structure Careful (codec : Codec Fingerprint) (config : IdempotencyConfig) (s : System Fingerprint)
    (event : Event Fingerprint) (s' : System Fingerprint) : Prop where
  completes : ∀ now token entry response, Accounted s.coordinator →
    Matches s.coordinator token entry → entry.expiresAt = none →
    responseWeight codec response ≤ config.maxCompletedBytes →
    Replays codec config s.coordinator now token entry response
  admits : Admits codec config s.coordinator
  keeps : Keeps config s event s'

/-- Along every run the coordinator is careful, save where an earlier leader's late failure
meets a pending or uncertain entry of its key. -/
theorem careful_iff (run : GenerationRun codec config s) (step : Step codec config s event s') :
    Careful codec config s event s' ↔ ¬StaleRelease s event := by
  have reached := generation_run run
  have kept := run_kept reached
  constructor
  · intro careful stale
    exact stale_release_removes step stale careful.keeps
  · intro own
    exact ⟨fun now token entry response accounted matched pending small =>
        complete_replays kept accounted matched pending small,
      begin_admits kept (run_bounded reached), step_keeps kept step own⟩

section LateFailure

theorem two_generations_run : GenerationRun plainCodec {} twoGenerations :=
  .step (.step .initial (.begin _ 0 "scope" "key" lighthouse))
    (.begin _ (31 * 60) "scope" "key" lighthouse)

def rateLimited : BridgeError := BridgeError.new .rateLimited "try again later"

/-- The second leader reports its own failure. -/
theorem own_failure_careful : ∃ s', Step plainCodec {} twoGenerations
      (.fail (31 * 60 + 1) ⟨plainToken, 1⟩ rateLimited) s' ∧
    (Careful plainCodec {} twoGenerations (.fail (31 * 60 + 1) ⟨plainToken, 1⟩ rateLimited) s' ↔
      ¬StaleRelease twoGenerations (.fail (31 * 60 + 1) ⟨plainToken, 1⟩ rateLimited)) := by
  have settles : Step plainCodec {} twoGenerations
      (.fail (31 * 60 + 1) ⟨plainToken, 1⟩ rateLimited) _ := .fail _ _ _ _ (List.mem_cons_self ..)
  exact ⟨_, settles, careful_iff two_generations_run settles⟩

/-- The first leader's late failure frees the key of the second, whose call is still paid for. -/
theorem late_failure_frees_successor : ∃ s', GenerationRun plainCodec {} twoGenerations ∧
    Step plainCodec {} twoGenerations (.fail (31 * 60 + 1) oldHolder rateLimited) s' ∧
    ¬Careful plainCodec {} twoGenerations (.fail (31 * 60 + 1) oldHolder rateLimited) s' := by
  have settles : Step plainCodec {} twoGenerations
      (.fail (31 * 60 + 1) oldHolder rateLimited) _ :=
    .fail _ _ _ _ (List.mem_cons_of_mem _ (List.mem_singleton.mpr rfl))
  refine ⟨_, two_generations_run, settles, fun careful => ?_⟩
  refine stale_release_removes settles ⟨rfl, _, ⟨rfl, rfl⟩, Or.inl rfl, ?_⟩ careful.keeps
  decide

end LateFailure

end ImagegenBridge.Idempotency
