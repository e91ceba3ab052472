import ImagegenBridge.Runtime.IdempotencyGenerations

/-!
# Pending entries

A pending entry owns the channel it opened and retains nothing, so no eviction
and no other key's operation touches it. Within its in-flight lifetime only its
own token can settle it; the first `begin` after that expires it.
-/

namespace ImagegenBridge.Idempotency

open AssocTotals IdempotencyState

variable {Fingerprint : Type} {c c' : IdempotencyState Fingerprint} {config : IdempotencyConfig}
  {key : RecordKey} {entry : Entry Fingerprint}

/-- Entries own their channels, and are pending as long as they have no expiry. -/
structure Threaded (c : IdempotencyState Fingerprint) : Prop where
  opened : ∀ key entry, c.entries.lookup key = some entry → entry.sender < c.nextSender
  distinct : ∀ key key' entry entry', c.entries.lookup key = some entry →
    c.entries.lookup key' = some entry' → entry.sender = entry'.sender → key = key'
  pending : ∀ key entry, c.entries.lookup key = some entry →
    (entry.expiresAt = none ↔ c.channels entry.sender = .pending)
  weightless : ∀ key entry, c.entries.lookup key = some entry → entry.expiresAt = none →
    entry.retainedBytes = 0

theorem initial_threaded : Threaded (initial : IdempotencyState Fingerprint) where
  opened := fun _ _ impossible => nomatch impossible
  distinct := fun _ _ _ _ impossible => nomatch impossible
  pending := fun _ _ impossible => nomatch impossible
  weightless := fun _ _ impossible => nomatch impossible

/-- An entry goes, and at most its own channel changes. -/
theorem Threaded.vacate (threaded : Threaded c) (found : c.entries.lookup key = some entry)
    (entries : c'.entries = c.entries.erase key)
    (channels : ∀ g, g ≠ entry.sender → c'.channels g = c.channels g)
    (next : c'.nextSender = c.nextSender) : Threaded c' := by
  have left : ∀ k e, c'.entries.lookup k = some e → k ≠ key ∧ c.entries.lookup k = some e := by
    intro k e there
    rw [entries] at there
    exact lookup_erase_cases there
  refine ⟨?_, ?_, ?_, ?_⟩
  · intro k e there
    rw [next]
    exact threaded.opened k e (left k e there).2
  · intro k k' e e' there there'
    exact threaded.distinct k k' e e' (left k e there).2 (left k' e' there').2
  · intro k e there
    obtain ⟨other, before⟩ := left k e there
    have own : e.sender ≠ entry.sender :=
      fun same => other (threaded.distinct k key e entry before found same)
    rw [channels _ own]
    exact threaded.pending k e before
  · intro k e there
    exact threaded.weightless k e (left k e there).2

/-- An entry is rewritten on its own channel. -/
theorem Threaded.rewrite (threaded : Threaded c) {new : Entry Fingerprint}
    (found : c.entries.lookup key = some entry) (entries : c'.entries = c.entries.insert key new)
    (sender : new.sender = entry.sender)
    (channels : ∀ g, g ≠ entry.sender → c'.channels g = c.channels g)
    (next : c'.nextSender = c.nextSender)
    (pending : new.expiresAt = none ↔ c'.channels entry.sender = .pending)
    (weightless : new.expiresAt = none → new.retainedBytes = 0) : Threaded c' := by
  have left : ∀ k e, c'.entries.lookup k = some e →
      (k = key ∧ e = new) ∨ (k ≠ key ∧ c.entries.lookup k = some e) := by
    intro k e there
    rw [entries] at there
    exact lookup_insert_cases there
  refine ⟨?_, ?_, ?_, ?_⟩
  · intro k e there
    rw [next]
    obtain ⟨_, rfl⟩ | ⟨_, before⟩ := left k e there
    · rw [sender]
      exact threaded.opened key entry found
    · exact threaded.opened k e before
  · intro k k' e e' there there' same
    rcases left k e there with ⟨rfl, rfl⟩ | ⟨_, before⟩ <;>
      obtain ⟨rfl, rfl⟩ | ⟨_, before'⟩ := left k' e' there'
    · rfl
    · exact threaded.distinct k k' entry e' found before' (sender ▸ same)
    · exact threaded.distinct k k' e entry before found (same.trans sender)
    · exact threaded.distinct k k' e e' before before' same
  · intro k e there
    obtain ⟨rfl, rfl⟩ | ⟨other, before⟩ := left k e there
    · rw [sender]
      exact pending
    · have own : e.sender ≠ entry.sender :=
        fun same => other (threaded.distinct k key e entry before found same)
      rw [channels _ own]
      exact threaded.pending k e before
  · intro k e there
    obtain ⟨rfl, rfl⟩ | ⟨_, before⟩ := left k e there
    · exact weightless
    · exact threaded.weightless k e before

theorem Threaded.remove (threaded : Threaded c) (key : RecordKey) : Threaded (c.remove key) := by
  cases found : c.entries.lookup key with
  | none =>
    have same : c.remove key = c := by simp [IdempotencyState.remove, found]
    rw [same]
    exact threaded
  | some entry =>
    exact threaded.vacate found (remove_entries c key) (fun g _ => by rw [remove_channels])
      (remove_nextSender c key)

theorem send_others (c : IdempotencyState Fingerprint) {sender g : Nat} (outcome : EntryOutcome)
    (other : g ≠ sender) : (c.send sender outcome).channels g = c.channels g := by
  simp [send, other]

theorem Threaded.expireKey (threaded : Threaded c) (key : RecordKey) : Threaded (c.expireKey key) := by
  unfold IdempotencyState.expireKey
  cases found : c.entries.lookup key with
  | none => exact threaded
  | some entry =>
    dsimp only
    split
    · refine threaded.vacate found (remove_entries c key) (fun g other => ?_) (remove_nextSender c key)
      rw [send_others _ _ other, remove_channels]
    · exact threaded.remove key

theorem Threaded.enter (threaded : Threaded c) (now : Nat) : Threaded (c.enter config now) := by
  have cleaned : Threaded (c.cleanup now config.inFlightTtl) :=
    expireKeys_invariant (fun _ k _ held => Threaded.expireKey held k) threaded
  exact ⟨cleaned.opened, cleaned.distinct, cleaned.pending, cleaned.weightless⟩

theorem Threaded.insertPending (threaded : Threaded c) (fingerprint : Fingerprint) (now access : Nat) :
    Threaded (c.insertPending key fingerprint now access) := by
  have left : ∀ k e, (c.insertPending key fingerprint now access).entries.lookup k = some e →
      (k = key ∧ e.sender = c.nextSender ∧ e.expiresAt = none ∧ e.retainedBytes = 0) ∨
        (k ≠ key ∧ c.entries.lookup k = some e) := by
    intro k e there
    obtain ⟨own, rfl⟩ | before := lookup_insert_cases there
    · exact Or.inl ⟨own, rfl, rfl, rfl⟩
    · exact Or.inr before
  refine ⟨?_, ?_, ?_, ?_⟩
  · intro k e there
    show e.sender < c.nextSender + 1
    obtain ⟨_, sender, _⟩ | ⟨_, before⟩ := left k e there
    · rw [sender]
      exact Nat.lt_succ_self _
    · exact Nat.lt_succ_of_lt (threaded.opened k e before)
  · intro k k' e e' there there' same
    rcases left k e there with ⟨rfl, sender, _⟩ | ⟨_, before⟩ <;>
      obtain ⟨rfl, sender', _⟩ | ⟨_, before'⟩ := left k' e' there'
    · rfl
    · have used := threaded.opened k' e' before'
      omega
    · have used := threaded.opened k e before
      omega
    · exact threaded.distinct k k' e e' before before' same
  · intro k e there
    obtain ⟨_, sender, none, _⟩ | ⟨_, before⟩ := left k e there
    · apply iff_of_true none
      rw [sender]
      simp [IdempotencyState.insertPending, send]
    · have used := threaded.opened k e before
      have other : e.sender ≠ c.nextSender := by omega
      show e.expiresAt = none ↔
        ((c.put key _).send c.nextSender .pending).channels e.sender = .pending
      rw [send_others _ _ other]
      exact threaded.pending k e before
  · intro k e there none
    obtain ⟨_, _, _, empty⟩ | ⟨_, before⟩ := left k e there
    · exact empty
    · exact threaded.weightless k e before none

variable [DecidableEq Fingerprint] {codec : Codec Fingerprint}

theorem Threaded.begin (threaded : Threaded c) (now : Nat) (scope name : String)
    (request : ImageRequest) : Threaded (begin codec config now scope name request c).2 := by
  have entered : Threaded (c.enter config now) := threaded.enter now
  unfold Idempotency.begin
  split
  · exact threaded
  · exact threaded
  · unfold beginLocked
    dsimp only
    split
    · rename_i entry found
      split
      · exact entered
      · exact entered.rewrite found (put_entries ..) rfl (fun _ _ => rfl) rfl
          (entered.pending _ entry found)
          (entered.weightless _ entry found)
    · split
      · exact entered
      · rename_i roomy room
        have made : Threaded roomy := by
          obtain ⟨rfl, _⟩ | ⟨victim, _, rfl, _⟩ := makeCapacity_ok room
          · exact entered
          · exact entered.remove victim
        exact made.insertPending _ now _

theorem Threaded.complete (threaded : Threaded c) (now : Nat) (token : IdempotencyToken Fingerprint)
    (response : ImageResponse) : Threaded (complete codec config now token response c) := by
  rcases complete_cases (P := Threaded) token (fun _ victim _ held => Threaded.remove held victim) now
      response threaded with ⟨_, same⟩ | ⟨entry, reserved, matched, kept, still, outcome⟩
  · rw [same]
    exact threaded
  · have found := still.entry.trans matched.1
    obtain unreplayable | ⟨_, recorded⟩ := outcome
    · rw [unreplayable]
      refine kept.rewrite found rfl rfl (fun g other => send_others _ _ other) rfl ?_ (by simp)
      simp [settleUnreplayable, send]
    · rw [recorded]
      refine kept.rewrite found rfl rfl (fun g other => send_others _ _ other) rfl ?_ (by simp)
      simp [settleCompleted, send]

theorem Threaded.fail (threaded : Threaded c) (now : Nat) (token : IdempotencyToken Fingerprint)
    (e : BridgeError) : Threaded (fail config now token e c) := by
  rcases fail_cases now token e with ⟨_, same⟩ | ⟨entry, matched, ⟨_, kept⟩ | ⟨_, freed⟩⟩
  · rw [same]
    exact threaded
  · rw [kept]
    refine threaded.rewrite matched.1 rfl rfl (fun g other => send_others _ _ other) rfl ?_
      (fun impossible => nomatch impossible)
    simp [send]
  · rw [freed]
    refine threaded.vacate matched.1 (remove_entries c _) (fun g other => ?_) (remove_nextSender c _)
    rw [send_others _ _ other, remove_channels]

/-! ## Where pending entries come from -/

def Pending (c : IdempotencyState Fingerprint) (key : RecordKey) (entry : Entry Fingerprint) : Prop :=
  c.entries.lookup key = some entry ∧ entry.expiresAt = none

/-- Every entry of the second state is one of the first. -/
def Within (c c' : IdempotencyState Fingerprint) : Prop :=
  ∀ key entry, c'.entries.lookup key = some entry → c.entries.lookup key = some entry

omit [DecidableEq Fingerprint] in
theorem Within.remove {t : IdempotencyState Fingerprint} (within : Within c t) (key : RecordKey) :
    Within c (t.remove key) := by
  intro k e there
  rw [remove_entries] at there
  exact within k e (lookup_erase_cases there).2

omit [DecidableEq Fingerprint] in
theorem enter_within (c : IdempotencyState Fingerprint) (config : IdempotencyConfig) (now : Nat) :
    Within c (c.enter config now) := by
  have cleaned : Within c (c.cleanup now config.inFlightTtl) :=
    cleanup_invariant (fun _ k held => held.remove k) (fun _ _ held => held) now config.inFlightTtl
      (fun _ _ there => there)
  exact cleaned

omit [DecidableEq Fingerprint] in
theorem makeCapacity_within {roomy : IdempotencyState Fingerprint} {maximum : Nat}
    (room : c.makeCapacity maximum = .ok roomy) : Within c roomy := by
  obtain ⟨rfl, _⟩ | ⟨victim, _, rfl, _⟩ := makeCapacity_ok room
  · exact fun _ _ there => there
  · exact Within.remove (fun _ _ there => there) victim

/-- A pending entry after a begin was pending before, or is the one its leader opened. -/
theorem begin_pending {now : Nat} {scope name : String} {request : ImageRequest}
    (there : Pending (begin codec config now scope name request c).2 key entry) :
    (∃ before, Pending c key before ∧ before.fingerprint = entry.fingerprint ∧
      before.sender = entry.sender) ∨
    ((begin codec config now scope name request c).1 =
        .ok (.leader { recordKey := key, fingerprint := entry.fingerprint }) ∧
      entry.sender = c.nextSender) := by
  have entered := enter_within c config now
  have still : Pending c key entry → ∃ before, Pending c key before ∧
      before.fingerprint = entry.fingerprint ∧ before.sender = entry.sender :=
    fun before => ⟨entry, before, rfl, rfl⟩
  unfold Idempotency.begin at there ⊢
  split at there
  · exact Or.inl (still there)
  · exact Or.inl (still there)
  · unfold beginLocked at there ⊢
    dsimp only at there ⊢
    split at there
    · rename_i found entry' live
      split at there
      · exact Or.inl (still ⟨entered _ _ there.1, there.2⟩)
      · left
        obtain ⟨found, none⟩ := there
        obtain ⟨rfl, rfl⟩ | ⟨_, before⟩ := lookup_insert_cases found
        · exact ⟨_, ⟨entered _ _ live, none⟩, rfl, rfl⟩
        · exact still ⟨entered _ _ before, none⟩
    · rename_i absent
      split at there
      · exact Or.inl (still ⟨entered _ _ there.1, there.2⟩)
      · rename_i roomy room
        obtain ⟨found, none⟩ := there
        obtain ⟨rfl, rfl⟩ | ⟨_, before⟩ := lookup_insert_cases found
        · right
          refine ⟨rfl, ?_⟩
          rw [(makeCapacity_same room).2, enter_nextSender]
        · exact Or.inl (still ⟨entered _ _ (makeCapacity_within room _ _ before), none⟩)

/-- A pending entry after a completion was pending before and is not the token's. -/
theorem complete_pending {now : Nat} {token : IdempotencyToken Fingerprint} {response : ImageResponse}
    (there : Pending (complete codec config now token response c) key entry) :
    Pending c key entry ∧ token ≠ { recordKey := key, fingerprint := entry.fingerprint } := by
  rcases complete_cases (P := Within c) token (fun _ victim _ held => held.remove victim) now response
      (fun _ _ before => before) with ⟨unmatched, same⟩ | ⟨found, reserved, matched, kept, _, outcome⟩
  · rw [same] at there
    exact ⟨there, fun own => unmatched entry ⟨own ▸ there.1, own ▸ rfl⟩⟩
  · have settled : ∃ new : Entry Fingerprint, new.expiresAt.isSome = true ∧
        (complete codec config now token response c).entries =
          reserved.entries.insert token.recordKey new := by
      obtain unreplayable | ⟨_, recorded⟩ := outcome
      · rw [unreplayable]
        exact ⟨_, rfl, rfl⟩
      · rw [recorded]
        exact ⟨_, rfl, rfl⟩
    obtain ⟨new, expires, entries⟩ := settled
    obtain ⟨found, none⟩ := there
    rw [entries] at found
    obtain ⟨_, rfl⟩ | ⟨other, before⟩ := lookup_insert_cases found
    · rw [none] at expires
      cases expires
    · exact ⟨⟨kept _ _ before, none⟩, fun own => other (own ▸ rfl)⟩

theorem fail_pending {now : Nat} {token : IdempotencyToken Fingerprint} {e : BridgeError}
    (there : Pending (fail config now token e c) key entry) :
    Pending c key entry ∧ token ≠ { recordKey := key, fingerprint := entry.fingerprint } := by
  obtain ⟨unmatched, same⟩ | ⟨found, matched, ⟨_, kept⟩ | ⟨_, freed⟩⟩ := fail_cases now token e
  · rw [same] at there
    exact ⟨there, fun own => unmatched entry ⟨own ▸ there.1, own ▸ rfl⟩⟩
  · rw [kept] at there
    obtain ⟨found, none⟩ := there
    obtain ⟨_, rfl⟩ | ⟨other, before⟩ := lookup_insert_cases found
    · cases none
    · exact ⟨⟨before, none⟩, fun own => other (own ▸ rfl)⟩
  · rw [freed] at there
    obtain ⟨found, none⟩ := there
    rw [send_entries, remove_entries] at found
    obtain ⟨other, before⟩ := lookup_erase_cases found
    exact ⟨⟨before, none⟩, fun own => other (own ▸ rfl)⟩

/-! ## How long a pending entry stays -/

/-- The entry is there; it may have been accessed since. -/
def Stays (c : IdempotencyState Fingerprint) (key : RecordKey) (entry : Entry Fingerprint) : Prop :=
  ∃ access, c.entries.lookup key = some { entry with lastAccess := access }

omit [DecidableEq Fingerprint] in
/-- Entering within the in-flight lifetime keeps the entry. -/
theorem enter_stays {now : Nat} (pending : entry.expiresAt = none)
    (young : now - entry.createdAt < config.inFlightTtl) (stays : Stays c key entry) :
    Stays (c.enter config now) key entry := by
  obtain ⟨access, found⟩ := stays
  have fresh : ∀ k ∈ c.staleKeys now config.inFlightTtl, k ≠ key := by
    intro k member own
    obtain ⟨⟨k', stale⟩, listed, rfl⟩ := List.mem_map.mp member
    obtain ⟨live, old⟩ := List.mem_filter.mp listed
    dsimp only at own
    subst own
    have same : stale = { entry with lastAccess := access } :=
      Option.some.inj ((mem_entries live).symm.trans found)
    subst same
    simp only [expired, pending, ge_iff_le, decide_eq_true_eq] at old
    omega
  have cleaned : (c.cleanup now config.inFlightTtl).entries.lookup key = c.entries.lookup key := by
    refine expireKeys_invariant (P := fun t => t.entries.lookup key = c.entries.lookup key) ?_ rfl
    intro t k member same
    have other := fresh k member
    have kept : (t.remove k).entries.lookup key = c.entries.lookup key := by
      rw [remove_entries, AList.lookup_erase_ne (Ne.symm other), same]
    unfold expireKey
    cases t.entries.lookup k with
    | none => exact same
    | some gone =>
      dsimp only
      split <;> exact kept
  exact ⟨access, cleaned.trans found⟩

/-- A begin within the lifetime keeps the entry: its own request waits for it, and
nobody is elected for its key. -/
theorem begin_stays (codec : Codec Fingerprint) (threaded : Threaded c) {now : Nat}
    (pending : entry.expiresAt = none)
    (young : now - entry.createdAt < config.inFlightTtl) (stays : Stays c key entry)
    (scope name : String) (request : ImageRequest) :
    let result := begin codec config now scope name request c
    Stays result.2 key entry ∧
    ((⟨scope, name⟩ : RecordKey) = key → (∀ token, result.1 ≠ .ok (.leader token)) ∧
      (validateScope scope = .ok () → requestFingerprint codec request = .ok entry.fingerprint →
        result.1 = .ok (.wait entry.sender))) := by
  obtain ⟨access, found⟩ := enter_stays pending young stays
  have entered : Threaded (c.enter config now) := threaded.enter now
  have channel : (c.enter config now).channels entry.sender = .pending :=
    (entered.pending key _ found).mp pending
  dsimp only
  unfold Idempotency.begin
  split
  · rename_i refused
    refine ⟨stays, fun _ => ⟨(fun _ impossible => nomatch impossible), fun valid => ?_⟩⟩
    rw [valid] at refused
    cases refused
  · rename_i refused
    refine ⟨stays, fun _ => ⟨(fun _ impossible => nomatch impossible), fun _ same => ?_⟩⟩
    rw [same] at refused
    cases refused
  · rename_i fingerprint _ measured
    unfold beginLocked
    dsimp only
    by_cases own : (⟨scope, name⟩ : RecordKey) = key
    · rw [own, found]
      dsimp only
      split
      · rename_i differs
        refine ⟨⟨access, found⟩, fun _ => ⟨(fun _ impossible => nomatch impossible), fun _ same => ?_⟩⟩
        rw [measured] at same
        exact absurd (Except.ok.inj same).symm differs
      · refine ⟨⟨_, AList.lookup_insert ..⟩, fun _ => ?_⟩
        unfold answer
        rw [channel]
        exact ⟨(fun _ impossible => nomatch impossible), fun _ _ => rfl⟩
    · refine ⟨?_, fun same => absurd same own⟩
      have other : key ≠ ⟨scope, name⟩ := Ne.symm own
      split
      · split
        · exact ⟨access, found⟩
        · exact ⟨access, (AList.lookup_insert_ne other).trans found⟩
      · split
        · exact ⟨access, found⟩
        · rename_i roomy room
          refine ⟨access, (AList.lookup_insert_ne other).trans ?_⟩
          obtain ⟨rfl, _⟩ | ⟨victim, gone, rfl, live, settled⟩ := makeCapacity_ok room
          · exact found
          · rw [remove_entries, AList.lookup_erase_ne]
            · exact found
            · rintro rfl
              cases live.symm.trans found
              rw [pending] at settled
              cases settled

/-- Another key's completion evicts no pending entry. -/
theorem complete_stays (threaded : Threaded c) {now : Nat} (pending : entry.expiresAt = none)
    (stays : Stays c key entry) {token : IdempotencyToken Fingerprint} (response : ImageResponse)
    (other : token.recordKey ≠ key) : Stays (complete codec config now token response c) key entry := by
  obtain ⟨access, found⟩ := stays
  have empty : ({ entry with lastAccess := access } : Entry Fingerprint).retainedBytes = 0 :=
    threaded.weightless key _ found pending
  have kept : ∀ (t : IdempotencyState Fingerprint) victim, t.byteVictim token.recordKey = some victim →
      t.entries.lookup key = c.entries.lookup key →
      (t.remove victim).entries.lookup key = c.entries.lookup key := by
    intro t victim chosen same
    obtain ⟨_, gone, live, heavy⟩ := byteVictim_spec chosen
    rw [remove_entries, AList.lookup_erase_ne, same]
    rintro rfl
    cases live.symm.trans (same.trans found)
    exact absurd empty (Nat.ne_of_gt heavy)
  refine ⟨access, ?_⟩
  rcases complete_cases (P := fun t => t.entries.lookup key = c.entries.lookup key) token kept now
      response rfl with ⟨_, same⟩ | ⟨settled, reserved, _, same, _, outcome⟩
  · rw [same]
    exact found
  · obtain unreplayable | ⟨_, recorded⟩ := outcome
    · rw [unreplayable]
      exact (AList.lookup_insert_ne (Ne.symm other)).trans (same.trans found)
    · rw [recorded]
      exact (AList.lookup_insert_ne (Ne.symm other)).trans (same.trans found)

theorem fail_stays {now : Nat} (stays : Stays c key entry) {token : IdempotencyToken Fingerprint}
    (e : BridgeError) (other : token.recordKey ≠ key) :
    Stays (fail config now token e c) key entry := by
  obtain ⟨access, found⟩ := stays
  refine ⟨access, ?_⟩
  obtain ⟨_, same⟩ | ⟨settled, _, ⟨_, kept⟩ | ⟨_, freed⟩⟩ := fail_cases now token e
  · rw [same]
    exact found
  · rw [kept]
    exact (AList.lookup_insert_ne (Ne.symm other)).trans found
  · rw [freed, send_entries, remove_entries, AList.lookup_erase_ne (Ne.symm other)]
    exact found

/-! ## The first begin after the lifetime -/

omit [DecidableEq Fingerprint] in
theorem expireKey_entries (c : IdempotencyState Fingerprint) (key : RecordKey) :
    (c.expireKey key).entries = c.entries.erase key := by
  unfold expireKey
  cases found : c.entries.lookup key with
  | none => exact (erase_absent found).symm
  | some entry =>
    dsimp only
    split <;> exact remove_entries c key

/-- What a sweep leaves of a pending entry: nothing but the message to its followers. -/
structure Swept (c : IdempotencyState Fingerprint) (key : RecordKey) (entry : Entry Fingerprint)
    (t : IdempotencyState Fingerprint) : Prop where
  gone : t.entries.lookup key = none
  told : t.channels entry.sender = .failed expiryError
  smaller : size t.entries + 1 ≤ size c.entries

omit [DecidableEq Fingerprint] in
theorem Swept.remove {t : IdempotencyState Fingerprint} (swept : Swept c key entry t)
    (other : RecordKey) : Swept c key entry (t.remove other) where
  gone := by
    rw [remove_entries, AList.lookup_eq_none, AList.mem_erase]
    exact fun present => AList.lookup_eq_none.mp swept.gone present.2
  told := by
    rw [remove_channels]
    exact swept.told
  smaller := by
    rw [remove_entries]
    exact Nat.le_trans (Nat.succ_le_succ size_erase_le) swept.smaller

omit [DecidableEq Fingerprint] in
theorem Swept.expire {t : IdempotencyState Fingerprint} (swept : Swept c key entry t) (g : Nat) :
    Swept c key entry (t.send g (.failed expiryError)) where
  gone := swept.gone
  told := by
    unfold send
    dsimp only
    split
    · rfl
    · exact swept.told
  smaller := swept.smaller

omit [DecidableEq Fingerprint] in
/-- The induction is on the stale keys: the entry stays until the sweep reaches it. -/
theorem expireKeys_reach {keys : List RecordKey} (member : key ∈ keys)
    (found : c.entries.lookup key = some entry) (pending : entry.expiresAt = none) :
    Swept c key entry (keys.foldl expireKey c) := by
  induction keys generalizing c with
  | nil => cases member
  | cons k rest ih =>
    have entries := expireKey_entries c k
    by_cases own : k = key
    · subst own
      have reached : Swept c k entry (c.expireKey k) := by
        refine ⟨?_, ?_, ?_⟩
        · rw [entries, AList.lookup_erase]
        · simp [expireKey, found, pending, send]
        · rw [entries, ← size_erase found]
      exact expireKeys_invariant (s := c.expireKey k)
        (fun _ k' _ held => expireKey_invariant (P := Swept c k entry)
          (fun _ j swept => swept.remove j) (fun _ g swept => swept.expire g) k' held) reached
    · have later : key ∈ rest := (List.mem_cons.mp member).resolve_left (Ne.symm own)
      have kept : (c.expireKey k).entries.lookup key = some entry := by
        rw [entries, AList.lookup_erase_ne (Ne.symm own)]
        exact found
      have swept := ih later kept
      refine ⟨swept.gone, swept.told, Nat.le_trans swept.smaller ?_⟩
      rw [entries]
      exact size_erase_le

/-- A begin of the key after the in-flight lifetime fails the entry's followers and
elects a new leader. -/
theorem begin_expires (threaded : Threaded c) (bounded : Bounded config c) {now : Nat}
    (there : Pending c key entry) (old : config.inFlightTtl ≤ now - entry.createdAt)
    {scope name : String} {request : ImageRequest} {fingerprint : Fingerprint}
    (own : key = ⟨scope, name⟩) (valid : validateScope scope = .ok ())
    (measured : requestFingerprint codec request = .ok fingerprint) :
    let result := begin codec config now scope name request c
    result.1 = .ok (.leader { recordKey := key, fingerprint }) ∧
      result.2.channels entry.sender = .failed expiryError := by
  obtain ⟨found, pending⟩ := there
  have stale : key ∈ c.staleKeys now config.inFlightTtl := by
    refine List.mem_map.mpr ⟨⟨key, entry⟩, List.mem_filter.mpr ⟨?_, ?_⟩, rfl⟩
    · exact List.of_mem_dlookup found
    · simp only [expired, pending, ge_iff_le, decide_eq_true_eq]
      exact old
  obtain ⟨gone, told, smaller⟩ := expireKeys_reach stale found pending
  have absent : (c.enter config now).entries.lookup key = none := gone
  have room : size (c.enter config now).entries < config.maxEntries :=
    Nat.lt_of_lt_of_le smaller bounded.entries
  have used := threaded.opened key entry found
  subst own
  dsimp only
  unfold Idempotency.begin
  simp only [valid, measured]
  unfold beginLocked
  simp only [absent, makeCapacity, if_pos room]
  refine ⟨trivial, ?_⟩
  have other : entry.sender ≠ (c.enter config now).nextSender := by
    rw [enter_nextSender]
    exact Nat.ne_of_lt used
  exact (send_others _ _ other).trans told

end ImagegenBridge.Idempotency
