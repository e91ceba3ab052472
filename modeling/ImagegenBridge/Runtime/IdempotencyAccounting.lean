import ImagegenBridge.Runtime.Idempotency

/-!
# Byte accounting of the idempotency coordinator

`completed_bytes` counts what the live entries retain, as long as no completion
finds an entry that already retains bytes. The two bounds hold in every run.
-/

namespace ImagegenBridge.Idempotency

open AssocTotals

variable {Fingerprint : Type} {s s' : IdempotencyState Fingerprint} {config : IdempotencyConfig}

namespace IdempotencyState

/-! What removal and sending leave alone. -/

@[simp] theorem send_entries (s : IdempotencyState Fingerprint) (g : Nat) (o : EntryOutcome) :
    (s.send g o).entries = s.entries := rfl
@[simp] theorem send_completedBytes (s : IdempotencyState Fingerprint) (g : Nat) (o : EntryOutcome) :
    (s.send g o).completedBytes = s.completedBytes := rfl
@[simp] theorem send_nextSender (s : IdempotencyState Fingerprint) (g : Nat) (o : EntryOutcome) :
    (s.send g o).nextSender = s.nextSender := rfl
@[simp] theorem put_entries (s : IdempotencyState Fingerprint) (k : RecordKey)
    (e : Entry Fingerprint) : (s.put k e).entries = s.entries.insert k e := rfl
@[simp] theorem put_completedBytes (s : IdempotencyState Fingerprint) (k : RecordKey)
    (e : Entry Fingerprint) : (s.put k e).completedBytes = s.completedBytes := rfl
@[simp] theorem put_channels (s : IdempotencyState Fingerprint) (k : RecordKey)
    (e : Entry Fingerprint) : (s.put k e).channels = s.channels := rfl
@[simp] theorem put_nextSender (s : IdempotencyState Fingerprint) (k : RecordKey)
    (e : Entry Fingerprint) : (s.put k e).nextSender = s.nextSender := rfl

@[simp] theorem remove_entries (s : IdempotencyState Fingerprint) (k : RecordKey) :
    (s.remove k).entries = s.entries.erase k := by
  unfold remove
  cases h : s.entries.lookup k with
  | none => exact (erase_absent h).symm
  | some entry => rfl

@[simp] theorem remove_channels (s : IdempotencyState Fingerprint) (k : RecordKey) :
    (s.remove k).channels = s.channels := by
  unfold remove
  cases s.entries.lookup k <;> rfl

@[simp] theorem remove_nextSender (s : IdempotencyState Fingerprint) (k : RecordKey) :
    (s.remove k).nextSender = s.nextSender := by
  unfold remove
  cases s.entries.lookup k <;> rfl

theorem remove_completedBytes_le (s : IdempotencyState Fingerprint) (k : RecordKey) :
    (s.remove k).completedBytes ≤ s.completedBytes := by
  unfold remove
  cases s.entries.lookup k with
  | none => exact Nat.le_refl _
  | some entry => exact Nat.sub_le _ _

/-! Cleanup, eviction and reservation only ever remove entries and announce expiries. -/

theorem expireKey_invariant {P : IdempotencyState Fingerprint → Prop}
    (removal : ∀ s k, P s → P (s.remove k))
    (expiry : ∀ s g, P s → P (s.send g (.failed expiryError))) (k : RecordKey) (h : P s) :
    P (s.expireKey k) := by
  unfold expireKey
  cases s.entries.lookup k with
  | none => exact h
  | some entry =>
    simp only
    split
    · exact expiry _ _ (removal _ _ h)
    · exact removal _ _ h

/-- The induction rule of the sweep over stale keys. -/
theorem expireKeys_invariant {P : IdempotencyState Fingerprint → Prop} {keys : List RecordKey}
    (expires : ∀ s, ∀ k ∈ keys, P s → P (s.expireKey k)) (h : P s) : P (keys.foldl expireKey s) := by
  induction keys generalizing s with
  | nil => exact h
  | cons key rest ih =>
    apply ih (fun t k member => expires t k (List.mem_cons_of_mem _ member))
    exact expires s key (List.mem_cons_self ..) h

theorem cleanup_invariant {P : IdempotencyState Fingerprint → Prop}
    (removal : ∀ s k, P s → P (s.remove k))
    (expiry : ∀ s g, P s → P (s.send g (.failed expiryError))) (now ttl : Nat) (h : P s) :
    P (s.cleanup now ttl) :=
  expireKeys_invariant (fun _ k _ held => expireKey_invariant removal expiry k held) h

/-- A fold that keeps its choice or takes the element at hand ends with the first
choice or an element. -/
theorem foldl_chosen {α : Type} {step : Option α → α → Option α} {chosen : α}
    (choice : ∀ best a, step best a = best ∨ step best a = some a) {xs : List α} {best : Option α}
    (found : xs.foldl step best = some chosen) : best = some chosen ∨ chosen ∈ xs := by
  induction xs generalizing best with
  | nil => exact Or.inl found
  | cons x xs ih =>
    obtain kept | later := ih found
    · obtain same | taken := choice best x
      · exact Or.inl (same.symm.trans kept)
      · rw [taken] at kept
        cases kept
        exact Or.inr (List.mem_cons_self ..)
    · exact Or.inr (List.mem_cons_of_mem _ later)

theorem leastRecent_mem {entries : List (Sigma fun _ : RecordKey => Entry Fingerprint)}
    {key : RecordKey} (h : leastRecent entries = some key) : ∃ entry ∈ entries, entry.1 = key := by
  obtain ⟨entry, found, rfl⟩ := Option.map_eq_some_iff.mp h
  have choice := foldl_chosen (fun best e => ?_) found
  · obtain absurdity | member := choice
    · cases absurdity
    · exact ⟨entry, member, rfl⟩
  · cases best with
    | none => exact Or.inr rfl
    | some previous =>
      simp only
      split
      · exact Or.inr rfl
      · exact Or.inl rfl

/-- A victim of the byte budget is a live entry other than the excluded one, and
retains bytes. -/
theorem byteVictim_spec {exclude victim : RecordKey} (h : s.byteVictim exclude = some victim) :
    victim ≠ exclude ∧ ∃ entry, s.entries.lookup victim = some entry ∧ 0 < entry.retainedBytes := by
  obtain ⟨entry, member, rfl⟩ := leastRecent_mem h
  rw [List.mem_filter] at member
  obtain ⟨live, chosen⟩ := member
  simp only [Bool.and_eq_true, bne_iff_ne, ne_eq, decide_eq_true_eq] at chosen
  exact ⟨chosen.1.1, entry.2, mem_entries live, chosen.1.2⟩

/-- What the eviction loop guarantees, whatever its fuel. -/
theorem reserveLoop_spec {P : IdempotencyState Fingerprint → Prop} {exclude : RecordKey}
    (eviction : ∀ s victim, s.byteVictim exclude = some victim → P s → P (s.remove victim))
    (incoming maximum : Nat) (fuel : Nat) (h : P s) :
    let result := reserveLoop incoming maximum exclude fuel s
    P result.1 ∧ result.1.entries.lookup exclude = s.entries.lookup exclude ∧
      result.1.completedBytes ≤ s.completedBytes ∧
      result.1.channels = s.channels ∧ result.1.nextSender = s.nextSender ∧
      (result.2 = true → saturatingAdd result.1.completedBytes incoming ≤ maximum) := by
  induction fuel generalizing s with
  | zero => exact ⟨h, rfl, Nat.le_refl _, rfl, rfl, fun fits => of_decide_eq_true fits⟩
  | succ fuel ih =>
    unfold reserveLoop
    by_cases fits : saturatingAdd s.completedBytes incoming ≤ maximum
    · simp only [if_pos fits]
      exact ⟨h, trivial, Nat.le_refl _, trivial, trivial, fun _ => fits⟩
    · simp only [if_neg fits]
      cases chosen : s.byteVictim exclude with
      | none => exact ⟨h, rfl, Nat.le_refl _, rfl, rfl, fun impossible => by cases impossible⟩
      | some victim =>
        obtain ⟨other, _⟩ := byteVictim_spec chosen
        obtain ⟨kept, entry, bytes, channels, sender, fits⟩ := ih (eviction s victim chosen h)
        refine ⟨kept, ?_, Nat.le_trans bytes (remove_completedBytes_le s victim), ?_, ?_, fits⟩
        · rw [entry, remove_entries, AList.lookup_erase_ne (Ne.symm other)]
        · rw [channels, remove_channels]
        · rw [sender, remove_nextSender]

/-- The loop gives up only when no entry is left to evict: its fuel suffices. -/
theorem reserveLoop_exhausted (incoming maximum : Nat) (exclude : RecordKey) (fuel : Nat)
    (enough : size s.entries ≤ fuel) (refused : (reserveLoop incoming maximum exclude fuel s).2 = false) :
    (reserveLoop incoming maximum exclude fuel s).1.byteVictim exclude = none := by
  induction fuel generalizing s with
  | zero =>
    cases chosen : s.byteVictim exclude with
    | none => exact chosen
    | some victim =>
      obtain ⟨_, entry, live, _⟩ := byteVictim_spec chosen
      have := size_erase live
      omega
  | succ fuel ih =>
    unfold reserveLoop at refused ⊢
    by_cases fits : saturatingAdd s.completedBytes incoming ≤ maximum
    · simp [if_pos fits] at refused
    · simp only [if_neg fits] at refused ⊢
      cases chosen : s.byteVictim exclude with
      | none => exact chosen
      | some victim =>
        simp only [chosen] at refused
        obtain ⟨_, entry, live, _⟩ := byteVictim_spec chosen
        have smaller := size_erase live
        exact ih (by rw [remove_entries]; omega) refused

/-- Room is there, or is made by removing a settled entry. -/
theorem makeCapacity_ok {maximum : Nat} (h : s.makeCapacity maximum = .ok s') :
    (s' = s ∧ size s.entries < maximum) ∨
      ∃ key entry, s' = s.remove key ∧ s.entries.lookup key = some entry ∧
        entry.expiresAt.isSome = true := by
  unfold makeCapacity at h
  split at h
  · rename_i room
    cases h
    exact Or.inl ⟨rfl, room⟩
  · split at h
    · rename_i key chosen
      cases h
      obtain ⟨entry, member, rfl⟩ := leastRecent_mem chosen
      obtain ⟨live, chosen⟩ := List.mem_filter.mp member
      simp only [Bool.and_eq_true] at chosen
      exact Or.inr ⟨entry.1, entry.2, rfl, mem_entries live, chosen.1⟩
    · cases h

end IdempotencyState

open IdempotencyState

/-! ## Exactness and bounds -/

/-- The bytes the live entries retain. -/
def retained (s : IdempotencyState Fingerprint) : Nat := total Entry.retainedBytes s.entries

def Exact (s : IdempotencyState Fingerprint) : Prop := s.completedBytes = retained s

structure Bounded (config : IdempotencyConfig) (s : IdempotencyState Fingerprint) : Prop where
  bytes : s.completedBytes ≤ config.maxCompletedBytes
  entries : size s.entries ≤ config.maxEntries

theorem remove_exact (k : RecordKey) (h : Exact s) : Exact (s.remove k) := by
  unfold Exact retained at h ⊢
  unfold remove
  cases found : s.entries.lookup k with
  | none => exact h
  | some entry =>
    have split := total_erase Entry.retainedBytes found
    simp only
    omega

theorem remove_bounded (k : RecordKey) (h : Bounded config s) : Bounded config (s.remove k) := by
  refine ⟨Nat.le_trans (remove_completedBytes_le s k) h.bytes, ?_⟩
  rw [remove_entries]
  exact Nat.le_trans size_erase_le h.entries

theorem send_exact (g : Nat) (o : EntryOutcome) (h : Exact s) : Exact (s.send g o) := h

theorem send_bounded (g : Nat) (o : EntryOutcome) (h : Bounded config s) :
    Bounded config (s.send g o) := ⟨h.bytes, h.entries⟩

/-- Rewriting an entry without touching its bytes keeps the account. -/
theorem put_exact {k : RecordKey} {old new : Entry Fingerprint} (h : Exact s)
    (found : s.entries.lookup k = some old) (same : new.retainedBytes = old.retainedBytes) :
    Exact (s.put k new) := by
  unfold Exact retained at h ⊢
  rw [put_completedBytes, put_entries, total_insert_same found same]
  exact h

theorem put_bounded {k : RecordKey} {old new : Entry Fingerprint} (h : Bounded config s)
    (found : s.entries.lookup k = some old) : Bounded config (s.put k new) := by
  refine ⟨h.bytes, ?_⟩
  rw [put_entries, size_insert_present found]
  exact h.entries

/-! ## One operation -/

theorem enter_exact (now : Nat) (h : Exact s) : Exact (s.enter config now) :=
  cleanup_invariant (fun _ k held => remove_exact k held) (fun _ g held => send_exact g _ held) now
    config.inFlightTtl h

theorem enter_bounded (now : Nat) (h : Bounded config s) : Bounded config (s.enter config now) := by
  have cleaned : Bounded config (s.cleanup now config.inFlightTtl) :=
    cleanup_invariant (fun _ k held => remove_bounded k held)
      (fun _ g held => send_bounded g _ held) now config.inFlightTtl h
  exact ⟨cleaned.bytes, cleaned.entries⟩

/-- A fresh pending entry retains nothing. -/
theorem insertPending_exact {k : RecordKey} (fingerprint : Fingerprint) (now access : Nat)
    (h : Exact s) (absent : s.entries.lookup k = none) :
    Exact (s.insertPending k fingerprint now access) := by
  unfold Exact retained at h ⊢
  unfold insertPending
  simp only [send_completedBytes, send_entries, put_completedBytes, put_entries]
  rw [total_insert_absent absent, h]
  exact (Nat.zero_add _).symm

theorem insertPending_bounded {k : RecordKey} (fingerprint : Fingerprint) (now access : Nat)
    (bytes : s.completedBytes ≤ config.maxCompletedBytes) (room : size s.entries < config.maxEntries)
    (absent : s.entries.lookup k = none) :
    Bounded config (s.insertPending k fingerprint now access) := by
  refine ⟨bytes, ?_⟩
  unfold insertPending
  simp only [send_entries, put_entries]
  rw [size_insert_absent absent]
  exact room

theorem makeCapacity_exact {maximum : Nat} (room : s.makeCapacity maximum = .ok s')
    (h : Exact s) : Exact s' := by
  obtain ⟨rfl, _⟩ | ⟨key, _, rfl, _⟩ := makeCapacity_ok room
  · exact h
  · exact remove_exact key h

/-- A granted capacity leaves room for one more entry. -/
theorem makeCapacity_bounded (room : s.makeCapacity config.maxEntries = .ok s')
    (h : Bounded config s) :
    s'.completedBytes ≤ config.maxCompletedBytes ∧ size s'.entries < config.maxEntries := by
  obtain ⟨rfl, free⟩ | ⟨key, entry, rfl, live, _⟩ := makeCapacity_ok room
  · exact ⟨h.bytes, free⟩
  · have smaller := size_erase live
    have limit := h.entries
    rw [remove_entries]
    exact ⟨Nat.le_trans (remove_completedBytes_le s key) h.bytes, by omega⟩

theorem makeCapacity_absent {maximum : Nat} {k : RecordKey}
    (room : s.makeCapacity maximum = .ok s') (absent : s.entries.lookup k = none) :
    s'.entries.lookup k = none := by
  obtain ⟨rfl, _⟩ | ⟨key, _, rfl, _⟩ := makeCapacity_ok room
  · exact absent
  · rw [remove_entries, AList.lookup_eq_none, AList.mem_erase]
    exact fun member => AList.lookup_eq_none.mp absent member.2

variable [DecidableEq Fingerprint]

/-- The operations of the coordinator, with tokens and instants of any kind. -/
inductive Operation (Fingerprint : Type) where
  | begin (now : Nat) (scope key : String) (request : ImageRequest)
  | complete (now : Nat) (token : IdempotencyToken Fingerprint) (response : ImageResponse)
  | fail (now : Nat) (token : IdempotencyToken Fingerprint) (error : BridgeError)

def apply (codec : Codec Fingerprint) (config : IdempotencyConfig) :
    Operation Fingerprint → IdempotencyState Fingerprint → IdempotencyState Fingerprint
  | .begin now scope key request, s => (begin codec config now scope key request s).2
  | .complete now token response, s => complete codec config now token response s
  | .fail now token error, s => fail config now token error s

/-- No completion meets an entry that already retains bytes, and the counter
stays representable. -/
def CleanCompletion (codec : Codec Fingerprint) (config : IdempotencyConfig)
    (s : IdempotencyState Fingerprint) : Operation Fingerprint → Prop
  | .complete _ token response => ∀ entry, s.entries.lookup token.recordKey = some entry →
      entry.fingerprint = token.fingerprint → entry.retainedBytes = 0 ∧
        (config.maxCompletedBytes < usizeMax ∨
          s.completedBytes + responseWeight codec response ≤ usizeMax)
  | _ => True

variable {codec : Codec Fingerprint}

theorem beginLocked_exact (now : Nat) (k : RecordKey) (fingerprint : Fingerprint) (h : Exact s) :
    Exact (beginLocked config now k fingerprint s).2 := by
  have entered : Exact (s.enter config now) := enter_exact now h
  unfold beginLocked
  simp only
  split
  · rename_i entry found
    split
    · exact entered
    · exact put_exact entered found rfl
  · rename_i absent
    split
    · exact entered
    · rename_i roomy room
      exact insertPending_exact _ _ _ (makeCapacity_exact room entered)
        (makeCapacity_absent room absent)

theorem beginLocked_bounded (now : Nat) (k : RecordKey) (fingerprint : Fingerprint)
    (h : Bounded config s) : Bounded config (beginLocked config now k fingerprint s).2 := by
  have entered : Bounded config (s.enter config now) := enter_bounded now h
  unfold beginLocked
  simp only
  split
  · rename_i entry found
    split
    · exact entered
    · exact put_bounded entered found
  · rename_i absent
    split
    · exact entered
    · rename_i roomy room
      obtain ⟨bytes, free⟩ := makeCapacity_bounded room entered
      exact insertPending_bounded _ _ _ bytes free (makeCapacity_absent room absent)

theorem begin_exact (now : Nat) (scope key : String) (request : ImageRequest) (h : Exact s) :
    Exact (begin codec config now scope key request s).2 := by
  unfold begin
  split
  · exact h
  · exact h
  · exact beginLocked_exact now _ _ h

theorem begin_bounded (now : Nat) (scope key : String) (request : ImageRequest)
    (h : Bounded config s) : Bounded config (begin codec config now scope key request s).2 := by
  unfold begin
  split
  · exact h
  · exact h
  · exact beginLocked_bounded now _ _ h

omit [DecidableEq Fingerprint] in
theorem settleUnreplayable_exact {k : RecordKey} {entry : Entry Fingerprint} {expires : Nat}
    (h : Exact s) (found : s.entries.lookup k = some entry) (empty : entry.retainedBytes = 0) :
    Exact (s.settleUnreplayable k entry expires) :=
  send_exact _ _ (put_exact h found empty.symm)

omit [DecidableEq Fingerprint] in
theorem settleUnreplayable_bounded {k : RecordKey} {entry : Entry Fingerprint} {expires : Nat}
    (h : Bounded config s) (found : s.entries.lookup k = some entry) :
    Bounded config (s.settleUnreplayable k entry expires) :=
  send_bounded _ _ (put_bounded h found)

omit [DecidableEq Fingerprint] in
/-- Recording a completion on an entry without bytes counts them exactly once. -/
theorem settleCompleted_exact {k : RecordKey} {entry : Entry Fingerprint} {expires bytes : Nat}
    {response : ImageResponse} (h : Exact s) (found : s.entries.lookup k = some entry)
    (empty : entry.retainedBytes = 0) (representable : s.completedBytes + bytes ≤ usizeMax) :
    Exact (s.settleCompleted k entry expires bytes response) := by
  have split := total_erase Entry.retainedBytes found
  unfold Exact retained at h ⊢
  unfold settleCompleted
  simp only [send_entries, put_entries]
  rw [total_insert, saturatingAdd, Nat.min_eq_left representable]
  simp only
  omega

omit [DecidableEq Fingerprint] in
theorem settleCompleted_bounded {k : RecordKey} {entry : Entry Fingerprint} {expires bytes : Nat}
    {response : ImageResponse} (h : Bounded config s) (found : s.entries.lookup k = some entry)
    (fits : saturatingAdd s.completedBytes bytes ≤ config.maxCompletedBytes) :
    Bounded config (s.settleCompleted k entry expires bytes response) := by
  refine ⟨fits, ?_⟩
  unfold settleCompleted
  simp only [send_entries, put_entries]
  rw [size_insert_present found]
  exact h.entries

/-- A token meets the entry of its key. -/
def Matches (s : IdempotencyState Fingerprint) (token : IdempotencyToken Fingerprint)
    (entry : Entry Fingerprint) : Prop :=
  s.entries.lookup token.recordKey = some entry ∧ entry.fingerprint = token.fingerprint

/-- A state reached from another by evicting entries other than that of one key. -/
structure Reserved (key : RecordKey) (s reserved : IdempotencyState Fingerprint) : Prop where
  entry : reserved.entries.lookup key = s.entries.lookup key
  bytes : reserved.completedBytes ≤ s.completedBytes
  channels : reserved.channels = s.channels
  nextSender : reserved.nextSender = s.nextSender

/-- Everything a completion can do: nothing, keep the key only, or keep the bytes. -/
theorem complete_cases {P : IdempotencyState Fingerprint → Prop}
    (token : IdempotencyToken Fingerprint)
    (eviction : ∀ s victim, s.byteVictim token.recordKey = some victim → P s → P (s.remove victim))
    (now : Nat) (response : ImageResponse) (h : P s) :
    ((∀ entry, ¬Matches s token entry) ∧ complete codec config now token response s = s) ∨
    ∃ entry reserved, Matches s token entry ∧ P reserved ∧ Reserved token.recordKey s reserved ∧
      (complete codec config now token response s =
          reserved.settleUnreplayable token.recordKey entry (now + config.completedTtl) ∨
        (saturatingAdd reserved.completedBytes (responseWeight codec response)
            ≤ config.maxCompletedBytes ∧
          complete codec config now token response s =
            reserved.settleCompleted token.recordKey entry (now + config.completedTtl)
              (responseWeight codec response) response)) := by
  unfold complete completeEntry
  cases found : s.entries.lookup token.recordKey with
  | none => exact Or.inl ⟨fun entry matched => by simp [Matches, found] at matched, rfl⟩
  | some entry =>
    by_cases same : entry.fingerprint = token.fingerprint
    · right
      have matched : Matches s token entry := ⟨found, same⟩
      simp only [same, ne_eq, not_true_eq_false, if_false]
      by_cases oversize : responseWeight codec response > config.maxCompletedBytes
      · simp only [if_pos oversize]
        exact ⟨entry, s, matched, h, ⟨rfl, Nat.le_refl _, rfl, rfl⟩, Or.inl rfl⟩
      · simp only [if_neg oversize]
        obtain ⟨kept, same_entry, bytes, channels, sender, fits⟩ :=
          reserveLoop_spec eviction (responseWeight codec response) config.maxCompletedBytes
            (size s.entries) h
        unfold reserveCompletedBytes
        have live := same_entry.trans found
        simp only [live]
        refine ⟨entry, _, matched, kept, ⟨same_entry, bytes, channels, sender⟩, ?_⟩
        split
        · rename_i granted
          exact Or.inr ⟨fits granted, rfl⟩
        · exact Or.inl rfl
    · left
      simp only [ne_eq, same, not_false_eq_true, if_true, and_true]
      intro other matched
      rw [Matches, found] at matched
      cases matched.1
      exact same matched.2

/-- Everything a failure can do: nothing, keep an unknown outcome, or free the key. -/
theorem fail_cases (now : Nat) (token : IdempotencyToken Fingerprint) (error : BridgeError) :
    ((∀ entry, ¬Matches s token entry) ∧ fail config now token error s = s) ∨
    ∃ entry, Matches s token entry ∧
      ((error.outcomeUnknown = true ∧ fail config now token error s =
          (s.put token.recordKey
            { entry with expiresAt := some (now + config.unknownTtl), uncertain := true }).send
            entry.sender (.unknown (unknownError error))) ∨
        (error.outcomeUnknown = false ∧ fail config now token error s =
          (s.remove token.recordKey).send entry.sender (.failed error))) := by
  unfold fail
  cases found : s.entries.lookup token.recordKey with
  | none => exact Or.inl ⟨fun entry matched => by simp [Matches, found] at matched, rfl⟩
  | some entry =>
    by_cases same : entry.fingerprint = token.fingerprint
    · refine Or.inr ⟨entry, ⟨found, same⟩, ?_⟩
      cases unknown : error.outcomeUnknown <;> simp [same]
    · left
      simp only [ne_eq, same, not_false_eq_true, if_true, and_true]
      intro other matched
      rw [Matches, found] at matched
      cases matched.1
      exact same matched.2

theorem complete_bounded (now : Nat) (token : IdempotencyToken Fingerprint)
    (response : ImageResponse) (h : Bounded config s) :
    Bounded config (complete codec config now token response s) := by
  rcases complete_cases (P := Bounded config) token (fun _ k _ held => remove_bounded k held) now
      response h with ⟨_, same⟩ | ⟨entry, reserved, matched, kept, still, outcome⟩
  · rw [same]
    exact h
  · have found := still.entry.trans matched.1
    obtain unreplayable | ⟨fits, recorded⟩ := outcome
    · rw [unreplayable]
      exact settleUnreplayable_bounded kept found
    · rw [recorded]
      exact settleCompleted_bounded kept found fits

/-- A granted reservation never saturates the counter of a clean completion. -/
theorem reservation_representable {completedBytes bytes : Nat}
    (fits : saturatingAdd completedBytes bytes ≤ config.maxCompletedBytes)
    (clean : config.maxCompletedBytes < usizeMax ∨ completedBytes + bytes ≤ usizeMax) :
    completedBytes + bytes ≤ usizeMax := by
  rcases clean with below | within
  · unfold saturatingAdd at fits
    omega
  · exact within

theorem complete_exact (now : Nat) (token : IdempotencyToken Fingerprint)
    (response : ImageResponse) (h : Exact s)
    (clean : CleanCompletion codec config s (.complete now token response)) :
    Exact (complete codec config now token response s) := by
  obtain ⟨_, same⟩ | ⟨entry, reserved, matched, kept, still, outcome⟩ :=
    complete_cases (P := Exact) token (fun _ k _ held => remove_exact k held) now response h
  · rw [same]
    exact h
  · have found := still.entry.trans matched.1
    obtain ⟨empty, representable⟩ := clean entry matched.1 matched.2
    obtain unreplayable | ⟨fits, recorded⟩ := outcome
    · rw [unreplayable]
      exact settleUnreplayable_exact kept found empty
    · rw [recorded]
      refine settleCompleted_exact kept found empty (reservation_representable fits ?_)
      have fewer := still.bytes
      omega

theorem fail_exact (now : Nat) (token : IdempotencyToken Fingerprint) (error : BridgeError)
    (h : Exact s) : Exact (fail config now token error s) := by
  obtain ⟨_, same⟩ | ⟨entry, matched, ⟨_, unknown⟩ | ⟨_, freed⟩⟩ := fail_cases now token error
  · rw [same]
    exact h
  · rw [unknown]
    exact send_exact _ _ (put_exact h matched.1 rfl)
  · rw [freed]
    exact send_exact _ _ (remove_exact _ h)

theorem fail_bounded (now : Nat) (token : IdempotencyToken Fingerprint) (error : BridgeError)
    (h : Bounded config s) : Bounded config (fail config now token error s) := by
  obtain ⟨_, same⟩ | ⟨entry, matched, ⟨_, unknown⟩ | ⟨_, freed⟩⟩ := fail_cases now token error
  · rw [same]
    exact h
  · rw [unknown]
    exact send_bounded _ _ (put_bounded h matched.1)
  · rw [freed]
    exact send_bounded _ _ (remove_bounded _ h)

/-! ## Runs -/

/-- Any operations, in any order, at any instants. -/
inductive Run (codec : Codec Fingerprint) (config : IdempotencyConfig) :
    IdempotencyState Fingerprint → Prop
  | initial : Run codec config initial
  | step {s : IdempotencyState Fingerprint} (op : Operation Fingerprint) :
      Run codec config s → Run codec config (apply codec config op s)

/-- A run whose completions are all clean. -/
inductive CleanRun (codec : Codec Fingerprint) (config : IdempotencyConfig) :
    IdempotencyState Fingerprint → Prop
  | initial : CleanRun codec config initial
  | step {s : IdempotencyState Fingerprint} (op : Operation Fingerprint) :
      CleanRun codec config s → CleanCompletion codec config s op →
        CleanRun codec config (apply codec config op s)

theorem apply_bounded (op : Operation Fingerprint) (h : Bounded config s) :
    Bounded config (apply codec config op s) := by
  cases op with
  | begin now scope key request => exact begin_bounded now scope key request h
  | complete now token response => exact complete_bounded now token response h
  | fail now token error => exact fail_bounded now token error h

theorem apply_exact (op : Operation Fingerprint) (h : Exact s)
    (clean : CleanCompletion codec config s op) : Exact (apply codec config op s) := by
  cases op with
  | begin now scope key request => exact begin_exact now scope key request h
  | complete now token response => exact complete_exact now token response h clean
  | fail now token error => exact fail_exact now token error h

/-- Both bounds hold in every run, clean or not. -/
theorem run_bounded (run : Run codec config s) : Bounded config s := by
  induction run with
  | initial => exact ⟨Nat.zero_le _, Nat.zero_le _⟩
  | step op _ ih => exact apply_bounded op ih

theorem clean_run (run : CleanRun codec config s) : Run codec config s := by
  induction run with
  | initial => exact .initial
  | step op _ _ ih => exact .step op ih

/-- In a run of clean completions the counter is the sum of what the live
entries retain, within both bounds. -/
theorem accounting (run : CleanRun codec config s) :
    s.completedBytes = retained s ∧ s.completedBytes ≤ config.maxCompletedBytes ∧
      size s.entries ≤ config.maxEntries := by
  have bounded := run_bounded (clean_run run)
  have exact_bytes : Exact s := by
    induction run with
    | initial => rfl
    | step op before clean ih => exact apply_exact op (ih (run_bounded (clean_run before))) clean
  exact ⟨exact_bytes, bounded.bytes, bounded.entries⟩

/-- A completion that meets retained bytes always drifts: they stay counted after
the entry has let go of them. -/
theorem dirty_completion_drifts {entry : Entry Fingerprint} {token : IdempotencyToken Fingerprint}
    (h : Exact s) (matched : Matches s token entry) (dirty : 0 < entry.retainedBytes)
    (representable : config.maxCompletedBytes < usizeMax) (now : Nat) (response : ImageResponse) :
    ¬Exact (complete codec config now token response s) := by
  intro drifted
  obtain ⟨unmatched, _⟩ | ⟨other, reserved, found, kept, still, outcome⟩ :=
    complete_cases (P := Exact) token (fun _ k _ held => remove_exact k held) now response h
  · exact unmatched entry matched
  · have same : other = entry := Option.some.inj (found.1.symm.trans matched.1)
    subst same
    have split := total_erase Entry.retainedBytes (still.entry.trans found.1)
    unfold Exact retained at kept drifted
    obtain unreplayable | ⟨fits, recorded⟩ := outcome
    · rw [unreplayable] at drifted
      unfold settleUnreplayable at drifted
      simp only [send_completedBytes, send_entries, put_completedBytes, put_entries] at drifted
      rw [total_insert] at drifted
      simp only at drifted
      omega
    · have within := reservation_representable fits (Or.inl representable)
      rw [recorded] at drifted
      unfold settleCompleted at drifted
      simp only [send_entries, put_entries] at drifted
      rw [total_insert, saturatingAdd, Nat.min_eq_left within] at drifted
      simp only at drifted
      omega

section LateCompletion

/-- One fingerprint for every request and 300 bytes for every response. -/
def plainCodec : Codec Unit where
  digest := fun _ => some ()
  encodedLength := fun _ => some 44

def lighthouse : ImageRequest := ImageRequest.generate "a lighthouse"

def plainResponse : ImageResponse where
  id := "request"
  created := 0
  provider := "fake"
  model := "fake"
  requested := {}
  effective := {}
  normalizations := []
  attempts := []
  data := []
  failures := []
  revisedPrompt := none
  usage := none
  session := none
  timings := {}
  warnings := []

def plainToken : IdempotencyToken Unit := { recordKey := ⟨"scope", "key"⟩, fingerprint := () }

def firstLeader : IdempotencyState Unit := (begin plainCodec {} 0 "scope" "key" lighthouse initial).2

/-- The first leader's entry has expired; a second leader of the same request takes the key. -/
def secondLeader : IdempotencyState Unit :=
  (begin plainCodec {} (31 * 60) "scope" "key" lighthouse firstLeader).2

def secondCompleted : IdempotencyState Unit :=
  complete plainCodec {} (31 * 60 + 1) plainToken plainResponse secondLeader

/-- The late token completes the entry of its successor: 300 retained bytes count as 600. -/
theorem late_completion_counts_twice :
    (begin plainCodec {} 0 "scope" "key" lighthouse initial).1 = .ok (.leader plainToken) ∧
    (begin plainCodec {} (31 * 60) "scope" "key" lighthouse firstLeader).1 =
      .ok (.leader plainToken) ∧
    ∃ s, Run plainCodec {} s ∧
      s = complete plainCodec {} (31 * 60 + 2) plainToken plainResponse secondCompleted ∧
      s.completedBytes ≠ retained s := by
  refine ⟨rfl, rfl, _, ?_, rfl, by decide⟩
  have led : Run plainCodec {} firstLeader := .step (.begin 0 "scope" "key" lighthouse) .initial
  have again : Run plainCodec {} secondLeader := .step (.begin (31 * 60) "scope" "key" lighthouse) led
  have settled : Run plainCodec {} secondCompleted :=
    .step (.complete (31 * 60 + 1) plainToken plainResponse) again
  exact .step (.complete (31 * 60 + 2) plainToken plainResponse) settled

/-- One leader, one completion. -/
theorem completed_once_accounted :
    let s := complete plainCodec {} 1 plainToken plainResponse firstLeader
    s.completedBytes = retained s ∧ s.completedBytes ≤ 256 * 1024 * 1024 ∧ size s.entries ≤ 10000 := by
  have led : CleanRun plainCodec {} firstLeader :=
    .step (.begin 0 "scope" "key" lighthouse) .initial trivial
  refine @accounting Unit _ {} _ plainCodec (.step (.complete 1 plainToken plainResponse) led ?_)
  intro entry found _
  cases found
  exact ⟨rfl, Or.inl (by decide)⟩

end LateCompletion

end ImagegenBridge.Idempotency
