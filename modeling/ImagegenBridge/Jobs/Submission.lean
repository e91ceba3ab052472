import ImagegenBridge.Jobs.Lifecycle

/-!
# Submitting a job twice

A row keeps the digest of its key and the fingerprint of its request for as long as it
exists. A second submission reads both in the transaction in which it would insert.
-/

namespace ImagegenBridge.Jobs

open Table Text
open Transition (Run Unrestricted)

variable {codec : Codec} {s t : StoreState} {event : StoreEvent} {row row' : JobRow}
  {requests : ImageRequest → Prop} {responses : ImageResponse → Prop}
  {errors : SuggestedError → Prop}

/-- The digest tells the texts apart that it is used on, and what is written can be read. -/
structure Faithful (codec : Codec) (requests : ImageRequest → Prop)
    (responses : ImageResponse → Prop) (errors : SuggestedError → Prop) : Prop where
  digests : ∀ a b, requests a → requests b →
    durableRequestFingerprint codec a = durableRequestFingerprint codec b →
      codec.encodeRequest (canonicalRequest a) = codec.encodeRequest (canonicalRequest b)
  encodes : ∀ a b, requests a → requests b →
    codec.encodeRequest (canonicalRequest a) = codec.encodeRequest (canonicalRequest b) →
      canonicalRequest a = canonicalRequest b
  requests : ∀ a, requests a →
    codec.decodeRequest (codec.encodeRequest (persistedRequest a)) = some (persistedRequest a)
  responses : ∀ r, responses r → (codec.decodeResponse (codec.encodeResponse r)).isSome = true
  errors : ∀ e, errors e ∨ e = interruption ∨ e = oversizedError →
    (codec.decodeError e.encode).isSome = true

/-- The inputs the store is used on. -/
def Uses (requests : ImageRequest → Prop) (responses : ImageResponse → Prop)
    (errors : SuggestedError → Prop) (_ : StoreState) : StoreEvent → Prop
  | .created _ _ request _ _ _ => requests request
  | .succeeded _ _ response _ => responses response
  | .failed _ _ _ error _ => errors error
  | _ => True

/-- The row of a key under a scope. -/
def JobRow.submittedAs (row : JobRow) (codec : Codec) (scope key : String) : Prop :=
  row.authScope = scope ∧ row.submissionKeyHash = some (codec.digest key)

/-- A row is the submission of a request, and its columns can be read. -/
structure Submitted (codec : Codec) (requests : ImageRequest → Prop) (row : JobRow) : Prop where
  request : ∃ a, requests a ∧ row.request = codec.encodeRequest (persistedRequest a) ∧
    ∀ hash, row.submissionKeyHash = some hash →
      row.requestFingerprint = some (durableRequestFingerprint codec a)
  response : ∀ text, row.response = some text → (codec.decodeResponse text).isSome = true
  error : ∀ text, row.error = some text → (codec.decodeError text).isSome = true

/-- Every row is a submission, and no two are of one key. -/
structure Idempotent (codec : Codec) (requests : ImageRequest → Prop) (s : StoreState) : Prop where
  submitted : ∀ row ∈ s.rows, Submitted codec requests row
  unique : ∀ row ∈ s.rows, ∀ row' ∈ s.rows, row.authScope = row'.authScope →
    ∀ hash, row.submissionKeyHash = some hash → row'.submissionKeyHash = some hash → row = row'

theorem findSubmission_none {scope : String} {keyHash : Option String} {rows : List JobRow}
    (none : findSubmission scope keyHash rows = none) (member : row ∈ rows)
    (own : row.authScope = scope) {hash : String} (keyed : row.submissionKeyHash = some hash) :
    keyHash ≠ some hash := by
  rintro rfl
  have missing := List.find?_eq_none.mp none row member
  simp [own, keyed] at missing

/-- A row found for a key is the row of the key. -/
theorem findSubmission_some {scope hash : String} {rows : List JobRow} {found : JobRow}
    (read : findSubmission scope (some hash) rows = some found) :
    found ∈ rows ∧ found.authScope = scope ∧ found.submissionKeyHash = some hash := by
  have matched := List.find?_some read
  simp only [decide_eq_true_eq] at matched
  exact ⟨List.mem_of_find?_eq_some read, matched⟩

theorem boundedError_decodes (faithful : Faithful codec requests responses errors)
    {error : SuggestedError} (used : errors error) :
    (codec.decodeError (boundedError error)).isSome = true := by
  unfold boundedError
  split
  · exact faithful.errors _ (Or.inr (Or.inr rfl))
  · exact faithful.errors _ (Or.inl used)

theorem RowStep.submitted (faithful : Faithful codec requests responses errors)
    (uses : Uses requests responses errors s event)
    (step : RowStep (Results codec event) (Errors event) row row')
    (submitted : Submitted codec requests row) : Submitted codec requests row' := by
  have same := step.sameJob
  have readable : ∀ text, Errors event text → (codec.decodeError text).isSome = true := by
    rintro text (⟨_, _, _, error, _, rfl, rfl⟩ | ⟨_, rfl, rfl⟩)
    · exact boundedError_decodes faithful uses
    · exact faithful.errors _ (Or.inr (Or.inl rfl))
  refine ⟨?_, ?_, ?_⟩
  · rw [same.request, same.submissionKeyHash, same.requestFingerprint]
    exact submitted.request
  · cases step with
    | finished status response error now running terminal result bounded resulting failing =>
      intro text own
      obtain ⟨_, _, stored, _, rfl, rfl⟩ := resulting text own
      exact faithful.responses stored uses
    | idle | claimed | progressed | cancelled | cancelNoted | interrupted | history =>
      exact submitted.response
  · cases step with
    | finished status response error now running terminal result bounded resulting failing =>
      intro text own
      exact readable text (failing text own)
    | interrupted now error running short failing =>
      intro text own
      cases own
      exact readable _ failing
    | idle | claimed | progressed | cancelled | cancelNoted | history => exact submitted.error

theorem Admits.submitted (admits : Admits codec s event row)
    (uses : Uses requests responses errors s event) : Submitted codec requests row := by
  obtain ⟨scope, id, request, now, _, _, _, rfl, rfl, _⟩ := admits.submission
  refine ⟨⟨request, uses, rfl, fun hash keyed => ?_⟩, nofun, nofun⟩
  cases key : request.idempotencyKey with
  | none => simp [newJob, key] at keyed
  | some text => simp [newJob, key]

theorem step_idempotent (faithful : Faithful codec requests responses errors)
    (uses : Uses requests responses errors s event) (orderly : Orderly s)
    (idempotent : Idempotent codec requests s) (step : Step codec s event t) :
    Idempotent codec requests t := by
  have change := step_change orderly step
  constructor
  · intro row' member
    obtain ⟨row, old, moved⟩ | admits := change.origin (fun row _ => .idle row) member
    · exact moved.submitted faithful uses (idempotent.submitted row old)
    · exact admits.submitted uses
  · intro left leftMember right rightMember scope hash leftKey rightKey
    -- Two rows of one key are two old ones, or one of them was added although the other existed.
    have apart : ∀ {new old : JobRow}, Admits codec s event new → old ∈ s.rows →
        old.authScope = new.authScope → old.submissionKeyHash = some hash →
          new.submissionKeyHash ≠ some hash := by
      intro new old admits member own keyed
      obtain ⟨_, _, _, _, _, _, _, _, _, _, room⟩ := admits.submission
      exact findSubmission_none room.unsubmitted member own keyed
    have orderly' := step_orderly orderly step
    apply orderly'.keyed.same leftMember rightMember
    rcases change.origin (fun row _ => .idle row) leftMember with ⟨old, before, moved⟩ | admits <;>
      obtain ⟨old', before', moved'⟩ | admits' := change.origin (fun row _ => .idle row) rightMember
    · have same := idempotent.unique old before old' before'
        (by rw [← moved.sameJob.authScope, ← moved'.sameJob.authScope, scope]) hash
        (moved.sameJob.submissionKeyHash ▸ leftKey) (moved'.sameJob.submissionKeyHash ▸ rightKey)
      rw [moved.id, moved'.id, same]
    · exact absurd rightKey (apart admits' before
        (by rw [← moved.sameJob.authScope, scope]) (moved.sameJob.submissionKeyHash ▸ leftKey))
    · exact absurd leftKey (apart admits before'
        (by rw [← moved'.sameJob.authScope, scope]) (moved'.sameJob.submissionKeyHash ▸ rightKey))
    · obtain ⟨_, _, _, _, _, _, _, rfl, rfl, _⟩ := admits.submission
      obtain ⟨_, _, _, _, _, _, _, own, rfl, _⟩ := admits'.submission
      cases own
      rfl

theorem run_idempotent (faithful : Faithful codec requests responses errors)
    (run : Run (Step codec) (Uses requests responses errors) .empty s) :
    Idempotent codec requests s := by
  refine run.invariant ?_ ?_
  · exact ⟨fun _ impossible => (nomatch impossible), fun _ impossible => nomatch impossible⟩
  · intro s event t run idempotent step uses
    exact step_idempotent faithful uses (run_orderly run) idempotent step

/-! ## Replays and conflicts -/

section Replays

variable {scope id key : String} {request : ImageRequest}
  {now maxPending maxDatabaseBytes newBytes : Nat}

/-- A submission under a key that has a row is a replay or a conflict. -/
theorem create_existing (faithful : Faithful codec requests responses errors)
    (idempotent : Idempotent codec requests s) (used : requests request)
    (keyed : request.idempotencyKey = some key)
    (checks : checkSubmission codec scope id request now = .ok newBytes) (member : row ∈ s.rows)
    (submitted : row.submittedAs codec scope key) :
    ∃ stored, codec.decodeRequest row.request = some stored ∧
      create codec scope id request now maxPending maxDatabaseBytes s.rows
        = (.ok (if canonicalRequest request = canonicalRequest stored then .replay row.id
            else .conflict), s.rows) := by
  obtain ⟨own, hash⟩ := submitted
  obtain ⟨a, usedBefore, text, fingerprint⟩ := (idempotent.submitted row member).request
  have found : findSubmission scope (some (codec.digest key)) s.rows = some row := by
    cases read : findSubmission scope (some (codec.digest key)) s.rows with
    | none => exact absurd rfl (findSubmission_none read member own hash)
    | some found =>
      obtain ⟨present, foundScope, foundHash⟩ := findSubmission_some read
      exact congrArg some (idempotent.unique found present row member (foundScope.trans own.symm)
        _ foundHash hash)
  have stored : codec.decodeRequest row.request = some (persistedRequest a) := by
    rw [text]
    exact faithful.requests a usedBefore
  refine ⟨persistedRequest a, stored, ?_⟩
  have canonical : canonicalRequest (persistedRequest a) = canonicalRequest a := rfl
  have keyHash : (newJob codec scope id request now).submissionKeyHash
      = some (codec.digest key) := by
    simp [newJob, keyed]
  have asked : (newJob codec scope id request now).requestFingerprint
      = some (durableRequestFingerprint codec request) := by
    simp [newJob, keyed]
  have ownScope : (newJob codec scope id request now).authScope = scope := rfl
  have same : durableRequestFingerprint codec request = durableRequestFingerprint codec a ↔
      canonicalRequest request = canonicalRequest a := by
    constructor
    · intro equal
      exact faithful.encodes _ _ used usedBefore (faithful.digests _ _ used usedBefore equal)
    · intro equal
      rw [durableRequestFingerprint, equal, durableRequestFingerprint]
  unfold create checked
  rw [checks]
  dsimp only
  unfold createTransaction
  rw [ownScope, keyHash, found]
  dsimp only
  rw [fingerprint _ hash, asked, canonical]
  by_cases equal : canonicalRequest request = canonicalRequest a
  · simp [same.mpr equal, equal]
  · have differs : durableRequestFingerprint codec request ≠ durableRequestFingerprint codec a :=
      fun fingerprints => equal (same.mp fingerprints)
    simp [differs, equal]

/-- A job that exists can be read. -/
theorem get_exists (faithful : Faithful codec requests responses errors) (orderly : Orderly s)
    (idempotent : Idempotent codec requests s) (member : row ∈ s.rows) :
    ∃ job, get codec row.authScope row.id s.rows = .ok job ∧ job.id = row.id := by
  have sane := orderly.sane row member
  have submitted := idempotent.submitted row member
  obtain ⟨a, used, text, _⟩ := submitted.request
  have found : s.rows.find? (fun other => other.id = row.id ∧ other.authScope = row.authScope)
      = some row := by
    cases read : s.rows.find? (fun other => other.id = row.id ∧ other.authScope = row.authScope) with
    | none =>
      have missing := List.find?_eq_none.mp read row member
      simp at missing
    | some other =>
      have matched := List.find?_some read
      simp only [decide_eq_true_eq] at matched
      exact congrArg some (orderly.keyed.same (List.mem_of_find?_eq_some read) member matched.1)
  have column : ∀ {α : Type} (decode : String → Option α) (message : String) (text : Option String),
      (∀ t, text = some t → (decode t).isSome = true) →
        ∃ value, decodeColumn decode message text = .ok value := by
    intro α decode message text readable
    cases text with
    | none => exact ⟨none, rfl⟩
    | some t =>
      obtain ⟨value, decodes⟩ := Option.isSome_iff_exists.mp (readable t rfl)
      exact ⟨some value, by simp [decodeColumn, decodes, decoded, bind, Except.bind]⟩
  obtain ⟨result, resultOk⟩ := column codec.decodeResponse "stored job result is invalid"
    row.response submitted.response
  obtain ⟨error, errorOk⟩ := column codec.decodeError "stored job error is invalid"
    row.error submitted.error
  have count : ¬row.partialImages ≥ 2 ^ 32 := Nat.not_le.mpr sane.counted
  have requestOk : decoded "stored job request is invalid" (codec.decodeRequest row.request)
      = .ok (persistedRequest a) := by
    rw [text, faithful.requests a used]
    rfl
  unfold get
  rw [sane.scope, found]
  refine ⟨_, Outcome.bind_ok.mpr ⟨(), rfl, Outcome.bind_ok.mpr ⟨(), (Outcome.failIf_ok ..).mpr count,
    Outcome.bind_ok.mpr ⟨_, requestOk, Outcome.bind_ok.mpr ⟨_, resultOk,
      Outcome.bind_ok.mpr ⟨_, errorOk, rfl⟩⟩⟩⟩⟩, rfl⟩

/-- In every reachable store a key has one row at most. While it has one, a submission
under the key replays it if the requests agree up to key and timeout, and conflicts
otherwise; the replay then reads the row for as long as it exists, and schedules
nothing. A submission that does not create a job leaves every row as it was. -/
theorem submissions_idempotent (faithful : Faithful codec requests responses errors)
    (run : Run (Step codec) (Uses requests responses errors) .empty s) :
    (∀ scope key, ∀ row ∈ s.rows, ∀ row' ∈ s.rows, row.submittedAs codec scope key →
      row'.submittedAs codec scope key → row = row') ∧
    (∀ scope id request now maxPending maxDatabaseBytes,
      (∀ other, (create codec scope id request now maxPending maxDatabaseBytes s.rows).1
        ≠ .ok (.created other)) →
      (create codec scope id request now maxPending maxDatabaseBytes s.rows).2 = s.rows) ∧
    ∀ scope key, ∀ row ∈ s.rows, row.submittedAs codec scope key →
      (∀ id request now maxPending maxDatabaseBytes newBytes, requests request →
        request.idempotencyKey = some key →
        checkSubmission codec scope id request now = .ok newBytes →
          ∃ stored, codec.decodeRequest row.request = some stored ∧
            create codec scope id request now maxPending maxDatabaseBytes s.rows
              = (.ok (if canonicalRequest request = canonicalRequest stored then .replay row.id
                  else .conflict), s.rows)) ∧
      ∀ t, Run (Step codec) (Uses requests responses errors) s t →
        (∃ row' ∈ t.rows, row'.id = row.id) → ∃ job, job.id = row.id ∧
          readSubmission codec scope t.rows (.replay row.id) = .ok ⟨job, false⟩ := by
  have orderly := run_orderly run
  have idempotent := run_idempotent faithful run
  refine ⟨?_, ?_, fun scope key row member submitted => ⟨?_, ?_⟩⟩
  · intro scope key row member row' member' ⟨own, hash⟩ ⟨own', hash'⟩
    exact idempotent.unique row member row' member' (own.trans own'.symm) _ hash hash'
  · intro scope id request now maxPending maxDatabaseBytes uncreated
    obtain ⟨same, _⟩ | ⟨_, _, _, created⟩ :=
      create_cases codec scope id request now maxPending maxDatabaseBytes s.rows
    · exact same
    · exact absurd (by rw [created]) (uncreated id)
  · intro id request now maxPending maxDatabaseBytes newBytes used keyed checks
    exact create_existing faithful idempotent used keyed checks member submitted
  · intro t later exists'
    obtain ⟨row', member', same⟩ := exists'
    have reached := run.trans later
    obtain ⟨job, read, own⟩ := get_exists faithful (run_orderly reached)
      (run_idempotent faithful reached) member'
    have ownScope : row'.authScope = scope :=
      (run_sameJob orderly later member member' same).authScope.trans submitted.1
    rw [ownScope, same] at read
    refine ⟨job, own.trans same, ?_⟩
    simp only [readSubmission, read]
    rfl

section Kite

theorem kite_faithful :
    Faithful kiteCodec (· = keyedKite) (fun _ => False) (fun _ => False) where
  digests := by
    intro a b left right _
    rw [left, right]
  encodes := by
    intro a b left right _
    rw [left, right]
  requests := by
    intro a used
    have persisted : persistedRequest keyedKite = kite := rfl
    rw [used, persisted]
    simp [kiteCodec]
  responses := fun _ impossible => impossible.elim
  errors := by
    rintro e (impossible | rfl | rfl)
    · exact impossible.elim
    · simp [kiteCodec]
    · simp only [kiteCodec]
      split <;> simp

/-- The waiting request is submitted again: its row is replayed. -/
theorem queued_kite_replays : create kiteCodec "operator" "job-2" keyedKite 11 1 (2 ^ 20)
      kiteQueued.rows = (.ok (.replay "job-1"), kiteQueued.rows) ∧
    ∃ job, job.id = "job-1" ∧
      readSubmission kiteCodec "operator" kiteQueued.rows (.replay "job-1") = .ok ⟨job, false⟩ := by
  have run : Run (Step kiteCodec) (Uses (· = keyedKite) (fun _ => False) (fun _ => False)) .empty
      kiteQueued := Run.start.next submits_kite rfl
  have submitted : (kiteRow "job-1" 10).submittedAs kiteCodec "operator" "key-1" :=
    ⟨rfl, by simp [kiteRow, kiteCodec]⟩
  obtain ⟨_, _, replays⟩ := submissions_idempotent kite_faithful run
  obtain ⟨again, reads⟩ := replays "operator" "key-1" _ (List.mem_singleton_self _) submitted
  obtain ⟨stored, decodes, created⟩ := again "job-2" keyedKite 11 1 (2 ^ 20) _ rfl rfl
    (kite_checks (by decide +kernel) (by decide))
  have same : stored = kite := by
    simpa [kiteRow, kiteCodec] using decodes.symm
  refine ⟨?_, reads kiteQueued .start ⟨_, List.mem_singleton_self _, rfl⟩⟩
  have canonical : canonicalRequest keyedKite = canonicalRequest kite := rfl
  rw [created, same, if_pos canonical]
  rfl

end Kite

end Replays

end ImagegenBridge.Jobs
