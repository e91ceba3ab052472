import ImagegenBridge.Jobs.Listing
import ImagegenBridge.Jobs.StoreSteps
import ImagegenBridge.Lib.Isolation

/-!
# Isolation of authorization scopes

A job is addressed by its scope and its identity. Every statement of a caller carries
both, so a caller's calls neither read nor change the rows of another scope.
-/

namespace ImagegenBridge.Jobs

open Isolation Table Text

/-- `image_jobs` with its primary key. -/
structure JobTable where
  rows : List JobRow
  keyed : Keyed JobRow.id rows

/-- The rows a scope owns. -/
def scopeRows (scope : String) : List JobRow → Set JobRow := part (·.authScope = scope)

/-- The read that follows a statement. -/
def thenGet (codec : Codec) (scope id : String) :
    Outcome Unit × List JobRow → Outcome ImageJob × List JobRow
  | (.error e, rows) => (.error e, rows)
  | (.ok (), rows) => (get codec scope id rows, rows)

/-- `request_cancel`: its transaction and the read that follows. -/
def cancelJob (codec : Codec) (scope id : String) (now : Nat) (rows : List JobRow) :
    Outcome ImageJob × List JobRow :=
  thenGet codec scope id (requestCancel scope id now rows)

/-- `update_history`: its read, its statement and the read that follows. -/
def updateHistory (codec : Codec) (request : HistoryUpdate) (rows : List JobRow) :
    Outcome ImageJob × List JobRow :=
  checked (readHistory codec request rows) rows fun update =>
    thenGet codec request.scope request.id (writeHistory update rows)

/-- A call on the store under some scope. -/
inductive StoreCall where
  | get (id : String)
  | list (filter : ImageJobListFilter)
  | claim (id : String) (now : Nat)
  | progress (id stage : String) (partialImages now : Nat)
  | succeed (id : String) (response : ImageResponse) (now : Nat)
  | fail (id : String) (status : ImageJobStatus) (error : SuggestedError) (now : Nat)
  | requestCancel (id : String) (now : Nat)
  | updateHistory (id : String) (favorite deleted : Option Bool) (now : Nat)

inductive StoreAnswer where
  | job (answer : Outcome ImageJob)
  | jobs (answer : Outcome (List ImageJobSummary))
  | claimed (answer : Outcome Bool)
  | done (answer : Outcome Unit)

/-- The job a call names. -/
def StoreCall.job : StoreCall → Option String
  | .list _ => none
  | .get id | .claim id _ | .progress id .. | .succeed id .. | .fail id .. | .requestCancel id _
  | .updateHistory id .. => some id

def answered {α : Type} (wrap : α → StoreAnswer) (result : α × List JobRow) :
    StoreAnswer × List JobRow :=
  (wrap result.1, result.2)

def StoreCall.run (codec : Codec) (scope : String) (call : StoreCall) (rows : List JobRow) :
    StoreAnswer × List JobRow :=
  match call with
  | .get id => (.job (Jobs.get codec scope id rows), rows)
  | .list filter => (.jobs (Jobs.list codec scope filter rows), rows)
  | .claim id now => answered .claimed (Jobs.claim scope id now rows)
  | .progress id stage partialImages now =>
    answered .done (Jobs.progress scope id stage partialImages now rows)
  | .succeed id response now => answered .done (Jobs.succeed codec scope id response now rows)
  | .fail id status error now => answered .done (Jobs.fail scope id status error now rows)
  | .requestCancel id now => answered .job (cancelJob codec scope id now rows)
  | .updateHistory id favorite deleted now =>
    answered .job (Jobs.updateHistory codec ⟨scope, id, favorite, deleted, now⟩ rows)

/-- The calls of any scopes in order. -/
def runCalls (codec : Codec) : List (String × StoreCall) → List JobRow →
    List (String × StoreAnswer) × List JobRow :=
  run (StoreCall.run codec)

/-- The calls of one scope. -/
def callsOf (scope : String) (calls : List StoreCall) : List (String × StoreCall) :=
  calls.map (scope, ·)

/-! ## Statements of a scope -/

/-- An operation that answers by a scope's rows and changes no others. -/
abbrev Scoped {α : Type} (scope : String) (act : List JobRow → α × List JobRow) : Prop :=
  Confined (Keyed JobRow.id) scopeRows scope act

section

variable {codec : Codec} {scope id : String} {now : Nat} {rows rows' : List JobRow}
  {chosen : JobRow → Bool} {set : JobRow → JobRow}

theorem keyed_nodup (keyed : Keyed JobRow.id rows) : rows.Nodup := .of_map _ keyed

/-- A statement on one job of the scope that reports the number of its rows. -/
theorem scoped_update {α : Type} (answer : Nat → α)
    (own : ∀ row, chosen row = true → row.isJob scope id = true)
    (keeps : ∀ row, (set row).id = row.id ∧ (set row).authScope = row.authScope) :
    Scoped scope fun rows => (answer (changed chosen rows), update chosen set rows) where
  stays keyed := keyed.update fun row _ => (keeps row).1
  answers keyed keyed' views :=
    congrArg answer (changed_part (keyed_nodup keyed) (keyed_nodup keyed') views fun row chooses =>
      (isJob_iff.mp (own row chooses)).2)
  own _ _ views := by
    have moves : ∀ row, chosen row = true →
        ((set row).authScope = scope ↔ row.authScope = scope) := fun row _ => by rw [(keeps row).2]
    rw [scopeRows, part_update moves, part_update moves]
    exact congrArg _ views
  others := by
    intro other _ _ apart
    apply part_untouched
    · intro row _
      rw [(keeps row).2]
    · intro row chooses belongs
      exact apart (belongs.symm.trans (isJob_iff.mp (own row chooses)).2)

theorem scoped_checked {α β : Type} {check : Outcome α} {transaction : α → List JobRow → Outcome β × List JobRow}
    (each : ∀ a, Scoped scope (transaction a)) :
    Scoped scope fun rows => checked check rows fun a => transaction a rows := by
  cases check with
  | error e => exact confined_answer _
  | ok a => exact each a

theorem find_same (keyed : Keyed JobRow.id rows) (keyed' : Keyed JobRow.id rows')
    (views : scopeRows scope rows = scopeRows scope rows') :
    rows.find? (·.isJob scope id) = rows'.find? (·.isJob scope id) := by
  apply keyed.find_part keyed' views
  · intro row own
    exact (isJob_iff.mp own).2
  · intro row own
    exact (isJob_iff.mp own).1

theorem get_same (keyed : Keyed JobRow.id rows) (keyed' : Keyed JobRow.id rows')
    (views : scopeRows scope rows = scopeRows scope rows') :
    get codec scope id rows = get codec scope id rows' := by
  have same : rows.find? (·.isJob scope id) = rows'.find? (·.isJob scope id) :=
    find_same keyed keyed' views
  simp only [JobRow.isJob, ← Bool.decide_and] at same
  unfold get
  rw [same]

theorem thenGet_scoped {act : List JobRow → Outcome Unit × List JobRow} (statement : Scoped scope act) :
    Scoped scope fun rows => thenGet codec scope id (act rows) := by
  have reads : ∀ answer, Scoped scope fun rows => thenGet codec scope id (answer, rows) := by
    intro answer
    cases answer with
    | error e => exact confined_answer _
    | ok => exact confined_read get_same
  exact statement.bind reads

theorem claim_scoped : Scoped scope (claim scope id now) := by
  apply scoped_checked
  intro now
  apply scoped_update fun count => Except.ok (count == 1)
  · intro row chooses
    exact isJob_iff.mpr (claimable_iff.mp chooses).1
  · intro row
    exact ⟨rfl, rfl⟩

theorem progress_scoped {stage : String} {partialImages : Nat} :
    Scoped scope (progress scope id stage partialImages now) := by
  apply scoped_checked
  intro now
  apply scoped_update fun _ => Except.ok ()
  · intro row chooses
    exact isJob_iff.mpr (runningJob_iff.mp chooses).1
  · intro row
    exact ⟨rfl, rfl⟩

theorem finish_scoped {status : ImageJobStatus} {response error : Option String} :
    Scoped scope (finish scope id status response error now) := by
  apply scoped_checked
  intro now
  apply scoped_update fun count => Outcome.failIf (count ≠ 1) _
  · intro row chooses
    exact isJob_iff.mpr (runningJob_iff.mp chooses).1
  · intro row
    exact ⟨rfl, rfl⟩

theorem succeed_scoped {response : ImageResponse} :
    Scoped scope (succeed codec scope id response now) := by
  unfold succeed
  by_cases long : len (codec.encodeResponse response) > activeResultReserveBytes
  · simp only [if_pos long]
    exact confined_answer _
  · simp only [if_neg long]
    exact finish_scoped

theorem fail_scoped {status : ImageJobStatus} {error : SuggestedError} :
    Scoped scope (fail scope id status error now) := by
  unfold fail
  by_cases refused : failureStatus status = false
  · simp only [if_pos refused]
    exact confined_answer _
  · simp only [if_neg refused]
    exact finish_scoped

theorem requestCancel_scoped : Scoped scope (requestCancel scope id now) := by
  apply scoped_checked
  intro now
  apply confined_by (fun rows => (rows.find? (·.isJob scope id)).map JobRow.status)
  · intro rows rows' keyed keyed' views
    rw [find_same keyed keyed' views]
  intro rows _
  dsimp only
  cases (rows.find? (·.isJob scope id)).map JobRow.status with
  | none =>
    refine ⟨_, confined_answer (.error notFound), ?_⟩
    intro rows _ read
    rw [read]
  | some status =>
    cases status with
    | queued =>
      refine ⟨?cancels, ?cancelled, ?reads⟩
      case reads =>
        intro rows _ read
        rw [read]
      apply scoped_update fun _ => Except.ok ()
      · exact fun _ own => own
      · exact fun _ => ⟨rfl, rfl⟩
    | running =>
      refine ⟨?notes, ?noted, ?reads⟩
      case reads =>
        intro rows _ read
        rw [read]
      apply scoped_update fun _ => Except.ok ()
      · exact fun _ own => own
      · exact fun _ => ⟨rfl, rfl⟩
    | succeeded | failed | cancelled | interrupted =>
      refine ⟨_, confined_answer (.ok ()), ?_⟩
      intro rows _ read
      rw [read]

theorem writeHistory_scoped {update : HistoryUpdate} :
    Scoped update.scope (writeHistory update) := by
  apply scoped_update fun count => Outcome.failIf (count ≠ 1) _
  · exact fun _ own => own
  · exact fun _ => ⟨rfl, rfl⟩

theorem readHistory_scope {request update : HistoryUpdate}
    (read : readHistory codec request rows = .ok update) :
    update.scope = request.scope := by
  unfold readHistory at read
  obtain ⟨_, _, read⟩ := Outcome.bind_ok.mp read
  obtain ⟨_, _, read⟩ := Outcome.bind_ok.mp read
  obtain ⟨_, _, read⟩ := Outcome.bind_ok.mp read
  obtain ⟨_, _, read⟩ := Outcome.bind_ok.mp read
  obtain ⟨_, _, read⟩ := Outcome.bind_ok.mp read
  cases read
  rfl

theorem updateHistory_scoped {favorite deleted : Option Bool} :
    Scoped scope (updateHistory codec ⟨scope, id, favorite, deleted, now⟩) := by
  apply confined_by (readHistory codec ⟨scope, id, favorite, deleted, now⟩)
  · intro rows rows' keyed keyed' views
    unfold readHistory
    rw [get_same keyed keyed' views]
  intro rows _
  cases result : readHistory codec ⟨scope, id, favorite, deleted, now⟩ rows with
  | error e =>
    refine ⟨_, confined_answer (.error e), ?_⟩
    intro rows _ read
    rw [updateHistory, read]
    rfl
  | ok update =>
    have named : update.scope = scope := readHistory_scope result
    have statement : Scoped scope (writeHistory update) := named ▸ writeHistory_scoped
    refine ⟨fun rows => thenGet codec scope id (writeHistory update rows),
      thenGet_scoped statement, ?_⟩
    intro rows _ read
    rw [updateHistory, read]
    rfl

/-! ## Pages -/

theorem page_same {filter : ImageJobListFilter} {pattern : Option String}
    (keyed : Keyed JobRow.id rows) (keyed' : Keyed JobRow.id rows')
    (views : scopeRows scope rows = scopeRows scope rows') :
    page filter scope pattern rows = page filter scope pattern rows' := by
  have selected : (rows.filter (filter.selects scope pattern)).Perm
      (rows'.filter (filter.selects scope pattern)) := by
    apply filter_perm (keyed_nodup keyed) (keyed_nodup keyed') views
    intro row chooses
    simp only [ImageJobListFilter.selects, Bool.and_eq_true, decide_eq_true_eq] at chooses
    exact chooses.1.1.1.1.1
  have sorted : (rows.filter (filter.selects scope pattern)).insertionSort newerFirst =
      (rows'.filter (filter.selects scope pattern)).insertionSort newerFirst := by
    apply List.Perm.eq_of_pairwise _ (List.pairwise_insertionSort ..)
      (List.pairwise_insertionSort ..)
    · exact (List.perm_insertionSort ..).trans (selected.trans (List.perm_insertionSort ..).symm)
    · intro a b at_a at_b below above
      have member := List.mem_of_mem_filter ((List.mem_insertionSort _).mp at_a)
      have member' := List.mem_of_mem_filter (selected.mem_iff.mpr ((List.mem_insertionSort _).mp at_b))
      exact keyed.same member member' (newerFirst_antisymm below above)
  rw [page, page, sorted]

theorem list_scoped {filter : ImageJobListFilter} :
    Scoped scope fun rows => (list codec scope filter rows, rows) := by
  apply confined_read
  intro rows rows' keyed keyed' views
  unfold list
  simp only [page_same keyed keyed' views]

/-- Every call of a scope is confined to it. -/
theorem call_scoped {call : StoreCall} : Scoped scope (call.run codec scope) := by
  cases call with
  | get id => exact (confined_read get_same).map StoreAnswer.job
  | list filter => exact list_scoped.map StoreAnswer.jobs
  | claim id now => exact claim_scoped.map StoreAnswer.claimed
  | progress id stage partialImages now => exact progress_scoped.map StoreAnswer.done
  | succeed id response now => exact succeed_scoped.map StoreAnswer.done
  | fail id status error now => exact fail_scoped.map StoreAnswer.done
  | requestCancel id now => exact (thenGet_scoped requestCancel_scoped).map StoreAnswer.job
  | updateHistory id favorite deleted now => exact updateHistory_scoped.map StoreAnswer.job

/-- Whatever rows the other scopes hold and whatever they call meanwhile, a scope's calls
answer by its own rows, leave the rows of the others, and take a job of another scope
for a missing one. -/
theorem scopes_isolated {other : String} {table table' : JobTable} (apart : other ≠ scope)
    (same : scopeRows scope table.rows = scopeRows scope table'.rows) (calls : List StoreCall) :
    scopeRows other (runCalls codec (callsOf scope calls) table.rows).2 =
      scopeRows other table.rows ∧
    (runCalls codec (callsOf scope calls) table.rows).1 =
      (runCalls codec (callsOf scope calls) table'.rows).1 ∧
    (∀ mixed, only scope mixed = callsOf scope calls →
      only scope (runCalls codec mixed table.rows).1 =
        (runCalls codec (callsOf scope calls) table'.rows).1) ∧
    ∀ call : StoreCall, ∀ id, call.job = some id →
      (∀ row ∈ table.rows, row.isJob scope id = false) →
      (call.run codec scope table.rows).1 =
        (call.run codec scope (table.rows.filter (·.id ≠ id))).1 := by
  have confined : ∀ scope call, Scoped scope (StoreCall.run codec scope call) :=
    fun _ _ => call_scoped
  refine ⟨?_, ?_, ?_, ?_⟩
  · apply run_frame confined table.keyed
    intro entry member
    obtain ⟨call, _, rfl⟩ := List.mem_map.mp member
    exact apart.symm
  · apply run_own confined table.keyed table'.keyed same
    apply List.filter_eq_self.mpr
    intro entry member
    obtain ⟨call, _, rfl⟩ := List.mem_map.mp member
    exact decide_eq_true rfl
  · intro mixed own
    rw [← own]
    exact (run_purge confined table.keyed table'.keyed same).1
  · intro call id _ foreign
    apply (confined scope call).answers table.keyed
    · exact (List.filter_sublist.map JobRow.id).nodup table.keyed
    · ext row
      simp only [scopeRows, part, List.mem_filter, decide_eq_true_eq, Set.mem_ofPred_eq]
      constructor
      · rintro ⟨member, belongs⟩
        refine ⟨⟨member, fun named => ?_⟩, belongs⟩
        have own := isJob_iff.mpr ⟨named, belongs⟩
        rw [foreign row member] at own
        cases own
      · rintro ⟨⟨member, _⟩, belongs⟩
        exact ⟨member, belongs⟩

end

def ownedKite : JobTable := ⟨[kiteRow "job-1" 10], List.nodup_singleton _⟩

def noJobs : JobTable := ⟨[], List.nodup_nil⟩

/-- Another scope's job is a missing one to read and to cancel. -/
theorem kite_invisible :
    (runCalls kiteCodec (callsOf "visitor" [.get "job-1", .requestCancel "job-1" 31])
      ownedKite.rows).1 =
    (runCalls kiteCodec (callsOf "visitor" [.get "job-1", .requestCancel "job-1" 31])
      noJobs.rows).1 := by
  have apart : "operator" ≠ "visitor" := by decide
  have same : scopeRows "visitor" ownedKite.rows = scopeRows "visitor" noJobs.rows := by
    ext row
    constructor
    · rintro ⟨member, belongs⟩
      cases List.mem_singleton.mp member
      exact absurd belongs apart
    · rintro ⟨member, _⟩
      cases member
  exact (scopes_isolated apart same _).2.1

end ImagegenBridge.Jobs
