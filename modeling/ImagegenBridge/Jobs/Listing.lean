import ImagegenBridge.Jobs.Store

/-!
# The listing of the job store, `SqliteImageJobStore::list`

SQLite's `LIKE` with an escape character, the filter of a page and its order.
-/

namespace ImagegenBridge.Jobs

open Table Text

/-- Gallery visibility selection for durable job history. -/
inductive ImageJobVisibility where
  | active | hidden | all
  deriving DecidableEq, Repr

/-- Server-side durable history filters applied before cursor pagination. -/
structure ImageJobListFilter where
  before : Option (Nat × String) := none
  limit : Nat := 0
  visibility : ImageJobVisibility := .active
  status : Option ImageJobStatus := none
  favorite : Option Bool := none
  search : Option String := none
  deriving DecidableEq, Repr

/-- Lightweight job record used by list responses. -/
structure ImageJobSummary where
  id : String
  status : ImageJobStatus
  created : Nat
  updated : Nat
  started : Option Nat
  completed : Option Nat
  progress : Option (String × Nat)
  favorite : Bool
  deleted : Option Nat
  deriving DecidableEq, Repr

/-! ## Search -/

def literalLikePattern (value : String) : String :=
  .ofList ('%' :: value.toList.flatMap (fun c =>
    if c = '%' ∨ c = '_' ∨ c = '\\' then ['\\', c] else [c]) ++ ['%'])

/-- A pattern's character that takes one character of the text. -/
def takesOne (accepts : Char → Bool) (rest : List Char → Bool) : List Char → Bool
  | [] => false
  | c :: text => accepts c && rest text

/-- `LIKE` folds the letters of ASCII only. -/
def sameLetter (a b : Char) : Bool := a.toLower == b.toLower

/-- `text LIKE pattern ESCAPE '\'`. -/
def like : List Char → List Char → Bool
  | [], text => text.isEmpty
  | ['\\'], _ => false
  | '\\' :: c :: rest, text => takesOne (sameLetter c) (like rest) text
  | '%' :: rest, text => text.tails.any (like rest)
  | '_' :: rest, text => takesOne (fun _ => true) (like rest) text
  | c :: rest, text => takesOne (sameLetter c) (like rest) text

/-! ## Pages -/

namespace ImageJobListFilter

/-- The cursor's time as SQLite takes it. -/
def checkCursor (filter : ImageJobListFilter) : Outcome Unit :=
  match filter.before with
  | none => .ok ()
  | some (created, _) => (toI64 created).map fun _ => ()

/-- The `WHERE` clause. -/
def selects (filter : ImageJobListFilter) (scope : String) (pattern : Option String)
    (row : JobRow) : Bool :=
  decide (row.authScope = scope)
    && (match filter.visibility with
      | .active => row.deleted.isNone
      | .hidden => row.deleted.isSome
      | .all => true)
    && filter.status.all (fun status => decide (row.status = status))
    && filter.favorite.all (fun favorite => row.favorite == favorite)
    && pattern.all (fun pattern => like pattern.toList row.promptSearch.toList)
    && filter.before.all (fun (created, id) =>
      decide (row.created < created ∨ row.created = created ∧ row.id < id))

end ImageJobListFilter

def decodeSummary (row : JobRow) : Outcome ImageJobSummary := do
  Outcome.failIf (row.partialImages ≥ 2 ^ 32) (jobError "stored partial image count is invalid")
  .ok { row with progress := row.progressStage.map (·, row.partialImages) }

/-- The summary of a row whose count fits its type. -/
def summary (row : JobRow) : ImageJobSummary :=
  { row with progress := row.progressStage.map (·, row.partialImages) }

theorem decodeSummary_summary {row : JobRow} (counted : row.partialImages < 2 ^ 32) :
    decodeSummary row = .ok (summary row) := by
  have few : ¬row.partialImages ≥ 2 ^ 32 := Nat.not_le.mpr counted
  exact Outcome.bind_ok.mpr ⟨(), if_neg few, rfl⟩

theorem decodeAll_summaries {found : List JobRow} (counted : ∀ row ∈ found, row.partialImages < 2 ^ 32) :
    found.mapM decodeSummary = .ok (found.map summary) := by
  induction found with
  | nil => rfl
  | cons row rest ih =>
    obtain ⟨first, later⟩ := List.forall_mem_cons.mp counted
    rw [List.mapM_cons, decodeSummary_summary first, ih later]
    rfl

/-- The rows of a page, newest first. -/
def page (filter : ImageJobListFilter) (scope : String) (pattern : Option String)
    (rows : List JobRow) : List JobRow :=
  ((rows.filter (filter.selects scope pattern)).insertionSort newerFirst).take
    (min filter.limit i64Max)

theorem newerFirst_total (a b : JobRow) : newerFirst a b ∨ newerFirst b a := by
  unfold newerFirst olderFirst
  obtain le | ge := String.le_total a.id b.id
  · by_cases older : b.created < a.created
    · exact .inl (.inl older)
    · by_cases same : a.created = b.created
      · exact .inr (.inr ⟨same, le⟩)
      · exact .inr (.inl (by omega))
  · by_cases older : b.created < a.created
    · exact .inl (.inl older)
    · by_cases same : a.created = b.created
      · exact .inl (.inr ⟨same.symm, ge⟩)
      · exact .inr (.inl (by omega))

theorem newerFirst_trans {a b c : JobRow} (first : newerFirst a b) (second : newerFirst b c) :
    newerFirst a c := by
  unfold newerFirst olderFirst at first second ⊢
  obtain earlier | ⟨same, le⟩ := first <;> obtain later | ⟨same', le'⟩ := second
  · exact .inl (by omega)
  · exact .inl (by omega)
  · exact .inl (by omega)
  · exact .inr ⟨by omega, String.le_trans le' le⟩

instance : Std.Total newerFirst := ⟨newerFirst_total⟩

instance : IsTrans JobRow newerFirst := ⟨fun _ _ _ => newerFirst_trans⟩

/-- Rows of one time are ordered by their identities. -/
theorem newerFirst_antisymm {a b : JobRow} (below : newerFirst a b) (above : newerFirst b a) :
    a.id = b.id := by
  unfold newerFirst olderFirst at below above
  obtain earlier | ⟨_, le⟩ := below <;> obtain later | ⟨_, ge⟩ := above
  · omega
  · omega
  · omega
  · exact String.le_antisymm ge le

/-- A selection is sorted like the rows it is made from. -/
theorem sort_filter {rows : List JobRow} (keyed : Table.Keyed JobRow.id rows)
    (chosen : JobRow → Bool) :
    (rows.filter chosen).insertionSort newerFirst =
      (rows.insertionSort newerFirst).filter chosen := by
  apply List.Perm.eq_of_pairwise _ (List.pairwise_insertionSort ..)
    ((List.pairwise_insertionSort ..).sublist List.filter_sublist)
  · exact (List.perm_insertionSort ..).trans ((List.perm_insertionSort ..).symm.filter _)
  · intro a b at_a at_b below above
    have first := List.mem_of_mem_filter ((List.mem_insertionSort _).mp at_a)
    have second := (List.mem_insertionSort _).mp (List.mem_of_mem_filter at_b)
    exact keyed.same first second (newerFirst_antisymm below above)

/-- Lists newest-first summaries using a stable `(created,id)` cursor. -/
def list (codec : Codec) (scope : String) (filter : ImageJobListFilter) (rows : List JobRow) :
    Outcome (List ImageJobSummary) := do
  validateAuthScope scope
  filter.checkCursor
  let pattern := filter.search.map fun value => literalLikePattern (codec.toLowercase value)
  (page filter scope pattern rows).mapM decodeSummary

end ImagegenBridge.Jobs
