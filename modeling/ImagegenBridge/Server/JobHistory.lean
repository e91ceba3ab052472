import ImagegenBridge.Jobs.Lifecycle
import ImagegenBridge.Lib.Base64
import ImagegenBridge.Lib.Paging
import ImagegenBridge.Lib.Records
import ImagegenBridge.Server.JobPages

/-!
# The whole job history

A cursor that a page hands out is read back, and the pages that follow one another show every
wanted job once, newest first.
-/

namespace ImagegenBridge.Server

open Text Jobs Decimal Paging Table
open Records (bind_ok)
open Transition (Run Unrestricted)

/-! ## Cursors -/

theorem ascii_len {chars : List Char} (ascii : ∀ c ∈ chars, c.utf8Size = 1) :
    len (String.ofList chars) = chars.length := by
  induction chars with
  | nil => rfl
  | cons c rest ih =>
    obtain ⟨first, later⟩ := List.forall_mem_cons.mp ascii
    rw [String.ofList_cons, len_append, ih later, List.length_cons]
    simp only [len, String.utf8ByteSize_singleton, first]
    omega

theorem small_ascii {c : Char} (small : c.toNat < 128) : c.utf8Size = 1 := by
  have bound : c.val ≤ 127 := by
    rw [UInt32.le_iff_toNat_le]
    exact Nat.le_of_lt_succ small
  exact if_pos bound

theorem digit_ascii {c : Char} (digit : c.isDigit = true) : c.utf8Size = 1 := by
  have range := digit_range digit
  have nine : '9'.toNat = 57 := rfl
  exact small_ascii (by omega)

theorem hyphenated_ascii {id : String} (printed : hyphenated id = true) :
    id.toList.length = 36 ∧ ∀ c ∈ id.toList, c.utf8Size = 1 := by
  simp only [hyphenated, Bool.and_eq_true, beq_iff_eq, List.all_eq_true] at printed
  obtain ⟨long, each⟩ := printed
  refine ⟨long, fun c among => ?_⟩
  obtain ⟨place, there⟩ := List.mem_iff_getElem?.mp among
  have fits := each (c, place) (List.mem_zipIdx_iff_getElem?.mpr there)
  simp only [hyphenatedAt] at fits
  split at fits
  · rw [beq_iff_eq.mp fits]
    rfl
  · simp only [isLowerHex, Bool.or_eq_true, Bool.and_eq_true, decide_eq_true_eq] at fits
    obtain digit | ⟨_, below⟩ := fits
    · exact digit_ascii digit
    · have letter : c.toNat ≤ 'f'.toNat := below
      have last : 'f'.toNat = 102 := rfl
      exact small_ascii (by omega)

theorem fromUtf8_utf8 (text : String) : fromUtf8 (utf8 text) = some text := by
  have valid : ByteArray.IsValidUTF8 ⟨(utf8 text).toArray⟩ := text.isValidUTF8
  exact dif_pos valid

theorem cursor_text (created : Nat) (id : String) :
    (toString created ++ ":" ++ id).toList = Nat.toDigits 10 created ++ ':' :: id.toList := by
  simp

theorem printed_digits (n : Nat) : Digits (Nat.toDigits 10 n) := fun _ among =>
  Nat.isDigit_of_mem_toDigits (by omega) (by omega) among

theorem parseU64_print {n : Nat} (fits : n < 2 ^ 64) : parseU64 (Nat.toDigits 10 n) = some n := by
  have plain : unsigned (Nat.toDigits 10 n) = Nat.toDigits 10 n := by
    apply unsigned_of_head
    intro plus
    exact absurd (printed_digits n '+' (List.mem_of_mem_head? plus)) (by decide)
  rw [parseU64, plain, if_neg Nat.toDigits_ne_nil, accumulate_iff (by decide)]
  exact ⟨printed_digits n, value_toDigits n, fits⟩

theorem refuseIf_ok {ε : Type} {condition : Bool} {error : ε} :
    refuseIf condition error = .ok () ↔ condition = false := by
  cases condition <;> simp [refuseIf]

theorem okOr_ok {ε α : Type} {error : ε} {found : Option α} {value : α} :
    okOr error found = .ok value ↔ found = some value := by
  cases found <;> simp [okOr]

variable {cursors : CursorText}

/-- A cursor for a short text is read back. -/
theorem decodeCursor_encode {value : String} (filled : 1 ≤ len value) (short : len value ≤ 64) :
    decodeCursor cursors (encodeCursor cursors value) = .ok value := by
  have coded : len (encodeCursor cursors value) = (4 * len value + 2) / 3 :=
    cursors.length (utf8 value)
  have accepted : ((encodeCursor cursors value).isEmpty ||
      decide (len (encodeCursor cursors value) > maxCursorBytes)) = false := by
    rw [Bool.or_eq_false_iff, decide_eq_false_iff_not, ← Bool.not_eq_true,
      String.isEmpty_iff_utf8ByteSize_eq_zero]
    change ¬len (encodeCursor cursors value) = 0 ∧ _
    rw [coded, maxCursorBytes]
    omega
  have shown : (value.isEmpty || decide (len value > 64)) = false := by
    rw [Bool.or_eq_false_iff, decide_eq_false_iff_not, ← Bool.not_eq_true,
      String.isEmpty_iff_utf8ByteSize_eq_zero]
    change ¬len value = 0 ∧ _
    omega
  have bytes : cursors.decode (encodeCursor cursors value) = some (utf8 value) := cursors.restores _
  refine bind_ok.mpr ⟨(), refuseIf_ok.mpr accepted, bind_ok.mpr ⟨_, okOr_ok.mpr bytes, ?_⟩⟩
  exact bind_ok.mpr ⟨_, okOr_ok.mpr (fromUtf8_utf8 _), bind_ok.mpr ⟨(), refuseIf_ok.mpr shown, rfl⟩⟩

/-- A cursor that was handed out is accepted, and means the row it was made of. -/
theorem decodeJobCursor_encode {created : Nat} {id : String} (time : created ≤ i64Max)
    (printed : hyphenated id = true) :
    decodeJobCursor cursors (encodeJobCursor cursors created id) = .ok (created, id) := by
  obtain ⟨long, ascii⟩ := hyphenated_ascii printed
  have digits : (Nat.toDigits 10 created).length ≤ 19 := by
    rw [Nat.length_toDigits_le_iff (by omega) (by omega)]
    have most : i64Max < 10 ^ 19 := by decide
    omega
  have text : len (toString created ++ ":" ++ id) = (Nat.toDigits 10 created).length + 37 := by
    have whole : toString created ++ ":" ++ id =
        String.ofList (Nat.toDigits 10 created ++ ':' :: id.toList) := by
      rw [← cursor_text, String.ofList_toList]
    rw [whole, ascii_len, List.length_append, List.length_cons, long]
    refine List.forall_mem_append.mpr ⟨fun c among => digit_ascii (printed_digits created c among),
      List.forall_mem_cons.mpr ⟨rfl, ascii⟩⟩
  have decoded : decodeCursor cursors (encodeJobCursor cursors created id) =
      .ok (toString created ++ ":" ++ id) := by
    apply decodeCursor_encode <;> omega
  have split : splitOnce ':' (toString created ++ ":" ++ id).toList =
      some (Nat.toDigits 10 created, id.toList) := by
    refine splitOnce_iff.mpr ⟨cursor_text created id, fun among => ?_⟩
    exact absurd (printed_digits created ':' among) (by decide)
  have parsed : parseU64 (Nat.toDigits 10 created) = some created := by
    apply parseU64_print
    have most : i64Max < 2 ^ 64 := by decide
    omega
  have known : (!cursors.parseUuid (String.ofList id.toList)) = false := by
    rw [String.ofList_toList, cursors.printed id printed]
    rfl
  have read : (decodeCursor cursors (encodeJobCursor cursors created id)).mapError
      (fun _ => jobCursorMalformed) = .ok (toString created ++ ":" ++ id) := by
    rw [decoded]
    rfl
  refine bind_ok.mpr ⟨_, read, bind_ok.mpr ⟨_, okOr_ok.mpr split, ?_⟩⟩
  refine bind_ok.mpr ⟨_, okOr_ok.mpr parsed, bind_ok.mpr ⟨(), refuseIf_ok.mpr known, ?_⟩⟩
  rw [String.ofList_toList]

/-! ## What a query wants -/

/-- What a row must be for a query. -/
structure Wanted (codec : Codec) (scope : String) (query : JobQuery) (row : JobRow) : Prop where
  scope : row.authScope = scope
  visible : match query.gallery with
    | .active => row.deleted = none
    | .hidden => row.deleted ≠ none
    | .all => True
  status : ∀ status, query.status = some status → row.status = status
  favorite : ∀ favorite, query.favorite = some favorite → row.favorite = favorite
  search : ∀ text, query.searchText = some text →
    like (literalLikePattern (codec.toLowercase text)).toList row.promptSearch.toList = true

/-- A query that the endpoint does not refuse, before its cursor is read. -/
structure Formed (query : JobQuery) : Prop where
  positive : 0 < query.limit
  few : query.limit ≤ 100
  alone : query.includeDeleted = true → query.visibility = none
  short : ∀ text, query.searchText = some text → len text ≤ 512 ∧ hasControl text = false

/-- The strict order of the history. -/
def comesBefore (a b : JobRow) : Prop :=
  b.created < a.created ∨ b.created = a.created ∧ b.id < a.id

instance : DecidableRel comesBefore := fun _ _ => inferInstanceAs (Decidable (_ ∨ _))

theorem comesBefore_irrefl (a : JobRow) : ¬comesBefore a a := by
  rintro (earlier | ⟨_, less⟩)
  · exact Nat.lt_irrefl _ earlier
  · exact String.lt_irrefl _ less

theorem comesBefore_asymm (a b : JobRow) (first : comesBefore a b) : ¬comesBefore b a := by
  intro second
  obtain earlier | ⟨same, less⟩ := first <;> obtain later | ⟨_, more⟩ := second
  · omega
  · omega
  · omega
  · exact String.lt_asymm less more

/-- The pattern of a query's search. -/
def patternOf (codec : Codec) (query : JobQuery) : Option String :=
  query.searchText.map fun text => literalLikePattern (codec.toLowercase text)

variable {codec : Codec} {scope : String} {query : JobQuery} {rows : List JobRow} {row : JobRow}

theorem selects_wanted : (query.filter none).selects scope (patternOf codec query) row = true ↔
    Wanted codec scope query row := by
  have option {α : Type} (wish : Option α) (meets : α → Bool) :
      wish.all meets = true ↔ ∀ value, wish = some value → meets value = true := by
    cases wish <;> simp
  simp only [ImageJobListFilter.selects, JobQuery.filter, patternOf, Bool.and_eq_true, option,
    Option.all_map, Option.all_none, decide_eq_true_eq, beq_iff_eq, and_true]
  constructor
  · rintro ⟨⟨⟨⟨own, visible⟩, status⟩, favorite⟩, search⟩
    refine ⟨own, ?_, status, favorite, search⟩
    cases gallery : query.gallery <;> simp [gallery] at visible ⊢
    · exact visible
    · exact Option.isSome_iff_ne_none.mp visible
  · intro wanted
    refine ⟨⟨⟨⟨wanted.scope, ?_⟩, wanted.status⟩, wanted.favorite⟩, wanted.search⟩
    have visible := wanted.visible
    cases gallery : query.gallery <;> simp [gallery] at visible ⊢
    · exact visible
    · exact Option.isSome_iff_ne_none.mpr visible

/-- A cursor adds one condition. -/
theorem selects_before (x : JobRow) :
    (query.filter (some (x.created, x.id))).selects scope (patternOf codec query) row =
      (decide (comesBefore x row) &&
        (query.filter none).selects scope (patternOf codec query) row) := by
  simp only [ImageJobListFilter.selects, JobQuery.filter, Option.all_some, Option.all_none,
    Bool.and_true]
  exact Bool.and_comm _ _

/-! ## The history as one list -/

/-- All wanted rows, newest first. -/
def history (codec : Codec) (scope : String) (query : JobQuery) (rows : List JobRow) : List JobRow :=
  (rows.filter ((query.filter none).selects scope (patternOf codec query))).insertionSort newerFirst

theorem mem_history : row ∈ history codec scope query rows ↔
    row ∈ rows ∧ Wanted codec scope query row := by
  rw [history, List.mem_insertionSort, List.mem_filter, selects_wanted]

theorem history_sorted (keyed : Keyed JobRow.id rows) :
    (history codec scope query rows).Pairwise comesBefore := by
  have sorted : (history codec scope query rows).Pairwise newerFirst := List.pairwise_insertionSort ..
  have distinct : ((history codec scope query rows).map JobRow.id).Nodup := by
    have perm := (List.perm_insertionSort newerFirst
      (rows.filter ((query.filter none).selects scope (patternOf codec query)))).map JobRow.id
    exact perm.nodup_iff.mpr (keyed.sublist (List.filter_sublist.map JobRow.id))
  refine sorted.imp₂ ?_ (List.pairwise_map.mp distinct)
  intro a b newer differ
  obtain earlier | ⟨same, le⟩ := newer
  · exact Or.inl earlier
  · refine Or.inr ⟨same, ?_⟩
    by_contra more
    exact differ (String.le_antisymm more le)

/-- The rows after a cursor, sorted, are the rest of the history. -/
theorem sort_after (keyed : Keyed JobRow.id rows) (x : JobRow) :
    (rows.filter ((query.filter (some (x.created, x.id))).selects scope
      (patternOf codec query))).insertionSort newerFirst =
      after comesBefore x (history codec scope query rows) := by
  have split : rows.filter ((query.filter (some (x.created, x.id))).selects scope
      (patternOf codec query)) =
      (rows.filter ((query.filter none).selects scope (patternOf codec query))).filter
        fun row => comesBefore x row := by
    rw [List.filter_filter]
    exact List.filter_congr fun row _ => selects_before x
  have selected : Keyed JobRow.id
      (rows.filter ((query.filter none).selects scope (patternOf codec query))) :=
    (List.filter_sublist.map JobRow.id).nodup keyed
  rw [split, after, history]
  exact sort_filter selected _

/-! ## Pages -/

/-- What the submissions of a job manager and the store's checks make of every row. -/
structure Submitted (row : JobRow) : Prop where
  time : row.created ≤ i64Max
  printed : hyphenated row.id = true
  counted : row.partialImages < 2 ^ 32

/-- The endpoint as a function of the cursor. -/
def fetch (cursors : CursorText) (codec : Codec) (scope : String) (query : JobQuery)
    (rows : List JobRow) (cursor : Option String) : Option (List ImageJobSummary × Option String) :=
  match listJobs cursors codec scope { query with cursor } (some rows) with
  | .ok page => some (page.items, page.nextCursor)
  | .error _ => none

/-- What remains of the history at a cursor that was handed out. -/
def Remains (cursors : CursorText) (codec : Codec) (scope : String) (query : JobQuery)
    (rows : List JobRow) (cursor : Option String) (items : List ImageJobSummary) : Prop :=
  ∃ shown, items = ((history codec scope query rows).drop shown).map summary ∧
    (cursor = none ∧ shown = 0 ∨
      ∃ x, ((history codec scope query rows).take shown).getLast? = some x ∧
        cursor = some (encodeJobCursor cursors x.created x.id))

/-- The store lists what remains at a cursor. -/
theorem list_remaining (owned : validateAuthScope scope = .ok ()) (formed : Formed query)
    (submitted : ∀ row ∈ rows, Submitted row) {before : Option (Nat × String)} {left : List JobRow}
    (time : ∀ created id, before = some (created, id) → created ≤ i64Max)
    (within : ∀ row ∈ left, row ∈ rows)
    (remaining : (rows.filter ((query.filter before).selects scope
      (patternOf codec query))).insertionSort newerFirst = left) :
    Jobs.list codec scope (query.filter before) rows =
      .ok ((left.take (query.limit + 1)).map summary) := by
  have checked : (query.filter before).checkCursor = .ok () := by
    cases before with
    | none => rfl
    | some cursor =>
      have stored : toI64 cursor.1 = .ok cursor.1 := if_pos (time cursor.1 cursor.2 rfl)
      simp only [ImageJobListFilter.checkCursor, JobQuery.filter, stored]
      rfl
  have bound : min (query.filter before).limit i64Max = query.limit + 1 := by
    have most : 101 ≤ i64Max := by decide
    have few := formed.few
    simp only [JobQuery.filter]
    omega
  have page : page (query.filter before) scope (patternOf codec query) rows =
      left.take (query.limit + 1) := by
    rw [Jobs.page, bound, remaining]
  refine bind_ok.mpr ⟨(), owned, bind_ok.mpr ⟨(), checked, ?_⟩⟩
  refine (congrArg (List.mapM decodeSummary) page).trans (decodeAll_summaries fun row among => ?_)
  exact (submitted row (within row (List.mem_of_mem_take among))).counted

/-- A cursor that was handed out leaves the rest of the history. -/
theorem remaining_rows (keyed : Keyed JobRow.id rows) (submitted : ∀ row ∈ rows, Submitted row)
    {cursor : Option String} {shown : Nat}
    (position : cursor = none ∧ shown = 0 ∨
      ∃ x, ((history codec scope query rows).take shown).getLast? = some x ∧
        cursor = some (encodeJobCursor cursors x.created x.id)) :
    ∃ before, decodeBefore cursors cursor = .ok before ∧
      (∀ created id, before = some (created, id) → created ≤ i64Max) ∧
      (rows.filter ((query.filter before).selects scope (patternOf codec query))).insertionSort
        newerFirst = (history codec scope query rows).drop shown := by
  obtain ⟨rfl, rfl⟩ | ⟨x, last, rfl⟩ := position
  · refine ⟨none, rfl, ?_, rfl⟩
    intro created id absent
    cases absent
  · have among := List.mem_of_mem_take (List.mem_of_getLast? last)
    have row := submitted x (mem_history.mp among).1
    refine ⟨some (x.created, x.id), ?_, ?_, ?_⟩
    · rw [decodeBefore, decodeJobCursor_encode row.time row.printed]
      rfl
    · intro created id same
      cases same
      exact row.time
    · rw [sort_after keyed x]
      exact after_take (history_sorted keyed) last comesBefore_irrefl comesBefore_asymm

theorem listJobs_page (formed : Formed query)
    {cursor : Option String} {before : Option (Nat × String)} {items : List ImageJobSummary}
    (decoded : decodeBefore cursors cursor = .ok before)
    (listed : Jobs.list codec scope (query.filter before) rows = .ok items) :
    listJobs cursors codec scope { query with cursor } (some rows) =
      .ok (pageOf cursors query.limit items) := by
  have limits : (query.limit == 0 || decide (query.limit > maxPageSize)) = false := by
    have positive := formed.positive
    have few := formed.few
    rw [Bool.or_eq_false_iff, beq_eq_false_iff_ne, decide_eq_false_iff_not, maxPageSize]
    omega
  have alone : (query.includeDeleted && query.visibility.isSome) = false := by
    cases deleted : query.includeDeleted with
    | false => rfl
    | true => rw [formed.alone deleted]; rfl
  have short : (query.searchText.any fun value =>
      decide (len value > maxJobSearchBytes) || hasControl value) = false := by
    cases search : query.searchText with
    | none => rfl
    | some text =>
      obtain ⟨few, plain⟩ := formed.short text search
      rw [Option.any_some, plain, Bool.or_false, decide_eq_false_iff_not, maxJobSearchBytes]
      omega
  refine bind_ok.mpr ⟨(), refuseIf_ok.mpr limits, bind_ok.mpr ⟨(), refuseIf_ok.mpr alone, ?_⟩⟩
  refine bind_ok.mpr ⟨(), refuseIf_ok.mpr short, bind_ok.mpr ⟨before, decoded, ?_⟩⟩
  refine bind_ok.mpr ⟨rows, rfl, bind_ok.mpr ⟨items, ?_, rfl⟩⟩
  exact congrArg (Except.mapError ApiError.bridge) listed

/-- Every page shows the next rows that remain. -/
theorem remains_page (owned : validateAuthScope scope = .ok ()) (formed : Formed query)
    (keyed : Keyed JobRow.id rows) (submitted : ∀ row ∈ rows, Submitted row)
    {cursor : Option String} {items : List ImageJobSummary}
    (remains : Remains cursors codec scope query rows cursor items) :
    PageOf (fetch cursors codec scope query rows) (Remains cursors codec scope query rows)
      query.limit cursor items := by
  obtain ⟨shown, rfl, position⟩ := remains
  obtain ⟨before, decoded, time, sorted⟩ := remaining_rows keyed submitted position
  have within : ∀ row ∈ (history codec scope query rows).drop shown, row ∈ rows :=
    fun row among => (mem_history.mp (List.mem_of_mem_drop among)).1
  have listed := list_remaining owned formed submitted time within sorted
  have page := listJobs_page formed decoded listed
  generalize rest : (history codec scope query rows).drop shown = left at page
  have fetched : fetch cursors codec scope query rows cursor =
      some ((pageOf cursors query.limit ((left.take (query.limit + 1)).map summary)).items,
        (pageOf cursors query.limit ((left.take (query.limit + 1)).map summary)).nextCursor) := by
    rw [fetch, page]
  have first : (left.take (query.limit + 1)).take query.limit = left.take query.limit := by
    rw [List.take_take, Nat.min_eq_left (Nat.le_succ _)]
  rw [PageOf, List.length_map]
  by_cases longer : query.limit < left.length
  · have positive := formed.positive
    have some_left : left.take query.limit ≠ [] := by
      intro nothing
      have size := congrArg List.length nothing
      rw [List.length_take, List.length_nil] at size
      omega
    obtain ⟨x, last⟩ := Option.isSome_iff_exists.mp (List.getLast?_isSome.mpr some_left)
    refine Or.inr ⟨longer, encodeJobCursor cursors x.created x.id, ?_, shown + query.limit, ?_, ?_⟩
    · have more : ((left.take (query.limit + 1)).map summary).length > query.limit := by
        rw [List.length_map, List.length_take]
        omega
      rw [fetched, pageOf, if_pos more, ← List.map_take, first, List.getLast?_map, last]
      simp [summary]
    · rw [← List.map_drop, ← rest, List.drop_drop]
    · refine Or.inr ⟨x, ?_, rfl⟩
      rw [List.take_add, rest, List.getLast?_append, last]
      rfl
  · refine Or.inl ⟨Nat.le_of_not_lt longer, ?_⟩
    have all : left.take (query.limit + 1) = left := List.take_of_length_le (by omega)
    have none_more : ¬(left.map summary).length > query.limit := by
      rw [List.length_map]
      omega
    rw [fetched, all, pageOf, if_neg none_more, List.take_of_length_le (by simpa using longer)]

/-! ## Jobs that a manager has submitted -/

/-- The job manager names every job with the text of a fresh UUID. -/
def NamedByUuid (_ : StoreState) (event : StoreEvent) : Prop :=
  ∀ scope id request now maxPending maxDatabaseBytes,
    event = .created scope id request now maxPending maxDatabaseBytes → hyphenated id = true

theorem step_submitted {s t : StoreState} {event : StoreEvent} (orderly : Orderly s)
    (submitted : ∀ row ∈ s.rows, Submitted row) (step : Jobs.Step codec s event t)
    (named : NamedByUuid s event) : ∀ row ∈ t.rows, Submitted row := by
  intro row' member
  have counted := ((step_orderly orderly step).sane row' member).counted
  obtain ⟨row, old, moved⟩ | admits :=
    (step_change orderly step).origin (fun row _ => .idle row) member
  · have same := moved.sameJob
    have before := submitted row old
    exact ⟨same.created ▸ before.time, same.id ▸ before.printed, counted⟩
  · obtain ⟨scope, id, request, now, maxPending, maxDatabaseBytes, newBytes, rfl, rfl, checks, _⟩ :=
      admits.submission
    refine ⟨?_, named scope id request now maxPending maxDatabaseBytes rfl, counted⟩
    obtain ⟨_, _, checks⟩ := bind_ok.mp checks
    obtain ⟨_, _, checks⟩ := bind_ok.mp checks
    obtain ⟨stored, fits, _⟩ := bind_ok.mp checks
    exact (toI64_ok fits).2

theorem run_submitted {s : StoreState} (run : Run (Jobs.Step codec) NamedByUuid .empty s) :
    ∀ row ∈ s.rows, Submitted row := by
  induction run with
  | start =>
    intro row impossible
    cases impossible
  | next between step named ih => exact step_submitted (run_orderly between) ih step named

/-- The strict order of summaries: by time, then by identity, newest first. -/
def Newer (a b : ImageJobSummary) : Prop :=
  b.created < a.created ∨ b.created = a.created ∧ b.id < a.id

/-- The pages from the first to the last one show every wanted job once, newest first. -/
theorem history_paged {s : StoreState} (run : Run (Jobs.Step codec) NamedByUuid .empty s)
    (owned : validateAuthScope scope = .ok ()) (formed : Formed query) :
    ∃ items, Walk (fetch cursors codec scope query s.rows) none items ∧
      (∀ other, Walk (fetch cursors codec scope query s.rows) none other → other = items) ∧
      items.Pairwise Newer ∧
      ∀ item, item ∈ items ↔
        ∃ row ∈ s.rows, Wanted codec scope query row ∧ decodeSummary row = .ok item := by
  have orderly := run_orderly run
  have submitted := run_submitted run
  have start : Remains cursors codec scope query s.rows none
      ((history codec scope query s.rows).map summary) := ⟨0, rfl, Or.inl ⟨rfl, rfl⟩⟩
  have walk := walk_remaining formed.positive
    (fun _ _ remains => remains_page owned formed orderly.keyed submitted remains) start
  refine ⟨_, walk, fun other again => again.unique walk, ?_, fun item => ?_⟩
  · exact List.pairwise_map.mpr (history_sorted orderly.keyed)
  · rw [List.mem_map]
    constructor
    · rintro ⟨row, among, rfl⟩
      obtain ⟨member, wanted⟩ := mem_history.mp among
      exact ⟨row, member, wanted, decodeSummary_summary (submitted row member).counted⟩
    · rintro ⟨row, member, wanted, decoded⟩
      rw [decodeSummary_summary (submitted row member).counted] at decoded
      exact ⟨row, mem_history.mpr ⟨member, wanted⟩, Except.ok.inj decoded⟩

/-- Both libraries, as far as the bridge uses them. -/
def standardCursors : CursorText where
  encode bytes := String.ofList (Base64.encode bytes)
  decode text := Base64.decode text.toList
  parseUuid := hyphenated
  restores bytes := by rw [String.toList_ofList, Base64.decode_encode]
  length bytes := by rw [ascii_len (Base64.encode_ascii bytes), Base64.length_encode]
  printed _ printed := printed

def kiteId : String := "0198f4a0-5c00-7000-8000-000000000001"

theorem kite_run : Run (Jobs.Step kiteCodec) NamedByUuid .empty ⟨[kiteRow kiteId 10], [kiteId], []⟩ := by
  have small : len kiteId = 36 := by rfl
  have checks : checkSubmission kiteCodec "operator" kiteId keyedKite 10 = _ :=
    kite_checks (by omega) (by decide)
  have inserted : create kiteCodec "operator" kiteId keyedKite 10 1 (2 ^ 20) [] = _ :=
    create_room checks ⟨rfl, by decide, by decide, by rw [small]; decide, by simp⟩
  rw [kite_newJob] at inserted
  have hosted : WithinLimits [kiteRow kiteId 10] := by
    have bytes : total JobRow.recordBytes [kiteRow kiteId 10] = len kiteId + 749 := by
      simp [total, kite_recordBytes]
    refine ⟨by simp, ?_⟩
    rw [bytes, small]
    decide
  have created : Jobs.Step kiteCodec .empty
      (.created "operator" kiteId keyedKite 10 1 (2 ^ 20)) _ :=
    .created "operator" kiteId keyedKite 10 1 (2 ^ 20) (by simp [StoreState.empty]) (by
      intro _ _
      rw [StoreState.empty, inserted]
      exact hosted)
  dsimp only [StoreState.empty] at created
  rw [inserted] at created
  refine .next .start created ?_
  intro scope id request now maxPending maxDatabaseBytes same
  cases same
  rfl

theorem kite_paged : ∃ items,
    Walk (fetch standardCursors kiteCodec "operator" { limit := 1 } [kiteRow kiteId 10]) none items ∧
      items.Pairwise Newer := by
  have formed : Formed { limit := 1 } :=
    ⟨by decide, by decide, fun _ => rfl, fun text absent => by cases absent⟩
  obtain ⟨items, walk, _, sorted, _⟩ :=
    @history_paged standardCursors kiteCodec "operator" { limit := 1 } _ kite_run rfl formed
  exact ⟨items, walk, sorted⟩

end ImagegenBridge.Server
