import ImagegenBridge.Jobs.Lifecycle
import ImagegenBridge.Jobs.Listing
import Mathlib.Data.List.Infix

/-!
# Searching the history for a literal text

The prompt of a job and the text of a search are folded apart from each other, by
`str::to_lowercase`, which looks at the letters around a capital sigma.
-/

namespace ImagegenBridge.Jobs

open Table Text Transition

/-! ## `str::to_lowercase` -/

/-- Unicode's tables, as far as `str::to_lowercase` reads them. -/
structure CaseTables where
  lower : Char → List Char
  cased : Char → Bool
  ignorable : Char → Bool
  small : ∀ c, ∀ d ∈ lower c, d.toLower = d

namespace CaseTables

variable (tables : CaseTables)

def caseIgnorableThenCased (text : List Char) : Bool :=
  match text.dropWhile tables.ignorable with
  | c :: _ => tables.cased c
  | [] => false

/-- Whether a sigma ends a word; what stands before it is read backwards. -/
def wordFinal (before after : List Char) : Bool :=
  tables.caseIgnorableThenCased before && !tables.caseIgnorableThenCased after

def mapUppercaseSigma (before after : List Char) : Char :=
  if tables.wordFinal before after then 'ς' else 'σ'

/-- The small letters of a text that stands between two others. -/
def lowercaseIn : List Char → List Char → List Char → List Char
  | _, [], _ => []
  | before, c :: rest, after =>
    (if c = 'Σ' then [tables.mapUppercaseSigma before (rest ++ after)] else tables.lower c)
      ++ lowercaseIn (c :: before) rest after

def toLowercase (text : String) : String := .ofList (tables.lowercaseIn [] text.toList [])

/-- Every capital sigma of a text ends a word among the one neighbours as among the others. -/
def Steady (text before after before' after' : List Char) : Prop :=
  ∀ x y, text = x ++ 'Σ' :: y →
    tables.wordFinal (x.reverse ++ before) (y ++ after) =
      tables.wordFinal (x.reverse ++ before') (y ++ after')

variable {tables}

theorem lowercaseIn_append (before x y after : List Char) :
    tables.lowercaseIn before (x ++ y) after =
      tables.lowercaseIn before x (y ++ after) ++ tables.lowercaseIn (x.reverse ++ before) y after := by
  induction x generalizing before with
  | nil => rfl
  | cons c rest ih =>
    simp only [List.cons_append, lowercaseIn, ih, List.reverse_cons, List.append_assoc,
      List.nil_append]

/-- Only the sigmas look at their neighbours. -/
theorem lowercaseIn_steady {text before after before' after' : List Char}
    (steady : tables.Steady text before after before' after') :
    tables.lowercaseIn before text after = tables.lowercaseIn before' text after' := by
  induction text generalizing before before' with
  | nil => rfl
  | cons c rest ih =>
    have later : tables.Steady rest (c :: before) after (c :: before') after' := by
      intro x y split
      have here := steady (c :: x) y (by rw [split]; rfl)
      simpa using here
    rw [lowercaseIn, lowercaseIn, ih later]
    by_cases sigma : c = 'Σ'
    · subst sigma
      have here : tables.wordFinal before (rest ++ after) = tables.wordFinal before' (rest ++ after') :=
        steady [] rest rfl
      rw [if_pos rfl, if_pos rfl, mapUppercaseSigma, mapUppercaseSigma, here]
    · rw [if_neg sigma, if_neg sigma]

/-- No capital letter of ASCII is left. -/
theorem lowercaseIn_small (before text after : List Char) :
    ∀ d ∈ tables.lowercaseIn before text after, d.toLower = d := by
  induction text generalizing before with
  | nil =>
    intro d absent
    cases absent
  | cons c rest ih =>
    intro d among
    rw [lowercaseIn] at among
    obtain first | later := List.mem_append.mp among
    · by_cases sigma : c = 'Σ'
      · rw [if_pos sigma, List.mem_singleton] at first
        subst first
        unfold mapUppercaseSigma
        split <;> rfl
      · rw [if_neg sigma] at first
        exact tables.small c d first
    · exact ih (c :: before) d later

end CaseTables

/-! ## `LIKE` with a literal pattern -/

/-- One text contains another, character for character. -/
def Contains (text part : String) : Prop := part.toList <:+: text.toList

instance (text part : String) : Decidable (Contains text part) :=
  inferInstanceAs (Decidable (_ <:+: _))

def escaped (c : Char) : List Char := if c = '%' ∨ c = '_' ∨ c = '\\' then ['\\', c] else [c]

theorem literalLikePattern_toList (value : String) :
    (literalLikePattern value).toList = '%' :: (value.toList.flatMap escaped ++ ['%']) := by
  rw [literalLikePattern, String.toList_ofList]
  rfl

/-- An escaped character takes the same letter. -/
theorem like_escaped (c : Char) (rest text : List Char) :
    like (escaped c ++ rest) text = takesOne (sameLetter c) (like rest) text := by
  unfold escaped
  by_cases special : c = '%' ∨ c = '_' ∨ c = '\\'
  · rw [if_pos special]
    rfl
  · rw [if_neg special]
    push Not at special
    obtain ⟨percent, underscore, backslash⟩ := special
    rw [List.singleton_append, like]
    · intro same
      exact absurd same backslash
    · intro _ _ same
      exact absurd same backslash
    · exact percent
    · exact underscore

theorem like_percent (rest text : List Char) :
    like ('%' :: rest) text = text.tails.any (like rest) := by
  rw [like]

theorem sameLetter_small {a b : Char} (left : a.toLower = a) (right : b.toLower = b) :
    sameLetter a b = true ↔ a = b := by
  rw [sameLetter, left, right, beq_iff_eq]

/-- What an escaped text and `%` take begins with that text. -/
theorem like_start {value text : List Char} (small : ∀ c ∈ value, c.toLower = c)
    (plain : ∀ c ∈ text, c.toLower = c) :
    like (value.flatMap escaped ++ ['%']) text = true ↔ value <+: text := by
  induction value generalizing text with
  | nil =>
    have anything : like ['%'] text = true := by
      rw [like_percent, List.any_eq_true]
      exact ⟨[], (List.mem_tails ..).mpr (List.nil_suffix ..), by simp [like]⟩
    simp [anything]
  | cons c rest ih =>
    obtain ⟨first, others⟩ := List.forall_mem_cons.mp small
    rw [List.flatMap_cons, List.append_assoc, like_escaped]
    cases text with
    | nil => simp [takesOne]
    | cons d text =>
      obtain ⟨letter, later⟩ := List.forall_mem_cons.mp plain
      rw [takesOne, Bool.and_eq_true, sameLetter_small first letter, ih others later,
        List.cons_prefix_cons]

theorem like_literal {value text : String} (small : ∀ c ∈ value.toList, c.toLower = c)
    (plain : ∀ c ∈ text.toList, c.toLower = c) :
    like (literalLikePattern value).toList text.toList = true ↔ Contains text value := by
  rw [literalLikePattern_toList, like_percent, List.any_eq_true, Contains]
  constructor
  · rintro ⟨tail, among, taken⟩
    have suffix := (List.mem_tails ..).mp among
    exact List.infix_iff_prefix_suffix.mpr
      ⟨tail, (like_start small fun c inside => plain c (suffix.subset inside)).mp taken, suffix⟩
  · intro inside
    obtain ⟨tail, starts, suffix⟩ := List.infix_iff_prefix_suffix.mp inside
    exact ⟨tail, (List.mem_tails ..).mpr suffix,
      (like_start small fun c within => plain c (suffix.subset within)).mpr starts⟩

/-! ## Jobs in the store -/

variable {codec : Codec} {s t : StoreState} {event : StoreEvent} {row : JobRow} {text : String}

/-- The job a row was made for. -/
def Submits (codec : Codec) (row : JobRow) (request : ImageRequest) : Prop :=
  ∃ now, SameJob (newJob codec row.authScope row.id request now) row

theorem step_submits (orderly : Orderly s) (before : ∀ row ∈ s.rows, ∃ request, Submits codec row request)
    (step : Step codec s event t) : ∀ row ∈ t.rows, ∃ request, Submits codec row request := by
  intro row' member
  obtain ⟨row, old, moved⟩ | admits :=
    (step_change orderly step).origin (fun row _ => .idle row) member
  · obtain ⟨request, now, made⟩ := before row old
    have same := moved.keepsJob made
    refine ⟨request, now, ?_⟩
    rw [moved.sameJob.id, moved.sameJob.authScope]
    exact same
  · obtain ⟨scope, id, request, now, _, _, _, _, rfl, _⟩ := admits.submission
    exact ⟨request, now, rfl, rfl, rfl, rfl, rfl, rfl, rfl⟩

/-- Every row is the row of a request that was submitted. -/
theorem run_submits (run : Run (Step codec) Unrestricted .empty s) :
    ∀ row ∈ s.rows, ∃ request, Submits codec row request := by
  induction run with
  | start =>
    intro row impossible
    cases impossible
  | next between step _ ih => exact step_submits (run_orderly between) ih step

theorem step_few (orderly : Orderly s) (few : s.rows.length ≤ 2 * 10 ^ 13)
    (step : Step codec s event t) : t.rows.length ≤ 2 * 10 ^ 13 := by
  have change := step_change orderly step
  generalize t.rows = after at change
  cases change with
  | updated set legal =>
    rw [List.length_map]
    exact few
  | inserted legal => exact legal.hosted.1
  | deleted kept legal => exact Nat.le_trans (List.length_filter_le ..) few

/-- A store never holds more rows than a limit can ask for. -/
theorem run_few (run : Run (Step codec) Unrestricted .empty s) : s.rows.length ≤ 2 * 10 ^ 13 := by
  induction run with
  | start => exact Nat.zero_le _
  | next between step _ ih => exact step_few (run_orderly between) ih step

/-! ## Searches -/

/-- A search for a text in the whole history of a scope. -/
def searchFor (rows : List JobRow) (text : String) : ImageJobListFilter :=
  { limit := rows.length, visibility := .all, search := some text }

/-- The search shows the job. -/
def Returned (codec : Codec) (rows : List JobRow) (row : JobRow) (text : String) : Prop :=
  ∃ items, list codec row.authScope (searchFor rows text) rows = .ok items ∧
    ∃ item ∈ items, item.id = row.id

/-- What a literal search promises for one prompt and one text. -/
structure Literal (codec : Codec) (rows : List JobRow) (row : JobRow) (prompt text : String) :
    Prop where
  only : Returned codec rows row text → Contains (codec.toLowercase prompt) (codec.toLowercase text)
  always : Contains prompt text → Returned codec rows row text

theorem selects_search {rows : List JobRow} {scope pattern : String} :
    (searchFor rows text).selects scope (some pattern) row = true ↔
      row.authScope = scope ∧ like pattern.toList row.promptSearch.toList = true := by
  simp [ImageJobListFilter.selects, searchFor]

theorem mem_search {rows : List JobRow} {scope pattern : String}
    (few : rows.length ≤ 2 * 10 ^ 13) :
    row ∈ page (searchFor rows text) scope (some pattern) rows ↔
      row ∈ rows ∧ row.authScope = scope ∧
        like pattern.toList row.promptSearch.toList = true := by
  have whole : min (searchFor rows text).limit i64Max = rows.length := by
    have most : 2 * 10 ^ 13 ≤ i64Max := by decide
    dsimp only [searchFor]
    omega
  rw [page, whole, List.take_of_length_le, List.mem_insertionSort, List.mem_filter, selects_search]
  rw [List.length_insertionSort]
  exact List.length_filter_le ..

theorem list_search {rows : List JobRow} {scope : String} (owned : validateAuthScope scope = .ok ())
    (counted : ∀ row ∈ rows, row.partialImages < 2 ^ 32) :
    list codec scope (searchFor rows text) rows =
      .ok ((page (searchFor rows text) scope (some (literalLikePattern (codec.toLowercase text)))
        rows).map summary) := by
  refine Outcome.bind_ok.mpr ⟨(), owned, Outcome.bind_ok.mpr ⟨(), rfl, ?_⟩⟩
  refine decodeAll_summaries fun row among => counted row ?_
  exact List.mem_of_mem_filter ((List.mem_insertionSort _).mp (List.mem_of_mem_take among))

/-- A search shows the jobs of its scope that its pattern takes. -/
theorem returned_iff (run : Run (Step codec) Unrestricted .empty s) (member : row ∈ s.rows) :
    Returned codec s.rows row text ↔
      like (literalLikePattern (codec.toLowercase text)).toList row.promptSearch.toList = true := by
  have orderly := run_orderly run
  have few := run_few run
  have listed : list codec row.authScope (searchFor s.rows text) s.rows = .ok _ :=
    list_search (orderly.sane row member).scope fun found stored =>
      (orderly.sane found stored).counted
  unfold Returned
  rw [listed]
  generalize literalLikePattern (codec.toLowercase text) = pattern
  constructor
  · rintro ⟨items, answered, item, inside, own⟩
    cases answered
    obtain ⟨found, here, rfl⟩ := List.mem_map.mp inside
    obtain ⟨stored, _, taken⟩ := (mem_search few).mp here
    obtain rfl : found = row := orderly.keyed.same stored member own
    exact taken
  · intro taken
    refine ⟨_, rfl, summary row, List.mem_map_of_mem ?_, rfl⟩
    exact (mem_search few).mpr ⟨member, rfl, taken⟩

variable {tables : CaseTables}

theorem toLowercase_small : ∀ c ∈ (tables.toLowercase text).toList, c.toLower = c := by
  rw [CaseTables.toLowercase, String.toList_ofList]
  exact CaseTables.lowercaseIn_small [] text.toList []

/-- Where every sigma keeps its end of a word, the small letters are found again. -/
theorem steady_contains {prompt : String} {u v : List Char}
    (split : prompt.toList = u ++ text.toList ++ v)
    (steady : tables.Steady text.toList [] [] u.reverse v) :
    Contains (tables.toLowercase prompt) (tables.toLowercase text) := by
  have here := CaseTables.lowercaseIn_steady steady
  rw [Contains, CaseTables.toLowercase, CaseTables.toLowercase, String.toList_ofList,
    String.toList_ofList, split, CaseTables.lowercaseIn_append, CaseTables.lowercaseIn_append,
    List.append_nil, List.append_nil, here]
  exact ⟨_, _, rfl⟩

/-- A search is literal unless a prompt has the text and the small letters of the prompt do not
have those of the text; then every place of the text breaks one of its sigmas. -/
theorem search_literal_iff (lowers : ∀ text, codec.toLowercase text = tables.toLowercase text)
    (run : Run (Step codec) Unrestricted .empty s) (member : row ∈ s.rows) :
    ∃ request, Submits codec row request ∧ ∀ text,
      (Literal codec s.rows row request.prompt text ↔
        (Contains request.prompt text →
          Contains (tables.toLowercase request.prompt) (tables.toLowercase text))) ∧
      (¬Literal codec s.rows row request.prompt text →
        ∀ u v, request.prompt.toList = u ++ text.toList ++ v →
          ∃ x y, text.toList = x ++ 'Σ' :: y ∧
            tables.wordFinal x.reverse y ≠ tables.wordFinal (x.reverse ++ u.reverse) (y ++ v)) := by
  obtain ⟨request, submits⟩ := run_submits run row member
  have stored : row.promptSearch = tables.toLowercase request.prompt := by
    obtain ⟨now, made⟩ := submits
    rw [made.promptSearch, ← lowers]
    rfl
  refine ⟨request, submits, fun text => ?_⟩
  have found : Returned codec s.rows row text ↔
      Contains (tables.toLowercase request.prompt) (tables.toLowercase text) := by
    rw [returned_iff run member, lowers, stored]
    exact like_literal toLowercase_small toLowercase_small
  have exact_when : Literal codec s.rows row request.prompt text ↔
      (Contains request.prompt text →
        Contains (tables.toLowercase request.prompt) (tables.toLowercase text)) := by
    constructor
    · intro literal inside
      exact found.mp (literal.always inside)
    · intro keeps
      refine ⟨fun returned => ?_, fun inside => found.mpr (keeps inside)⟩
      rw [lowers, lowers]
      exact found.mp returned
  refine ⟨exact_when, fun fails u v split => ?_⟩
  by_contra intact
  push Not at intact
  refine fails (exact_when.mpr fun _ => steady_contains split fun x y parts => ?_)
  rw [List.append_nil, List.append_nil]
  exact intact x y parts

/-! ## A road sign -/

/-- The tables as far as two Greek words need them. -/
def greekLower (c : Char) : List Char :=
  match c with
  | 'Ο' => ['ο']
  | 'Δ' => ['δ']
  | 'Η' => ['η']
  | 'Μ' => ['μ']
  | 'Α' => ['α']
  | c => [c.toLower]

theorem toLower_small (c : Char) : c.toLower.toLower = c.toLower := by
  by_cases capital : c.val ≥ 'A'.val ∧ c.val ≤ 'Z'.val
  · obtain ⟨least, most⟩ := capital
    have small : ¬(c.toLower.val ≥ 'A'.val ∧ c.toLower.val ≤ 'Z'.val) := by
      have shifted : c.toLower.val = c.val + ('a'.val - 'A'.val) :=
        congrArg Char.val (dif_pos (And.intro least most))
      rw [shifted]
      rintro ⟨_, below⟩
      simp only [UInt32.le_iff_toNat_le, ge_iff_le, UInt32.toNat_add] at *
      have bounds : 'A'.val.toNat = 65 ∧ 'Z'.val.toNat = 90 ∧ ('a'.val - 'A'.val).toNat = 32 := by
        decide
      omega
    exact dif_neg small
  · have same : c.toLower = c := dif_neg capital
    rw [same, same]

theorem greekLower_small (c d : Char) (among : d ∈ greekLower c) : d.toLower = d := by
  unfold greekLower at among
  split at among
  all_goals rw [List.mem_singleton] at among; subst among
  · rfl
  · rfl
  · rfl
  · rfl
  · rfl
  · exact toLower_small c

def greekTables : CaseTables where
  lower := greekLower
  cased c := isAsciiAlphanumeric c || decide ('Α' ≤ c ∧ c ≤ 'ω')
  ignorable c := c == '\'' || c == '.'
  small := greekLower_small

def roadSign : ImageRequest := .generate "ΟΔΟΣΗΜΑ"

def roadText : String :=
  "\x7b\"version\":\"1\",\"prompt\":\"ΟΔΟΣΗΜΑ\",\"operation\":\"generate\","
    ++ "\"parameters\":\x7b\"n\":1,\"size\":\"auto\",\"quality\":\"auto\","
    ++ "\"output_format\":\"png\",\"background\":\"auto\",\"moderation\":\"auto\","
    ++ "\"partial_images\":0,\"failure_policy\":\"fail_fast\",\"action\":\"auto\"\x7d,"
    ++ "\"routing\":\x7b\"fallback_policy\":\"on_unavailable\"\x7d,"
    ++ "\"session\":\x7b\"mode\":\"isolated\"\x7d,"
    ++ "\"output\":\x7b\"response_format\":\"b64_json\",\"collision\":\"error\","
    ++ "\"metadata\":\"none\",\"transparency\":\x7b\"mode\":\"auto\","
    ++ "\"transparent_threshold\":12,\"opaque_threshold\":96,\"despill\":true\x7d\x7d,"
    ++ "\"policies\":\x7b\"compatibility\":\"strict\",\"negative_prompt\":\"auto\","
    ++ "\"revised_prompt\":\"include\",\"batch_execution\":\"auto\"\x7d\x7d"

theorem len_roadText : len roadText = 607 := by
  unfold roadText
  apply Eq.trans
  · repeat' first
      | exact len_spelled rfl
      | apply len_joined
  · rfl

/-- The codec as far as one request needs it. -/
def roadCodec : Codec := { kiteCodec with
  encodeRequest := fun request => if request = roadSign then roadText else request.prompt
  decodeRequest := fun text => if text = roadText then some roadSign else none
  toLowercase := greekTables.toLowercase }

def roadRow : JobRow := newJob roadCodec "operator" "job-1" roadSign 10

theorem road_lower : greekTables.toLowercase "ΟΔΟΣΗΜΑ" = "οδοσημα" := by rfl

theorem road_recordBytes : roadRow.recordBytes = 634 := by
  have others : len "operator" = 8 ∧ len "job-1" = 5 ∧ len "οδοσημα" = 14 :=
    ⟨len_spelled rfl, len_spelled rfl, len_spelled rfl⟩
  have request : roadRow.request = roadText := rfl
  have search : roadRow.promptSearch = "οδοσημα" := road_lower
  have long := len_roadText
  have keys : optionalLen roadRow.submissionKeyHash + optionalLen roadRow.requestFingerprint = 0 :=
    rfl
  have own : len roadRow.id = len "job-1" ∧ len roadRow.authScope = len "operator" := ⟨rfl, rfl⟩
  rw [JobRow.recordBytes, request, search]
  omega

theorem road_checks : checkSubmission roadCodec "operator" "job-1" roadSign 10 = .ok 262906 := by
  have bytes : logicalNewJobBytes roadRow = .ok 262906 := by
    have sum : 634 + activeResultReserveBytes + rowOverheadBytes = 262906 := by decide
    rw [logicalNewJobBytes, road_recordBytes, sum, Nat.min_eq_left (by decide), if_pos (by decide)]
  have scope : validateAuthScope "operator" = .ok () := by rfl
  have time : toI64 10 = .ok 10 := if_pos (by decide)
  exact Outcome.bind_ok.mpr ⟨(), scope, Outcome.bind_ok.mpr ⟨(), rfl,
    Outcome.bind_ok.mpr ⟨10, time, bytes⟩⟩⟩

theorem reaches_road : Run (Step roadCodec) Unrestricted .empty ⟨[roadRow], ["job-1"], []⟩ := by
  have affordable : min (logicalBytes [] + 262906) i64Max ≤ min (2 ^ 20) i64Max := by decide
  have inserted : create roadCodec "operator" "job-1" roadSign 10 1 (2 ^ 20) [] = _ :=
    create_room road_checks ⟨rfl, by decide, by decide, affordable, by simp⟩
  have hosted : WithinLimits [roadRow] := by
    refine ⟨by simp, ?_⟩
    have bytes : total JobRow.recordBytes [roadRow] = 634 := by simp [total, road_recordBytes]
    rw [bytes]
    decide
  have created : Step roadCodec .empty (.created "operator" "job-1" roadSign 10 1 (2 ^ 20)) _ :=
    .created "operator" "job-1" roadSign 10 1 (2 ^ 20) (by simp [StoreState.empty]) (by
      intro _ _
      rw [StoreState.empty, inserted]
      exact hosted)
  dsimp only [StoreState.empty] at created
  rw [inserted] at created
  exact Run.start.then created

theorem road_searches : ∃ request, Submits roadCodec roadRow request ∧ ∀ text,
    (Literal roadCodec [roadRow] roadRow request.prompt text ↔
      (Contains request.prompt text →
        Contains (greekTables.toLowercase request.prompt) (greekTables.toLowercase text))) := by
  obtain ⟨request, submits, searches⟩ :=
    search_literal_iff (fun _ => rfl) reaches_road (List.mem_singleton.mpr rfl)
  exact ⟨request, submits, fun text => (searches text).1⟩

/-- The sigma that ends the search stands inside a word of the prompt. -/
theorem road_unfound :
    Run (Step roadCodec) Unrestricted .empty ⟨[roadRow], ["job-1"], []⟩ ∧
      Submits roadCodec roadRow roadSign ∧ Contains roadSign.prompt "ΟΔΟΣ" ∧
      ¬Literal roadCodec [roadRow] roadRow roadSign.prompt "ΟΔΟΣ" := by
  have inside : Contains roadSign.prompt "ΟΔΟΣ" := ⟨[], "ΗΜΑ".toList, by decide +kernel⟩
  refine ⟨reaches_road, ⟨10, rfl, rfl, rfl, rfl, rfl, rfl, rfl⟩, inside, fun literal => ?_⟩
  have taken := (returned_iff reaches_road (List.mem_singleton.mpr rfl)).mp (literal.always inside)
  have lower : roadCodec.toLowercase "ΟΔΟΣ" = "οδος" := by decide +kernel
  have stored : roadRow.promptSearch = "οδοσημα" := road_lower
  rw [lower, stored] at taken
  revert taken
  decide +kernel

end ImagegenBridge.Jobs
