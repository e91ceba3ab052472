import Mathlib.Data.List.DropRight
import ImagegenBridge.CodexResponses.SseDecoding

/-!
# Where the decoder agrees with the reference

Two kinds of bytes are lost on the way to a payload: the line breaks after empty data lines
that lead an event, and carriage returns before the end of the stream. The sizes of the
payloads show whether any were.
-/

namespace ImagegenBridge.CodexResponses

open Text Lines SseEvents

variable {limits : SseLimits}

/-! ## Sizes -/

/-- The bytes of data lines, each with its line break. -/
def bytesOf (values : List String) : Nat := (values.map fun value => len value + 1).sum

def SseLine.size : SseLine → Nat
  | .data value => len value + 1
  | _ => 0

@[simp] theorem bytesOf_nil : bytesOf [] = 0 := rfl

@[simp] theorem bytesOf_cons (value : String) (values : List String) :
    bytesOf (value :: values) = len value + 1 + bytesOf values := by
  simp [bytesOf]

@[simp] theorem bytesOf_append (first later : List String) :
    bytesOf (first ++ later) = bytesOf first + bytesOf later := by
  simp [bytesOf]

/-- Payloads have the sizes of the data lines of all events. -/
theorem bytesOf_payloads (events : List (List String)) :
    bytesOf (payloads events) = (events.map bytesOf).sum := by
  induction events with
  | nil => rfl
  | cons values events ih =>
    by_cases empty : values = []
    · simpa [payloads, empty] using ih
    · have one := len_joined values empty
      have split : payloads (values :: events) = joined values :: payloads events := by
        simp [payloads, empty]
      rw [split, bytesOf_cons, ih, one, List.map_cons, List.sum_cons]
      rfl

theorem bytesOf_eventData (held : List String) (lines : List SseLine) :
    ((eventData held lines).map bytesOf).sum = bytesOf held + (lines.map SseLine.size).sum := by
  induction lines generalizing held with
  | nil => simp [eventData]
  | cons line lines ih =>
    cases line with
    | blank => simp [eventData, ih, SseLine.size]
    | other => simp [eventData, ih, SseLine.size]
    | data value => simp [eventData, ih, SseLine.size, Nat.add_assoc]

theorem bytesOf_trimmed (values : List String) : bytesOf (trimmed values) ≤ bytesOf values := by
  induction values with
  | nil => exact Nat.le_refl _
  | cons value values ih =>
    by_cases empty : value = ""
    · have drops : trimmed (value :: values) = trimmed values := by simp [trimmed, empty]
      rw [drops, bytesOf_cons]
      omega
    · have keeps : trimmed (value :: values) = value :: values := by
        have occupied : (value == "") = false := by simpa using empty
        simp [trimmed, occupied]
      rw [keeps]

/-- An event begins with its first data line that is not empty. -/
theorem trimmed_eq_self {values : List String} :
    trimmed values = values ↔ values.head? ≠ some "" := by
  cases values with
  | nil => simp [trimmed]
  | cons value values =>
    by_cases empty : value = ""
    · have drops : trimmed (value :: values) = trimmed values := by simp [trimmed, empty]
      rw [drops, empty]
      simp only [List.head?_cons, ne_eq, not_true, iff_false]
      intro same
      have shorter := bytesOf_trimmed values
      rw [same, bytesOf_cons] at shorter
      omega
    · have occupied : (value == "") = false := by simpa using empty
      simp [trimmed, occupied, empty]

theorem bytesOf_trimmed_eq {values : List String} (same : bytesOf (trimmed values) = bytesOf values) :
    values.head? ≠ some "" := by
  intro first
  cases values with
  | nil => cases first
  | cons value values =>
    obtain rfl := Option.some.inj first
    have drops : trimmed ("" :: values) = trimmed values := by simp [trimmed]
    have shorter := bytesOf_trimmed values
    rw [drops, bytesOf_cons] at same
    omega

theorem sum_trimmed (events : List (List String)) :
    ((events.map trimmed).map bytesOf).sum ≤ (events.map bytesOf).sum := by
  induction events with
  | nil => exact Nat.le_refl _
  | cons values events ih =>
    have one := bytesOf_trimmed values
    simp only [List.map_cons, List.sum_cons]
    omega

/-- No bytes are lost only where no event begins with an empty data line. -/
theorem sum_trimmed_eq {events : List (List String)}
    (same : ((events.map trimmed).map bytesOf).sum = (events.map bytesOf).sum) :
    ∀ values ∈ events, values.head? ≠ some "" := by
  induction events with
  | nil => simp
  | cons values events ih =>
    have one := bytesOf_trimmed values
    have rest := sum_trimmed events
    simp only [List.map_cons, List.sum_cons] at same
    rw [List.forall_mem_cons]
    exact ⟨bytesOf_trimmed_eq (by omega), ih (by omega)⟩

/-! ## The last line -/

/-- A data line with more than one carriage return before the end of the stream. -/
def ReturnsAtEnd (line : String) : Prop :=
  (stripStart "data:" line).isSome ∧ ['\r', '\r'] <:+ line.toList

instance (line : String) : Decidable (ReturnsAtEnd line) := inferInstanceAs (Decidable (_ ∧ _))

def returns (n : Nat) : String := String.ofList (List.replicate n '\r')

/-- A line is what stands before its carriage returns, and these. -/
theorem split_returns (line : String) :
    ∃ n, line = trimReturns line ++ returns n ∧ (trimReturns line).toList.getLast? ≠ some '\r' := by
  have whole := List.rdropWhile_append_rtakeWhile (p := (· == '\r')) (l := line.toList)
  have only : line.toList.rtakeWhile (· == '\r') =
      List.replicate (line.toList.rtakeWhile (· == '\r')).length '\r' := by
    rw [List.eq_replicate_iff]
    refine ⟨rfl, ?_⟩
    intro c among
    simpa using List.mem_rtakeWhile_imp among
  refine ⟨(line.toList.rtakeWhile (· == '\r')).length, ?_, ?_⟩
  · apply String.toList_injective
    rw [String.toList_append, returns, String.toList_ofList, ← only, trimReturns,
      String.toList_ofList]
    exact whole.symm
  · intro last
    rw [trimReturns, String.toList_ofList] at last
    have some_text : line.toList.rdropWhile (· == '\r') ≠ [] := by
      intro none
      rw [show (line.toList.reverse.dropWhile (· == '\r')).reverse = [] from none] at last
      cases last
    apply List.rdropWhile_last_not (· == '\r') line.toList some_text
    have final : (line.toList.rdropWhile (· == '\r')).getLast? = some '\r' := last
    rw [List.getLast?_eq_some_getLast some_text] at final
    simpa using final

theorem dropOneReturn_returns {text : String} (plain : text.toList.getLast? ≠ some '\r') (n : Nat) :
    dropOneReturn (text ++ returns n) = text ++ returns (n - 1) := by
  unfold dropOneReturn
  cases n with
  | zero => simp [returns, plain]
  | succ n =>
    rw [returns, String.toList_append, String.toList_ofList, List.replicate_succ',
      ← List.append_assoc, List.getLast?_concat, List.dropLast_concat, if_pos rfl]
    apply String.toList_injective
    simp [returns]

theorem startsWith_returns {start : List Char} (free : '\r' ∉ start) (text : List Char) (n : Nat) :
    startsWith (text ++ List.replicate n '\r') start = startsWith text start := by
  unfold startsWith
  induction start generalizing text with
  | nil => simp
  | cons c start ih =>
    simp only [List.mem_cons, not_or] at free
    cases text with
    | nil =>
      cases n with
      | zero => rfl
      | succ n =>
        have other : (c == '\r') = false := by simpa using Ne.symm free.1
        simp [List.replicate_succ, List.isPrefixOf, other]
    | cons a text => simp [List.isPrefixOf, ih free.2]

theorem stripStart_returns {start : String} (free : '\r' ∉ start.toList) (text : String) (n : Nat) :
    stripStart start (text ++ returns n) = (stripStart start text).map (· ++ returns n) := by
  unfold stripStart
  rw [String.toList_append, returns, String.toList_ofList, startsWith_returns free]
  by_cases starts : startsWith text.toList start.toList = true
  · have long : start.length ≤ text.toList.length := by
      rw [← String.length_toList]
      exact (List.isPrefixOf_iff_prefix.mp starts).length_le
    rw [if_pos starts, if_pos starts, List.drop_append_of_le_length long, Option.map_some]
    rw [String.ofList_append]
  · rw [if_neg starts, if_neg starts, Option.map_none]

/-- A line is a data line by its first characters alone. -/
theorem sseLine_eq (line : String) :
    sseLine line = match stripStart "data:" line with
      | some value => .data ((stripStart " " value).getD value)
      | none => if line = "" then .blank else .other := by
  unfold sseLine
  by_cases empty : line = ""
  · rw [if_pos empty, empty]
    rfl
  by_cases comment : startsWith line.toList [':'] = true
  · have no_data : stripStart "data:" line = none := by
      unfold stripStart
      rw [if_neg]
      intro data
      obtain ⟨rest, first⟩ := List.isPrefixOf_iff_prefix.mp comment
      obtain ⟨rest', second⟩ := List.isPrefixOf_iff_prefix.mp data
      rw [← second] at first
      simp at first
    rw [if_neg empty, if_pos comment, no_data]
    exact (if_neg empty).symm
  · rewrite [if_neg empty, if_neg comment, if_neg empty]
    cases stripStart "data:" line <;> rfl

/-- The last line says the same with one or all carriage returns dropped, unless it is a
data line that ends in more of them. -/
theorem sseLine_returns {line : String} (plain : ¬ ReturnsAtEnd line) :
    sseLine (trimReturns line) = sseLine (dropOneReturn line) ∨
      ((sseLine (trimReturns line)).size = 0 ∧ (sseLine (dropOneReturn line)).size = 0) := by
  obtain ⟨n, whole, text⟩ := split_returns line
  generalize trimReturns line = start at whole text
  rw [whole, dropOneReturn_returns text]
  cases data : stripStart "data:" start with
  | none =>
    right
    have later := @stripStart_returns "data:" (by decide) start (n - 1)
    rw [sseLine_eq start, sseLine_eq (start ++ returns (n - 1)), later, data]
    simp only [Option.map_none]
    constructor <;> split_ifs <;> rfl
  | some value =>
    left
    have few : n ≤ 1 := by
      by_contra many
      apply plain
      refine ⟨?_, ?_⟩
      · rw [whole, stripStart_returns (by decide), data]
        rfl
      · rw [whole, String.toList_append, returns, String.toList_ofList]
        obtain ⟨m, rfl⟩ : ∃ m, n = m + 2 := ⟨n - 2, by omega⟩
        refine ⟨start.toList ++ List.replicate m '\r', ?_⟩
        rw [List.append_assoc]
        congr 1
        exact (List.replicate_add m 2 '\r').symm
    have none_left : n - 1 = 0 := by omega
    rw [none_left]
    simp [returns]

theorem len_returns (n : Nat) : len (returns n) = n := by
  induction n with
  | zero => decide
  | succ n ih =>
    have split : returns (n + 1) = returns 1 ++ returns n := by
      apply String.toList_injective
      simp [returns, List.replicate_succ]
    have one : len (returns 1) = 1 := by decide
    rw [split, len_append, ih, one, Nat.add_comm]

/-- Dropping all carriage returns leaves no more of the last line than dropping one. -/
theorem size_returns (line : String) :
    (sseLine (trimReturns line)).size ≤ (sseLine (dropOneReturn line)).size ∧
      (ReturnsAtEnd line →
        (sseLine (trimReturns line)).size < (sseLine (dropOneReturn line)).size) := by
  obtain ⟨n, whole, text⟩ := split_returns line
  generalize trimReturns line = start at whole text
  rw [whole, dropOneReturn_returns text]
  have later := @stripStart_returns "data:" (by decide) start (n - 1)
  cases data : stripStart "data:" start with
  | none =>
    rw [sseLine_eq start, data]
    refine ⟨by split_ifs <;> exact Nat.zero_le _, ?_⟩
    rintro ⟨starts, _⟩
    rw [stripStart_returns (by decide), data] at starts
    cases starts
  | some value =>
    have longer : (sseLine (start ++ returns (n - 1))).size = (sseLine start).size + (n - 1) := by
      rw [sseLine_eq start, sseLine_eq (start ++ returns (n - 1)), later, data]
      simp only [Option.map_some, SseLine.size, @stripStart_returns " " (by decide)]
      cases stripStart " " value <;>
        simp only [Option.map_some, Option.map_none, Option.getD_some, Option.getD_none, len_append,
          len_returns] <;> omega
    refine ⟨by omega, ?_⟩
    rintro ⟨_, many⟩
    have two : 2 ≤ n := by
      rw [String.toList_append, returns, String.toList_ofList] at many
      obtain ⟨before, ends⟩ := many
      by_contra few
      apply text
      have one : n = 0 ∨ n = 1 := by omega
      rcases one with rfl | rfl
      · rw [List.replicate_zero, List.append_nil] at ends
        simp [← ends]
      · have cancel : before ++ ['\r'] = start.toList := by
          apply @List.append_cancel_right _ _ ['\r']
          simpa using ends
        simp [← cancel]
    omega

/-! ## Streams that decode like the reference -/

/-- No event begins with an empty data line, and the last line has no data before more than
one carriage return. -/
def Plain (stream : Bytes) : Prop :=
  (∀ lines, streamLines dropOneReturn stream = some lines →
    ∀ values ∈ eventData [] lines, values.head? ≠ some "") ∧
  ∀ text, readText (cut 10 [] stream).2 = some text → ¬ ReturnsAtEnd text

theorem eventData_concat_blank (held : List String) (lines : List SseLine) :
    eventData held (lines ++ [.blank]) = eventData held lines ++ [[]] := by
  induction lines generalizing held with
  | nil => rfl
  | cons line lines ih => cases line <;> simp [eventData, ih]

theorem eventData_concat_other (held : List String) (lines : List SseLine) :
    eventData held (lines ++ [.other]) = eventData held lines := by
  induction lines generalizing held with
  | nil => rfl
  | cons line lines ih => cases line <;> simp [eventData, ih]

/-- A last line without data adds no payload. -/
theorem payloads_concat {last : SseLine} (nothing : last.size = 0) (counted : List String → List String)
    (none_counted : counted [] = []) (lines : List SseLine) :
    payloads ((eventData [] (lines ++ [last])).map counted) =
      payloads ((eventData [] lines).map counted) := by
  cases last with
  | blank =>
    rw [eventData_concat_blank, List.map_append]
    simp [payloads, none_counted]
  | other => rw [eventData_concat_other]
  | data value => simp [SseLine.size] at nothing

/-- How the end of the stream is read matters to its last line alone. -/
theorem streamLines_cases (stream : Bytes) :
    (∀ ended, streamLines ended stream = none) ∨
      (∃ lines, (cut 10 [] stream).2 = [] ∧ ∀ ended, streamLines ended stream = some lines) ∨
      ∃ lines text, readText (cut 10 [] stream).2 = some text ∧
        ∀ ended, streamLines ended stream = some (lines ++ [sseLine (ended text)]) := by
  simp only [streamLines_eq, lastLine]
  cases (cut 10 [] stream).1.mapM fun line => readText (dropReturn line) with
  | none => exact .inl fun _ => rfl
  | some complete =>
    by_cases ended : (cut 10 [] stream).2 = []
    · refine .inr (.inl ⟨complete.map sseLine, ended, ?_⟩)
      simp [ended]
    · cases rest : readText (cut 10 [] stream).2 with
      | none => exact .inl (by simp [ended])
      | some text => exact .inr (.inr ⟨complete.map sseLine, text, rfl, by simp [ended]⟩)

theorem map_trimmed {events : List (List String)} (begun : ∀ values ∈ events, values.head? ≠ some "") :
    events.map trimmed = events := by
  apply List.map_congr_left (g := id) _ |>.trans (List.map_id events)
  intro values among
  exact trimmed_eq_self.mpr (begun values among)

/-- The payloads are the same exactly where no bytes are lost. -/
theorem payloads_agree_iff {given read : List SseLine}
    (short : (read.map SseLine.size).sum ≤ (given.map SseLine.size).sum)
    (same : (read.map SseLine.size).sum = (given.map SseLine.size).sum →
      payloads (eventData [] read) = payloads (eventData [] given)) :
    payloads ((eventData [] read).map trimmed) = payloads (eventData [] given) ↔
      (read.map SseLine.size).sum = (given.map SseLine.size).sum ∧
        ∀ values ∈ eventData [] read, values.head? ≠ some "" := by
  have whole := bytesOf_eventData [] read
  have all := bytesOf_eventData [] given
  have lost := sum_trimmed (eventData [] read)
  simp only [bytesOf_nil, Nat.zero_add] at whole all
  constructor
  · intro agree
    have sizes := congrArg bytesOf agree
    rw [bytesOf_payloads, bytesOf_payloads] at sizes
    exact ⟨by omega, sum_trimmed_eq (by omega)⟩
  · rintro ⟨sizes, begun⟩
    rw [map_trimmed begun, same sizes]

/-- A last line without data begins no event. -/
theorem begun_concat {last : SseLine} (nothing : last.size = 0) (lines : List SseLine) :
    (∀ values ∈ eventData [] (lines ++ [last]), values.head? ≠ some "") ↔
      ∀ values ∈ eventData [] lines, values.head? ≠ some "" := by
  cases last with
  | blank =>
    rw [eventData_concat_blank]
    simp [or_imp, forall_and]
  | other => rw [eventData_concat_other]
  | data value => simp [SseLine.size] at nothing

theorem sum_size_concat (lines : List SseLine) (last : SseLine) :
    ((lines ++ [last]).map SseLine.size).sum = (lines.map SseLine.size).sum + last.size := by
  simp

/-- A stream that can be read decodes like the reference exactly where it is plain. -/
theorem plain_iff {stream : Bytes} {given read : List SseLine}
    (one : streamLines dropOneReturn stream = some given)
    (all : streamLines trimReturns stream = some read) :
    payloads ((eventData [] read).map trimmed) = payloads (eventData [] given) ↔ Plain stream := by
  rcases streamLines_cases stream with unread | ⟨lines, ended, whole⟩ | ⟨lines, text, rest, whole⟩
  · rw [unread] at one
    cases one
  · obtain rfl := Option.some.inj ((whole _).symm.trans one)
    obtain rfl := Option.some.inj ((whole _).symm.trans all)
    rw [payloads_agree_iff (Nat.le_refl _) fun _ => rfl]
    constructor
    · rintro ⟨_, begun⟩
      refine ⟨?_, ?_⟩
      · intro lines' there
        obtain rfl := Option.some.inj ((whole _).symm.trans there)
        exact begun
      · intro text there
        rw [ended, readText_nil] at there
        obtain rfl := Option.some.inj there
        decide
    · rintro ⟨begun, _⟩
      exact ⟨rfl, begun _ (whole _)⟩
  · obtain rfl := Option.some.inj ((whole _).symm.trans one)
    obtain rfl := Option.some.inj ((whole _).symm.trans all)
    have sizes := size_returns text
    have few : ¬ ReturnsAtEnd text → (sseLine (trimReturns text)).size =
        (sseLine (dropOneReturn text)).size := by
      intro plain
      rcases sseLine_returns plain with same | ⟨first, second⟩
      · rw [same]
      · rw [first, second]
    have order : ((lines ++ [sseLine (trimReturns text)]).map SseLine.size).sum ≤
        ((lines ++ [sseLine (dropOneReturn text)]).map SseLine.size).sum := by
      rw [sum_size_concat, sum_size_concat]
      omega
    have spared : ((lines ++ [sseLine (trimReturns text)]).map SseLine.size).sum =
        ((lines ++ [sseLine (dropOneReturn text)]).map SseLine.size).sum → ¬ ReturnsAtEnd text := by
      intro same many
      have fewer := sizes.2 many
      rw [sum_size_concat, sum_size_concat] at same
      omega
    have begins : ¬ ReturnsAtEnd text →
        ((∀ values ∈ eventData [] (lines ++ [sseLine (trimReturns text)]), values.head? ≠ some "") ↔
          ∀ values ∈ eventData [] (lines ++ [sseLine (dropOneReturn text)]),
            values.head? ≠ some "") := by
      intro plain
      rcases sseLine_returns plain with same | ⟨first, second⟩
      · rw [same]
      · rw [begun_concat first, begun_concat second]
    rw [payloads_agree_iff order]
    · constructor
      · rintro ⟨same, begun⟩
        refine ⟨?_, ?_⟩
        · intro lines' there
          obtain rfl := Option.some.inj ((whole _).symm.trans there)
          exact (begins (spared same)).mp begun
        · intro text' there
          obtain rfl := Option.some.inj (rest.symm.trans there)
          exact spared same
      · rintro ⟨begun, plain⟩
        have none_lost := plain text rest
        refine ⟨?_, (begins none_lost).mpr (begun _ (whole _))⟩
        rw [sum_size_concat, sum_size_concat, few none_lost]
    · intro same
      rcases sseLine_returns (spared same) with line | ⟨first, second⟩
      · rw [line]
      · have read := payloads_concat first id rfl lines
        have given := payloads_concat second id rfl lines
        simp only [List.map_id] at read given
        rw [read, given]

/-- The stream is within the limits once the bytes that the decoder loses do not count. -/
def ShortWithoutLosses (limits : SseLimits) (stream : Bytes) : Prop :=
  WithinLines limits stream ∧ ∃ lines, streamLines trimReturns stream = some lines ∧
    WithinEvents limits (payloads ((eventData [] lines).map trimmed))

theorem trimmedReference_eq_none {stream : Bytes} :
    trimmedReference limits stream = none ↔ ¬ ShortWithoutLosses limits stream := by
  unfold trimmedReference decoding ShortWithoutLosses
  by_cases within : WithinLines limits stream
  · cases streamLines trimReturns stream with
    | none => simp [within]
    | some lines =>
      by_cases short : WithinEvents limits (payloads ((eventData [] lines).map trimmed)) <;>
        simp [within, short]
  · simp [within]

/-- What the reference decodes, the decoder does exactly where the stream is plain. -/
theorem trimmedReference_eq {stream : Bytes} {events : List String}
    (decoded : reference limits stream = some events) :
    trimmedReference limits stream = some events ↔ Plain stream := by
  unfold reference decoding at decoded
  by_cases within : WithinLines limits stream
  · rw [if_pos within] at decoded
    obtain ⟨given, one, decoded⟩ := Option.bind_eq_some_iff.mp decoded
    obtain ⟨read, all⟩ : ∃ read, streamLines trimReturns stream = some read := by
      rcases streamLines_cases stream with unread | ⟨lines, _, whole⟩ | ⟨lines, text, _, whole⟩
      · rw [unread] at one
        cases one
      · exact ⟨_, whole _⟩
      · exact ⟨_, whole _⟩
    dsimp only at decoded
    rw [List.map_id] at decoded
    split_ifs at decoded with short
    obtain rfl := Option.some.inj decoded
    rw [← plain_iff one all]
    unfold trimmedReference decoding
    rw [if_pos within, all, Option.bind_some]
    dsimp only
    constructor
    · intro same
      split_ifs at same
      exact Option.some.inj same
    · intro same
      rw [same, if_pos short]
  · rw [if_neg within] at decoded
    cases decoded

theorem decodeChunks_fails {chunks : List Bytes}
    (beyond : ¬ (Fits limits [] chunks ∧ chunks.flatten.length ≤ limits.maxStreamBytes)) :
    (decodeChunks limits chunks).toOption = none := by
  obtain ⟨e, fails⟩ := @pushAll_fails { limits } chunks List.not_mem_nil
    (by simpa using beyond) (Nat.zero_le _)
  unfold decodeChunks
  rw [fails]
  rfl

/-- The decoder agrees with the reference on exactly these chunks: where the reference
decodes the stream, every chunk fits into a line after the unfinished line before it, and
the stream loses nothing; where the reference fails, either some chunk does not fit, or the
stream is beyond the limits without what it loses. -/
theorem decodes_like_reference_iff (limits : SseLimits) (chunks : List Bytes) :
    (decodeChunks limits chunks).toOption = reference limits chunks.flatten ↔
      ((reference limits chunks.flatten).isSome →
        Fits limits [] chunks ∧ Plain chunks.flatten) ∧
      (reference limits chunks.flatten = none →
        Fits limits [] chunks → ¬ ShortWithoutLosses limits chunks.flatten) := by
  by_cases room : Fits limits [] chunks ∧ chunks.flatten.length ≤ limits.maxStreamBytes
  · obtain ⟨fits, short⟩ := room
    rw [decodeChunks_fits fits short]
    cases decoded : reference limits chunks.flatten with
    | none => simp [trimmedReference_eq_none, fits]
    | some events => simp [trimmedReference_eq decoded, fits]
  · rw [decodeChunks_fails room]
    have long : Fits limits [] chunks → ¬ WithinLines limits chunks.flatten :=
      fun fits within => room ⟨fits, within.1⟩
    cases decoded : reference limits chunks.flatten with
    | none =>
      have beyond : Fits limits [] chunks → ¬ ShortWithoutLosses limits chunks.flatten :=
        fun fits short => long fits short.1
      simpa using beyond
    | some events =>
      have unfit : ¬ Fits limits [] chunks := by
        intro fits
        unfold reference decoding at decoded
        rw [if_neg (long fits)] at decoded
        cases decoded
      simp [unfit]

def shortLines : SseLimits where
  maxStreamBytes := 64
  maxLineBytes := 8
  maxEvents := 4
  maxEventBytes := 16
  representable := by decide

/-- Two lines of six bytes fail in one chunk and pass in two; an empty data line is lost. -/
theorem decoding_differs :
    (decodeChunks shortLines [": ping\n".toUTF8.toList ++ ": pong\n".toUTF8.toList]).toOption = none ∧
      (decodeChunks shortLines [": ping\n".toUTF8.toList, ": pong\n".toUTF8.toList]).toOption = some [] ∧
      reference shortLines (": ping\n".toUTF8.toList ++ ": pong\n".toUTF8.toList) = some [] ∧
      (decodeChunks .default ["data:\ndata: a\n\n".toUTF8.toList]).toOption = some ["a"] ∧
      reference .default "data:\ndata: a\n\n".toUTF8.toList = some ["\na"] := by
  decide +kernel

end ImagegenBridge.CodexResponses
