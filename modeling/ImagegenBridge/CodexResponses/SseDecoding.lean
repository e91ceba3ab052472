import Mathlib.Data.List.Induction
import ImagegenBridge.CodexResponses.Sse

/-!
# What a stream decodes to

The reference reads a whole stream: its lines, then the data lines of each event. The
decoder sees the stream in chunks.
-/

namespace ImagegenBridge.CodexResponses

open Text Lines SseEvents

variable {limits : SseLimits} {decoder : SseDecoder} {state : SseEvents} {pushed : List String}

/-! ## The reference -/

/-- What a line says. -/
inductive SseLine where
  | blank
  | other
  | data (value : String)

def sseLine (line : String) : SseLine :=
  if line = "" then .blank
  else if startsWith line.toList [':'] then .other
  else match stripStart "data:" line with
    | some value => .data ((stripStart " " value).getD value)
    | none => .other

/-- The data lines of each event, after those of an unfinished one. The stream ends the
last event. -/
def eventData : List String → List SseLine → List (List String)
  | held, [] => [held]
  | held, .blank :: lines => held :: eventData [] lines
  | held, .other :: lines => eventData held lines
  | held, .data value :: lines => eventData (held ++ [value]) lines

def joined (values : List String) : String := "\n".intercalate values

/-- The payloads of the events that have data lines. -/
def payloads (events : List (List String)) : List String :=
  (events.filter fun values => !values.isEmpty).map joined

/-- The lines of a whole stream. -/
def streamLines (ended : String → String) (stream : Bytes) : Option (List SseLine) :=
  ((cut 10 [] stream).1.mapM fun line => readText (dropReturn line)).bind fun complete =>
  (if (cut 10 [] stream).2 = [] then some []
    else (readText (cut 10 [] stream).2).map fun text => [ended text]).map fun rest =>
  (complete ++ rest).map sseLine

/-- The stream and its physical lines are within the limits. -/
def WithinLines (limits : SseLimits) (stream : Bytes) : Prop :=
  stream.length ≤ limits.maxStreamBytes ∧
    (∀ line ∈ (cut 10 [] stream).1, line.length + 1 ≤ limits.maxLineBytes) ∧
    (cut 10 [] stream).2.length ≤ limits.maxLineBytes

instance (limits : SseLimits) (stream : Bytes) : Decidable (WithinLines limits stream) :=
  inferInstanceAs (Decidable (_ ∧ _ ∧ _))

/-- The events are within the limits. -/
def WithinEvents (limits : SseLimits) (events : List String) : Prop :=
  events.length ≤ limits.maxEvents ∧ ∀ event ∈ events, len event ≤ limits.maxEventBytes

instance (limits : SseLimits) (events : List String) : Decidable (WithinEvents limits events) :=
  inferInstanceAs (Decidable (_ ∧ _))

/-- The events of a whole stream, by how its end is read and which data lines count. -/
def decoding (ended : String → String) (counted : List String → List String) (limits : SseLimits)
    (stream : Bytes) : Option (List String) :=
  if WithinLines limits stream then
    (streamLines ended stream).bind fun lines =>
      let events := payloads ((eventData [] lines).map counted)
      if WithinEvents limits events then some events else none
  else none

/-- A line without one carriage return at its end. -/
def dropOneReturn (line : String) : String :=
  if line.toList.getLast? = some '\r' then String.ofList line.toList.dropLast else line

/-- The reference decoding of a whole stream. -/
def reference (limits : SseLimits) (stream : Bytes) : Option (List String) :=
  decoding dropOneReturn id limits stream

/-- The data lines of an event from the first one that is not empty. -/
def trimmed (values : List String) : List String := values.dropWhile (· == "")

/-- The decoding in which the empty data lines that lead an event do not count, and the
stream may end in any number of carriage returns. -/
def trimmedReference (limits : SseLimits) (stream : Bytes) : Option (List String) :=
  decoding trimReturns trimmed limits stream

/-! ## Joined data lines -/

@[simp] theorem joined_nil : joined [] = "" := String.intercalate_nil

@[simp] theorem joined_singleton (value : String) : joined [value] = value :=
  String.intercalate_singleton

theorem joined_concat {values : List String} (some_value : values ≠ []) (value : String) :
    joined (values ++ [value]) = joined values ++ "\n" ++ value := by
  unfold joined
  rw [String.intercalate_append_of_ne_nil some_value (by simp), String.intercalate_singleton]

/-- A data line counts with the line break before it. -/
theorem len_joined (values : List String) (some_value : values ≠ []) :
    len (joined values) + 1 = (values.map fun value => len value + 1).sum := by
  induction values using List.reverseRecOn with
  | nil => exact absurd rfl some_value
  | append_singleton values value ih =>
    by_cases first : values = []
    · simp [first]
    · rw [joined_concat first, len_append, len_append, List.map_append, List.sum_append, ← ih first]
      have newline : len "\n" = 1 := by decide
      simp only [newline, List.map_cons, List.map_nil, List.sum_cons, List.sum_nil]
      omega

theorem joined_eq_empty {values : List String} (counted : trimmed values = values) :
    joined values = "" ↔ values = [] := by
  constructor
  · intro empty
    cases values with
    | nil => rfl
    | cons value rest =>
      exfalso
      have occupied : value ≠ "" := by
        rintro rfl
        have shorter := (List.dropWhile_suffix (l := rest) (· == "")).length_le
        have same := congrArg List.length counted
        simp only [trimmed, List.dropWhile_cons, beq_self_eq_true, if_true, List.length_cons] at same
        omega
      have bytes := len_joined (value :: rest) (by simp)
      rw [empty] at bytes
      have some_bytes : len value ≠ 0 := by
        intro zero
        exact occupied (String.utf8ByteSize_eq_zero_iff.mp zero)
      simp only [List.map_cons, List.sum_cons] at bytes
      have none : len "" = 0 := by decide
      omega
  · rintro rfl
    rfl

@[simp] theorem trimmed_trimmed (values : List String) : trimmed (trimmed values) = trimmed values := by
  induction values with
  | nil => rfl
  | cons value rest ih =>
    by_cases empty : value = ""
    · simp only [trimmed, List.dropWhile_cons, empty, beq_self_eq_true, if_true] at ih ⊢
      exact ih
    · have occupied : (value == "") = false := by simpa using empty
      simp [trimmed, occupied]

theorem trimmed_concat (values : List String) (value : String) :
    trimmed (values ++ [value]) =
      if trimmed values = [] then trimmed [value] else trimmed values ++ [value] := by
  induction values with
  | nil => simp [trimmed]
  | cons first rest ih =>
    by_cases empty : first = ""
    · simp only [trimmed, List.cons_append, List.dropWhile_cons, empty, beq_self_eq_true,
        if_true] at ih ⊢
      exact ih
    · have occupied : (first == "") = false := by simpa using empty
      simp [trimmed, occupied]

/-! ## One line after the other -/

def takeLine (limits : SseLimits) (progress : Progress) : SseLine → Outcome Progress
  | .blank => flushEvent limits progress
  | .other => .ok progress
  | .data value => addData limits value progress

theorem processLine_eq (progress : Progress) (line : String) :
    processLine limits progress line = takeLine limits progress (sseLine line) := by
  unfold processLine sseLine
  split_ifs
  · rfl
  · rfl
  · cases stripStart "data:" line <;> rfl

/-- The payloads that count. -/
def counted (held : List String) (lines : List SseLine) : List String :=
  payloads ((eventData held lines).map trimmed)

/-- The first event begins with the data lines that are there. -/
theorem eventData_head (held : List String) (lines : List SseLine) :
    ∃ more later, eventData held lines = (held ++ more) :: later := by
  induction lines generalizing held with
  | nil => exact ⟨[], [], by simp [eventData]⟩
  | cons line lines ih =>
    cases line with
    | blank => exact ⟨[], _, by simp [eventData]; rfl⟩
    | other => exact ih held
    | data value =>
      obtain ⟨more, later, same⟩ := ih (held ++ [value])
      exact ⟨value :: more, later, by simp [eventData, same]⟩

theorem trimmed_append {values : List String} (some_value : trimmed values ≠ []) (more : List String) :
    trimmed (values ++ more) = trimmed values ++ more := by
  unfold trimmed at some_value ⊢
  rw [List.dropWhile_append]
  simp [some_value]

/-- More data lines make no shorter payload. -/
theorem len_grows (values more : List String) :
    len (joined (trimmed values)) ≤ len (joined (trimmed (values ++ more))) := by
  by_cases empty : trimmed values = []
  · simp [empty]
  · have before := len_joined (trimmed values) empty
    rw [trimmed_append empty]
    have after := len_joined (trimmed values ++ more) (by simp [empty])
    rw [List.map_append, List.sum_append] at after
    omega

theorem flushEvent_ok {held : List String} (data : state.data = joined (trimmed held)) :
    flushEvent limits (state, pushed) =
      if trimmed held = [] then .ok (state, pushed)
      else if limits.maxEvents < state.events + 1 then
        .error (sseError "SSE response contains too many events")
      else .ok ({ state with data := "", events := state.events + 1 },
        pushed ++ [joined (trimmed held)]) := by
  have empty : state.data = "" ↔ trimmed held = [] := by
    rw [data]
    exact joined_eq_empty (trimmed_trimmed held)
  dsimp only [flushEvent]
  by_cases none : trimmed held = []
  · rw [if_pos (empty.mpr none), if_pos none]
  · rw [if_neg (mt empty.mp none), if_neg none]
    by_cases many : limits.maxEvents < state.events + 1
    · rw [if_pos many]
      simp [Outcome.failIf, many, bind, Except.bind]
    · rw [if_neg many, ← data]
      simp [Outcome.failIf, many, bind, Except.bind]

theorem addData_ok {held : List String} (value : String) (data : state.data = joined (trimmed held)) :
    addData limits value (state, pushed) =
      if limits.maxEventBytes < len (joined (trimmed (held ++ [value]))) then
        .error (sseError "SSE event exceeds the configured limit")
      else .ok ({ state with data := joined (trimmed (held ++ [value])) }, pushed) := by
  have empty : state.data = "" ↔ trimmed held = [] := by
    rw [data]
    exact joined_eq_empty (trimmed_trimmed held)
  have whole : (if state.data = "" then value else state.data ++ "\n" ++ value) =
      joined (trimmed (held ++ [value])) := by
    rw [trimmed_concat]
    by_cases none : trimmed held = []
    · rw [if_pos (empty.mpr none), if_pos none]
      by_cases blank : value = "" <;> simp [trimmed, blank]
    · rw [if_neg (mt empty.mp none), if_neg none, joined_concat none, data]
  have size : len state.data + (len value + if state.data = "" then 0 else 1) =
      len (joined (trimmed (held ++ [value]))) := by
    rw [← whole]
    by_cases none : state.data = ""
    · simp [none]
    · have newline : len "\n" = 1 := by decide
      simp only [none, if_false, len_append, newline]
      omega
  dsimp only [addData]
  simp only [size, whole]
  by_cases long : limits.maxEventBytes < len (joined (trimmed (held ++ [value])))
  · simp [Outcome.failIf, long, bind, Except.bind]
  · simp [Outcome.failIf, long, bind, Except.bind]

@[simp] theorem counted_nil (held : List String) :
    counted held [] = if trimmed held = [] then [] else [joined (trimmed held)] := by
  by_cases none : trimmed held = [] <;> simp [counted, eventData, payloads, none]

@[simp] theorem counted_blank (held : List String) (lines : List SseLine) :
    counted held (.blank :: lines) =
      (if trimmed held = [] then [] else [joined (trimmed held)]) ++ counted [] lines := by
  by_cases none : trimmed held = [] <;> simp [counted, eventData, payloads, none]

@[simp] theorem counted_other (held : List String) (lines : List SseLine) :
    counted held (.other :: lines) = counted held lines := rfl

@[simp] theorem counted_data (held : List String) (value : String) (lines : List SseLine) :
    counted held (.data value :: lines) = counted (held ++ [value]) lines := rfl

/-- A payload that is too long already stays so. -/
theorem counted_long {held : List String} {bound : Nat} (long : bound < len (joined (trimmed held)))
    (lines : List SseLine) : ∃ event ∈ counted held lines, bound < len event := by
  obtain ⟨more, later, same⟩ := eventData_head held lines
  have grows := len_grows held more
  have occupied : trimmed (held ++ more) ≠ [] := by
    intro none
    rw [none] at grows
    have nothing : len (joined []) = 0 := by decide
    omega
  refine ⟨joined (trimmed (held ++ more)), ?_, by omega⟩
  simp [counted, same, payloads, occupied]

/-- What the lines decode to, flushed at the end of the stream. -/
def flushed (limits : SseLimits) (progress : Outcome Progress) : Option (List String) :=
  ((progress >>= flushEvent limits).map Prod.snd).toOption

@[simp] theorem flushed_error (e : BridgeError) (next : Progress → Outcome Progress) :
    flushed limits (Except.error e >>= next) = none := rfl

/-- The events are pushed unless one is too long or there are too many. -/
theorem takeLines_decode (lines : List SseLine) {held : List String}
    (data : state.data = joined (trimmed held)) (short : len state.data ≤ limits.maxEventBytes)
    (few : state.events ≤ limits.maxEvents) :
    flushed limits (lines.foldlM (takeLine limits) (state, pushed)) =
      if state.events + (counted held lines).length ≤ limits.maxEvents ∧
          ∀ event ∈ counted held lines, len event ≤ limits.maxEventBytes then
        some (pushed ++ counted held lines)
      else none := by
  induction lines generalizing state pushed held with
  | nil =>
    rw [List.foldlM_nil, counted_nil]
    unfold flushed
    rw [show (pure (state, pushed) >>= flushEvent limits : Outcome Progress) =
      flushEvent limits (state, pushed) from rfl, flushEvent_ok data]
    by_cases none : trimmed held = []
    · rw [if_pos none, if_pos none, if_pos ⟨few, nofun⟩, List.append_nil]
      rfl
    · by_cases many : limits.maxEvents < state.events + 1
      · rw [if_neg none, if_pos many, if_neg none, if_neg]
        · rfl
        · rintro ⟨room, _⟩
          simp only [List.length_singleton] at room
          omega
      · rw [if_neg none, if_neg many, if_neg none, if_pos]
        · rfl
        · refine ⟨by simp only [List.length_singleton]; omega, ?_⟩
          intro event among
          rw [List.mem_singleton.mp among, ← data]
          exact short
  | cons line lines ih =>
    rw [List.foldlM_cons]
    cases line with
    | other => exact ih data short few
    | data value =>
      rw [takeLine, addData_ok value data, counted_data]
      by_cases long : limits.maxEventBytes < len (joined (trimmed (held ++ [value])))
      · rw [if_pos long, flushed_error, if_neg]
        rintro ⟨_, all⟩
        obtain ⟨event, among, longer⟩ := counted_long long lines
        have fits := all event among
        omega
      · rw [if_neg long]
        exact ih rfl (Nat.le_of_not_lt long) few
    | blank =>
      rw [takeLine, flushEvent_ok data, counted_blank]
      by_cases none : trimmed held = []
      · rw [if_pos none, if_pos none, List.nil_append]
        apply ih _ short few
        rw [data, none]
        rfl
      · rw [if_neg none, if_neg none]
        by_cases many : limits.maxEvents < state.events + 1
        · rw [if_pos many, flushed_error, if_neg]
          rintro ⟨room, _⟩
          simp only [List.singleton_append, List.length_cons] at room
          omega
        · rw [if_neg many]
          have fresh : "" = joined (trimmed []) := rfl
          have later : flushed limits (lines.foldlM (takeLine limits)
              (⟨"", state.events + 1⟩, pushed ++ [joined (trimmed held)])) = _ :=
            ih fresh (Nat.zero_le _) (Nat.le_of_not_lt many)
          apply later.trans
          have same : ((state.events + 1) + (counted [] lines).length ≤ limits.maxEvents ∧
              ∀ event ∈ counted [] lines, len event ≤ limits.maxEventBytes) ↔
              (state.events + ([joined (trimmed held)] ++ counted [] lines).length ≤
                limits.maxEvents ∧ ∀ event ∈ [joined (trimmed held)] ++ counted [] lines,
                  len event ≤ limits.maxEventBytes) := by
            rw [← data]
            simp only [List.singleton_append, List.length_cons, List.forall_mem_cons, short, true_and]
            rw [Nat.add_right_comm, Nat.add_assoc]
          simp only [same, List.append_assoc]

/-! ## Chunks -/

/-- A step that only adds to the events pushed before. -/
def Appends (step : Progress → Outcome Progress) : Prop :=
  ∀ state pushed, step (state, pushed) =
    (step (state, [])).map fun progress => (progress.1, pushed ++ progress.2)

theorem appends_ok : Appends .ok := by
  intro state pushed
  simp [Except.map]

theorem appends_error (e : BridgeError) : Appends fun _ => .error e := fun _ _ => rfl

theorem Appends.bind {first later : Progress → Outcome Progress} (appends : Appends first)
    (again : Appends later) : Appends fun progress => first progress >>= later := by
  intro state pushed
  show first (state, pushed) >>= later = (first (state, []) >>= later).map _
  rw [appends state pushed]
  cases first (state, []) with
  | error e => rfl
  | ok progress =>
    show later (progress.1, pushed ++ progress.2) = (later (progress.1, progress.2)).map _
    rw [again progress.1 (pushed ++ progress.2), again progress.1 progress.2]
    cases later (progress.1, []) with
    | error e => rfl
    | ok last => simp [Except.map]

theorem appends_foldlM {α : Type} {step : Progress → α → Outcome Progress}
    (appends : ∀ a, Appends fun progress => step progress a) (items : List α) :
    Appends fun progress => items.foldlM step progress := by
  induction items with
  | nil => exact appends_ok
  | cons a items ih => exact (appends a).bind ih

theorem appends_flushEvent : Appends (flushEvent limits) := by
  intro state pushed
  dsimp only [flushEvent]
  by_cases empty : state.data = ""
  · simp [empty, Except.map]
  · by_cases many : limits.maxEvents < state.events + 1 <;>
      simp [empty, many, Outcome.failIf, bind, Except.bind, Except.map]

theorem appends_addData (value : String) : Appends (addData limits value) := by
  intro state pushed
  dsimp only [addData]
  by_cases long : limits.maxEventBytes < len state.data +
      (len value + if state.data = "" then 0 else 1) <;>
    simp [long, Outcome.failIf, bind, Except.bind, Except.map]

theorem appends_processLine (line : String) :
    Appends fun progress => processLine limits progress line := by
  unfold processLine
  split_ifs
  · exact appends_flushEvent
  · exact appends_ok
  · cases stripStart "data:" line with
    | none => exact appends_ok
    | some value => exact appends_addData _

theorem appends_processBytes (line : Bytes) :
    Appends fun progress => processBytes limits progress line := by
  unfold processBytes
  cases readText (dropReturn line) with
  | none => exact appends_error _
  | some text => exact appends_processLine text

theorem appends_processRest (rest : Bytes) :
    Appends fun progress => processRest limits progress rest := by
  unfold processRest
  split_ifs
  · exact appends_ok
  · cases readText rest with
    | none => exact appends_error _
    | some text => exact appends_processLine _

/-- Every chunk fits into a line, after the unfinished line before it. -/
def Fits (limits : SseLimits) (unfinished : Bytes) (chunks : List Bytes) : Prop :=
  ∀ before chunk after, chunks = before ++ chunk :: after →
    (cut 10 unfinished before.flatten).2.length + chunk.length ≤ limits.maxLineBytes

theorem fits_cons {unfinished chunk : Bytes} {chunks : List Bytes} :
    Fits limits unfinished (chunk :: chunks) ↔
      unfinished.length + chunk.length ≤ limits.maxLineBytes ∧
        Fits limits (cut 10 unfinished chunk).2 chunks := by
  constructor
  · intro fits
    refine ⟨fits [] chunk chunks rfl, ?_⟩
    intro before later after split
    have there := fits (chunk :: before) later after (by rw [split]; rfl)
    rw [List.flatten_cons, cut_append] at there
    exact there
  · rintro ⟨here, fits⟩ before later after split
    cases before with
    | nil =>
      cases split
      exact here
    | cons first before =>
      cases split
      rw [List.flatten_cons, cut_append]
      exact fits before later after rfl

/-- What is left of a decoder after a stream that its lines decode. -/
def afterStream (decoder : SseDecoder) (stream : Bytes) : Outcome (SseDecoder × List String) :=
  ((cut 10 decoder.buffer stream).1.foldlM (processBytes decoder.limits) (decoder.toSseEvents, [])).map
    fun progress => ({ decoder with
      toSseEvents := progress.1
      buffer := (cut 10 decoder.buffer stream).2
      streamBytes := decoder.streamBytes + stream.length }, progress.2)

theorem push_fits {chunk : Bytes} (free : 10 ∉ decoder.buffer)
    (room : decoder.buffer.length + chunk.length ≤ decoder.limits.maxLineBytes)
    (short : decoder.streamBytes + chunk.length ≤ decoder.limits.maxStreamBytes) :
    decoder.push chunk = afterStream decoder chunk := by
  have small : decoder.streamBytes + chunk.length < 2 ^ 64 :=
    Nat.lt_of_le_of_lt short decoder.limits.representable
  unfold SseDecoder.push afterStream
  simp only [Outcome.failIf, ge_iff_le, Nat.not_le.mpr small, gt_iff_lt, Nat.not_lt.mpr short,
    Nat.not_lt.mpr room, if_false, cut_resume free]
  cases (cut 10 decoder.buffer chunk).1.foldlM (processBytes decoder.limits)
    (decoder.toSseEvents, []) <;> rfl

theorem push_fails {chunk : Bytes}
    (beyond : decoder.limits.maxLineBytes < decoder.buffer.length + chunk.length ∨
      decoder.limits.maxStreamBytes < decoder.streamBytes + chunk.length) :
    ∃ e, decoder.push chunk = .error e := by
  unfold SseDecoder.push
  by_cases wraps : decoder.streamBytes + chunk.length ≥ 2 ^ 64
  · exact ⟨_, by simp only [Outcome.failIf, wraps, if_true]; rfl⟩
  by_cases long : decoder.streamBytes + chunk.length > decoder.limits.maxStreamBytes
  · exact ⟨_, by simp only [Outcome.failIf, wraps, long, if_true, if_false]; rfl⟩
  have line : decoder.buffer.length + chunk.length > decoder.limits.maxLineBytes := by omega
  exact ⟨_, by simp only [Outcome.failIf, wraps, long, line, if_true, if_false]; rfl⟩

theorem appends_lines (lines : List Bytes) :
    Appends fun progress => lines.foldlM (processBytes limits) progress :=
  appends_foldlM (fun line => appends_processBytes line) lines

/-- A stream can be taken in two parts. -/
theorem afterStream_append (decoder : SseDecoder) (first later : Bytes) :
    afterStream decoder (first ++ later) = (do
      let (next, pushed) ← afterStream decoder first
      let (last, more) ← afterStream next later
      .ok (last, pushed ++ more)) := by
  unfold afterStream
  rw [cut_append, List.foldlM_append]
  cases (cut 10 decoder.buffer first).1.foldlM (processBytes decoder.limits)
    (decoder.toSseEvents, []) with
  | error e => rfl
  | ok progress =>
    show Except.map _ (List.foldlM _ (progress.1, progress.2) _) = _
    have split := @appends_lines decoder.limits
      (cut 10 (cut 10 decoder.buffer first).2 later).1 progress.1 progress.2
    simp only at split
    rw [split]
    simp only [Except.map, bind, Except.bind]
    cases List.foldlM (processBytes decoder.limits) (progress.1, [])
        (cut 10 (cut 10 decoder.buffer first).2 later).1 with
    | error e => rfl
    | ok last => simp [Nat.add_assoc]

@[simp] theorem afterStream_nil (decoder : SseDecoder) : afterStream decoder [] = .ok (decoder, []) := rfl

/-- Chunks that fit are taken like the stream they make up. -/
theorem pushAll_fits (chunks : List Bytes) (free : 10 ∉ decoder.buffer)
    (fits : Fits decoder.limits decoder.buffer chunks)
    (short : decoder.streamBytes + chunks.flatten.length ≤ decoder.limits.maxStreamBytes) :
    decoder.pushAll chunks = afterStream decoder chunks.flatten := by
  induction chunks generalizing decoder with
  | nil => rfl
  | cons chunk chunks ih =>
    obtain ⟨room, later⟩ := fits_cons.mp fits
    rw [List.flatten_cons, List.length_append] at short
    rw [List.flatten_cons, afterStream_append, SseDecoder.pushAll, push_fits free room (by omega)]
    unfold afterStream
    cases (cut 10 decoder.buffer chunk).1.foldlM (processBytes decoder.limits)
      (decoder.toSseEvents, []) with
    | error e => rfl
    | ok progress =>
      have next := @ih { decoder with
        toSseEvents := progress.1
        buffer := (cut 10 decoder.buffer chunk).2
        streamBytes := decoder.streamBytes + chunk.length } (rest_free free chunk) later
        (by simp only; omega)
      show ((SseDecoder.pushAll _ chunks) >>= _) = _
      rw [next]
      rfl

/-- A chunk that does not fit, or a stream that is too long, fails. -/
theorem pushAll_fails (chunks : List Bytes) (free : 10 ∉ decoder.buffer)
    (beyond : ¬ (Fits decoder.limits decoder.buffer chunks ∧
      decoder.streamBytes + chunks.flatten.length ≤ decoder.limits.maxStreamBytes))
    (counted : decoder.streamBytes ≤ decoder.limits.maxStreamBytes) :
    ∃ e, decoder.pushAll chunks = .error e := by
  induction chunks generalizing decoder with
  | nil =>
    refine absurd ⟨?_, by simpa using counted⟩ beyond
    intro before chunk after split
    simp at split
  | cons chunk chunks ih =>
    by_cases room : decoder.buffer.length + chunk.length ≤ decoder.limits.maxLineBytes
    · by_cases short : decoder.streamBytes + chunk.length ≤ decoder.limits.maxStreamBytes
      · rw [SseDecoder.pushAll, push_fits free room short]
        unfold afterStream
        cases (cut 10 decoder.buffer chunk).1.foldlM (processBytes decoder.limits)
          (decoder.toSseEvents, []) with
        | error e => exact ⟨e, rfl⟩
        | ok progress =>
          have next := @ih { decoder with
            toSseEvents := progress.1
            buffer := (cut 10 decoder.buffer chunk).2
            streamBytes := decoder.streamBytes + chunk.length } (rest_free free chunk) (by
              rintro ⟨fits, all⟩
              apply beyond
              refine ⟨fits_cons.mpr ⟨room, fits⟩, ?_⟩
              simp only [List.flatten_cons, List.length_append] at all ⊢
              omega) short
          obtain ⟨e, fails⟩ := next
          refine ⟨e, ?_⟩
          show ((SseDecoder.pushAll _ chunks) >>= _) = _
          rw [fails]
          rfl
      · obtain ⟨e, fails⟩ := @push_fails decoder chunk (.inr (by omega))
        exact ⟨e, by rw [SseDecoder.pushAll, fails]; rfl⟩
    · obtain ⟨e, fails⟩ := @push_fails decoder chunk (.inl (by omega))
      exact ⟨e, by rw [SseDecoder.pushAll, fails]; rfl⟩

/-- Chunks that fit hold no line that does not. -/
theorem fits_lines {unfinished : Bytes} {chunks : List Bytes} (fits : Fits limits unfinished chunks)
    (short : unfinished.length ≤ limits.maxLineBytes) :
    (∀ line ∈ (cut 10 unfinished chunks.flatten).1, line.length + 1 ≤ limits.maxLineBytes) ∧
      (cut 10 unfinished chunks.flatten).2.length ≤ limits.maxLineBytes := by
  induction chunks generalizing unfinished with
  | nil => exact ⟨by simp [cut], short⟩
  | cons chunk chunks ih =>
    obtain ⟨room, later⟩ := fits_cons.mp fits
    have rest := @rest_length _ _ 10 unfinished chunk
    obtain ⟨lines, last⟩ := ih later (by omega)
    rw [List.flatten_cons, cut_append]
    refine ⟨?_, last⟩
    intro line among
    rcases List.mem_append.mp among with first | after
    · have inside := line_length first
      omega
    · exact lines line after

/-! ## A whole stream -/

@[simp] theorem toOption_bind {α β : Type} (first : Outcome α) (next : α → Outcome β) :
    (first >>= next).toOption = first.toOption.bind fun a => (next a).toOption := by
  cases first <;> rfl

@[simp] theorem toOption_ok {α : Type} (a : α) : (.ok a : Outcome α).toOption = some a := rfl

@[simp] theorem toOption_error {α : Type} (e : BridgeError) :
    (.error e : Outcome α).toOption = none := rfl

/-- Lines that are read one by one are read like all of them at once. -/
theorem foldlM_processBytes (lines : List Bytes) (progress : Progress) :
    (lines.foldlM (processBytes limits) progress).toOption =
      (lines.mapM fun line => readText (dropReturn line)).bind fun texts =>
        ((texts.map sseLine).foldlM (takeLine limits) progress).toOption := by
  induction lines generalizing progress with
  | nil => rfl
  | cons line lines ih =>
    rw [List.foldlM_cons, toOption_bind, List.mapM_cons]
    cases read : readText (dropReturn line) with
    | none => simp [processBytes, read]
    | some text =>
      have later : ∀ texts, (((text :: texts).map sseLine).foldlM (takeLine limits) progress).toOption =
          (takeLine limits progress (sseLine text)).toOption.bind fun next =>
            ((texts.map sseLine).foldlM (takeLine limits) next).toOption := by
        intro texts
        rw [List.map_cons, List.foldlM_cons, toOption_bind]
      simp only [processBytes, read, processLine_eq, ih]
      cases split : lines.mapM fun line => readText (dropReturn line) with
      | none => cases (takeLine limits progress (sseLine text)).toOption <;> rfl
      | some texts => exact (later texts).symm

/-- The unfinished line of a stream, if any. -/
def lastLine (ended : String → String) (rest : Bytes) : Option (List String) :=
  if rest = [] then some [] else (readText rest).map fun text => [ended text]

theorem processRest_eq (rest : Bytes) (progress : Progress) :
    (processRest limits progress rest).toOption =
      (lastLine trimReturns rest).bind fun texts =>
        ((texts.map sseLine).foldlM (takeLine limits) progress).toOption := by
  unfold processRest lastLine
  by_cases ended : rest = []
  · simp only [ended, if_true]
    rfl
  · simp only [ended, if_false]
    cases readText rest with
    | none => rfl
    | some text =>
      simp only [processLine_eq, Option.map_some, Option.bind_some, List.map_cons, List.map_nil,
        List.foldlM_cons, List.foldlM_nil]
      cases takeLine limits progress (sseLine (trimReturns text)) <;> rfl

theorem streamLines_eq (ended : String → String) (stream : Bytes) :
    streamLines ended stream =
      ((cut 10 [] stream).1.mapM fun line => readText (dropReturn line)).bind fun complete =>
        (lastLine ended (cut 10 [] stream).2).map fun rest => (complete ++ rest).map sseLine := rfl

theorem flushed_eq (progress : Outcome Progress) :
    flushed limits progress =
      progress.toOption.bind fun state => ((flushEvent limits state).map Prod.snd).toOption := by
  cases progress <;> rfl

/-- What the decoder still holds is pushed after what it has pushed. -/
theorem finish_eq (decoder : SseDecoder) (pushed : List String) :
    (decoder.finish >>= fun last => .ok (pushed ++ last)) =
      (processRest decoder.limits (decoder.toSseEvents, pushed) decoder.buffer >>=
        flushEvent decoder.limits).map Prod.snd := by
  have appends : Appends fun progress =>
      processRest decoder.limits progress decoder.buffer >>= flushEvent decoder.limits :=
    (appends_processRest decoder.buffer).bind appends_flushEvent
  have split := appends decoder.toSseEvents pushed
  simp only at split
  rw [split]
  unfold SseDecoder.finish
  cases processRest decoder.limits (decoder.toSseEvents, []) decoder.buffer with
  | error e => rfl
  | ok progress =>
    show (flushEvent decoder.limits progress >>= _) >>= _ = ((flushEvent decoder.limits progress).map _).map _
    cases flushEvent decoder.limits progress <;> rfl

/-- The events of chunks that fit. -/
theorem decodeChunks_fits {chunks : List Bytes} (fits : Fits limits [] chunks)
    (short : chunks.flatten.length ≤ limits.maxStreamBytes) :
    (decodeChunks limits chunks).toOption = trimmedReference limits chunks.flatten := by
  have within : WithinLines limits chunks.flatten := ⟨short, fits_lines fits (Nat.zero_le _)⟩
  have taken := @pushAll_fits { limits } chunks List.not_mem_nil fits (by simpa using short)
  have whole : (decodeChunks limits chunks).toOption =
      ((cut 10 [] chunks.flatten).1.foldlM (processBytes limits) ({}, [])).toOption.bind
        fun progress => flushed limits (processRest limits progress (cut 10 [] chunks.flatten).2) := by
    unfold decodeChunks
    rw [taken]
    unfold afterStream
    cases (cut 10 [] chunks.flatten).1.foldlM (processBytes limits) ({}, []) with
    | error e => rfl
    | ok progress =>
      have last := finish_eq
        ⟨progress.1, (cut 10 [] chunks.flatten).2, 0 + chunks.flatten.length, limits⟩ progress.2
      exact congrArg Except.toOption last
  unfold trimmedReference decoding
  rw [whole, if_pos within, foldlM_processBytes, streamLines_eq]
  cases (cut 10 [] chunks.flatten).1.mapM fun line => readText (dropReturn line) with
  | none => rfl
  | some complete =>
    have flush : ∀ progress, flushed limits (processRest limits progress (cut 10 [] chunks.flatten).2) =
        (lastLine trimReturns (cut 10 [] chunks.flatten).2).bind fun rest =>
          flushed limits ((rest.map sseLine).foldlM (takeLine limits) progress) := by
      intro progress
      rw [flushed_eq, processRest_eq]
      cases lastLine trimReturns (cut 10 [] chunks.flatten).2 with
      | none => rfl
      | some rest => rw [Option.bind_some, Option.bind_some, flushed_eq]
    simp only [Option.bind_some, flush]
    cases lastLine trimReturns (cut 10 [] chunks.flatten).2 with
    | none => cases ((complete.map sseLine).foldlM (takeLine limits) ({}, [])).toOption <;> rfl
    | some rest =>
      have joins : (((complete.map sseLine).foldlM (takeLine limits) ({}, [])).toOption.bind
          fun progress => flushed limits ((rest.map sseLine).foldlM (takeLine limits) progress)) =
          flushed limits (((complete ++ rest).map sseLine).foldlM (takeLine limits) ({}, [])) := by
        rw [List.map_append, List.foldlM_append]
        cases (complete.map sseLine).foldlM (takeLine limits) ({}, []) <;> rfl
      have decoded := @takeLines_decode limits {} []
        ((complete ++ rest).map sseLine) [] rfl (Nat.zero_le _) (Nat.zero_le _)
      simp only [Option.bind_some, Option.map_some, joins, decoded, Nat.zero_add, List.nil_append]
      rfl

end ImagegenBridge.CodexResponses
