import ImagegenBridge.Sdk.PushedLines

/-!
# Where the two event streams agree

The Python decoder forgets the name and the size of an event at a blank line without data,
the TypeScript decoder keeps both. It also reads a byte-order mark away at the start of any
line and loses the events of a chunk in which it fails.
-/

namespace ImagegenBridge.Sdk

open Text
open CodexResponses (Bytes readText readText_nil)

/-! ## Fields -/

/-- The value a line gives a field. -/
def valueOf (field line : String) : Option String :=
  if (partitionField line).1 = field then some (partitionField line).2 else none

theorem partition_eq (text : List Char) :
    partition text =
      ((text.idxOf? ':').elim text text.take, (text.idxOf? ':').isSome,
        (text.idxOf? ':').elim [] fun index => text.drop (index + 1)) := by
  induction text with
  | nil => rfl
  | cons c rest ih =>
    by_cases colon : c = ':'
    · simp [partition, colon, List.idxOf?_cons]
    · rw [partition, if_neg colon, ih, List.idxOf?_cons]
      simp only [beq_iff_eq, colon, if_false]
      cases rest.idxOf? ':' <;> simp

/-- Both SDKs read the same field of a line. -/
theorem sliceField_eq (line : String) : sliceField line = partitionField line := by
  simp only [sliceField, partitionField, partition_eq]
  cases line.toList.idxOf? ':' <;> simp [startsWith]

theorem valueOf_comment {field line : String} (comment : startsWith line.toList [':'] = true)
    (given : field ≠ "") : valueOf field line = none := by
  have nameless : (partitionField line).1 = "" := by
    cases chars : line.toList with
    | nil => simp [chars, startsWith] at comment
    | cons c rest =>
      simp only [chars, startsWith, List.isPrefixOf_cons_cons, List.isPrefixOf_nil_left,
        Bool.and_true, beq_iff_eq] at comment
      simp [partitionField, partition, chars, ← comment]
  rw [valueOf, nameless, if_neg (Ne.symm given)]

/-! ## Texts of lines -/

theorem readText_length {line : Bytes} {text : String} (reads : readText line = some text) :
    len text = line.length := by
  simp only [readText, String.fromUTF8?] at reads
  split at reads
  · cases reads
    rw [len, ← String.size_toByteArray]
    rfl
  · cases reads

theorem readText_blank {line : Bytes} (reads : readText line = some "") : line = [] := by
  have length := readText_length reads
  exact List.length_eq_zero_iff.mp length.symm

theorem dropMark_mark (text : String) : dropMark ("\uFEFF" ++ text) = text := by
  simp [dropMark]

theorem dropMark_cases (text : String) :
    dropMark text = text ∨ text = "\uFEFF" ++ dropMark text := by
  cases chars : text.toList with
  | nil => exact .inl (by simp [dropMark, chars])
  | cons c rest =>
    by_cases mark : c = '\uFEFF'
    · refine .inr (String.toList_injective ?_)
      simp [dropMark, chars, mark]
    · exact .inl (by simp [dropMark, chars, mark])

/-! ## What the lines since a point say -/

section Gathering

variable (read : Bytes → Option String)

def valuesOf (field : String) (lines : List Bytes) : List String :=
  lines.filterMap fun line => (read line).bind (valueOf field)

/-- The name lines give an event. -/
def nameOf (lines : List Bytes) : String := (valuesOf read "event" lines).getLast?.getD "message"

def dataOf (lines : List Bytes) : List String := valuesOf read "data" lines

/-- The bytes of a line that count toward its event. -/
def weight (line : Bytes) : Nat :=
  match read line with
  | none => 0
  | some text => if text = "" ∨ startsWith text.toList [':'] = true then 0 else line.length

def bytesOf (lines : List Bytes) : Nat := (lines.map (weight read)).sum

def gather (lines : List Bytes) : EventState where
  eventName := nameOf read lines
  data := dataOf read lines
  size := bytesOf read lines

variable {read} {lines : List Bytes} {line : Bytes} {text : String}

theorem bytesOf_append (lines : List Bytes) (line : Bytes) :
    bytesOf read (lines ++ [line]) = bytesOf read lines + weight read line := by
  simp [bytesOf]

theorem dataOf_append (lines : List Bytes) (line : Bytes) :
    dataOf read (lines ++ [line]) =
      dataOf read lines ++ ((read line).bind (valueOf "data")).toList := by
  cases found : (read line).bind (valueOf "data") <;> simp [dataOf, valuesOf, found]

theorem nameOf_append (lines : List Bytes) (line : Bytes) :
    nameOf read (lines ++ [line]) =
      ((read line).bind (valueOf "event")).getD (nameOf read lines) := by
  cases found : (read line).bind (valueOf "event") <;> simp [nameOf, valuesOf, found]

/-- A comment changes nothing. -/
theorem gather_comment (reads : read line = some text)
    (comment : startsWith text.toList [':'] = true) :
    gather read (lines ++ [line]) = gather read lines := by
  simp [gather, nameOf_append, dataOf_append, bytesOf_append, weight, reads, comment,
    valueOf_comment comment]

/-- A field line adds its bytes and sets its field. -/
theorem gather_field (reads : read line = some text) (given : text ≠ "")
    (field : ¬ startsWith text.toList [':'] = true) :
    gather read (lines ++ [line]) = {
      eventName :=
        if (partitionField text).1 = "event" then (partitionField text).2 else nameOf read lines
      data :=
        if (partitionField text).1 = "data" then dataOf read lines ++ [(partitionField text).2]
        else dataOf read lines
      size := bytesOf read lines + line.length } := by
  simp only [gather, nameOf_append, dataOf_append, bytesOf_append, weight, reads, given, field,
    valueOf, Option.bind_some]
  split <;> split <;> simp_all

end Gathering

variable {limits : SseLimits}

/-- A line of the Python decoder that is not blank. -/
theorem iterLine_gather {since : List Bytes} {line : Bytes} {text : String}
    (reads : readText line = some text) (given : text ≠ "")
    (within : bytesOf readText since ≤ limits.maximumEventBytes) :
    iterLine limits (gather readText since) text =
      if bytesOf readText (since ++ [line]) > limits.maximumEventBytes then .error .eventLimit
      else .ok (none, gather readText (since ++ [line])) := by
  rw [iterLine, if_neg given]
  by_cases comment : startsWith text.toList [':'] = true
  · have same : bytesOf readText (since ++ [line]) = bytesOf readText since :=
      congrArg EventState.size (gather_comment reads comment)
    rw [if_pos comment, gather_comment reads comment, same, if_neg (Nat.not_lt.mpr within)]
  · have added : bytesOf readText (since ++ [line]) = bytesOf readText since + line.length :=
      congrArg EventState.size (gather_field reads given comment)
    rw [if_neg comment, gather_field reads given comment, added, readText_length reads]
    by_cases big : (gather readText since).size + line.length > limits.maximumEventBytes
    · rw [if_pos big]
      exact (if_pos big).symm
    · rw [if_neg big]
      refine Eq.trans ?_ (if_neg big).symm
      by_cases named : (partitionField text).1 = "event"
      · simp [named, gather]
      · by_cases filled : (partitionField text).1 = "data" <;> simp [named, filled, gather]

/-- A line of the TypeScript decoder that is not blank. -/
theorem readLine_gather {since : List Bytes} {line : Bytes} {text : String}
    (reads : decodeText line = some text) (given : text ≠ "")
    (within : bytesOf decodeText since ≤ limits.maximumEventBytes) :
    readLine limits (gather decodeText since) line =
      if bytesOf decodeText (since ++ [line]) > limits.maximumEventBytes then .error .eventLimit
      else .ok (none, gather decodeText (since ++ [line])) := by
  simp only [readLine, reads, given, if_false]
  by_cases comment : startsWith text.toList [':'] = true
  · have same : bytesOf decodeText (since ++ [line]) = bytesOf decodeText since :=
      congrArg EventState.size (gather_comment reads comment)
    rw [if_pos comment, gather_comment reads comment, same, if_neg (Nat.not_lt.mpr within)]
  · have added : bytesOf decodeText (since ++ [line]) = bytesOf decodeText since + line.length :=
      congrArg EventState.size (gather_field reads given comment)
    rw [if_neg comment, gather_field reads given comment, added, sliceField_eq]
    rfl

/-! ## What a stream has said -/

/-- The lines since the last blank line, the lines since the last that ended an event, and
whether an event has ended in the chunk that is read. -/
structure Tally where
  sinceBlank : List Bytes := []
  sinceEvent : List Bytes := []
  ended : Bool := false

namespace Tally

abbrev data (tally : Tally) : List String := dataOf readText tally.sinceBlank

def next (tally : Tally) : LineStep → Tally
  | .line bytes =>
    if bytes = [] then
      if tally.data = [] then { tally with sinceBlank := [] } else ⟨[], [], true⟩
    else { tally with
      sinceBlank := tally.sinceBlank ++ [bytes], sinceEvent := tally.sinceEvent ++ [bytes] }
  | .chunkRead => { tally with ended := false }
  | .tooLong => tally

end Tally

/-- Either decoder fails at the step: the line is too long, it is no UTF-8, or the lines since
the last blank line exceed the limit of an event. -/
def Fails (limits : SseLimits) (tally : Tally) : LineStep → Prop
  | .line bytes => readText bytes = none ∨
      limits.maximumEventBytes < bytesOf readText (tally.sinceBlank ++ [bytes])
  | .chunkRead => False
  | .tooLong => True

/-- A property of what was said and of the steps to come, at every point of a stream up to
the one that fails. -/
def Throughout (limits : SseLimits) (property : Tally → List LineStep → Prop) :
    Tally → List LineStep → Prop
  | tally, [] => property tally []
  | tally, step :: rest => property tally (step :: rest) ∧
      (¬ Fails limits tally step → Throughout limits property (tally.next step) rest)

theorem throughout_and {first second : Tally → List LineStep → Prop} (tally : Tally)
    (steps : List LineStep) :
    Throughout limits (fun tally steps => first tally steps ∧ second tally steps) tally steps ↔
      Throughout limits first tally steps ∧ Throughout limits second tally steps := by
  induction steps generalizing tally with
  | nil => exact Iff.rfl
  | cons step rest ih =>
    simp only [Throughout, ih]
    grind

/-- A blank line or the end of the stream ends an event. -/
def EndsEvent (tally : Tally) (steps : List LineStep) : Prop :=
  tally.data ≠ [] ∧ (steps = [] ∨ steps.head? = some (.line []))

/-- Where an event ends, no name is left from lines before the last blank one. -/
def NamesMatch (tally : Tally) (steps : List LineStep) : Prop :=
  EndsEvent tally steps →
    nameOf readText tally.sinceBlank = nameOf decodeText tally.sinceEvent

/-- The lines since the last event exceed the limit only where those since the last blank
line do. -/
def SizesMatch (limits : SseLimits) (tally : Tally) (steps : List LineStep) : Prop :=
  ∀ bytes, steps.head? = some (.line bytes) →
    (bytesOf readText (tally.sinceBlank ++ [bytes]) ≤ limits.maximumEventBytes ↔
      bytesOf decodeText (tally.sinceEvent ++ [bytes]) ≤ limits.maximumEventBytes)

/-- No event has ended in a chunk that fails. -/
def EventsKept (limits : SseLimits) (tally : Tally) (steps : List LineStep) : Prop :=
  ∀ step, steps.head? = some step → Fails limits tally step → tally.ended = false

/-- Without the byte-order mark it begins with, a line is neither blank nor data. -/
def InertMark (bytes : Bytes) : Prop :=
  ∀ text, readText bytes = some ("\uFEFF" ++ text) → text ≠ "" ∧ valueOf "data" text = none

def MarksInert (_ : Tally) (steps : List LineStep) : Prop :=
  ∀ bytes, steps.head? = some (.line bytes) → InertMark bytes

/-! ## Lines that begin with a mark -/

theorem decodeText_none {line : Bytes} : decodeText line = none ↔ readText line = none := by
  simp [decodeText]

/-- An inert mark makes no line blank. -/
theorem decodeText_blank {line : Bytes} (inert : InertMark line)
    (decodes : decodeText line = some "") : line = [] := by
  obtain ⟨text, reads, dropped⟩ := Option.map_eq_some_iff.mp decodes
  rcases dropMark_cases text with same | marked
  · exact readText_blank (by rw [reads, ← same, dropped])
  · rw [marked] at reads
    exact absurd dropped (inert _ reads).1

/-- A line without a mark is inert. -/
theorem inert_plain {line : Bytes} {text : String} (reads : readText line = some text)
    (plain : text.toList.head? ≠ some '\uFEFF') : InertMark line := by
  intro rest marked
  rw [reads] at marked
  obtain rfl := Option.some.inj marked
  simp at plain

theorem valueOf_mark (text : String) : valueOf "data" ("\uFEFF" ++ text) = none := by
  rw [valueOf, if_neg]
  intro named
  have chars := congrArg String.toList named
  simp [partitionField, partition] at chars

/-- An inert mark hides no data. -/
theorem data_inert {line : Bytes} (inert : InertMark line) :
    (decodeText line).bind (valueOf "data") = (readText line).bind (valueOf "data") := by
  cases reads : readText line with
  | none => simp [decodeText, reads]
  | some text =>
    simp only [decodeText, reads, Option.map_some, Option.bind_some]
    rcases dropMark_cases text with same | marked
    · rw [same]
    · rw [marked] at reads
      rw [(inert _ reads).2, marked, valueOf_mark]

/-! ## Decoded streams -/

theorem after_inj {held : List SseEvent} {first second : Decoded} :
    first.after held = second.after held ↔ first = second := by
  cases first
  cases second
  simp [Decoded.after]

@[simp] theorem after_nil (decoded : Decoded) : decoded.after [] = decoded := rfl

theorem after_after (first second : List SseEvent) (decoded : Decoded) :
    (decoded.after second).after first = decoded.after (first ++ second) := by
  simp [Decoded.after]

/-- A failure comes no earlier than the point decoding resumes from. -/
theorem relay_place (steps : List LineStep) (state : EventState) (place : Place)
    (held : List SseEvent) {failed : Place} {fault : Fault}
    (fails : (relay limits state place held steps).failure = some (failed, fault)) :
    place.lines ≤ failed.lines := by
  induction steps generalizing state place held with
  | nil => simp [relay] at fails
  | cons step rest ih =>
    cases step with
    | chunkRead => exact ih state { place with chunks := place.chunks + 1 } [] fails
    | tooLong =>
      cases fails
      exact Nat.le_refl _
    | line bytes =>
      rw [relay] at fails
      cases reads : readLine limits state bytes with
      | error fault =>
        rw [reads] at fails
        cases fails
        exact Nat.le_refl _
      | ok found =>
        rw [reads] at fails
        exact Nat.le_of_succ_le (ih _ _ _ fails)

theorem iterSse_place (steps : List LineStep) (state : EventState) (place : Place)
    {failed : Place} {fault : Fault}
    (fails : (iterSseFrom limits state place steps).failure = some (failed, fault)) :
    place.lines ≤ failed.lines := by
  induction steps generalizing state place with
  | nil => simp [iterSseFrom] at fails
  | cons step rest ih =>
    cases step with
    | chunkRead => exact ih state { place with chunks := place.chunks + 1 } fails
    | tooLong =>
      cases fails
      exact Nat.le_refl _
    | line bytes =>
      rw [iterSseFrom] at fails
      cases reads : readText bytes with
      | none =>
        rw [reads] at fails
        cases fails
        exact Nat.le_refl _
      | some text =>
        cases takes : iterLine limits state text with
        | error fault =>
          simp only [reads, takes] at fails
          cases fails
          exact Nat.le_refl _
        | ok found =>
          simp only [reads, takes] at fails
          exact Nat.le_of_succ_le (ih _ _ fails)

/-- Held events are handed out first or lost. -/
theorem relay_held (steps : List LineStep) (state : EventState) (place : Place)
    (held : List SseEvent) :
    (relay limits state place held steps).events = [] ∨
      held <+: (relay limits state place held steps).events := by
  induction steps generalizing state place held with
  | nil => exact .inr (List.prefix_append _ _)
  | cons step rest ih =>
    cases step with
    | chunkRead => exact .inr (List.prefix_append _ _)
    | tooLong => exact .inl rfl
    | line bytes =>
      rw [relay]
      cases readLine limits state bytes with
      | error fault => exact .inl rfl
      | ok found =>
        refine (ih found.2 _ _).imp_right ?_
        exact (List.prefix_append _ _).trans

/-- Decoders that hand out different events at one point differ in what they hand out. -/
theorem events_differ {first second : SseEvent} (differ : first ≠ second) (steps : List LineStep)
    (state : EventState) (place : Place) (held : List SseEvent) (decoded : Decoded) :
    decoded.after (held ++ [first]) ≠ relay limits state place (held ++ [second]) steps := by
  intro same
  have events := congrArg Decoded.events same
  have begins : held ++ [first] <+: (relay limits state place (held ++ [second]) steps).events := by
    rw [← events]
    exact List.prefix_append _ _
  have handed := @relay_held limits steps state place (held ++ [second])
  rcases handed with nothing | held_first
  · rw [nothing] at begins
    simp at begins
  · have equal := List.prefix_of_prefix_length_le begins held_first (by simp)
    have tails := (List.prefix_append_right_inj held).mp equal
    exact differ (List.cons_prefix_cons.mp tails).1

/-! ## Both decoders side by side -/

/-- The decoders have the same data, are within the limit of an event, and the events held
are those that ended in the chunk. -/
structure Level (limits : SseLimits) (tally : Tally) (held : List SseEvent) : Prop where
  data : dataOf decodeText tally.sinceEvent = tally.data
  blank : bytesOf readText tally.sinceBlank ≤ limits.maximumEventBytes
  event : bytesOf decodeText tally.sinceEvent ≤ limits.maximumEventBytes
  held : tally.ended = false ↔ held = []

def Matches (limits : SseLimits) (tally : Tally) (steps : List LineStep) : Prop :=
  NamesMatch tally steps ∧ SizesMatch limits tally steps ∧ EventsKept limits tally steps

/-- From any point on, what is handed out is the same exactly where names and sizes match and
no event is lost. -/
def AgreeFrom (limits : SseLimits) (steps : List LineStep) : Prop :=
  ∀ tally place held, Level limits tally held → Throughout limits MarksInert tally steps →
    ((iterSseFrom limits (gather readText tally.sinceBlank) place steps).after held =
        relay limits (gather decodeText tally.sinceEvent) place held steps ↔
      Throughout limits (Matches limits) tally steps)

section Steps

variable {tally : Tally} {held : List SseEvent} {step : LineStep} {rest : List LineStep}

theorem event_same (level : Level limits tally held) :
    (gather readText tally.sinceBlank).event? = (gather decodeText tally.sinceEvent).event? ↔
      (tally.data ≠ [] →
        nameOf readText tally.sinceBlank = nameOf decodeText tally.sinceEvent) := by
  have same := level.data
  by_cases nothing : tally.data = []
  · rw [nothing] at same
    have nothing' : dataOf readText tally.sinceBlank = [] := nothing
    simp [EventState.event?, gather, same, nothing']
  · have something : dataOf readText tally.sinceBlank ≠ [] := nothing
    simp [EventState.event?, gather, same, something]

/-- Where both decoders fail, they agree if no event was held. -/
theorem fails_iff (level : Level limits tally held) (fails : Fails limits tally step)
    (names : NamesMatch tally (step :: rest)) (sizes : SizesMatch limits tally (step :: rest))
    (failure : Option (Place × Fault)) :
    Decoded.after held ⟨[], failure⟩ = ⟨[], failure⟩ ↔
      Throughout limits (Matches limits) tally (step :: rest) := by
  have lost : Decoded.after held ⟨[], failure⟩ = ⟨[], failure⟩ ↔ tally.ended = false := by
    rw [level.held]
    simp [Decoded.after]
  rw [lost, Throughout]
  constructor
  · intro kept
    exact ⟨⟨names, sizes, fun _ _ _ => kept⟩, fun passes => absurd fails passes⟩
  · rintro ⟨⟨_, _, kept⟩, _⟩
    exact kept step rfl fails

theorem throughout_step (passes : ¬ Fails limits tally step)
    (here : Matches limits tally (step :: rest)) :
    Throughout limits (Matches limits) tally (step :: rest) ↔
      Throughout limits (Matches limits) (tally.next step) rest := by
  rw [Throughout]
  exact ⟨fun matched => matched.2 passes, fun matched => ⟨here, fun _ => matched⟩⟩

theorem agree_nil : AgreeFrom limits [] := by
  intro tally place held level inert
  have same := event_same level
  have ends : Throughout limits (Matches limits) tally [] ↔
      (tally.data ≠ [] →
        nameOf readText tally.sinceBlank = nameOf decodeText tally.sinceEvent) := by
    simp [Throughout, Matches, NamesMatch, EndsEvent, SizesMatch, EventsKept]
  rw [ends, ← same]
  simp only [iterSseFrom, relay, Decoded.after, Decoded.mk.injEq, List.append_cancel_left_eq,
    and_true]
  constructor
  · intro lists
    have heads := congrArg List.head? lists
    simpa using heads
  · intro events
    rw [events]

theorem agree_chunk (later : AgreeFrom limits rest) : AgreeFrom limits (.chunkRead :: rest) := by
  intro tally place held level inert
  have passes : ¬ Fails limits tally .chunkRead := id
  have here : Matches limits tally (.chunkRead :: rest) := by
    simp [Matches, NamesMatch, EndsEvent, SizesMatch, EventsKept, Fails]
  have next : Level limits (tally.next .chunkRead) [] :=
    ⟨level.data, level.blank, level.event, by simp [Tally.next]⟩
  have onward := later (tally.next .chunkRead) { place with chunks := place.chunks + 1 } [] next
    (inert.2 passes)
  rw [iterSseFrom, relay, after_inj, throughout_step passes here,
    ← after_nil (iterSseFrom _ _ _ _)]
  exact onward

theorem agree_tooLong : AgreeFrom limits (.tooLong :: rest) := by
  intro tally place held level inert
  have fails : Fails limits tally .tooLong := trivial
  refine fails_iff level fails ?_ ?_ _
  · simp [NamesMatch, EndsEvent]
  · simp [SizesMatch]

theorem weight_nil (read : Bytes → Option String) (blank : read [] = some "") :
    weight read [] = 0 := by
  simp [weight, blank]

@[simp] theorem decodeText_nil : decodeText [] = some "" := by
  simp [decodeText, dropMark]

/-- A blank line without data resets the Python decoder alone, one with data both. -/
theorem agree_blank (later : AgreeFrom limits rest) : AgreeFrom limits (.line [] :: rest) := by
  intro tally place held level inert
  have blank : bytesOf readText (tally.sinceBlank ++ [[]]) = bytesOf readText tally.sinceBlank := by
    rw [bytesOf_append, weight_nil _ readText_nil, Nat.add_zero]
  have event :
      bytesOf decodeText (tally.sinceEvent ++ [[]]) = bytesOf decodeText tally.sinceEvent := by
    rw [bytesOf_append, weight_nil _ decodeText_nil, Nat.add_zero]
  have passes : ¬ Fails limits tally (.line []) := by
    simp [Fails, blank, level.blank]
  have sizes : SizesMatch limits tally (.line [] :: rest) := by
    intro bytes first
    cases first
    rw [blank, event]
    exact iff_of_true level.blank level.event
  have kept : EventsKept limits tally (.line [] :: rest) := by
    intro step first fails
    cases first
    exact absurd fails passes
  have same := event_same level
  have iterates : iterSseFrom limits (gather readText tally.sinceBlank) place (.line [] :: rest) =
      (iterSseFrom limits {} { place with lines := place.lines + 1 } rest).after
        (gather readText tally.sinceBlank).event?.toList := by
    simp [iterSseFrom, iterLine]
  rw [iterates, after_after, relay]
  by_cases nothing : tally.data = []
  · have unnamed : NamesMatch tally (.line [] :: rest) := fun ends => absurd nothing ends.1
    have silent : (gather readText tally.sinceBlank).event? = none := if_pos nothing
    have reads : readLine limits (gather decodeText tally.sinceEvent) [] =
        .ok (none, gather decodeText tally.sinceEvent) := by
      simp [readLine, gather, level.data, nothing]
    have steps : tally.next (.line []) = { tally with sinceBlank := [] } := by
      rw [Tally.next, if_pos rfl, if_pos nothing]
    have next : Level limits { tally with sinceBlank := [] } held :=
      ⟨level.data.trans nothing, Nat.zero_le _, level.event, level.held⟩
    rw [throughout_step passes ⟨unnamed, sizes, kept⟩, steps, silent, reads]
    simp only [Option.toList_none, List.append_nil]
    exact later _ _ held next (steps ▸ inert.2 passes)
  · have first : (gather readText tally.sinceBlank).event? =
        some ⟨nameOf readText tally.sinceBlank, "\n".intercalate tally.data⟩ := if_neg nothing
    have second : (gather decodeText tally.sinceEvent).event? =
        some ⟨nameOf decodeText tally.sinceEvent, "\n".intercalate tally.data⟩ := by
      simp [EventState.event?, gather, level.data, nothing]
    have reads : readLine limits (gather decodeText tally.sinceEvent) [] =
        .ok ((gather decodeText tally.sinceEvent).event?, {}) := by
      simp [readLine, gather, level.data, nothing]
    have steps : tally.next (.line []) = ⟨[], [], true⟩ := by
      rw [Tally.next, if_pos rfl, if_neg nothing]
    rw [first, reads, second]
    simp only [Option.toList_some]
    by_cases names : nameOf readText tally.sinceBlank = nameOf decodeText tally.sinceEvent
    · have next : Level limits ⟨[], [], true⟩
          (held ++ [⟨nameOf decodeText tally.sinceEvent, "\n".intercalate tally.data⟩]) :=
        ⟨rfl, Nat.zero_le _, Nat.zero_le _, by simp⟩
      rw [throughout_step passes ⟨fun _ => names, sizes, kept⟩, steps, names]
      exact later _ _ _ next (steps ▸ inert.2 passes)
    · refine iff_of_false (events_differ ?_ _ _ _ _ _) ?_
      · intro same
        exact names (congrArg SseEvent.name same)
      · rintro ⟨⟨matched, _⟩, _⟩
        exact names (matched ⟨nothing, .inr rfl⟩)

theorem iterSse_field {since : List Bytes} {bytes : Bytes} {text : String} {place : Place}
    (reads : readText bytes = some text) (given : text ≠ "")
    (within : bytesOf readText since ≤ limits.maximumEventBytes) :
    iterSseFrom limits (gather readText since) place (.line bytes :: rest) =
      if bytesOf readText (since ++ [bytes]) > limits.maximumEventBytes then
        ⟨[], some (place, .eventLimit)⟩
      else iterSseFrom limits (gather readText (since ++ [bytes]))
        { place with lines := place.lines + 1 } rest := by
  simp only [iterSseFrom, reads, iterLine_gather reads given within]
  by_cases big : bytesOf readText (since ++ [bytes]) > limits.maximumEventBytes <;> simp [big]

theorem relay_field {since : List Bytes} {bytes : Bytes} {text : String} {place : Place}
    (reads : decodeText bytes = some text) (given : text ≠ "")
    (within : bytesOf decodeText since ≤ limits.maximumEventBytes) :
    relay limits (gather decodeText since) place held (.line bytes :: rest) =
      if bytesOf decodeText (since ++ [bytes]) > limits.maximumEventBytes then
        ⟨[], some (place, .eventLimit)⟩
      else relay limits (gather decodeText (since ++ [bytes]))
        { place with lines := place.lines + 1 } held rest := by
  simp only [relay, readLine_gather reads given within]
  by_cases big : bytesOf decodeText (since ++ [bytes]) > limits.maximumEventBytes <;> simp [big]

/-- A line that is not blank is counted and read, or fails. -/
theorem agree_field (later : AgreeFrom limits rest) {bytes : Bytes} (given : bytes ≠ []) :
    AgreeFrom limits (.line bytes :: rest) := by
  intro tally place held level inert
  have names : NamesMatch tally (.line bytes :: rest) := by
    simp [NamesMatch, EndsEvent, given]
  have mark : InertMark bytes := inert.1 bytes rfl
  cases reads : readText bytes with
  | none =>
    have fails : Fails limits tally (.line bytes) := .inl reads
    have sizes : SizesMatch limits tally (.line bytes :: rest) := by
      intro line first
      cases first
      rw [bytesOf_append, bytesOf_append, weight, weight, reads, decodeText_none.mpr reads]
      exact iff_of_true level.blank level.event
    have iterates : iterSseFrom limits (gather readText tally.sinceBlank) place
        (.line bytes :: rest) = ⟨[], some (place, .invalidUtf8)⟩ := by
      simp only [iterSseFrom, reads]
    have relays : relay limits (gather decodeText tally.sinceEvent) place held
        (.line bytes :: rest) = ⟨[], some (place, .invalidUtf8)⟩ := by
      simp only [relay, readLine, decodeText_none.mpr reads]
    rw [iterates, relays]
    exact fails_iff level fails names sizes _
  | some text =>
    have written : text ≠ "" := by
      rintro rfl
      exact given (readText_blank reads)
    have decodes : decodeText bytes = some (dropMark text) := by
      rw [decodeText, reads, Option.map_some]
    have kept : dropMark text ≠ "" := by
      intro blank
      exact given (decodeText_blank mark (decodes.trans (congrArg some blank)))
    rw [iterSse_field reads written level.blank, relay_field decodes kept level.event]
    by_cases sizes : SizesMatch limits tally (.line bytes :: rest)
    · have matched := sizes bytes rfl
      by_cases big : bytesOf readText (tally.sinceBlank ++ [bytes]) > limits.maximumEventBytes
      · have fails : Fails limits tally (.line bytes) := .inr big
        have big' :
            bytesOf decodeText (tally.sinceEvent ++ [bytes]) > limits.maximumEventBytes := by
          omega
        rw [if_pos big, if_pos big']
        exact fails_iff level fails names sizes _
      · have small : bytesOf decodeText (tally.sinceEvent ++ [bytes]) ≤
            limits.maximumEventBytes := by
          omega
        have passes : ¬ Fails limits tally (.line bytes) := by
          simp [Fails, reads, Nat.not_lt.mp big]
        have spared : EventsKept limits tally (.line bytes :: rest) := by
          intro step first fails
          cases first
          exact absurd fails passes
        have steps : tally.next (.line bytes) = { tally with
            sinceBlank := tally.sinceBlank ++ [bytes]
            sinceEvent := tally.sinceEvent ++ [bytes] } := if_neg given
        have next : Level limits (tally.next (.line bytes)) held := by
          rw [steps]
          refine ⟨?_, Nat.not_lt.mp big, small, level.held⟩
          rw [dataOf_append, Tally.data, dataOf_append, data_inert mark, level.data]
        rw [if_neg big, if_neg (Nat.not_lt.mpr small),
          throughout_step passes ⟨names, sizes, spared⟩]
        have onward := later _ { place with lines := place.lines + 1 } held next (inert.2 passes)
        rw [steps] at onward ⊢
        exact onward
    · refine iff_of_false ?_ fun matched => sizes matched.1.2.1
      intro same
      have failures := congrArg Decoded.failure same
      by_cases big : bytesOf readText (tally.sinceBlank ++ [bytes]) > limits.maximumEventBytes
      · by_cases big' : bytesOf decodeText (tally.sinceEvent ++ [bytes]) > limits.maximumEventBytes
        · refine sizes fun line first => ?_
          cases first
          omega
        · rw [if_pos big, if_neg big'] at failures
          have late := relay_place rest _ _ _ failures.symm
          exact absurd late (Nat.not_succ_le_self _)
      · by_cases big' : bytesOf decodeText (tally.sinceEvent ++ [bytes]) > limits.maximumEventBytes
        · rw [if_neg big, if_pos big'] at failures
          have late := iterSse_place rest _ _ failures
          exact absurd late (Nat.not_succ_le_self _)
        · refine sizes fun line first => ?_
          cases first
          omega

theorem agree_from (steps : List LineStep) : AgreeFrom limits steps := by
  induction steps with
  | nil => exact agree_nil
  | cons step rest later =>
    cases step with
    | chunkRead => exact agree_chunk later
    | tooLong => exact agree_tooLong
    | line bytes =>
      by_cases blank : bytes = []
      · subst blank
        exact agree_blank later
      · exact agree_field later blank

end Steps

/-- The steps of a stream. -/
abbrev stepsOf (limits : SseLimits) (chunks : List Bytes) : List LineStep :=
  iterSseLines limits.maximumLineBytes {} chunks

/-- Where byte-order marks are inert, the SDKs agree on a stream exactly if the names and the
sizes that the TypeScript decoder keeps over blank lines make no difference and no event ends
in the chunk in which the stream fails. -/
theorem streams_agree_iff (limits : SseLimits) (chunks : List Bytes)
    (inert : Throughout limits MarksInert {} (stepsOf limits chunks)) :
    iterSse limits chunks = streamEvents limits chunks ↔
      Throughout limits NamesMatch {} (stepsOf limits chunks) ∧
        Throughout limits (SizesMatch limits) {} (stepsOf limits chunks) ∧
        Throughout limits (EventsKept limits) {} (stepsOf limits chunks) := by
  have start : Level limits {} [] := ⟨rfl, Nat.zero_le _, Nat.zero_le _, by simp⟩
  rw [streamEvents_eq, iterSse, ← throughout_and, ← throughout_and]
  exact agree_from (stepsOf limits chunks) {} {} [] start inert

theorem small_positive : 0 < 64 := by decide

theorem small_safe : 64 < 2 ^ 53 := by decide

def smallLimits : SseLimits where
  maximumLineBytes := 64
  maximumEventBytes := 64
  line_positive := small_positive
  event_positive := small_positive
  line_safe := small_safe
  event_safe := small_safe

/-- `event: error`, a blank line, `data: 1`, a blank line. -/
def namedBefore : Bytes :=
  [101, 118, 101, 110, 116, 58, 32, 101, 114, 114, 111, 114, 10, 10,
    100, 97, 116, 97, 58, 32, 49, 10, 10]

/-- `data: 1` and a blank line, cut before the last byte. -/
def plainChunks : List Bytes := [[100, 97, 116, 97, 58, 32, 49, 13, 10], [10]]

theorem plain_stream_agrees :
    iterSse smallLimits plainChunks = streamEvents smallLimits plainChunks := by
  have steps : stepsOf smallLimits plainChunks =
      [.line [100, 97, 116, 97, 58, 32, 49], .chunkRead, .line [], .chunkRead] := rfl
  have reads : readText [100, 97, 116, 97, 58, 32, 49] = some "data: 1" := by decide +kernel
  have inert := inert_plain reads (by decide +kernel)
  refine (streams_agree_iff smallLimits plainChunks ?_).mpr ⟨?_, ?_, ?_⟩ <;> rw [steps]
  · refine ⟨?_, fun _ => ⟨?_, fun _ => ⟨?_, fun _ => ⟨?_, fun _ => ?_⟩⟩⟩⟩ <;>
      intro bytes first <;> cases first
    · exact inert
    · exact inert_plain readText_nil (by decide)
  · refine ⟨?_, fun _ => ⟨?_, fun _ => ⟨?_, fun _ => ⟨?_, fun _ => ?_⟩⟩⟩⟩ <;> intro _ <;>
      decide +kernel
  · refine ⟨?_, fun _ => ⟨?_, fun _ => ⟨?_, fun _ => ⟨?_, fun _ => ?_⟩⟩⟩⟩ <;>
      intro bytes first <;> cases first <;> decide +kernel
  · refine ⟨?_, fun _ => ⟨?_, fun _ => ⟨?_, fun _ => ⟨?_, fun _ => ?_⟩⟩⟩⟩ <;>
      intro step first fails <;> cases first
    · rfl
    · rfl
    · rfl
    · cases fails

/-- With a mark that is not inert agreement can come about by chance: the line that is only
a mark ends the event for one decoder, the blank line after it for the other. -/
example :
    iterSse smallLimits [[100, 97, 116, 97, 58, 32, 49, 10, 0xEF, 0xBB, 0xBF, 10, 10]] =
      streamEvents smallLimits [[100, 97, 116, 97, 58, 32, 49, 10, 0xEF, 0xBB, 0xBF, 10, 10]] := by
  rfl

theorem kept_name_differs :
    iterSse smallLimits [namedBefore] = ⟨[⟨"message", "1"⟩], none⟩ ∧
      streamEvents smallLimits [namedBefore] = ⟨[⟨"error", "1"⟩], none⟩ ∧
      iterSse smallLimits [namedBefore] ≠ streamEvents smallLimits [namedBefore] := by
  have python : iterSse smallLimits [namedBefore] = ⟨[⟨"message", "1"⟩], none⟩ := by
    decide +kernel
  have typescript : streamEvents smallLimits [namedBefore] = ⟨[⟨"error", "1"⟩], none⟩ := by
    decide +kernel
  refine ⟨python, typescript, ?_⟩
  rw [python, typescript]
  decide

end ImagegenBridge.Sdk
