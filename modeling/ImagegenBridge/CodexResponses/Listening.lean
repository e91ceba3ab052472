import ImagegenBridge.CodexResponses.Calls

/-!
# What a response stream says

The events of a stream are heard one after the other, up to where reading stops. What they
say does not depend on how the stream is read: the final images they carry, the last
failure they report and whether they complete the response.
-/

namespace ImagegenBridge.CodexResponses

variable {config : CallConfig}

/-! ## What an event says -/

def eventKind (event : Json) : String := (event.index "type").asStr.getD ""

def Completes (event : Json) : Prop := eventKind event = "response.completed"

def ReportsFailure (event : Json) : Prop :=
  eventKind event = "response.failed" ∨ eventKind event = "response.incomplete" ∨
    eventKind event = "error"

instance (event : Json) : Decidable (Completes event) := inferInstanceAs (Decidable (_ = _))

instance (event : Json) : Decidable (ReportsFailure event) := inferInstanceAs (Decidable (_ ∨ _))

/-- The upstream reports how the response ended. -/
def Terminal (event : Json) : Prop := Completes event ∨ ReportsFailure event

instance (event : Json) : Decidable (Terminal event) := inferInstanceAs (Decidable (_ ∨ _))

def itemImage (item : Json) : Option String :=
  if (item.index "type").isStr "image_generation_call" then nonEmpty (item.index "result").asStr
  else none

/-- The items of an event that are output. -/
def outputItems (event : Json) : List Json :=
  if eventKind event = "response.output_item.done" then [event.index "item"]
  else if Completes event then ((event.index "response").index "output").asArray.getD []
  else []

def eventImages (event : Json) : List String := (outputItems event).filterMap itemImage

/-- The events that texts hold. -/
def eventsOf (parse : String → Option Json) (heard : List String) : List Json :=
  heard.filterMap fun data =>
    if Text.trim data = "[DONE]" ∨ Text.isBlank data then none else parse data

def finalImages (events : List Json) : List String := events.flatMap eventImages

/-- The last failure that events report. -/
def lastFailure (events : List Json) : Option BridgeError :=
  (events.filter fun event => ReportsFailure event).getLast?.map eventFailure

/-- The final image is one of the images, and every image is it. -/
structure Holds (images : List String) (state : EventState) : Prop where
  every : ∀ image ∈ images, state.finalImage = some image
  one : ∀ image, state.finalImage = some image → image ∈ images

/-- What a state has taken from the events before it. -/
structure Tells (events : List Json) (state : EventState) : Prop where
  completed : state.completed = true ↔ ∃ event ∈ events, Completes event
  failure : state.failure = lastFailure events
  held : Holds (finalImages events) state

/-! ## One event -/

/-- Every error about the stream itself. -/
def Unreadable (error : BridgeError) : Prop := ∃ message, error = protocolError message

theorem Unreadable.code {error : BridgeError} (unreadable : Unreadable error) :
    error.code = .protocol := by
  obtain ⟨message, rfl⟩ := unreadable
  rfl

theorem Unreadable.retryable {error : BridgeError} (unreadable : Unreadable error) :
    error.retryable = false := by
  obtain ⟨message, rfl⟩ := unreadable
  rfl

theorem Unreadable.known {error : BridgeError} (unreadable : Unreadable error) :
    error.outcomeUnknown = false := by
  obtain ⟨message, rfl⟩ := unreadable
  rfl

theorem checkBase64Size_error {value : String} {maximum : Nat} {error : BridgeError}
    (failed : checkBase64Size value maximum = .error error) : Unreadable error := by
  obtain ⟨_, rfl⟩ := (Outcome.failIf_error ..).mp failed
  exact ⟨_, rfl⟩

theorem captureImageItem_error {item : Json} {state : EventState} {maximum : Nat}
    {error : BridgeError} (failed : captureImageItem item state maximum = .error error) :
    Unreadable error := by
  unfold captureImageItem at failed
  rcases Outcome.bind_error.mp failed with result | ⟨next, _, prompt⟩
  · unfold captureResult at result
    split at result
    · cases result
    · rcases Outcome.bind_error.mp result with size | ⟨_, _, rest⟩
      · exact checkBase64Size_error size
      · rcases Outcome.bind_error.mp rest with conflict | ⟨_, _, impossible⟩
        · obtain ⟨_, rfl⟩ := (Outcome.failIf_error ..).mp conflict
          exact ⟨_, rfl⟩
        · cases impossible
  · unfold captureRevisedPrompt at prompt
    split at prompt
    · cases prompt
    · rcases Outcome.bind_error.mp prompt with long | ⟨_, _, impossible⟩
      · obtain ⟨_, rfl⟩ := (Outcome.failIf_error ..).mp long
        exact ⟨_, rfl⟩
      · cases impossible

theorem takeOutputItem_error {item : Json} {state : EventState} {maximum : Nat}
    {error : BridgeError} (failed : takeOutputItem maximum state item = .error error) :
    Unreadable error := by
  unfold takeOutputItem at failed
  dsimp only at failed
  split_ifs at failed
  exact captureImageItem_error failed

theorem takePartialImage_error {event : Json} {state : EventState} {maximum : Nat}
    {error : BridgeError} (failed : takePartialImage event state maximum = .error error) :
    Unreadable error := by
  unfold takePartialImage at failed
  split at failed
  · cases failed
  · rcases Outcome.bind_error.mp failed with size | ⟨_, _, rest⟩
    · exact checkBase64Size_error size
    · rcases Outcome.bind_error.mp rest with index | ⟨_, _, impossible⟩
      · unfold explicitPartialIndex at index
        split at index
        · cases index
        · rcases Outcome.bind_error.mp index with large | ⟨_, _, impossible⟩
          · obtain ⟨_, rfl⟩ := (Outcome.failIf_error ..).mp large
            exact ⟨_, rfl⟩
          · cases impossible
      · cases impossible

theorem quietly_error {next : Outcome EventState} {error : BridgeError}
    (failed : quietly next = .error error) : next = .error error := by
  cases next with
  | error e =>
    cases failed
    rfl
  | ok state => cases failed

theorem foldlM_takeOutputItem_error {items : List Json} {state : EventState} {maximum : Nat}
    {error : BridgeError} (failed : items.foldlM (takeOutputItem maximum) state = .error error) :
    Unreadable error := by
  induction items generalizing state with
  | nil => cases failed
  | cons item items ih =>
    rw [List.foldlM_cons] at failed
    rcases Outcome.bind_error.mp failed with now | ⟨next, _, later⟩
    · exact takeOutputItem_error now
    · exact ih later

theorem takeEvent_error {event : Json} {state : EventState} {maximum : Nat} {error : BridgeError}
    (failed : takeEvent event state maximum = .error error) : Unreadable error := by
  unfold takeEvent at failed
  split at failed
  · exact takeOutputItem_error (quietly_error failed)
  · exact takePartialImage_error failed
  · rcases Outcome.bind_error.mp (quietly_error failed) with items | ⟨_, _, impossible⟩
    · exact foldlM_takeOutputItem_error items
    · cases impossible
  · cases failed
  · cases failed
  · cases failed
  · cases failed

theorem processEvent_error {data : String} {state : EventState} {error : BridgeError}
    (failed : processEvent config.parse data state config.maxBase64Chars = .error error) :
    Unreadable error := by
  unfold processEvent at failed
  split at failed
  · cases failed
  · split at failed
    · cases failed
      exact ⟨_, rfl⟩
    · exact takeEvent_error failed

/-! ## Final images -/

theorem Holds.same {images : List String} {state state' : EventState} (holds : Holds images state)
    (same : state'.finalImage = state.finalImage) : Holds images state' := by
  constructor
  · rw [same]
    exact holds.every
  · rw [same]
    exact holds.one

/-- An item adds its image, if any, and changes nothing else that is told. -/
theorem takeOutputItem_tells {item : Json} {state next : EventState} {maximum : Nat}
    {images : List String} (taken : takeOutputItem maximum state item = .ok next)
    (holds : Holds images state) :
    Holds (images ++ (itemImage item).toList) next ∧ next.completed = state.completed ∧
      next.failure = state.failure := by
  unfold takeOutputItem at taken
  dsimp only at taken
  unfold itemImage
  split_ifs at taken ⊢ with call
  · unfold captureImageItem at taken
    obtain ⟨middle, result, prompt⟩ := Outcome.bind_ok.mp taken
    have later : next.finalImage = middle.finalImage ∧ next.completed = middle.completed ∧
        next.failure = middle.failure := by
      unfold captureRevisedPrompt at prompt
      split at prompt
      · cases prompt
        exact ⟨rfl, rfl, rfl⟩
      · obtain ⟨_, _, rest⟩ := Outcome.bind_ok.mp prompt
        cases rest
        exact ⟨rfl, rfl, rfl⟩
    obtain ⟨final, completed, failure⟩ := later
    unfold captureResult at result
    split at result
    · rename_i nothing
      cases result
      rw [nothing, Option.toList_none, List.append_nil]
      exact ⟨holds.same final, completed, failure⟩
    · rename_i image there
      obtain ⟨_, _, rest⟩ := Outcome.bind_ok.mp result
      obtain ⟨_, agree, rest⟩ := Outcome.bind_ok.mp rest
      rw [Outcome.failIf_ok] at agree
      cases rest
      rw [there, Option.toList_some]
      refine ⟨⟨?_, ?_⟩, completed, failure⟩
      · intro other among
        rw [final]
        rcases List.mem_append.mp among with before | now
        · have known : state.finalImage = some other := holds.every other before
          have unequal : ¬ other ≠ image := by
            intro different
            apply agree
            have recorded : (recordOutputItem item state).finalImage = some other := known
            rw [recorded]
            simpa using different
          rw [not_not.mp unequal]
        · rw [List.mem_singleton.mp now]
      · intro other there'
        rw [final] at there'
        obtain rfl := Option.some.inj there'
        simp
  · cases taken
    rw [Option.toList_none, List.append_nil]
    exact ⟨holds.same rfl, rfl, rfl⟩

theorem foldlM_takeOutputItem_tells {items : List Json} {state next : EventState} {maximum : Nat}
    {images : List String} (taken : items.foldlM (takeOutputItem maximum) state = .ok next)
    (holds : Holds images state) :
    Holds (images ++ items.filterMap itemImage) next ∧ next.completed = state.completed ∧
      next.failure = state.failure := by
  induction items generalizing state images with
  | nil =>
    cases taken
    rw [List.filterMap_nil, List.append_nil]
    exact ⟨holds, rfl, rfl⟩
  | cons item items ih =>
    rw [List.foldlM_cons] at taken
    obtain ⟨middle, first, later⟩ := Outcome.bind_ok.mp taken
    obtain ⟨held, completed, failure⟩ := takeOutputItem_tells first holds
    obtain ⟨held', completed', failure'⟩ := ih later held
    rw [List.append_assoc] at held'
    refine ⟨?_, completed'.trans completed, failure'.trans failure⟩
    have split : (item :: items).filterMap itemImage =
        (itemImage item).toList ++ items.filterMap itemImage := by
      rw [List.filterMap_cons]
      cases itemImage item <;> rfl
    rw [split]
    exact held'

/-! ## The events of a stream -/

theorem tells_nil : Tells [] {} where
  completed := by simp
  failure := rfl
  held := ⟨by simp [finalImages], by simp⟩

theorem lastFailure_concat (events : List Json) (event : Json) :
    lastFailure (events ++ [event]) =
      if ReportsFailure event then some (eventFailure event) else lastFailure events := by
  unfold lastFailure
  rw [List.filter_append]
  by_cases fails : ReportsFailure event <;> simp [fails]

/-- An event that completes nothing and reports no failure is told by its images. -/
theorem Tells.quiet {events : List Json} {event : Json} {state next : EventState}
    (tells : Tells events state) (open_ended : ¬ Completes event) (sound : ¬ ReportsFailure event)
    (completed : next.completed = state.completed) (failure : next.failure = state.failure)
    (held : Holds (finalImages events ++ eventImages event) next) :
    Tells (events ++ [event]) next where
  completed := by
    rw [completed, tells.completed]
    simp [open_ended]
  failure := by rw [failure, tells.failure, lastFailure_concat, if_neg sound]
  held := by simpa [finalImages] using held

/-- Only output items and completions carry images. -/
theorem eventImages_eq_nil {event : Json} (item : eventKind event ≠ "response.output_item.done")
    (open_ended : ¬ Completes event) : eventImages event = [] := by
  unfold eventImages outputItems
  rw [if_neg item, if_neg open_ended, List.filterMap_nil]

/-- A failure is told besides what was told before. -/
theorem Tells.failed {events : List Json} {event : Json} {state : EventState}
    (tells : Tells events state) (fails : ReportsFailure event) :
    Tells (events ++ [event]) { state with failure := some (eventFailure event) } := by
  have open_ended : ¬ Completes event := by
    intro completes
    simp [ReportsFailure, show eventKind event = _ from completes] at fails
  have no_item : eventKind event ≠ "response.output_item.done" := by
    intro item
    simp [ReportsFailure, item] at fails
  constructor
  · show state.completed = true ↔ _
    rw [tells.completed]
    simp [open_ended]
  · rw [lastFailure_concat, if_pos fails]
  · have images : finalImages (events ++ [event]) = finalImages events := by
      simp [finalImages, eventImages_eq_nil no_item open_ended]
    rw [images]
    exact tells.held.same rfl

theorem takeEvent_tells {event : Json} {events : List Json} {state next : EventState}
    {maximum : Nat} {image : Option PartialImageData}
    (taken : takeEvent event state maximum = .ok (next, image)) (tells : Tells events state) :
    Tells (events ++ [event]) next := by
  have untold : eventKind event ≠ "response.output_item.done" → ¬ Completes event →
      ¬ ReportsFailure event → next.completed = state.completed → next.failure = state.failure →
      next.finalImage = state.finalImage → Tells (events ++ [event]) next := by
    intro item open_ended sound completed failure same
    apply tells.quiet open_ended sound completed failure
    rw [eventImages_eq_nil item open_ended, List.append_nil]
    exact tells.held.same same
  unfold takeEvent at taken
  split at taken
  · rename_i kind
    change eventKind event = _ at kind
    have images : eventImages event = (itemImage (event.index "item")).toList := by
      unfold eventImages outputItems
      rw [if_pos kind]
      cases one : itemImage (event.index "item") <;> simp [one]
    obtain ⟨middle, item, same⟩ := Outcome.bind_ok.mp taken
    cases same
    obtain ⟨held, completed, failure⟩ := takeOutputItem_tells item tells.held
    rw [← images] at held
    exact tells.quiet (by simp [Completes, kind]) (by simp [ReportsFailure, kind]) completed failure
      held
  · rename_i kind
    change eventKind event = _ at kind
    have kept : next.completed = state.completed ∧ next.failure = state.failure ∧
        next.finalImage = state.finalImage := by
      unfold takePartialImage at taken
      split at taken
      · cases taken
        exact ⟨rfl, rfl, rfl⟩
      · obtain ⟨_, _, rest⟩ := Outcome.bind_ok.mp taken
        obtain ⟨_, _, rest⟩ := Outcome.bind_ok.mp rest
        cases rest
        exact ⟨rfl, rfl, rfl⟩
    exact untold (by simp [kind]) (by simp [Completes, kind]) (by simp [ReportsFailure, kind]) kept.1
      kept.2.1 kept.2.2
  · rename_i kind
    change eventKind event = _ at kind
    obtain ⟨middle, items, same⟩ := Outcome.bind_ok.mp taken
    cases same
    obtain ⟨last, all, same⟩ := Outcome.bind_ok.mp items
    cases same
    obtain ⟨held, completed, failure⟩ := foldlM_takeOutputItem_tells all (tells.held.same rfl)
    constructor
    · show last.completed = true ↔ _
      rw [completed]
      simp [Completes, kind]
    · show last.failure = _
      rw [failure, lastFailure_concat, if_neg (by simp [ReportsFailure, kind])]
      exact tells.failure
    · have images : eventImages event =
          (((event.index "response").index "output").asArray.getD []).filterMap itemImage := by
        unfold eventImages outputItems
        have completes : Completes event := kind
        rw [if_neg (by simp [kind]), if_pos completes]
      have told : finalImages (events ++ [event]) = finalImages events ++ eventImages event := by
        simp [finalImages]
      rw [told, images]
      exact held.same rfl
  · rename_i kind
    cases taken
    exact tells.failed (.inl kind)
  · rename_i kind
    cases taken
    exact tells.failed (.inr (.inl kind))
  · rename_i kind
    cases taken
    exact tells.failed (.inr (.inr kind))
  · rename_i item preview completed failed incomplete error
    cases taken
    refine untold item completed ?_ rfl rfl rfl
    rintro (kind | kind | kind)
    · exact failed kind
    · exact incomplete kind
    · exact error kind

theorem eventsOf_concat (parse : String → Option Json) (heard : List String) (data : String) :
    eventsOf parse (heard ++ [data]) = eventsOf parse heard ++ eventsOf parse [data] := by
  simp [eventsOf, List.filterMap_append]

theorem processEvent_tells {data : String} {heard : List String} {state next : EventState}
    {image : Option PartialImageData}
    (processed : processEvent config.parse data state config.maxBase64Chars = .ok (next, image))
    (tells : Tells (eventsOf config.parse heard) state) :
    Tells (eventsOf config.parse (heard ++ [data])) next := by
  rw [eventsOf_concat]
  unfold processEvent at processed
  split at processed
  · rename_i silent
    cases processed
    have none_there : eventsOf config.parse [data] = [] := by simp [eventsOf, silent]
    rw [none_there, List.append_nil]
    exact tells
  · rename_i spoken
    split at processed
    · cases processed
    · rename_i event parsed
      have there : eventsOf config.parse [data] = [event] := by simp [eventsOf, spoken, parsed]
      rw [there]
      exact takeEvent_tells processed tells

/-! ## Listening -/

/-- Why nothing more is read. -/
inductive Stop where
  | unreadable
  | disconnected
  | interrupted
  | finished (state : EventState)

variable (config)

/-- The texts that are heard, up to one that cannot be taken, and what is known then. -/
def listenEvents : Consumption → List String → List String × Except Stop Consumption
  | consumption, [] => ([], .ok consumption)
  | (state, consumer), data :: rest =>
    match processEvent config.parse data state config.maxBase64Chars with
    | .error _ => ([data], .error .unreadable)
    | .ok (next, image) =>
      match (if image.isSome then forwardPartial consumer else .ok consumer) with
      | .error _ => ([data], .error .disconnected)
      | .ok consumer =>
        let later := listenEvents (next, consumer) rest
        (data :: later.1, later.2)

def listenChunks : SseDecoder → Consumption → List Bytes →
    List String × Except Stop (SseDecoder × Consumption)
  | decoder, consumption, [] => ([], .ok (decoder, consumption))
  | decoder, consumption, chunk :: chunks =>
    match decoder.push chunk with
    | .error _ => ([], .error .unreadable)
    | .ok (decoder, pushed) =>
      match listenEvents config consumption pushed with
      | (heard, .error stop) => (heard, .error stop)
      | (heard, .ok consumption) => (heard ++ (listenChunks decoder consumption chunks).1,
          (listenChunks decoder consumption chunks).2)

/-- All that is heard of a stream, and why it is no more. -/
def listen (stream : ResponseStream) : List String × Stop :=
  match listenChunks config { limits := config.sseLimits } ({}, stream.consumer) stream.chunks with
  | (heard, .error stop) => (heard, stop)
  | (heard, .ok (decoder, consumption)) =>
    match stream.ending with
    | .failed _ | .cancelled | .elapsed => (heard, .interrupted)
    | .ended => match decoder.finish with
      | .error _ => (heard, .unreadable)
      | .ok last => match listenEvents config consumption last with
        | (more, .error stop) => (heard ++ more, stop)
        | (more, .ok (state, _)) => (heard ++ more, .finished state)

def consumerGone : BridgeError :=
  (BridgeError.new .cancelled
    "image event consumer disconnected during Codex generation").withProvider "codex-responses"

variable {config}

/-- What a failing step says about the stream. -/
def Stops (error : BridgeError) : Stop → Prop
  | .unreadable => Unreadable error
  | .disconnected => error = consumerGone
  | .interrupted => error.outcomeUnknown = true ∧ error.retryable = false
  | .finished _ => False

/-- What is heard of a run: how it ends, or the state it has told everything to. -/
def Hears {α : Type} (ran : Outcome α) (events : List String → List Json) (state : α → EventState)
    (listened : List String × Except Stop α) : Prop :=
  match listened.2 with
  | .error stop => ∃ error, ran = .error error ∧ Stops error stop
  | .ok next => ran = .ok next ∧ Tells (events listened.1) (state next)

theorem forwardPartial_error {consumer : Option Nat} {error : BridgeError}
    (failed : forwardPartial consumer = .error error) : error = consumerGone := by
  unfold forwardPartial at failed
  split at failed
  · cases failed
  · cases failed
    rfl
  · cases failed

theorem processAndForwardEvent_eq (state : EventState) (consumer : Option Nat) (data : String) :
    processAndForwardEvent config (state, consumer) data =
      processEvent config.parse data state config.maxBase64Chars >>= fun result =>
        (if result.2.isSome then forwardPartial consumer else .ok consumer).map fun consumer =>
          (result.1, consumer) := by
  dsimp only [processAndForwardEvent]
  cases processEvent config.parse data state config.maxBase64Chars with
  | error e => rfl
  | ok result =>
    obtain ⟨next, image⟩ := result
    cases image with
    | none => rfl
    | some image => cases forwardPartial consumer <;> rfl

theorem listenEvents_hears (pushed : List String) {heard : List String} {consumption : Consumption}
    (tells : Tells (eventsOf config.parse heard) consumption.1) :
    Hears (pushed.foldlM (processAndForwardEvent config) consumption)
      (fun more => eventsOf config.parse (heard ++ more)) Prod.fst
      (listenEvents config consumption pushed) := by
  induction pushed generalizing heard consumption with
  | nil =>
    refine ⟨rfl, ?_⟩
    show Tells (eventsOf config.parse (heard ++ [])) consumption.1
    rw [List.append_nil]
    exact tells
  | cons data rest ih =>
    obtain ⟨state, consumer⟩ := consumption
    rw [List.foldlM_cons, listenEvents, processAndForwardEvent_eq]
    cases processed : processEvent config.parse data state config.maxBase64Chars with
    | error e => exact ⟨e, rfl, processEvent_error processed⟩
    | ok result =>
      obtain ⟨next, image⟩ := result
      have told := processEvent_tells processed tells
      cases forwarded : (if image.isSome then forwardPartial consumer else .ok consumer) with
      | error e =>
        have gone : e = consumerGone := by
          split_ifs at forwarded
          exact forwardPartial_error forwarded
        simp only [forwarded]
        refine ⟨e, ?_, gone⟩
        simp only [bind, Except.bind, forwarded]
        rfl
      | ok consumer =>
        have later := @ih (heard ++ [data]) (next, consumer) told
        simp only [bind, Except.bind, forwarded, Except.map]
        unfold Hears at later ⊢
        simp only [List.append_assoc, List.singleton_append] at later
        exact later

/-! ## Errors of the decoder -/

open SseEvents

theorem flushEvent_error {limits : SseLimits} {progress : Progress} {error : BridgeError}
    (failed : flushEvent limits progress = .error error) : Unreadable error := by
  obtain ⟨state, pushed⟩ := progress
  dsimp only [flushEvent] at failed
  split_ifs at failed
  rcases Outcome.bind_error.mp failed with many | ⟨_, _, impossible⟩
  · obtain ⟨_, rfl⟩ := (Outcome.failIf_error ..).mp many
    exact ⟨_, rfl⟩
  · cases impossible

theorem processLine_error {limits : SseLimits} {progress : Progress} {line : String}
    {error : BridgeError} (failed : processLine limits progress line = .error error) :
    Unreadable error := by
  unfold processLine at failed
  split_ifs at failed
  · exact flushEvent_error failed
  · split at failed
    · obtain ⟨state, pushed⟩ := progress
      dsimp only [addData] at failed
      rcases Outcome.bind_error.mp failed with long | ⟨_, _, impossible⟩
      · obtain ⟨_, rfl⟩ := (Outcome.failIf_error ..).mp long
        exact ⟨_, rfl⟩
      · cases impossible
    · cases failed

theorem processBytes_error {limits : SseLimits} {lines : List Bytes} {progress : Progress}
    {error : BridgeError} (failed : lines.foldlM (processBytes limits) progress = .error error) :
    Unreadable error := by
  induction lines generalizing progress with
  | nil => cases failed
  | cons line lines ih =>
    rw [List.foldlM_cons] at failed
    rcases Outcome.bind_error.mp failed with now | ⟨next, _, later⟩
    · unfold processBytes at now
      split at now
      · exact processLine_error now
      · cases now
        exact ⟨_, rfl⟩
    · exact ih later

theorem push_error {decoder : SseDecoder} {chunk : Bytes} {error : BridgeError}
    (failed : decoder.push chunk = .error error) : Unreadable error := by
  unfold SseDecoder.push at failed
  rcases Outcome.bind_error.mp failed with wraps | ⟨_, _, failed⟩
  · obtain ⟨_, rfl⟩ := (Outcome.failIf_error ..).mp wraps
    exact ⟨_, rfl⟩
  rcases Outcome.bind_error.mp failed with long | ⟨_, _, failed⟩
  · obtain ⟨_, rfl⟩ := (Outcome.failIf_error ..).mp long
    exact ⟨_, rfl⟩
  rcases Outcome.bind_error.mp failed with line | ⟨_, _, failed⟩
  · obtain ⟨_, rfl⟩ := (Outcome.failIf_error ..).mp line
    exact ⟨_, rfl⟩
  rcases Outcome.bind_error.mp failed with lines | ⟨_, _, impossible⟩
  · exact processBytes_error lines
  · cases impossible

theorem finish_error {decoder : SseDecoder} {error : BridgeError}
    (failed : decoder.finish = .error error) : Unreadable error := by
  unfold SseDecoder.finish at failed
  rcases Outcome.bind_error.mp failed with rest | ⟨_, _, failed⟩
  · unfold processRest at rest
    split_ifs at rest
    split at rest
    · exact processLine_error rest
    · cases rest
      exact ⟨_, rfl⟩
  rcases Outcome.bind_error.mp failed with last | ⟨_, _, impossible⟩
  · exact flushEvent_error last
  · cases impossible

/-! ## Whole streams -/

theorem listenChunks_hears (chunks : List Bytes) {decoder : SseDecoder} {heard : List String}
    {consumption : Consumption} (tells : Tells (eventsOf config.parse heard) consumption.1) :
    Hears (consumeChunks config decoder consumption chunks)
      (fun more => eventsOf config.parse (heard ++ more)) (fun next => next.2.1)
      (listenChunks config decoder consumption chunks) := by
  induction chunks generalizing decoder heard consumption with
  | nil =>
    refine ⟨rfl, ?_⟩
    show Tells (eventsOf config.parse (heard ++ [])) consumption.1
    rw [List.append_nil]
    exact tells
  | cons chunk chunks ih =>
    rw [listenChunks, consumeChunks]
    cases decoded : decoder.push chunk with
    | error e => exact ⟨e, rfl, push_error decoded⟩
    | ok result =>
      obtain ⟨decoder, pushed⟩ := result
      have events := listenEvents_hears pushed tells
      simp only [bind, Except.bind]
      generalize listenEvents config consumption pushed = listened at events ⊢
      obtain ⟨more, listened⟩ := listened
      cases listened with
      | error stop =>
        obtain ⟨e, failed, stops⟩ := events
        refine ⟨e, ?_, stops⟩
        rw [failed]
      | ok next =>
        obtain ⟨ran, told⟩ := events
        rw [ran]
        have later := @ih decoder (heard ++ more) next told
        unfold Hears at later ⊢
        simp only [List.append_assoc] at later ⊢
        exact later

/-- How a stream ends: reading stops, or the state that was told everything is finished. -/
theorem consumeStream_listens (stream : ResponseStream) :
    match (listen config stream).2 with
    | .finished state => consumeStream config stream = state.finish ∧
        Tells (eventsOf config.parse (listen config stream).1) state
    | stop => ∃ error, consumeStream config stream = .error error ∧ Stops error stop := by
  have chunks := @listenChunks_hears config stream.chunks
    { limits := config.sseLimits } [] ({}, stream.consumer) tells_nil
  unfold listen consumeStream
  generalize listenChunks config { limits := config.sseLimits } ({}, stream.consumer)
    stream.chunks = listened at chunks ⊢
  obtain ⟨heard, listened⟩ := listened
  cases listened with
  | error stop =>
    obtain ⟨e, failed, stops⟩ := chunks
    rw [failed]
    cases stop with
    | finished state => exact stops.elim
    | unreadable | disconnected | interrupted => exact ⟨e, rfl, stops⟩
  | ok next =>
    obtain ⟨decoder, consumption⟩ := next
    obtain ⟨ran, told⟩ := chunks
    simp only [List.nil_append] at told
    rw [ran]
    simp only [bind, Except.bind]
    cases stream.ending with
    | failed timeout =>
      refine ⟨httpTransportError timeout, rfl, ?_, rfl⟩
      simp [httpTransportError, postDispatchUnknown]
    | cancelled =>
      refine ⟨_, rfl, ?_, rfl⟩
      simp [postDispatchUnknown]
    | elapsed =>
      refine ⟨_, rfl, ?_, rfl⟩
      simp [postDispatchUnknown]
    | ended =>
      cases decoded : decoder.finish with
      | error e => exact ⟨e, rfl, finish_error decoded⟩
      | ok last =>
        have events := listenEvents_hears last told
        simp only
        generalize listenEvents config consumption last = listened at events ⊢
        obtain ⟨more, listened⟩ := listened
        cases listened with
        | error stop =>
          obtain ⟨e, failed, stops⟩ := events
          rw [failed]
          cases stop with
          | finished state => exact stops.elim
          | unreadable | disconnected | interrupted => exact ⟨e, rfl, stops⟩
        | ok next =>
          obtain ⟨state, consumer⟩ := next
          obtain ⟨ran, told⟩ := events
          rw [ran]
          exact ⟨rfl, told⟩

end ImagegenBridge.CodexResponses
