import ImagegenBridge.Runtime.Fallback
import ImagegenBridge.Server.Streaming

/-!
# The protocol of the native event stream

One started event, the progress and the partial images of every call in its order, one terminal
event. The task passes on whatever comes, so that the protocol rests on what the calls send and
on no chunk being dropped with events under way.
-/

namespace ImagegenBridge.Streaming

open Fanout Transition

/-! ## What a stream owes its client -/

def incremental : ProviderEvent → Bool
  | .progress _ | .partialImage .. => true
  | .started | .completed _ => false

/-- A chunk's images have their places in the whole batch. -/
def placed (offset : Nat) : ProviderEvent → ProviderEvent
  | .partialImage index partialIndex b64Json => .partialImage (offset + index) partialIndex b64Json
  | event => event

def EventSink.offset : EventSink → Nat
  | .request => 0
  | .chunk spec .. | .closed spec => spec.offset

/-- The progress and the partial images that a call has sent. -/
def ProviderCall.promised (call : ProviderCall) : List ProviderEvent :=
  (call.sent.filter incremental).map (placed call.sink.offset)

/-- The events of one call. -/
def ofCall (c : Nat) (events : List Sent) : List ProviderEvent :=
  (events.filter fun event => event.1 = c).map Prod.snd

def StreamTask.closing : StreamTask → List StreamEvent
  | .ended result => [terminalEvent result]
  | _ => []

/-- The client has, or will read, the started event, the events in the middle, and the terminal
event of the result once the task has ended, when no event of a call is missing. -/
structure Protocol (s : StreamState) (middle : List Sent) : Prop where
  stream : s.delivered ++ s.outgoing =
    .provider .started :: middle.map (fun event => .provider event.2) ++ s.task.closing
  visible : ∀ event ∈ middle, incremental event.2
  ordered : ∀ c call, s.calls[c]? = some call → ofCall c middle <+: call.promised
  complete : ∀ result, s.task = .ended result → ∀ c call, s.calls[c]? = some call →
    ofCall c middle = call.promised

/-! ## Calls that keep to it -/

/-- A partial image is one of the chunk's own. -/
def InRange (spec : ChunkSpec) : ProviderEvent → Prop
  | .partialImage index .. => index < spec.count
  | _ => True

/-- What a chunk has of its call and will pass on. -/
def EventSink.underway : EventSink → List ProviderEvent
  | .chunk spec queue carried _ =>
    carried.toList ++ queue.filterMap fun event => mapEvent event spec.offset spec.count
  | _ => []

/-- A call with the channel of the request sends progress and partial images alone, and none
after the channel has been drained; a chunk's call sends no image of another chunk, and the
chunk is not dropped with events under way. -/
def Restrained (s : StreamState) : StreamAction → Prop
  | .sends c event => ∀ call, s.calls[c]? = some call →
    match call.sink with
    | .request => incremental event = true ∧ ∀ result, s.task ≠ .finishing result
    | .chunk spec .. => InRange spec event
    | .closed _ => True
  | .drops c => ∀ call, s.calls[c]? = some call → call.sink.underway = []
  | _ => True

/-! ## Events of one call -/

theorem ofCall_append (c : Nat) (first second : List Sent) :
    ofCall c (first ++ second) = ofCall c first ++ ofCall c second := by
  simp [ofCall]

@[simp] theorem ofCall_own (c : Nat) (event : ProviderEvent) : ofCall c [(c, event)] = [event] := by
  simp [ofCall]

theorem ofCall_other {c d : Nat} (other : d ≠ c) (event : ProviderEvent) :
    ofCall c [(d, event)] = [] := by
  simp [ofCall, other]

theorem ofCall_fresh {c : Nat} {events : List Sent} (earlier : ∀ event ∈ events, event.1 < c) :
    ofCall c events = [] := by
  rw [ofCall, List.filter_eq_nil_iff.mpr, List.map_nil]
  intro event among
  have before := earlier event among
  simp
  omega

theorem mapEvent_inRange {spec : ChunkSpec} {event : ProviderEvent} (inRange : InRange spec event) :
    mapEvent event spec.offset spec.count =
      if incremental event then some (placed spec.offset event) else none := by
  cases event with
  | started => rfl
  | progress stage => rfl
  | partialImage index partialIndex b64Json => exact if_pos inRange
  | completed response => rfl

theorem mapEvent_incremental {event event' : ProviderEvent} {offset count : Nat}
    (mapped : mapEvent event offset count = some event') : incremental event' = true := by
  cases event with
  | started => cases mapped
  | progress stage =>
    cases mapped
    rfl
  | partialImage index partialIndex b64Json =>
    rw [mapEvent] at mapped
    split at mapped
    · cases mapped
      rfl
    · cases mapped
  | completed response => cases mapped

@[simp] theorem incremental_placed (offset : Nat) (event : ProviderEvent) :
    incremental (placed offset event) = incremental event := by
  cases event <;> rfl

theorem promised_send {sink : EventSink} {sent : List ProviderEvent} {event : ProviderEvent} :
    (ProviderCall.mk sink (sent ++ [event])).promised =
      (ProviderCall.mk sink sent).promised ++
        if incremental event then [placed sink.offset event] else [] := by
  by_cases shown : incremental event = true
  · simp [ProviderCall.promised, shown]
  · simp [ProviderCall.promised, shown]

/-! ## The invariant -/

def StreamTask.carried : StreamTask → List Sent
  | .looping _ carried => carried.toList
  | _ => []

/-- All that has come through the channel of the request. -/
def StreamState.passed (s : StreamState) : List Sent :=
  s.relayed ++ s.task.carried ++ s.events

/-- The execution has returned. -/
def StreamTask.Returned : StreamTask → Prop
  | .looping result _ => result.isSome
  | .finishing _ | .ended _ => True

/-- The channel of the request has been drained. -/
def StreamTask.Drained : StreamTask → Prop
  | .looping .. => False
  | .finishing _ | .ended _ => True

structure Kept (s : StreamState) : Prop where
  stream : s.delivered ++ s.outgoing =
    .provider .started :: s.relayed.map (fun event => .provider event.2) ++ s.task.closing
  visible : ∀ event ∈ s.passed, incremental event.2
  numbered : ∀ event ∈ s.passed, event.1 < s.calls.length
  accounted : ∀ c call, s.calls[c]? = some call →
    ofCall c s.passed ++ call.sink.underway = call.promised
  carried : ∀ call ∈ s.calls, ∀ event ∈ call.sink.underway, incremental event
  settled : s.task.Returned → s.Settled
  drained : s.task.Drained → s.events = []

theorem kept_start : Kept .start where
  stream := rfl
  visible := by
    intro event among
    cases among
  numbered := by
    intro event among
    cases among
  accounted := by
    intro c call among
    cases among
  carried := by
    intro call among
    cases among
  settled := by
    intro returned
    cases returned
  drained := by
    intro drained
    cases drained

variable {s t : StreamState} {c : Nat} {call call' : ProviderCall}

theorem found_after (within : c < s.calls.length) {d : Nat} {other : ProviderCall}
    (found : (s.setCall c call').calls[d]? = some other) :
    d = c ∧ other = call' ∨ d ≠ c ∧ s.calls[d]? = some other := by
  rw [StreamState.setCall, List.getElem?_set] at found
  by_cases same : c = d
  · rw [if_pos same, if_pos within] at found
    exact .inl ⟨same.symm, (Option.some.inj found).symm⟩
  · rw [if_neg same] at found
    exact .inr ⟨Ne.symm same, found⟩

/-- A step of one call: what it passes on and what it keeps is what it owes. -/
theorem Kept.setCall (kept : Kept s) (found : s.calls[c]? = some call) (more : List ProviderEvent)
    (owed : ∀ before, before ++ call.sink.underway = call.promised →
      before ++ (more ++ call'.sink.underway) = call'.promised)
    (visible : ∀ event ∈ more, incremental event)
    (carried : ∀ event ∈ call'.sink.underway, incremental event)
    (settled : s.task.Returned → ∀ spec queue carried returned,
      call'.sink ≠ .chunk spec queue carried returned)
    (drained : s.task.Drained → more = []) :
    Kept { s.setCall c call' with events := s.events ++ more.map fun event => (c, event) } := by
  have within : c < s.calls.length := (List.getElem?_eq_some_iff.mp found).1
  have passed : StreamState.passed { s.setCall c call' with
      events := s.events ++ more.map fun event => (c, event) } =
        s.passed ++ more.map fun event => (c, event) :=
    (List.append_assoc ..).symm
  constructor
  · exact kept.stream
  · rw [passed]
    intro event among
    rcases List.mem_append.mp among with before | now
    · exact kept.visible event before
    · obtain ⟨sent, within, rfl⟩ := List.mem_map.mp now
      exact visible sent within
  · rw [passed]
    intro event among
    have length : (s.setCall c call').calls.length = s.calls.length := List.length_set
    rcases List.mem_append.mp among with before | now
    · exact length.symm ▸ kept.numbered event before
    · obtain ⟨sent, -, rfl⟩ := List.mem_map.mp now
      exact length.symm ▸ within
  · intro d other after
    rw [passed, ofCall_append]
    rcases found_after within after with ⟨rfl, rfl⟩ | ⟨differ, before⟩
    · have own : ofCall d (more.map fun event => (d, event)) = more := by
        simp [ofCall, List.filter_map, Function.comp_def]
      rw [own, List.append_assoc]
      exact owed _ (kept.accounted d call found)
    · have none_of : ofCall d (more.map fun event => (c, event)) = [] := by
        simp [ofCall, List.filter_map, Function.comp_def, Ne.symm differ]
      rw [none_of, List.append_nil]
      exact kept.accounted d other before
  · intro other among
    rcases List.mem_or_eq_of_mem_set among with before | rfl
    · exact kept.carried other before
    · exact carried
  · intro returned other among
    rcases List.mem_or_eq_of_mem_set among with before | rfl
    · exact kept.settled returned other before
    · exact settled returned
  · intro past
    have nothing := drained past
    subst nothing
    rw [List.map_nil, List.append_nil]
    exact kept.drained past

/-- A step of one call that passes nothing on. -/
theorem Kept.keepCall (kept : Kept s) (found : s.calls[c]? = some call)
    (owed : ∀ before, before ++ call.sink.underway = call.promised →
      before ++ call'.sink.underway = call'.promised)
    (carried : ∀ event ∈ call'.sink.underway, incremental event)
    (settled : s.task.Returned → ∀ spec queue carried returned,
      call'.sink ≠ .chunk spec queue carried returned) : Kept (s.setCall c call') := by
  have kept' := kept.setCall found [] (by simpa using owed) (fun _ among => absurd among
    List.not_mem_nil) carried settled fun _ => rfl
  rw [List.map_nil, List.append_nil] at kept'
  exact kept'

/-- What the task does leaves the calls alone and passes nothing new. -/
theorem Kept.task (kept : Kept s) (calls : t.calls = s.calls) (passed : t.passed = s.passed)
    (stream : t.delivered ++ t.outgoing =
      .provider .started :: t.relayed.map (fun event => .provider event.2) ++ t.task.closing)
    (settled : t.task.Returned → s.Settled) (drained : t.task.Drained → t.events = []) :
    Kept t where
  stream := stream
  visible := passed.symm ▸ kept.visible
  numbered := by
    rw [passed, calls]
    exact kept.numbered
  accounted := by
    rw [passed, calls]
    exact kept.accounted
  carried := calls.symm ▸ kept.carried
  settled := by
    intro returned
    rw [StreamState.Settled, calls]
    exact settled returned
  drained := drained

theorem Kept.opens (kept : Kept s) (looping : s.task = .looping none none) {sink : EventSink}
    (fresh : sink.underway = []) : Kept { s with calls := s.calls ++ [⟨sink, []⟩] } where
  stream := kept.stream
  visible := kept.visible
  numbered := by
    intro event among
    have before := kept.numbered event among
    simp only [List.length_append, List.length_singleton]
    omega
  accounted := by
    intro c call found
    rw [List.getElem?_append] at found
    by_cases old : c < s.calls.length
    · rw [if_pos old] at found
      exact kept.accounted c call found
    · rw [if_neg old, List.getElem?_singleton] at found
      have here : c - s.calls.length = 0 := by
        by_contra later
        rw [if_neg later] at found
        cases found
      rw [if_pos here] at found
      cases found
      have nothing := ofCall_fresh (c := c) fun event among =>
        Nat.lt_of_lt_of_le (kept.numbered event among) (Nat.le_of_not_lt old)
      exact (congrArg₂ (· ++ ·) nothing fresh).trans rfl
  carried := by
    intro call among
    rcases List.mem_append.mp among with before | new
    · exact kept.carried call before
    · rw [List.mem_singleton] at new
      subst new
      rw [fresh]
      exact fun _ impossible => absurd impossible List.not_mem_nil
  settled := by
    intro returned
    rw [looping] at returned
    cases returned
  drained := kept.drained

/-- A chunk is under way only before the execution has returned. -/
theorem Kept.unreturned (kept : Kept s) {spec : ChunkSpec} {queue sent : List ProviderEvent}
    {carried : Option ProviderEvent} {returned : Bool}
    (found : s.calls[c]? = some ⟨.chunk spec queue carried returned, sent⟩) :
    ¬ s.task.Returned := fun past =>
  kept.settled past _ (List.mem_of_getElem? found) spec queue carried returned rfl

theorem Kept.sends_request (kept : Kept s) {sent : List ProviderEvent} {event : ProviderEvent}
    (found : s.calls[c]? = some ⟨.request, sent⟩) (live : ∀ result, s.task ≠ .ended result)
    (met : Restrained s (.sends c event)) :
    Kept { s.setCall c ⟨.request, sent ++ [event]⟩ with events := s.events ++ [(c, event)] } := by
  obtain ⟨visible, waiting⟩ := met _ found
  refine @Kept.setCall _ _ _ ⟨.request, sent ++ [event]⟩ kept found [event] ?_
    (by simpa using visible) ?_ ?_ ?_
  · intro before owed
    have placed_same : placed 0 event = event := by
      cases event <;> simp [placed]
    rw [promised_send, if_pos visible, ← owed, EventSink.offset, placed_same]
    simp [EventSink.underway]
  · intro event impossible
    cases impossible
  · intro _ spec queue carried returned impossible
    cases impossible
  · intro past
    cases task : s.task with
    | looping result carried =>
      rw [task] at past
      cases past
    | finishing result => exact absurd task (waiting result)
    | ended result => exact absurd task (live result)

theorem Kept.sends_chunk (kept : Kept s) {spec : ChunkSpec} {queue sent : List ProviderEvent}
    {carried : Option ProviderEvent} {returned : Bool} {event : ProviderEvent}
    (found : s.calls[c]? = some ⟨.chunk spec queue carried returned, sent⟩)
    (met : Restrained s (.sends c event)) :
    Kept (s.setCall c ⟨.chunk spec (queue ++ [event]) carried returned, sent ++ [event]⟩) := by
  have inRange : InRange spec event := met _ found
  have underway : (EventSink.chunk spec (queue ++ [event]) carried returned).underway =
      (EventSink.chunk spec queue carried returned).underway ++
        if incremental event then [placed spec.offset event] else [] := by
    simp only [EventSink.underway, List.filterMap_append, List.append_assoc]
    by_cases shown : incremental event = true
    · simp [mapEvent_inRange inRange, shown]
    · simp [mapEvent_inRange inRange, shown]
  refine kept.keepCall found ?_ ?_ fun past => absurd past (kept.unreturned found)
  · intro before owed
    rw [underway, promised_send, ← List.append_assoc, owed]
    rfl
  · rw [underway]
    intro other among
    rcases List.mem_append.mp among with before | now
    · exact kept.carried _ (List.mem_of_getElem? found) other before
    · by_cases shown : incremental event = true
      · rw [if_pos shown, List.mem_singleton] at now
        rw [now, incremental_placed]
        exact shown
      · rw [if_neg shown] at now
        cases now

/-- A chunk takes an event from its channel, or passes on what it has, or only changes its
mark. -/
theorem Kept.chunk_same (kept : Kept s) {sink sink' : EventSink} {sent : List ProviderEvent}
    (found : s.calls[c]? = some ⟨sink, sent⟩) (same : sink'.underway = sink.underway)
    (offset : sink'.offset = sink.offset) (unreturned : ¬ s.task.Returned) :
    Kept (s.setCall c ⟨sink', sent⟩) := by
  refine kept.keepCall found ?_ ?_ fun past => absurd past unreturned
  · intro before owed
    rw [same]
    exact owed.trans (by rw [ProviderCall.promised, ProviderCall.promised, offset])
  · rw [same]
    exact kept.carried _ (List.mem_of_getElem? found)

theorem Kept.forwards (kept : Kept s) {spec : ChunkSpec} {queue sent : List ProviderEvent}
    {returned : Bool} {event : ProviderEvent}
    (found : s.calls[c]? = some ⟨.chunk spec queue (some event) returned, sent⟩) :
    Kept { s.setCall c ⟨.chunk spec queue none returned, sent⟩ with
      events := s.events ++ [(c, event)] } := by
  have carried := kept.carried _ (List.mem_of_getElem? found)
  refine @Kept.setCall _ _ _ ⟨.chunk spec queue none returned, sent⟩ kept found [event] ?_ ?_ ?_
    ?_ ?_
  · intro before owed
    exact owed
  · intro other among
    obtain rfl := List.mem_singleton.mp among
    exact carried other List.mem_cons_self
  · intro other among
    exact carried other (List.mem_cons_of_mem _ among)
  · exact fun past => absurd past (kept.unreturned found)
  · intro past
    refine absurd ?_ (kept.unreturned found)
    cases task : s.task with
    | looping result carried =>
      rw [task] at past
      cases past
    | finishing result => trivial
    | ended result => trivial

theorem step_kept {action : StreamAction} (kept : Kept s) (step : StreamStep s action t)
    (met : Restrained s action) : Kept t := by
  cases step with
  | opensRequest looping => exact kept.opens looping rfl
  | opensChunk looping => exact kept.opens looping rfl
  | sendsRequest found room live => exact kept.sends_request found live met
  | sendsChunk found room => exact kept.sends_chunk found met
  | @takes c event spec queue sent returned looping found =>
    refine kept.chunk_same found ?_ rfl (kept.unreturned found)
    cases mapped : mapEvent event spec.offset spec.count <;> simp [EventSink.underway, mapped]
  | forwards looping found room => exact kept.forwards found
  | returns looping found => exact kept.chunk_same found rfl rfl (kept.unreturned found)
  | closes looping found => exact kept.chunk_same found rfl rfl (kept.unreturned found)
  | drops looping found =>
    exact kept.chunk_same found (met _ found).symm rfl (kept.unreturned found)
  | completes looping settled =>
    refine kept.task rfl ?_ ?_ (fun _ => settled) ?_
    · simp [StreamState.passed, StreamTask.carried, looping]
    · simpa [StreamTask.closing, looping] using kept.stream
    · intro past
      cases past
  | receives looping waiting =>
    refine kept.task rfl ?_ ?_ (fun past => kept.settled (looping ▸ past)) ?_
    · simp [StreamState.passed, StreamTask.carried, looping, waiting]
    · simpa [StreamTask.closing, looping] using kept.stream
    · intro past
      cases past
  | delivers looping room =>
    refine kept.task rfl ?_ ?_ (fun past => kept.settled (looping ▸ past)) ?_
    · simp [StreamState.passed, StreamTask.carried, looping]
    · have stream := kept.stream
      rw [looping] at stream
      simp only [StreamTask.closing, List.append_nil] at stream ⊢
      rw [← List.append_assoc, stream]
      simp
    · intro past
      cases past
  | drained looping empty =>
    refine kept.task rfl ?_ ?_ (fun _ => kept.settled (looping ▸ rfl)) fun _ => empty
    · simp [StreamState.passed, StreamTask.carried, looping]
    · simpa [StreamTask.closing, looping] using kept.stream
  | finishes finishing room =>
    refine kept.task rfl ?_ ?_ (fun _ => kept.settled (finishing ▸ trivial))
      fun _ => kept.drained (finishing ▸ trivial)
    · simp [StreamState.passed, StreamTask.carried, finishing]
    · have stream := kept.stream
      rw [finishing] at stream
      simp only [StreamTask.closing, List.append_nil] at stream ⊢
      rw [← List.append_assoc, stream]
  | reads outgoing =>
    refine kept.task rfl rfl ?_ kept.settled kept.drained
    have stream := kept.stream
    rw [outgoing] at stream
    simpa using stream

theorem reached_kept (reached : Reached Restrained s) : Kept s :=
  reached.invariant kept_start fun _ _ _ _ kept step met => step_kept kept step met

/-! ## The protocol -/

/-- In every run whose calls keep to it, the stream keeps to the protocol. -/
theorem stream_protocol (reached : Reached Restrained s) : ∃ middle, Protocol s middle := by
  have kept := reached_kept reached
  refine ⟨s.relayed, kept.stream, ?_, ?_, ?_⟩
  · intro event among
    apply kept.visible event
    simp [StreamState.passed, among]
  · intro c call found
    have owed := kept.accounted c call found
    rw [StreamState.passed, List.append_assoc, ofCall_append, List.append_assoc] at owed
    exact ⟨_, owed⟩
  · intro result ended c call found
    have owed := kept.accounted c call found
    have empty : s.events = [] := kept.drained (ended ▸ trivial)
    have closed : call.sink.underway = [] := by
      have settled := kept.settled (ended ▸ trivial) call (List.mem_of_getElem? found)
      cases sink : call.sink with
      | chunk spec queue carried returned => exact absurd sink (settled spec queue carried returned)
      | _ => rfl
    rw [StreamState.passed, ended, empty, closed] at owed
    simpa [StreamTask.carried] using owed

/-! ## A provider that reports its own completion -/

/-- The first call's route calls its provider, which sends one event that the task passes on,
and the execution returns a response. -/
def relayedAlone (event : ProviderEvent) (response : ImageResponse) : StreamState where
  calls := [⟨.request, [event]⟩]
  events := []
  task := .ended (.ok response)
  relayed := [(0, event)]
  outgoing := [.provider .started, .provider event, .provider (.completed response)]
  delivered := []

theorem relayedAlone_reached (condition : StreamState → StreamAction → Prop)
    (event : ProviderEvent) (response : ImageResponse)
    (opens : ∀ s, condition s .opens) (task : ∀ s, condition s .task)
    (sends : condition ⟨[⟨.request, []⟩], [], .looping none none, [], [.provider .started], []⟩
      (.sends 0 event)) :
    Reached condition (relayedAlone event response) := by
  have opened : Reached condition
      ⟨[⟨.request, []⟩], [], .looping none none, [], [.provider .started], []⟩ :=
    .next .start (.opensRequest rfl) (opens _)
  have sent : Reached condition ⟨[⟨.request, [event]⟩], [(0, event)], .looping none none, [],
      [.provider .started], []⟩ :=
    .next opened (@StreamStep.sendsRequest ⟨[⟨.request, []⟩], [], .looping none none, [],
      [.provider .started], []⟩ 0 event [] rfl (by decide)
      fun _ impossible => StreamTask.noConfusion impossible) sends
  have received : Reached condition ⟨[⟨.request, [event]⟩], [], .looping none (some (0, event)), [],
      [.provider .started], []⟩ :=
    .next sent (.receives rfl rfl) (task _)
  have delivered : Reached condition ⟨[⟨.request, [event]⟩], [], .looping none none,
      [(0, event)], [.provider .started, .provider event], []⟩ :=
    .next received (.delivers rfl (by simp [channelCapacity])) (task _)
  have completed : Reached condition ⟨[⟨.request, [event]⟩], [],
      .looping (some (.ok response)) none, [(0, event)],
      [.provider .started, .provider event], []⟩ :=
    .next delivered (.completes rfl (by simp [StreamState.Settled])) (task _)
  have drained : Reached condition ⟨[⟨.request, [event]⟩], [], .finishing (.ok response),
      [(0, event)], [.provider .started, .provider event], []⟩ :=
    .next completed (.drained rfl rfl) (task _)
  exact .next drained (.finishes rfl (by simp [channelCapacity])) (task _)

/-- Its provider's own completed event comes first, with another response. -/
theorem completed_twice : ∃ s, Reached Unrestricted s ∧
    s.outgoing = [.provider .started, .provider (.completed Orchestrator.hostedResponse),
      .provider (.completed Idempotency.plainResponse)] ∧
    ¬ ∃ middle, Protocol s middle := by
  refine ⟨relayedAlone (.completed Orchestrator.hostedResponse) Idempotency.plainResponse,
    relayedAlone_reached _ _ _ (fun _ => trivial) (fun _ => trivial) trivial, rfl, ?_⟩
  rintro ⟨middle, stream, visible, -, -⟩
  match middle with
  | [] =>
    have lengths := congrArg List.length stream
    cases lengths
  | event :: rest =>
    have first := (List.cons.inj (List.cons.inj stream).2).1
    have shown := visible event List.mem_cons_self
    rw [← StreamEvent.provider.inj first] at shown
    cases shown

/-- One progress event between the first and the last. -/
theorem stream_protocol_one : ∃ s middle, Reached Restrained s ∧
    s.task = .ended (.ok Idempotency.plainResponse) ∧ Protocol s middle := by
  have reached : Reached Restrained
      (relayedAlone (.progress "generating") Idempotency.plainResponse) := by
    refine relayedAlone_reached _ _ _ (fun _ => trivial) (fun _ => trivial) ?_
    intro call found
    cases found
    exact ⟨rfl, fun _ impossible => StreamTask.noConfusion impossible⟩
  obtain ⟨middle, protocol⟩ := stream_protocol reached
  exact ⟨_, middle, reached, rfl, protocol⟩

end ImagegenBridge.Streaming
