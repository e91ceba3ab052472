import ImagegenBridge.Lib.Transition
import ImagegenBridge.Runtime.Fanout

/-!
# The native event stream, `crates/server/src/streaming.rs`

The task of one stream, the channels between it and the calls of providers, and its client, who
stays connected. Which calls there are, what they send and when the execution returns is the
environment's choice: a route calls its provider with the channel of the request, a chunk of a
fan-out with a channel of its own, from which the chunk takes what it passes on.
-/

namespace ImagegenBridge.Streaming

open Fanout

/-- The bound of every channel on the way. -/
def channelCapacity : Nat := 4

/-- One event of the stream. -/
inductive StreamEvent where
  | provider (event : ProviderEvent)
  | error (error : BridgeError)

def eventName : ProviderEvent → String
  | .started => "started"
  | .progress _ => "progress"
  | .partialImage .. => "partial_image"
  | .completed _ => "completed"

def StreamEvent.name : StreamEvent → String
  | .provider event => eventName event
  | .error _ => "error"

/-- The last event, for the result of `run_request_with_events`. -/
def terminalEvent : Outcome ImageResponse → StreamEvent
  | .ok response => .provider (.completed response)
  | .error error => .error error

/-- What holds the events that a provider's call sends. -/
inductive EventSink where
  -- the channel of the request
  | request
  -- `execute_chunk`: its channel, the event it is passing on, and whether the call has returned
  | chunk (spec : ChunkSpec) (queue : List ProviderEvent) (carried : Option ProviderEvent)
      (returned : Bool)
  | closed (spec : ChunkSpec)

/-- A call of `execute`, and all that it has sent. -/
structure ProviderCall where
  sink : EventSink
  sent : List ProviderEvent

/-- An event with the number of the call that has sent it. -/
abbrev Sent := Nat × ProviderEvent

/-- The spawned task: its loop, before and after the execution has returned, with the event it
is sending to the client. -/
inductive StreamTask where
  | looping (result : Option (Outcome ImageResponse)) (carried : Option Sent)
  | finishing (result : Outcome ImageResponse)
  | ended (result : Outcome ImageResponse)

/-- `events` is the channel of the request, `outgoing` the one to the client; `relayed` lists the
events that the task has passed on. -/
structure StreamState where
  calls : List ProviderCall
  events : List Sent
  task : StreamTask
  relayed : List Sent
  outgoing : List StreamEvent
  delivered : List StreamEvent

/-- The first event is sent before the task is spawned. -/
def StreamState.start : StreamState :=
  ⟨[], [], .looping none none, [], [.provider .started], []⟩

def StreamState.setCall (s : StreamState) (c : Nat) (call : ProviderCall) : StreamState :=
  { s with calls := s.calls.set c call }

/-- No chunk is under way. -/
def StreamState.Settled (s : StreamState) : Prop :=
  ∀ call ∈ s.calls, ∀ spec queue carried returned,
    call.sink ≠ .chunk spec queue carried returned

inductive StreamAction where
  | opens
  | sends (call : Nat) (event : ProviderEvent)
  | relays (call : Nat)
  | drops (call : Nat)
  | task
  | reads

inductive StreamStep : StreamState → StreamAction → StreamState → Prop
  | opensRequest {s : StreamState} : s.task = .looping none none →
      StreamStep s .opens { s with calls := s.calls ++ [⟨.request, []⟩] }
  | opensChunk {s : StreamState} {spec : ChunkSpec} : s.task = .looping none none →
      StreamStep s .opens { s with calls := s.calls ++ [⟨.chunk spec [] none false, []⟩] }
  -- A sender of the request's channel outlives its call for as long as a task of the provider
  -- holds a clone.
  | sendsRequest {s : StreamState} {c : Nat} {event : ProviderEvent}
      {sent : List ProviderEvent} : s.calls[c]? = some ⟨.request, sent⟩ →
      s.events.length < channelCapacity → (∀ result, s.task ≠ .ended result) →
      StreamStep s (.sends c event)
        { s.setCall c ⟨.request, sent ++ [event]⟩ with events := s.events ++ [(c, event)] }
  | sendsChunk {s : StreamState} {c : Nat} {event : ProviderEvent} {spec : ChunkSpec}
      {queue sent : List ProviderEvent} {carried : Option ProviderEvent} {returned : Bool} :
      s.calls[c]? = some ⟨.chunk spec queue carried returned, sent⟩ →
      queue.length < channelCapacity →
      StreamStep s (.sends c event)
        (s.setCall c ⟨.chunk spec (queue ++ [event]) carried returned, sent ++ [event]⟩)
  -- A chunk is polled by the execution, which the loop polls.
  | takes {s : StreamState} {c : Nat} {event : ProviderEvent} {spec : ChunkSpec}
      {queue sent : List ProviderEvent} {returned : Bool} : s.task = .looping none none →
      s.calls[c]? = some ⟨.chunk spec (event :: queue) none returned, sent⟩ →
      StreamStep s (.relays c)
        (s.setCall c ⟨.chunk spec queue (mapEvent event spec.offset spec.count) returned, sent⟩)
  | forwards {s : StreamState} {c : Nat} {event : ProviderEvent} {spec : ChunkSpec}
      {queue sent : List ProviderEvent} {returned : Bool} : s.task = .looping none none →
      s.calls[c]? = some ⟨.chunk spec queue (some event) returned, sent⟩ →
      s.events.length < channelCapacity →
      StreamStep s (.relays c)
        { s.setCall c ⟨.chunk spec queue none returned, sent⟩ with
          events := s.events ++ [(c, event)] }
  | returns {s : StreamState} {c : Nat} {spec : ChunkSpec} {queue sent : List ProviderEvent} :
      s.task = .looping none none →
      s.calls[c]? = some ⟨.chunk spec queue none false, sent⟩ →
      StreamStep s (.relays c) (s.setCall c ⟨.chunk spec queue none true, sent⟩)
  | closes {s : StreamState} {c : Nat} {spec : ChunkSpec} {sent : List ProviderEvent} :
      s.task = .looping none none → s.calls[c]? = some ⟨.chunk spec [] none true, sent⟩ →
      StreamStep s (.relays c) (s.setCall c ⟨.closed spec, sent⟩)
  -- The grace of a deadline, a cancellation, a shutdown or a failed sibling has elapsed.
  | drops {s : StreamState} {c : Nat} {spec : ChunkSpec} {queue sent : List ProviderEvent}
      {carried : Option ProviderEvent} {returned : Bool} : s.task = .looping none none →
      s.calls[c]? = some ⟨.chunk spec queue carried returned, sent⟩ →
      StreamStep s (.drops c) (s.setCall c ⟨.closed spec, sent⟩)
  | completes {s : StreamState} {result : Outcome ImageResponse} : s.task = .looping none none →
      s.Settled → StreamStep s .task { s with task := .looping (some result) none }
  | receives {s : StreamState} {result : Option (Outcome ImageResponse)} {event : Sent}
      {events : List Sent} : s.task = .looping result none → s.events = event :: events →
      StreamStep s .task { s with task := .looping result (some event), events }
  | delivers {s : StreamState} {result : Option (Outcome ImageResponse)} {event : Sent} :
      s.task = .looping result (some event) → s.outgoing.length < channelCapacity →
      StreamStep s .task
        { s with
          task := .looping result none
          relayed := s.relayed ++ [event]
          outgoing := s.outgoing ++ [.provider event.2] }
  | drained {s : StreamState} {result : Outcome ImageResponse} :
      s.task = .looping (some result) none → s.events = [] →
      StreamStep s .task { s with task := .finishing result }
  | finishes {s : StreamState} {result : Outcome ImageResponse} : s.task = .finishing result →
      s.outgoing.length < channelCapacity →
      StreamStep s .task
        { s with task := .ended result, outgoing := s.outgoing ++ [terminalEvent result] }
  | reads {s : StreamState} {event : StreamEvent} {outgoing : List StreamEvent} :
      s.outgoing = event :: outgoing →
      StreamStep s .reads { s with outgoing, delivered := s.delivered ++ [event] }

/-- The states that a stream can reach. -/
abbrev Reached (condition : StreamState → StreamAction → Prop) : StreamState → Prop :=
  Transition.Run StreamStep condition .start

end ImagegenBridge.Streaming
