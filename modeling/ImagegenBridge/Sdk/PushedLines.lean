import ImagegenBridge.Sdk.EventStreams

/-!
# The lines of a pushed stream

The TypeScript decoder, which gathers segments of chunks, ends the same lines at the same
places as the iterator of the Python decoder, and refuses the same lines as too long.
-/

namespace ImagegenBridge.Sdk

open Text
open CodexResponses (Bytes readText)

variable {limits : SseLimits}

/-! ## The TypeScript decoder over steps of lines -/

/-- What `#processLine` does to the state of an event. -/
def readLine (limits : SseLimits) (state : EventState) (bytes : Bytes) :
    Except Fault (Option SseEvent × EventState) :=
  match decodeText bytes with
  | none => .error .invalidUtf8
  | some line =>
    if line = "" then
      if state.data = [] then .ok (none, state) else .ok (state.event?, {})
    else if startsWith line.toList [':'] then .ok (none, state)
    else if state.size + bytes.length > limits.maximumEventBytes then .error .eventLimit
    else .ok (none, {
      eventName :=
        if (sliceField line).1 = "event" then (sliceField line).2 else state.eventName
      data :=
        if (sliceField line).1 = "data" then state.data ++ [(sliceField line).2] else state.data
      size := state.size + bytes.length })

/-- Events of a chunk are held until it is read whole. -/
def relay (limits : SseLimits) :
    EventState → Place → List SseEvent → List LineStep → Decoded
  | state, _, held, [] => ⟨held ++ state.event?.toList, none⟩
  | state, place, held, .chunkRead :: rest =>
    (relay limits state { place with chunks := place.chunks + 1 } [] rest).after held
  | _, place, _, .tooLong :: _ => ⟨[], some (place, .lineLimit)⟩
  | state, place, held, .line bytes :: rest =>
    match readLine limits state bytes with
    | .error fault => ⟨[], some (place, fault)⟩
    | .ok (event, next) =>
      relay limits next { place with lines := place.lines + 1 } (held ++ event.toList) rest

/-! ## Steps of the iterator -/

@[simp] theorem iterSseLines_end (maximum : Nat) (state : LineState) (chunks : List Bytes) :
    iterSseLines maximum state ([] :: chunks) =
      .chunkRead :: iterSseLines maximum state chunks := rfl

/-- What the iterator does after a byte was taken. -/
def continueWith (maximum : Nat) (rest : Bytes) (chunks : List Bytes) :
    List LineStep × Option LineState → List LineStep
  | (steps, none) => steps
  | (steps, some next) => steps ++ iterSseLines maximum next (rest :: chunks)

theorem iterSseLines_byte (maximum : Nat) (state : LineState) (byte : UInt8) (rest : Bytes)
    (chunks : List Bytes) :
    iterSseLines maximum state ((byte :: rest) :: chunks) =
      continueWith maximum rest chunks (takeByte maximum state byte) := by
  rw [iterSseLines, takeChunk]
  cases takeByte maximum state byte with
  | mk steps next =>
    cases next with
    | none => rfl
    | some next =>
      simp only [continueWith, iterSseLines]
      cases takeChunk maximum next rest with
      | mk later last => cases last <;> simp

/-! ## Segments -/

namespace SseDecoder

/-- The bytes of the line so far. -/
def line (decoder : SseDecoder) : Bytes := decoder.lineParts.flatten

def lineState (decoder : SseDecoder) : LineState := ⟨decoder.line, decoder.pendingCr⟩

theorem counted_nil : (0 : Nat) = ([] : List Bytes).flatten.length := rfl

/-- The decoder after a line, with the state of its event. -/
def ended (decoder : SseDecoder) (state : EventState) : SseDecoder where
  toEventState := state
  pendingCr := decoder.pendingCr
  lines := decoder.lines + 1
  counted := counted_nil

@[simp] theorem ended_line (decoder : SseDecoder) (state : EventState) :
    (decoder.ended state).line = [] := rfl

@[simp] theorem pending_line (decoder : SseDecoder) (pending : Bool) :
    SseDecoder.line { decoder with pendingCr := pending } = decoder.line := rfl

theorem lineBytes_eq (decoder : SseDecoder) : decoder.lineBytes = decoder.line.length :=
  decoder.counted

end SseDecoder

/-- A segment that fits becomes a part of the line. -/
theorem appendLineSegment_fits {segment : Bytes} {decoder : SseDecoder}
    (fits : decoder.line.length + segment.length ≤ limits.maximumLineBytes) :
    ∃ joined, appendLineSegment limits segment decoder = .ok joined ∧
      joined.line = decoder.line ++ segment ∧
      joined.toEventState = decoder.toEventState ∧
      joined.pendingCr = decoder.pendingCr ∧ joined.lines = decoder.lines := by
  have short : ¬ segment.length > limits.maximumLineBytes - decoder.lineBytes := by
    rw [decoder.lineBytes_eq]
    omega
  rw [appendLineSegment, if_neg short]
  refine ⟨_, rfl, ?_, rfl, rfl, rfl⟩
  cases segment with
  | nil => simp [SseDecoder.line]
  | cons byte rest => simp [SseDecoder.line]

theorem appendLineSegment_long {segment : Bytes} {decoder : SseDecoder}
    (long : limits.maximumLineBytes < decoder.line.length + segment.length)
    (held : decoder.line.length ≤ limits.maximumLineBytes) :
    appendLineSegment limits segment decoder = .error (decoder.lines, .lineLimit) := by
  have past : segment.length > limits.maximumLineBytes - decoder.lineBytes := by
    rw [decoder.lineBytes_eq]
    omega
  rw [appendLineSegment, if_pos past]

theorem processLine_eq (decoder : SseDecoder) :
    processLine limits decoder =
      match readLine limits decoder.toEventState decoder.line with
      | .error fault => .error (decoder.lines, fault)
      | .ok (event, next) => .ok (event, decoder.ended next) := by
  simp only [processLine, readLine, SseDecoder.line, decoder.counted]
  cases decodeText decoder.lineParts.flatten with
  | none => rfl
  | some line =>
    by_cases blank : line = ""
    · by_cases nothing : decoder.data = []
      · simp [blank, nothing, SseDecoder.ended]
      · simp [blank, nothing, SseDecoder.ended, dispatch, EventState.event?]
    · by_cases comment : startsWith line.toList [':'] = true
      · simp [blank, comment, SseDecoder.ended]
      · by_cases big : decoder.size + decoder.lineParts.flatten.length > limits.maximumEventBytes
        · simp only [blank, comment, big, if_true, if_false, Bool.false_eq_true]
        · simp only [blank, comment, big, if_false, Bool.false_eq_true]
          rfl

/-! ## Chunks -/

namespace Pushing

/-- The line of a chunk in progress. -/
def lineState (pushing : Pushing) : LineState :=
  ⟨pushing.decoder.line ++ pushing.segment, pushing.decoder.pendingCr⟩

/-- The line in progress is within the limit, and a pending carriage return ended it. -/
structure Ready (limits : SseLimits) (pushing : Pushing) : Prop where
  fits : pushing.decoder.line.length + pushing.segment.length ≤ limits.maximumLineBytes
  ended : pushing.decoder.pendingCr = true → pushing.segment = []

end Pushing

theorem pushRest_byte (pushing : Pushing) (byte : UInt8) (rest : Bytes) :
    pushRest limits pushing (byte :: rest) =
      pushByte limits pushing byte >>= fun next => pushRest limits next rest := by
  simp only [pushRest, List.foldlM_cons, bind_assoc]

/-- A segment past the limit is refused at the end of the line or of the chunk. -/
theorem pushRest_long (rest : Bytes) (pushing : Pushing)
    (open_line : pushing.decoder.pendingCr = false)
    (held : pushing.decoder.line.length ≤ limits.maximumLineBytes)
    (long : limits.maximumLineBytes < pushing.decoder.line.length + pushing.segment.length) :
    pushRest limits pushing rest = .error (pushing.decoder.lines, .lineLimit) := by
  induction rest generalizing pushing with
  | nil =>
    simp only [pushRest, List.foldlM_nil, pure_bind, appendLineSegment_long long held]
    rfl
  | cons byte rest ih =>
    rw [pushRest_byte, pushByte, open_line, if_neg Bool.false_ne_true, pushPlain]
    by_cases ends : byte = 0x0D ∨ byte = 0x0A
    · rw [if_pos ends, appendLineSegment_long long held]
      rfl
    · rw [if_neg ends]
      apply ih
      · exact open_line
      · exact held
      · simp only [List.length_append, List.length_singleton]
        omega

/-- What the client gets of a chunk and those after it. -/
def resume (limits : SseLimits) (read : Nat) (chunks : List Bytes) :
    Except Thrown (List SseEvent × SseDecoder) → Decoded
  | .error (line, fault) => ⟨[], some (⟨read, line⟩, fault)⟩
  | .ok (events, next) => (streamFrom limits next (read + 1) chunks).after events

/-- A stream in progress is decoded from the steps of the iterator. -/
abbrev Follows (limits : SseLimits) (read : Nat) (rest : Bytes) (chunks : List Bytes)
    (pushing : Pushing) : Prop :=
  resume limits read chunks (pushRest limits pushing rest) =
    relay limits pushing.decoder.toEventState ⟨read, pushing.decoder.lines⟩ pushing.events
      (iterSseLines limits.maximumLineBytes pushing.lineState (rest :: chunks))

section Bytes

variable {read : Nat} {rest : Bytes} {chunks : List Bytes}
  (onward : ∀ pushing, Pushing.Ready limits pushing → Follows limits read rest chunks pushing)

include onward

theorem follows_plain {pushing : Pushing} (ready : pushing.Ready limits)
    (unended : pushing.decoder.pendingCr = false) (byte : UInt8) :
    resume limits read chunks
        (pushPlain limits pushing byte >>= fun next => pushRest limits next rest) =
      relay limits pushing.decoder.toEventState ⟨read, pushing.decoder.lines⟩ pushing.events
        (continueWith limits.maximumLineBytes rest chunks
          (takePlain limits.maximumLineBytes pushing.lineState byte)) := by
  obtain ⟨joined, appends, line, state, pending, lines⟩ := appendLineSegment_fits ready.fits
  have whole : pushing.lineState.line = joined.line := line.symm
  have short : joined.line.length ≤ limits.maximumLineBytes := by
    rw [line, List.length_append]
    exact ready.fits
  rw [pushPlain, takePlain]
  by_cases returns : byte = 0x0D
  · subst returns
    have step := onward ⟨{ joined with pendingCr := true }, [], pushing.events⟩
      ⟨by simpa using short, fun _ => rfl⟩
    rw [if_pos (.inl rfl), appends, if_pos rfl]
    refine Eq.trans step ?_
    simp only [Pushing.lineState, SseDecoder.pending_line, List.append_nil, line]
    simp [continueWith, state, lines]
  · by_cases ends : byte = 0x0A
    · subst ends
      rw [if_pos (.inr rfl), appends, if_neg returns, if_pos rfl, whole]
      simp only [continueWith, List.singleton_append, relay, bind, Except.bind, if_neg returns]
      rw [processLine_eq, state, lines]
      cases readLine limits pushing.decoder.toEventState joined.line with
      | error fault => rfl
      | ok found =>
        have step := onward ⟨joined.ended found.2, [], pushing.events ++ found.1.toList⟩
          ⟨by simp, fun _ => rfl⟩
        refine Eq.trans step ?_
        simp [Pushing.lineState, SseDecoder.ended, SseDecoder.line, pending, unended, lines]
    · rw [if_neg (not_or.mpr ⟨returns, ends⟩), if_neg returns, if_neg ends]
      by_cases full : pushing.lineState.line.length ≥ limits.maximumLineBytes
      · rw [if_pos full]
        have long := pushRest_long rest
          { pushing with segment := pushing.segment ++ [byte] } unended
          (Nat.le_of_add_right_le ready.fits) (by
            simp only [Pushing.lineState, List.length_append, List.length_singleton] at full ⊢
            omega)
        simp only [bind, Except.bind, long]
        rfl
      · rw [if_neg full]
        have step := onward { pushing with segment := pushing.segment ++ [byte] }
          ⟨by
            simp only [Pushing.lineState, List.length_append, List.length_singleton] at full ⊢
            omega, fun impossible => absurd (unended.symm.trans impossible) Bool.false_ne_true⟩
        refine Eq.trans step ?_
        simp [continueWith, Pushing.lineState]

/-- A byte more is followed where the bytes after it are. -/
theorem follows_byte {pushing : Pushing} (ready : pushing.Ready limits) (byte : UInt8) :
    Follows limits read (byte :: rest) chunks pushing := by
  rw [Follows, pushRest_byte, iterSseLines_byte, pushByte, takeByte]
  cases pending : pushing.decoder.pendingCr with
  | false =>
    have unended : pushing.lineState.pendingCr = false := pending
    rw [if_neg Bool.false_ne_true, unended, if_neg Bool.false_ne_true]
    exact follows_plain onward ready pending byte
  | true =>
    have ended : pushing.lineState.pendingCr = true := pending
    have whole : pushing.lineState.line = pushing.decoder.line := by
      rw [Pushing.lineState, ready.ended pending, List.append_nil]
    rw [if_pos rfl, ended, if_pos rfl, whole]
    have fresh (found : Option SseEvent × EventState) : Pushing.Ready limits
        ⟨{ pushing.decoder.ended found.2 with pendingCr := false }, [],
          pushing.events ++ found.1.toList⟩ :=
      ⟨by simp, fun _ => rfl⟩
    rw [processLine_eq]
    by_cases ends : byte = 0x0A
    · simp only [ends, if_true, continueWith, List.singleton_append, relay]
      cases readLine limits pushing.decoder.toEventState pushing.decoder.line with
      | error fault => rfl
      | ok found => exact onward _ (fresh found)
    · simp only [ends, if_false]
      have steps : continueWith limits.maximumLineBytes rest chunks
          (.line pushing.decoder.line :: (takePlain limits.maximumLineBytes {} byte).1,
            (takePlain limits.maximumLineBytes {} byte).2) =
          .line pushing.decoder.line :: continueWith limits.maximumLineBytes rest chunks
            (takePlain limits.maximumLineBytes {} byte) := by
        cases takePlain limits.maximumLineBytes {} byte with
        | mk taken next => cases next <;> rfl
      rw [steps, relay]
      cases readLine limits pushing.decoder.toEventState pushing.decoder.line with
      | error fault => rfl
      | ok found => exact follows_plain onward (fresh found) rfl byte

end Bytes

/-- The line that the end of the stream ends. -/
theorem iterSseLines_last (maximum : Nat) (decoder : SseDecoder) :
    iterSseLines maximum decoder.lineState [] =
      if decoder.pendingCr = true ∨ decoder.lineBytes > 0 then [.line decoder.line] else [] := by
  rw [iterSseLines, decoder.lineBytes_eq]
  cases pending : decoder.pendingCr <;> cases line : decoder.line <;>
    simp [SseDecoder.lineState, pending, line]

/-- The end of the stream ends the line in progress and the event in progress. -/
theorem streamFrom_end (decoder : SseDecoder) (read : Nat) :
    streamFrom limits decoder read [] =
      relay limits decoder.toEventState ⟨read, decoder.lines⟩ []
        (iterSseLines limits.maximumLineBytes decoder.lineState []) := by
  have flush (decoder : SseDecoder) (event : Option SseEvent) :
      (if decoder.data = [] then (.ok event.toList : Except Thrown (List SseEvent))
        else .ok (event.toList ++ [(dispatch decoder).1])) =
        .ok (event.toList ++ decoder.event?.toList) := by
    by_cases nothing : decoder.data = []
    · simp [nothing, EventState.event?]
    · simp [nothing, EventState.event?, dispatch]
  rw [streamFrom, finish, iterSseLines_last]
  by_cases left : decoder.pendingCr = true ∨ decoder.lineBytes > 0
  · rw [if_pos left, if_pos left, processLine_eq, relay]
    cases readLine limits decoder.toEventState decoder.line with
    | error fault => rfl
    | ok found =>
      simp only [bind, Except.bind, flush]
      rfl
  · rw [if_neg left, if_neg left]
    simp only [bind, Except.bind, flush]
    rfl

theorem streamFrom_eq (chunks : List Bytes) (decoder : SseDecoder) (read : Nat)
    (fits : decoder.line.length ≤ limits.maximumLineBytes) :
    streamFrom limits decoder read chunks =
      relay limits decoder.toEventState ⟨read, decoder.lines⟩ []
        (iterSseLines limits.maximumLineBytes decoder.lineState chunks) := by
  induction chunks generalizing decoder read with
  | nil => exact streamFrom_end decoder read
  | cons chunk chunks later =>
    have follows (rest : Bytes) (pushing : Pushing) (ready : pushing.Ready limits) :
        Follows limits read rest chunks pushing := by
      induction rest generalizing pushing with
      | nil =>
        obtain ⟨joined, appends, line, state, pending, lines⟩ :=
          appendLineSegment_fits ready.fits
        have short : joined.line.length ≤ limits.maximumLineBytes := by
          rw [line, List.length_append]
          exact ready.fits
        rw [Follows, pushRest, List.foldlM_nil, pure_bind, appends]
        simp only [bind, Except.bind, resume, iterSseLines_end, relay]
        rw [later joined (read + 1) short, state, lines, SseDecoder.lineState, line, pending]
        rfl
      | cons byte rest onward => exact follows_byte onward ready byte
    have step := follows chunk { decoder := decoder } ⟨by simpa using fits, fun _ => rfl⟩
    rw [Follows] at step
    simp only [Pushing.lineState, List.append_nil] at step
    rw [SseDecoder.lineState, ← step, streamFrom, push]
    cases pushRest limits { decoder := decoder } chunk <;> rfl

theorem streamEvents_eq (limits : SseLimits) (chunks : List Bytes) :
    streamEvents limits chunks =
      relay limits {} {} [] (iterSseLines limits.maximumLineBytes {} chunks) :=
  streamFrom_eq chunks {} 0 (Nat.zero_le _)

end ImagegenBridge.Sdk
