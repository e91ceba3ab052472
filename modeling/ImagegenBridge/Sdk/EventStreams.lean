import ImagegenBridge.CodexResponses.Sse

/-!
# Event streams of the SDKs

`sdks/python/src/imagegen_bridge/_sse.py` and `sdks/typescript/src/sse.ts`. Both decoders
take a response in the chunks the network delivers it in and hand out the name and the
joined data of each event. What either SDK makes of the data of an event is not modelled.
Beside the decoding runs a count of the chunks read whole and of the lines ended, which
places a failure in the stream.
-/

namespace ImagegenBridge.Sdk

open Text
open CodexResponses (Bytes readText)

/-- The limits a decoder is made with, positive and safe integers. -/
structure SseLimits where
  maximumLineBytes : Nat
  maximumEventBytes : Nat
  line_positive : 0 < maximumLineBytes
  event_positive : 0 < maximumEventBytes
  line_safe : maximumLineBytes < 2 ^ 53
  event_safe : maximumEventBytes < 2 ^ 53

inductive Fault
  | lineLimit
  | invalidUtf8
  | eventLimit
  deriving DecidableEq

structure SseEvent where
  name : String
  data : String
  deriving DecidableEq

/-- The chunks read whole and the lines ended before a point of the stream. -/
structure Place where
  chunks : Nat := 0
  lines : Nat := 0
  deriving DecidableEq

/-- What a caller gets of a stream. -/
structure Decoded where
  events : List SseEvent
  failure : Option (Place × Fault)
  deriving DecidableEq

def Decoded.after (held : List SseEvent) (rest : Decoded) : Decoded :=
  { rest with events := held ++ rest.events }

structure EventState where
  eventName : String := "message"
  data : List String := []
  size : Nat := 0

/-- The event that data given so far makes. -/
def EventState.event? (state : EventState) : Option SseEvent :=
  if state.data = [] then none else some ⟨state.eventName, "\n".intercalate state.data⟩

/-! ## The Python decoder -/

/-- What `_iter_sse_lines` does, in order: it yields a line, asks for the next chunk, or
raises. The text of a line is decoded where the line is used. -/
inductive LineStep
  | line (bytes : Bytes)
  | chunkRead
  | tooLong

structure LineState where
  line : Bytes := []
  pendingCr : Bool := false

section Python

/-- A byte where no carriage return is pending. -/
def takePlain (maximumLineBytes : Nat) (state : LineState) (byte : UInt8) :
    List LineStep × Option LineState :=
  if byte = 0x0D then ([], some { state with pendingCr := true })
  else if byte = 0x0A then ([.line state.line], some {})
  else if state.line.length ≥ maximumLineBytes then ([.tooLong], none)
  else ([], some { state with line := state.line ++ [byte] })

def takeByte (maximumLineBytes : Nat) (state : LineState) (byte : UInt8) :
    List LineStep × Option LineState :=
  if state.pendingCr then
    if byte = 0x0A then ([.line state.line], some {})
    else
      let taken := takePlain maximumLineBytes {} byte
      (.line state.line :: taken.1, taken.2)
  else takePlain maximumLineBytes state byte

def takeChunk (maximumLineBytes : Nat) : LineState → Bytes → List LineStep × Option LineState
  | state, [] => ([.chunkRead], some state)
  | state, byte :: rest =>
    match takeByte maximumLineBytes state byte with
    | (steps, none) => (steps, none)
    | (steps, some next) =>
      let later := takeChunk maximumLineBytes next rest
      (steps ++ later.1, later.2)

/-- `_iter_sse_lines`. -/
def iterSseLines (maximumLineBytes : Nat) : LineState → List Bytes → List LineStep
  | state, [] =>
    if state.pendingCr then [.line state.line]
    else if state.line = [] then [] else [.line state.line]
  | state, chunk :: chunks =>
    match takeChunk maximumLineBytes state chunk with
    | (steps, none) => steps
    | (steps, some next) => steps ++ iterSseLines maximumLineBytes next chunks

/-- `line.partition(":")`. -/
def partition : List Char → List Char × Bool × List Char
  | [] => ([], false, [])
  | c :: rest =>
    if c = ':' then ([], true, rest)
    else (c :: (partition rest).1, (partition rest).2)

/-- The field and the value of a line. -/
def partitionField (line : String) : String × String :=
  let (field, separator, value) := partition line.toList
  let value := if separator && startsWith value [' '] then value.drop 1 else value
  (String.ofList field, String.ofList value)

variable (limits : SseLimits)

/-- One pass of the loop of `iter_sse`. -/
def iterLine (state : EventState) (line : String) : Except Fault (Option SseEvent × EventState) :=
  if line = "" then .ok (state.event?, {})
  else if startsWith line.toList [':'] then .ok (none, state)
  else
    let size := state.size + len line
    if size > limits.maximumEventBytes then .error .eventLimit
    else
      let (field, value) := partitionField line
      if field = "event" then .ok (none, { state with eventName := value, size := size })
      else if field = "data" then
        .ok (none, { state with data := state.data ++ [value], size := size })
      else .ok (none, { state with size := size })

/-- `iter_sse` over what the lines iterator does. -/
def iterSseFrom : EventState → Place → List LineStep → Decoded
  | state, _, [] => ⟨state.event?.toList, none⟩
  | state, place, .chunkRead :: rest =>
    iterSseFrom state { place with chunks := place.chunks + 1 } rest
  | _, place, .tooLong :: _ => ⟨[], some (place, .lineLimit)⟩
  | state, place, .line bytes :: rest =>
    match readText bytes with
    | none => ⟨[], some (place, .invalidUtf8)⟩
    | some line =>
      match iterLine limits state line with
      | .error fault => ⟨[], some (place, fault)⟩
      | .ok (event, next) =>
        (iterSseFrom next { place with lines := place.lines + 1 } rest).after event.toList

/-- `iter_sse`. -/
def iterSse (chunks : List Bytes) : Decoded :=
  iterSseFrom limits {} {} (iterSseLines limits.maximumLineBytes {} chunks)

end Python

/-! ## The TypeScript decoder -/

section TypeScript

/-- `TextDecoder("utf-8", { fatal: true }).decode`: a byte-order mark at the start is no part
of the text. -/
def dropMark (text : String) : String :=
  match text.toList with
  | [] => text
  | c :: rest => if c = '\uFEFF' then String.ofList rest else text

def decodeText (bytes : Bytes) : Option String := (readText bytes).map dropMark

/-- `SseDecoder`, with the number of lines it has ended. -/
structure SseDecoder extends EventState where
  lineParts : List Bytes := []
  lineBytes : Nat := 0
  pendingCr : Bool := false
  lines : Nat := 0
  counted : lineBytes = lineParts.flatten.length := by rfl

/-- The line a fault is thrown at, and the fault. -/
abbrev Thrown := Nat × Fault

variable (limits : SseLimits)

def appendLineSegment (segment : Bytes) (decoder : SseDecoder) : Except Thrown SseDecoder :=
  if segment.length > limits.maximumLineBytes - decoder.lineBytes then
    .error (decoder.lines, .lineLimit)
  else .ok { decoder with
    lineParts := if segment.length > 0 then decoder.lineParts ++ [segment] else decoder.lineParts
    lineBytes := decoder.lineBytes + segment.length
    counted := by
      rw [decoder.counted]
      cases segment <;> simp }

/-- `#dispatch`, for a decoder that has data. -/
def dispatch (decoder : SseDecoder) : SseEvent × SseDecoder :=
  (⟨decoder.eventName, "\n".intercalate decoder.data⟩,
    { decoder with eventName := "message", data := [], size := 0 })

/-- The field and the value of a line. -/
def sliceField (line : String) : String × String :=
  let separator := line.toList.idxOf? ':'
  let field := separator.elim line.toList line.toList.take
  let value := separator.elim [] fun index => line.toList.drop (index + 1)
  let value := if startsWith value [' '] then value.drop 1 else value
  (String.ofList field, String.ofList value)

def processLine (decoder : SseDecoder) : Except Thrown (Option SseEvent × SseDecoder) :=
  let bytes := decoder.lineParts.flatten
  let ended : SseDecoder :=
    { decoder with lineParts := [], lineBytes := 0, lines := decoder.lines + 1, counted := rfl }
  match decodeText bytes with
  | none => .error (decoder.lines, .invalidUtf8)
  | some line =>
    if line = "" then
      if ended.data = [] then .ok (none, ended)
      else .ok (some (dispatch ended).1, (dispatch ended).2)
    else if startsWith line.toList [':'] then .ok (none, ended)
    else
      let size := ended.size + decoder.lineBytes
      if size > limits.maximumEventBytes then .error (decoder.lines, .eventLimit)
      else
        let (field, value) := sliceField line
        .ok (none, { ended with
          eventName := if field = "event" then value else ended.eventName
          data := if field = "data" then ended.data ++ [value] else ended.data
          size := size })

/-- `push` inside a chunk: `segment` is `chunk.subarray(start, index)`. -/
structure Pushing where
  decoder : SseDecoder
  segment : Bytes := []
  events : List SseEvent := []

/-- A byte where no carriage return is pending. -/
def pushPlain (pushing : Pushing) (byte : UInt8) : Except Thrown Pushing :=
  if byte = 0x0D ∨ byte = 0x0A then do
    let decoder ← appendLineSegment limits pushing.segment pushing.decoder
    if byte = 0x0D then
      .ok { pushing with decoder := { decoder with pendingCr := true }, segment := [] }
    else do
      let (event, decoder) ← processLine limits decoder
      .ok ⟨decoder, [], pushing.events ++ event.toList⟩
  else .ok { pushing with segment := pushing.segment ++ [byte] }

def pushByte (pushing : Pushing) (byte : UInt8) : Except Thrown Pushing :=
  if pushing.decoder.pendingCr then do
    let (event, decoder) ← processLine limits pushing.decoder
    let pushed : Pushing :=
      ⟨{ decoder with pendingCr := false }, [], pushing.events ++ event.toList⟩
    if byte = 0x0A then .ok pushed else pushPlain limits pushed byte
  else pushPlain limits pushing byte

/-- The rest of a chunk. -/
def pushRest (pushing : Pushing) (rest : Bytes) : Except Thrown (List SseEvent × SseDecoder) := do
  let pushing ← rest.foldlM (pushByte limits) pushing
  let decoder ← appendLineSegment limits pushing.segment pushing.decoder
  .ok (pushing.events, decoder)

def push (decoder : SseDecoder) (chunk : Bytes) : Except Thrown (List SseEvent × SseDecoder) :=
  pushRest limits { decoder := decoder } chunk

def finish (decoder : SseDecoder) : Except Thrown (List SseEvent) := do
  let (event, decoder) ←
    if decoder.pendingCr ∨ decoder.lineBytes > 0 then processLine limits decoder
    else .ok (none, decoder)
  if decoder.data = [] then .ok event.toList
  else .ok (event.toList ++ [(dispatch decoder).1])

/-- The loop of the client over a response: the events of a chunk whose `push` throws are
lost. -/
def streamFrom : SseDecoder → Nat → List Bytes → Decoded
  | decoder, read, [] =>
    match finish limits decoder with
    | .error (line, fault) => ⟨[], some (⟨read, line⟩, fault)⟩
    | .ok events => ⟨events, none⟩
  | decoder, read, chunk :: chunks =>
    match push limits decoder chunk with
    | .error (line, fault) => ⟨[], some (⟨read, line⟩, fault)⟩
    | .ok (events, next) => (streamFrom next (read + 1) chunks).after events

def streamEvents (chunks : List Bytes) : Decoded := streamFrom limits {} 0 chunks

end TypeScript

end ImagegenBridge.Sdk
