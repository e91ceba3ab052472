import ImagegenBridge.CodexAppServer.ConnectionSteps

/-!
# Dropped requests

A future that is dropped gives back the writer, and nothing else: what it wrote of its
line stays in the stream and its entry stays in the map.
-/

namespace ImagegenBridge.CodexAppServer

open Program Snapshot

/-- What the program that holds the writer wrote of its line. -/
def lineSoFar (v : RpcView) : List UInt8 :=
  ((v.shared.writer.bind v.phase).bind CallPhase.line).getD []

/-- On an open connection the stream is a sequence of complete lines and the beginning of
the line that is being written. -/
structure WholeLines (codec : JsonText) (v : RpcView) : Prop where
  starts : ∃ rest, IsLine codec (lineSoFar v ++ rest)
  lines : v.shared.closed = none → ∃ lines : List (List UInt8), (∀ line ∈ lines, IsLine codec line) ∧
    v.shared.output = lines.flatten ++ lineSoFar v

/-- Every pending request has a caller. -/
def Owned (v : RpcView) : Prop :=
  ∀ id ∈ v.shared.pending, ∃ caller phase, v.phase caller = some phase ∧ phase.entry = some id

def Abandonable (codec : JsonText) (v : RpcView) : Prop := WholeLines codec v ∧ Owned v

/-- A program that has no pending request and, on an open connection, no line it wrote
some bytes of and not all. -/
structure Leavable (codec : JsonText) (c : Connection) (phase : CallPhase) : Prop where
  line : c.closed = none → ∀ written, phase.line = some written →
    written = [] ∨ IsLine codec written
  entry : ∀ id, phase.entry = some id → id ∉ c.pending

/-- Only such programs are dropped. -/
def LeavesSafely (codec : JsonText) (v : RpcView) : PoolEvent rpcCalls → Prop
  | .dropped caller => ∀ phase, v.phase caller = some phase → Leavable codec v.shared phase
  | _ => True

section

variable {codec : JsonText} {config : RpcConfig} {v v' : RpcView} {event : PoolEvent rpcCalls}
  {caller : Nat} {phase phase' : CallPhase} {c' : Connection} {written : List UInt8}

/-! ## The stream -/

theorem Held.line (held : Held v) (live : v.phase caller = some phase)
    (writes : phase.line = some written) : lineSoFar v = written := by
  have owns := held.holds caller phase live (by simp [writes])
  simp [lineSoFar, owns, live, writes]

/-- The line of the program that has the writer. -/
theorem lineSoFar_own (owns : c'.writer = some caller) (line : phase'.line = some written) :
    lineSoFar (v.exchange caller phase' c') = written := by
  simp [lineSoFar, Snapshot.exchange, owns, line]

theorem lineSoFar_free (free : v.shared.writer = none) : lineSoFar v = [] := by
  simp [lineSoFar, free]

theorem lineSoFar_kept (live : v.phase caller = some phase) (writer : c'.writer = v.shared.writer)
    (line : phase'.line = phase.line) :
    lineSoFar (v.exchange caller phase' c') = lineSoFar v := by
  unfold lineSoFar
  rw [show (v.exchange caller phase' c').shared.writer = v.shared.writer from writer]
  cases v.shared.writer with
  | none => rfl
  | some holder =>
    by_cases own : holder = caller
    · subst own
      simp [Snapshot.exchange, live, line]
    · simp [Snapshot.exchange, set_other _ _ own]

theorem lineSoFar_spawn (orderly : Orderly v) :
    lineSoFar (v.spawn ({} : CallPhase)) = lineSoFar v := by
  unfold lineSoFar
  rw [show (v.spawn ({} : CallPhase)).shared.writer = v.shared.writer from rfl]
  cases owns : v.shared.writer with
  | none => rfl
  | some holder =>
    obtain ⟨phase, live, _⟩ := orderly.held.holder holder owns
    have other : holder ≠ v.spawned := Nat.ne_of_lt (orderly.formed.live_spawned live)
    simp [Snapshot.spawn, set_other _ _ other]

/-- A program without the writer leaves the line of the one that has it. -/
theorem lineSoFar_left (held : Held v) (live : v.phase caller = some phase)
    (idle : phase.line = none) :
    lineSoFar (v.drop caller (v.shared.release caller)) = lineSoFar v := by
  have apart : v.shared.writer ≠ some caller := by
    intro owns
    obtain ⟨own, also, writes⟩ := held.holder caller owns
    cases live.symm.trans also
    exact writes idle
  unfold lineSoFar
  rw [show (v.drop caller (v.shared.release caller)).shared.writer = v.shared.writer from
    if_neg apart]
  cases owns : v.shared.writer with
  | none => rfl
  | some holder =>
    have other : holder ≠ caller := fun same => apart (same ▸ owns)
    simp [Snapshot.drop, set_other _ _ other]

theorem lineSoFar_torn (held : Held v) (live : v.phase caller = some phase)
    (writes : phase.line = some written) :
    lineSoFar (v.drop caller (v.shared.release caller)) = [] := by
  have owns := held.holds caller phase live (by simp [writes])
  exact lineSoFar_free (if_pos owns)

theorem some_line : ∃ rest, IsLine codec ([] ++ rest) := ⟨_, .null, rfl⟩

theorem WholeLines.same (whole : WholeLines codec v) (line : lineSoFar v' = lineSoFar v)
    (output : v'.shared.output = v.shared.output)
    (closed : v'.shared.closed = none → v.shared.closed = none) : WholeLines codec v' := by
  constructor
  · rw [line]
    exact whole.starts
  · rw [line, output]
    exact fun unclosed => whole.lines (closed unclosed)

/-- The writer is free or taken anew after a complete line or none. -/
theorem WholeLines.ended (whole : WholeLines codec v) (idle : lineSoFar v' = [])
    (output : v'.shared.output = v.shared.output)
    (closed : v'.shared.closed = none → v.shared.closed = none)
    (done : v.shared.closed = none → lineSoFar v = [] ∨ IsLine codec (lineSoFar v)) :
    WholeLines codec v' := by
  constructor
  · rw [idle]
    exact some_line
  · rw [idle, output]
    intro unclosed
    obtain ⟨lines, complete, written⟩ := whole.lines (closed unclosed)
    rw [written]
    obtain nothing | line := done (closed unclosed)
    · exact ⟨lines, complete, by rw [nothing]⟩
    · refine ⟨lines ++ [lineSoFar v], ?_, by simp⟩
      intro other member
      obtain earlier | last := List.mem_append.mp member
      · exact complete other earlier
      · exact List.mem_singleton.mp last ▸ line

theorem WholeLines.wrote {byte : UInt8} (whole : WholeLines codec v)
    (line : lineSoFar v' = lineSoFar v ++ [byte])
    (output : v'.shared.output = v.shared.output ++ [byte])
    (closed : v'.shared.closed = none → v.shared.closed = none)
    (starts : ∃ rest, IsLine codec (lineSoFar v ++ byte :: rest)) : WholeLines codec v' := by
  constructor
  · obtain ⟨rest, complete⟩ := starts
    rw [line]
    exact ⟨rest, by rwa [List.append_cons] at complete⟩
  · rw [line, output]
    intro unclosed
    obtain ⟨lines, complete, written⟩ := whole.lines (closed unclosed)
    exact ⟨lines, complete, by rw [written, List.append_assoc]⟩

theorem step_whole (orderly : Orderly v) (whole : WholeLines codec v)
    (step : RpcStep codec config v event v') (safe : LeavesSafely codec v event) :
    WholeLines codec v' := by
  cases step with
  | spawn => exact whole.same (lineSoFar_spawn orderly) rfl id
  | @drop caller phase op shared live allowed abandons =>
    obtain rfl := abandons_released abandons
    cases writes : phase.line with
    | none => exact whole.same (lineSoFar_left orderly.held live writes) rfl id
    | some written =>
      apply whole.ended (lineSoFar_torn orderly.held live writes) rfl id
      rw [orderly.held.line live writes]
      exact fun unclosed => (safe phase live).line unclosed written writes
  | @exchange caller phase op answer shared live allowed _ performs =>
    have kept : ∀ {c' : Connection} {phase' : CallPhase}, c'.writer = v.shared.writer →
        phase'.line = phase.line → c'.output = v.shared.output →
        (c'.closed = none → v.shared.closed = none) →
        WholeLines codec (v.exchange caller phase' c') :=
      fun writer line => whole.same (lineSoFar_kept live writer line)
    cases op with
    | checkClosed | nextId =>
      obtain ⟨_, rfl⟩ := performs
      exact kept rfl rfl rfl id
    | register n | unregister n | flush | drain error =>
      obtain rfl := performs
      exact kept rfl rfl rfl id
    | publish error =>
      obtain rfl := performs
      exact kept rfl rfl rfl fun unclosed => absurd unclosed (Option.some_ne_none error)
    | wait n =>
      obtain ⟨rfl, _⟩ := performs
      cases answer <;> exact kept rfl rfl rfl id
    | dispatch line =>
      obtain ⟨_, rfl⟩ := performs
      obtain ⟨_, _, _, same⟩ := @receive_frame codec config v.shared line
      rw [same]
      exact kept rfl rfl rfl id
    | lockWriter =>
      obtain ⟨unlocked, rfl⟩ := performs
      exact whole.ended (lineSoFar_own rfl rfl) rfl id fun _ => .inl (lineSoFar_free unlocked)
    | writeByte byte =>
      obtain rfl := performs
      obtain ⟨written, rest, writes, line⟩ := allowed
      have before := orderly.held.line live writes
      cases answer with
      | false => exact kept rfl rfl rfl id
      | true =>
        have owns := orderly.held.holds caller phase live (by simp [writes])
        have after : (rpcMonitor.next phase (.writeByte byte) true).line = some (written ++ [byte]) := by
          simp [CallPhase.next, writes]
        apply whole.wrote
        · rw [before]
          exact lineSoFar_own owns after
        · rfl
        · exact id
        · exact ⟨rest, before ▸ line⟩
    | unlockWriter =>
      obtain rfl := performs
      obtain ⟨written, writes, ends⟩ := allowed
      apply whole.ended
      · exact lineSoFar_free rfl
      · rfl
      · exact id
      · rw [orderly.held.line live writes]
        intro unclosed
        exact .inr (ends.resolve_right fun closes =>
          orderly.flagged.closes caller phase live closes unclosed)

/-! ## The map -/

theorem Owned.moved (owned : Owned v)
    (entries : ∀ id ∈ c'.pending, phase'.entry = some id ∨
      id ∈ v.shared.pending ∧ ∀ phase, v.phase caller = some phase → phase.entry ≠ some id) :
    Owned (v.exchange caller phase' c') := by
  intro id member
  obtain own | ⟨before, others⟩ := entries id member
  · exact ⟨caller, phase', set_self .., own⟩
  · obtain ⟨owner, phase, live, registered⟩ := owned id before
    have apart : owner ≠ caller := by
      rintro rfl
      exact others phase live registered
    exact ⟨owner, phase, (set_other _ _ apart).trans live, registered⟩

theorem Owned.quiet (owned : Owned v) (live : v.phase caller = some phase)
    (pending : ∀ id ∈ c'.pending, id ∈ v.shared.pending) (entry : phase'.entry = phase.entry) :
    Owned (v.exchange caller phase' c') := by
  apply owned.moved
  intro id member
  by_cases own : phase.entry = some id
  · exact .inl (entry.trans own)
  · refine .inr ⟨pending id member, fun other also => ?_⟩
    cases live.symm.trans also
    exact own

/-- A request that is told of its answer, or gives up, leaves nothing in the map. -/
theorem Owned.left {id : Nat} (owned : Owned v) (live : v.phase caller = some phase)
    (own : phase.entry = some id)
    (pending : ∀ other ∈ c'.pending, other ≠ id ∧ other ∈ v.shared.pending) :
    Owned (v.exchange caller phase' c') := by
  apply owned.moved
  intro other member
  obtain ⟨apart, before⟩ := pending other member
  refine .inr ⟨before, fun also found named => ?_⟩
  cases live.symm.trans found
  exact apart (Option.some.inj (named.symm.trans own))

theorem step_owned (orderly : Orderly v) (owned : Owned v)
    (step : RpcStep codec config v event v') (safe : LeavesSafely codec v event) : Owned v' := by
  cases step with
  | spawn =>
    intro id member
    obtain ⟨owner, phase, live, registered⟩ := owned id member
    have apart : owner ≠ v.spawned := Nat.ne_of_lt (orderly.formed.live_spawned live)
    exact ⟨owner, phase, (set_other _ _ apart).trans live, registered⟩
  | @drop caller phase op shared live allowed abandons =>
    obtain rfl := abandons_released abandons
    intro id member
    obtain ⟨owner, own, also, registered⟩ := owned id member
    have apart : owner ≠ caller := by
      rintro rfl
      exact (safe own also).entry id registered member
    exact ⟨owner, own, (set_other _ _ apart).trans also, registered⟩
  | @exchange caller phase op answer shared live allowed _ performs =>
    cases op with
    | checkClosed | nextId | lockWriter =>
      obtain ⟨_, rfl⟩ := performs
      exact owned.quiet live (fun _ member => member) rfl
    | flush | unlockWriter | publish error =>
      obtain rfl := performs
      exact owned.quiet live (fun _ member => member) rfl
    | drain error =>
      obtain rfl := performs
      exact owned.quiet live (fun _ member => nomatch member) rfl
    | writeByte byte =>
      obtain rfl := performs
      cases answer <;> exact owned.quiet live (fun _ member => member) rfl
    | dispatch line =>
      obtain ⟨_, rfl⟩ := performs
      exact owned.quiet live (fun id member => (settles_receive.pending id member).1) rfl
    | register n =>
      obtain rfl := performs
      apply owned.moved
      intro id member
      obtain rfl | older := List.mem_cons.mp member
      · exact .inl rfl
      · refine .inr ⟨older, fun also found named => ?_⟩
        cases live.symm.trans found
        cases allowed.2.symm.trans named
    | unregister n =>
      obtain rfl := performs
      apply owned.left live allowed
      intro other member
      obtain ⟨before, apart⟩ := List.mem_filter.mp member
      exact ⟨of_decide_eq_true apart, before⟩
    | wait n =>
      obtain ⟨rfl, told⟩ := performs
      cases answer with
      | cancelled | elapsed => exact owned.quiet live (fun _ member => member) rfl
      | answered result =>
        apply owned.left live allowed.1
        intro other member
        have gone := (told result rfl).1
        exact ⟨fun same => gone (same ▸ member), member⟩

/-! ## Runs -/

theorem leavesSafely_abandonable {s : RpcPool} (run : RpcRun codec config (LeavesSafely codec) s) :
    Abandonable codec s.view := by
  have start : Abandonable codec (Snapshot.empty Connection.initial) :=
    ⟨⟨some_line, fun _ => ⟨[], fun _ member => (nomatch member), rfl⟩⟩, fun _ member => nomatch member⟩
  have kept : ∀ v event v', Orderly v → Abandonable codec v → RpcStep codec config v event v' →
      LeavesSafely codec v event → Abandonable codec v' := by
    intro v event v' orderly ⟨whole, owned⟩ step safe
    exact ⟨step_whole orderly whole step safe, step_owned orderly owned step safe⟩
  exact (rpcRun_invariant start kept run).1.2

/-- Complete lines end with the end of a line. -/
theorem last_newline {lines : List (List UInt8)} {byte : UInt8}
    (complete : ∀ line ∈ lines, IsLine codec line) (last : lines.flatten.getLast? = some byte) :
    byte = newline := by
  induction lines with
  | nil => cases last
  | cons line later ih =>
    rw [List.flatten_cons, List.getLast?_append] at last
    cases ends : later.flatten.getLast? with
    | some other =>
      rw [ends] at last
      exact ih (fun other member => complete other (List.mem_cons_of_mem _ member)) (ends.trans last)
    | none =>
      obtain ⟨message, rfl⟩ := complete line (List.mem_cons_self ..)
      rw [ends, Option.none_or, List.getLast?_concat] at last
      exact (Option.some.inj last).symm

/-- A part of a line is no sequence of lines. -/
theorem part_empty {lines lines' : List (List UInt8)} {part : List UInt8}
    (complete : ∀ line ∈ lines', IsLine codec line) (inside : newline ∉ part)
    (same : lines.flatten ++ part = lines'.flatten) : part = [] := by
  cases ends : part.getLast? with
  | none => exact List.getLast?_eq_none_iff.mp ends
  | some byte =>
    have last : lines'.flatten.getLast? = some byte := by
      rw [← same, List.getLast?_append, ends, Option.some_or]
    have member := List.mem_of_getLast? ends
    rw [last_newline complete last] at member
    exact absurd member inside

/-- The bytes before the last of a line are inside it. -/
theorem line_inside {byte : UInt8} {rest : List UInt8}
    (compact : ∀ message, newline ∉ codec.render message)
    (line : IsLine codec (written ++ byte :: rest)) : newline ∉ written := by
  obtain ⟨message, same⟩ := line
  rw [← List.dropLast_concat_getLast (List.cons_ne_nil byte rest), ← List.append_assoc] at same
  have front := (List.append_inj' same rfl).1
  intro member
  exact compact message (front ▸ List.mem_append_left _ member)

theorem dropped_leavable (compact : ∀ message, newline ∉ codec.render message)
    (orderly : Orderly v) (safe : Abandonable codec v) (live : v.phase caller = some phase)
    {op : RpcOp} (allowed : (rpcContract codec).Allow phase op)
    (abandons : Abandons caller op v.shared c')
    (after : Abandonable codec (v.drop caller c')) : Leavable codec v.shared phase := by
  obtain rfl := abandons_released abandons
  constructor
  · intro unclosed written writes
    have inside : IsLine codec written ∨ newline ∉ written := by
      cases op with
      | writeByte byte =>
        obtain ⟨_, rest, same, line⟩ := allowed
        cases writes.symm.trans same
        exact .inr (line_inside compact line)
      | flush =>
        obtain ⟨_, same, line⟩ := allowed
        cases writes.symm.trans same
        exact .inl line
      | lockWriter => cases writes.symm.trans allowed
      | wait n => cases writes.symm.trans allowed.2
      | _ => cases abandons
    apply inside.symm.imp_left
    intro inside
    obtain ⟨lines, _, stream⟩ := safe.1.lines unclosed
    obtain ⟨lines', complete, stream'⟩ := after.1.lines unclosed
    rw [lineSoFar_torn orderly.held live writes, List.append_nil] at stream'
    rw [orderly.held.line live writes] at stream
    exact part_empty complete inside (stream.symm.trans stream')
  · intro id registered member
    obtain ⟨owner, own, also, named⟩ := after.2 id member
    obtain ⟨apart, still⟩ := live_drop also
    exact apart (orderly.ids.entries owner caller own phase id still live named registered)

theorem drop_iff (compact : ∀ message, newline ∉ codec.render message) (orderly : Orderly v)
    (safe : Abandonable codec v) (step : RpcStep codec config v (.dropped caller) v') :
    Abandonable codec v' ↔ LeavesSafely codec v (.dropped caller) := by
  constructor
  · intro after
    cases step with
    | drop live allowed abandons =>
      intro phase also
      cases live.symm.trans also
      exact dropped_leavable compact orderly safe live allowed abandons after
  · intro leaves
    exact ⟨step_whole orderly safe.1 step leaves, step_owned orderly safe.2 step leaves⟩

/-- Where only programs that may leave are dropped, every state of a run is safe; a drop
in a safe state leaves a safe one only where the program may leave. -/
theorem request_abandonment :
    (∀ s, RpcRun codec config (LeavesSafely codec) s → Abandonable codec s.view) ∧
    ((∀ message, newline ∉ codec.render message) →
      ∀ s caller s', RpcRun codec config (fun _ _ => True) s → Abandonable codec s.view →
        RpcPoolStep codec config s (.dropped caller) s' →
          (Abandonable codec s'.view ↔ LeavesSafely codec s.view (.dropped caller))) := by
  constructor
  · exact fun s run => leavesSafely_abandonable run
  · intro compact s caller s' run safe dropped
    let Any : RpcView → Prop := fun _ => True
    have start : Any (Snapshot.empty Connection.initial) := trivial
    obtain ⟨⟨orderly, _⟩, kept⟩ := rpcRun_invariant start (fun _ _ _ _ _ _ _ => trivial) run
    exact drop_iff compact orderly safe (rpcStep_refines kept dropped)

end

/-- A request is dropped after three bytes of its line, and another one follows. -/
def tornLine : List (Pool.Move rpcCalls RpcEnd) :=
  .spawn (startTurn (turnCodec .null)) :: List.replicate 7 (.go 0) ++ .drop 0 ::
    .spawn (startTurn (turnCodec .null)) :: List.replicate (firstLine.length + 7) (.go 1)

def followsTorn (s : RpcPool) : Bool :=
  s.view.shared.closed.isNone && decide (s.view.shared.pending = [2, 1])
    && (s.view.phase 0).isNone && s.view.shared.writer.isNone
    && decide (s.view.shared.output = firstLine.take 3 ++ (firstLine ++ [newline]))

theorem torn_plays :
    (rpcSchedule (turnCodec .null) turnConfig tornLine).any followsTorn = true := by
  rfl

/-- The second line is appended to the partial first one, and the first entry stays. -/
theorem torn_line_followed : ∃ s : RpcPool,
    RpcRun (turnCodec .null) turnConfig (fun _ _ => True) s ∧ s.view.shared.closed = none ∧
      s.view.phase 0 = none ∧ 1 ∈ s.view.shared.pending ∧
      s.view.shared.output = firstLine.take 3 ++ (firstLine ++ [newline]) ∧
      ¬Abandonable (turnCodec .null) s.view := by
  obtain ⟨s, scheduled, follows⟩ := (Option.any_eq_true ..).mp torn_plays
  simp only [followsTorn, Bool.and_eq_true, decide_eq_true_eq, Option.isNone_iff_eq_none] at follows
  obtain ⟨⟨⟨⟨unclosed, pending⟩, gone⟩, free⟩, output⟩ := follows
  refine ⟨s, rpcSchedule_run ?_ scheduled, unclosed, gone, by simp [pending], output, ?_⟩
  · intro p member
    simp only [tornLine, List.cons_append, List.mem_append, List.mem_cons, List.mem_replicate,
      reduceCtorEq, and_false, false_or, or_false, Pool.Move.spawn.injEq] at member
    obtain rfl | rfl := member <;> exact .request ..
  · rintro ⟨whole, _⟩
    obtain ⟨lines, complete, stream⟩ := whole.lines unclosed
    rw [lineSoFar_free free, List.append_nil, output] at stream
    cases lines with
    | nil => cases stream
    | cons line later =>
      obtain ⟨message, rfl⟩ := complete line (List.mem_cons_self ..)
      have first : firstLine ++ [newline] <+: firstLine.take 3 ++ (firstLine ++ [newline]) :=
        ⟨later.flatten, stream.symm⟩
      revert first
      decide +kernel

end ImagegenBridge.CodexAppServer
