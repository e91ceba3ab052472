import ImagegenBridge.Cli.Handoff

/-!
# What a handoff leaves behind

A slot must not be started while the other one may run, and a rollback that reports success
must have restored everything. Both rest on steps of the rollback whose failures are
ignored.
-/

namespace ImagegenBridge.Update

open Program

/-- What an observer knows during a handoff: the files, which slots are not known to be
stopped, which were reported healthy since they were last commanded, and what went wrong. -/
structure Handover where
  environment : Option (List UInt8)
  coordination : Option (List UInt8)
  slot : Option (List UInt8)
  mayRun : Slot → Bool
  healthy : Slot → Bool
  held : Bool := false
  moved : Bool := false
  doubled : Bool := false
  unstopped : Bool := false
  unrestored : Bool := false

namespace Handover

def commanded (s : Handover) (slot : Slot) : Handover :=
  { s with moved := true, healthy := Function.update s.healthy slot false }

def wrote (s : Handover) (file : HandoffFile) (bytes : List UInt8) : Handover :=
  match file with
  | .environment => { s with environment := some bytes }
  | .coordination => { s with coordination := some bytes, held := s.held || bytes == holdLine }
  | .slot => { s with slot := some bytes }

/-- After the hold, the environment file does not get the content it had before. -/
def missedRestore (s : Handover) (content : Option (List UInt8)) : Handover :=
  { s with unrestored := s.unrestored || (s.held && s.environment != content) }

/-- The target of the handoff is not stopped. -/
def missedStop (s : Handover) (target slot : Slot) : Handover :=
  { s with unstopped := s.unstopped || (slot == target && s.mayRun slot) }

def started (s : Handover) (slot : Slot) (answer : ComposeAnswer) : Handover :=
  { s with
    doubled := s.doubled || s.mayRun slot.other
    mayRun := if answer = .unavailable then s.mayRun else Function.update s.mayRun slot true }

def next (parse : String → Option Json) (target : Slot) (s : Handover) :
    (op : HandoffOp) → op.Ans → Handover
  | .write file bytes, .written => s.wrote file bytes
  | .write .environment bytes, .failed _ => s.missedRestore (some bytes)
  | .removeEnvironment, true => { s with environment := none }
  | .removeEnvironment, false => s.missedRestore none
  | .compose (.stop slot), .succeeded =>
    { s.commanded slot with mayRun := Function.update s.mayRun slot false }
  | .compose (.stop slot), _ => (s.commanded slot).missedStop target slot
  | .compose (.up slot), answer => (s.commanded slot).started slot answer
  | .list slot, .listed true stdout =>
    if composeReportsHealthy parse stdout then
      { s with healthy := Function.update s.healthy slot true }
    else s
  | _, _ => s

end Handover

variable {parse : String → Option Json} {target current : Slot}

abbrev handoffMonitor (parse : String → Option Json) (target : Slot) : Monitor handoffCalls :=
  ⟨Handover, Handover.next parse target⟩

/-- The environment file is read as it is. -/
def ReadsTruly (s : Handover) : (op : HandoffOp) → op.Ans → Prop
  | .readEnvironment, .content bytes => s.environment = some bytes
  | .readEnvironment, .missing => s.environment = none
  | _, _ => True

abbrev handoffContract (parse : String → Option Json) (target : Slot) :
    Contract (handoffMonitor parse target) where
  Allow _ _ := True
  Expect s op answer := ReadsTruly s op answer

/-! ## Steps -/

variable {s : Handover} {ok : Unit → Handover → Prop} {failed : BridgeError → Handover → Prop}

theorem tries_await {op : HandoffOp} {α : Type} {g : op.Ans → Handoff α} {ok : α → Handover → Prop}
    (continues : ∀ answer, ReadsTruly s op answer →
      Tries (handoffContract parse target) (g answer) (s.next parse target op answer) ok failed) :
    Tries (handoffContract parse target) (await op >>= g) s ok failed :=
  tries_bind.mpr ((tries_lift _).mpr ⟨trivial, continues⟩)

theorem tries_orUndo {step : Handoff Unit} {undo : BridgeError → Handoff Unit}
    (kept : Tries (handoffContract parse target) step s ok
      fun e t => Tries (handoffContract parse target) (undo e) t ok failed) :
    Tries (handoffContract parse target) (orUndo step undo) s ok failed :=
  tries_attempt.mpr kept

theorem tries_atomicWrite {file : HandoffFile} {bytes : List UInt8}
    (written : ok () (s.wrote file bytes))
    (refused : ∀ step, failed (writeFailure step)
      (if file = .environment then s.missedRestore (some bytes) else s)) :
    Tries (handoffContract parse target) (atomicWrite file bytes) s ok failed := by
  apply tries_await
  rintro (_ | step) _
  · cases file <;> exact written
  · have missed := refused step
    cases file <;> exact missed

theorem tries_restoreFile {original : Option (List UInt8)}
    (restored : ok () { s with environment := original })
    (missed : ok () (s.missedRestore original)) :
    Tries (handoffContract parse target) (restoreFile original) s ok failed := by
  cases original with
  | none =>
    apply tries_await
    rintro (_ | _) _
    · exact missed
    · exact restored
  | some bytes =>
    apply tries_await
    rintro (_ | step) _
    · exact restored
    · exact missed

theorem tries_compose {command : ComposeCommand}
    (succeeds : ok () (s.next parse target (.compose command) .succeeded))
    (fails : ∀ answer error, answer ≠ .succeeded →
      (error = unavailable ∨ error = .new .upstream "Docker Compose command failed") →
      failed error (s.next parse target (.compose command) answer)) :
    Tries (handoffContract parse target) (compose command) s ok failed := by
  apply tries_await
  rintro (_ | _ | _) _
  · exact succeeds
  · exact fails .failed _ (by intro same; cases same) (.inr rfl)
  · exact fails .unavailable _ (by intro same; cases same) (.inl rfl)

/-- Waiting changes nothing but what is known of the slot's health. -/
theorem tries_waitHealthy {slot : Slot} (rounds : Nat)
    (healthy : ok () { s with healthy := Function.update s.healthy slot true })
    (late : ∀ error, failed error s) :
    Tries (handoffContract parse target) (waitHealthy parse slot rounds) s ok failed := by
  induction rounds with
  | zero =>
    apply tries_await
    intro never
    nomatch never
  | succ rounds ih =>
    apply tries_await
    rintro (⟨success, stdout⟩ | _) _
    · cases success with
      | false =>
        apply tries_await
        rintro (_ | _) _
        · exact ih
        · exact late _
      | true =>
        by_cases reported : composeReportsHealthy parse stdout = true
        · simpa [Handover.next, reported] using healthy
        · simp only [Handover.next, reported, Bool.and_false, Bool.false_eq_true, if_false]
          apply tries_await
          rintro (_ | _) _
          · exact ih
          · exact late _
    · exact late _

/-! ## The report of a rollback -/

def rollbackReports : List String :=
  ["active/passive handoff failed; previous slot rollback succeeded: ",
    "handoff state commit failed; previous slot rollback succeeded: "]

/-- The error says that the rollback succeeded. -/
def reportsRollback (error : BridgeError) : Bool :=
  rollbackReports.any fun report => Text.startsWith error.message.toList report.toList

def handoffFailures : List String := ["active/passive handoff failed", "handoff state commit failed"]

def handoffReport (message : String) (rollback : Outcome Unit) : String :=
  message ++ "; previous slot rollback " ++
    (match rollback with
      | .ok () => "succeeded"
      | .error _ => "failed") ++ ": "

/-- How the reports begin; no other message begins so. -/
theorem rollbackReports_head {report : String} (listed : report ∈ rollbackReports) :
    report.toList.head? = some 'a' ∨ report.toList.head? = some 'h' := by
  rcases List.mem_pair.mp listed with rfl | rfl
  · exact .inl ((congrArg List.head? String.toList_ofList).trans rfl)
  · exact .inr ((congrArg List.head? String.toList_ofList).trans rfl)

theorem unreported_of_head {error : BridgeError} {c : Char}
    (head : error.message.toList.head? = some c) (other : c ≠ 'a' ∧ c ≠ 'h') :
    reportsRollback error = false := by
  apply List.any_eq_false.mpr
  intro report listed starts
  obtain ⟨rest, whole⟩ := List.isPrefixOf_iff_prefix.mp starts
  have same : report.toList.head? = error.message.toList.head? := by
    rw [← whole]
    rcases rollbackReports_head listed with begins | begins <;> simp [List.head?_append, begins]
  rw [head] at same
  rcases rollbackReports_head listed with begins | begins
  · exact other.1 (Option.some.inj (same.symm.trans begins))
  · exact other.2 (Option.some.inj (same.symm.trans begins))

theorem failedReport_apart {message report : String} {failed : BridgeError} (rest : List Char)
    (known : message ∈ handoffFailures) (listed : report ∈ rollbackReports) :
    Text.startsWith ((handoffReport message (.error failed)).toList ++ rest) report.toList =
      false := by
  have whole : (handoffReport message (.error failed)).toList = message.toList ++
      "; previous slot rollback ".toList ++ "failed".toList ++ ": ".toList := by
    simp only [handoffReport, String.toList_append]
  rw [whole]
  rcases List.mem_pair.mp known with rfl | rfl <;> rcases List.mem_pair.mp listed with rfl | rfl <;>
    (repeat rw [String.toList_ofList]) <;> rfl

theorem handoffError_reports {message : String} (known : message ∈ handoffFailures)
    (rollback : Outcome Unit) (error : BridgeError) :
    reportsRollback (handoffError message rollback error) = rollback.isOk := by
  have whole : (handoffError message rollback error).message.toList =
      (handoffReport message rollback).toList ++ error.message.toList := by
    rw [← String.toList_append]
    rfl
  unfold reportsRollback
  rw [whole]
  cases rollback with
  | ok done =>
    have listed : handoffReport message (.ok ()) ∈ rollbackReports := by
      rcases List.mem_pair.mp known with rfl | rfl
      · exact List.mem_pair.mpr (.inl rfl)
      · exact List.mem_pair.mpr (.inr rfl)
    apply List.any_eq_true.mpr
    refine ⟨handoffReport message (.ok ()), listed, ?_⟩
    exact List.isPrefixOf_iff_prefix.mpr (List.prefix_append _ _)
  | error e =>
    apply List.any_eq_false.mpr
    intro start among
    rw [failedReport_apart _ known among]
    exact Bool.false_ne_true

/-! ## The parts of a handoff -/

/-- Nothing went wrong so far, and the gateway holds requests. -/
structure Clean (s : Handover) : Prop where
  held : s.held = true
  single : s.doubled = false
  stopped : s.unstopped = false
  restored : s.unrestored = false

/-- How a rollback leaves things: a slot was doubled exactly if the target was not stopped,
and the environment file is restored unless that failed. -/
structure Undone (original : Option (List UInt8)) (s : Handover) : Prop where
  held : s.held = true
  doubled : s.doubled = s.unstopped
  restored : s.environment = original ↔ s.unrestored = false

/-- Both files name the slot, which was reported healthy. -/
structure Serves (slot : Slot) (s : Handover) : Prop where
  healthy : s.healthy slot = true
  slotFile : s.slot = some (slotLine slot)
  coordinationFile : s.coordination = some (slotLine slot)

/-- What is known once the previous slot was started again. -/
def Handover.restarted (s : Handover) (slot : Slot) (answer : ComposeAnswer) : Handover :=
  (s.commanded slot).started slot answer

/-- After its first two steps a rollback can only go on, or fail. -/
theorem rollback_restarts (rounds : Nat) {original : Option (List UInt8)}
    (undone : ∀ answer, Undone original (s.restarted current answer)) :
    Tries (handoffContract parse current.other)
      (do
        compose (.up current)
        waitHealthy parse current rounds
        atomicWrite .slot (slotLine current)
        atomicWrite .coordination (slotLine current)) s
      (fun _ t => Undone original t ∧ Serves current t) fun _ t => Undone original t := by
  have later : ∀ t : Handover, Undone original t → t.healthy current = true →
      Tries (handoffContract parse current.other)
        (do
          atomicWrite .slot (slotLine current)
          atomicWrite .coordination (slotLine current)) t
        (fun _ t => Undone original t ∧ Serves current t) fun _ t => Undone original t := by
    intro t undone healthy
    apply tries_bind.mpr
    apply tries_atomicWrite
    · apply tries_atomicWrite
      · refine ⟨⟨?_, undone.doubled, undone.restored⟩, healthy, rfl, rfl⟩
        simp [Handover.wrote, undone.held]
      · intro step
        exact ⟨undone.held, undone.doubled, undone.restored⟩
    · intro step
      exact undone
  apply tries_bind.mpr
  apply tries_compose
  · apply tries_bind.mpr
    have up := undone .succeeded
    apply tries_waitHealthy
    · apply later
      · exact ⟨up.held, up.doubled, up.restored⟩
      · simp
    · intro error
      exact up
  · intro answer error _ _
    exact undone answer

/-- The stop of the target went wrong exactly if the target may still run. -/
structure Stopped (target : Slot) (s : Handover) : Prop where
  held : s.held = true
  single : s.doubled = false
  restored : s.unrestored = false
  told : s.unstopped = s.mayRun target

theorem Stopped.undone {original : Option (List UInt8)} (stopped : Stopped current.other s)
    (answer : ComposeAnswer) :
    Undone original (({ s with environment := original } : Handover).restarted current answer) ∧
      Undone original ((s.missedRestore original).restarted current answer) := by
  have doubled : (s.doubled || s.mayRun current.other) = s.unstopped := by
    rw [stopped.single, stopped.told, Bool.false_or]
  refine ⟨⟨stopped.held, doubled, ?_⟩, ⟨stopped.held, doubled, ?_⟩⟩
  · exact ⟨fun _ => stopped.restored, fun _ => rfl⟩
  · simp [Handover.restarted, Handover.missedRestore, Handover.started, Handover.commanded,
      stopped.held, stopped.restored]

/-- A rollback doubles a slot exactly if it cannot stop the target, and restores everything
but for an environment file that cannot be replaced. -/
theorem rollbackHandoff_undoes (rounds : Nat) (original : Option (List UInt8)) (clean : Clean s) :
    Tries (handoffContract parse current.other)
      (rollbackHandoff parse rounds current current.other original) s
      (fun _ t => Undone original t ∧ Serves current t) fun _ t => Undone original t := by
  have later : ∀ t : Handover, Stopped current.other t → Tries (handoffContract parse current.other)
      (do
        restoreFile original
        compose (.up current)
        waitHealthy parse current rounds
        atomicWrite .slot (slotLine current)
        atomicWrite .coordination (slotLine current)) t
      (fun _ t => Undone original t ∧ Serves current t) fun _ t => Undone original t := by
    intro t stopped
    apply tries_bind.mpr
    apply tries_restoreFile
    · exact rollback_restarts rounds fun answer => (stopped.undone answer).1
    · exact rollback_restarts rounds fun answer => (stopped.undone answer).2
  apply tries_bind.mpr
  apply tries_orUndo
  apply tries_compose
  · apply later
    refine ⟨clean.held, clean.single, clean.restored, ?_⟩
    simp [Handover.next, Handover.commanded, clean.stopped]
  · intro answer error refused _
    apply (tries_pure _).mpr
    apply later
    have missed : s.next parse current.other (.compose (.stop current.other)) answer =
        (s.commanded current.other).missedStop current.other current.other := by
      cases answer with
      | succeeded => exact absurd rfl refused
      | failed | unavailable => rfl
    rw [missed]
    refine ⟨clean.held, clean.single, clean.restored, ?_⟩
    simp [Handover.missedStop, Handover.commanded, clean.stopped]

/-! ## Whole handoffs -/

/-- How a handoff that fails after the hold leaves things. -/
structure FailedHandoff (current : Slot) (original : Option (List UInt8)) (error : BridgeError)
    (s : Handover) : Prop where
  undone : Undone original s
  reported : reportsRollback error = true → Serves current s

theorem rolledBack_reports (rounds : Nat) {original : Option (List UInt8)} {message : String}
    (known : message ∈ handoffFailures) (error : BridgeError) (clean : Clean s) :
    Tries (handoffContract parse current.other)
      (rolledBack parse rounds current current.other original message error) s
      (fun _ _ => False) fun e t => FailedHandoff current original e t := by
  apply tries_attempt.mpr
  apply Tries.mono (rollbackHandoff_undoes rounds original clean)
  · rintro done t ⟨undone, serves⟩
    exact ⟨undone, fun _ => serves⟩
  · intro e t undone
    refine ⟨undone, ?_⟩
    intro reported
    rw [handoffError_reports known] at reported
    cases reported

/-- A handoff begins with the current slot in both files, and the other one stopped. -/
structure Begins (current : Slot) (s : Handover) : Prop where
  slotFile : s.slot = some (slotLine current)
  coordinationFile : s.coordination = some (slotLine current)
  stopped : s.mayRun current.other = false
  free : s.held = false ∧ s.moved = false
  flawless : s.doubled = false ∧ s.unstopped = false ∧ s.unrestored = false

/-- Before the hold nothing but the environment file may have changed. -/
structure Untouched (start s : Handover) : Prop where
  slotFile : s.slot = start.slot
  coordinationFile : s.coordination = start.coordination
  mayRun : s.mayRun = start.mayRun
  free : s.held = false ∧ s.moved = false
  flawless : s.doubled = false ∧ s.unstopped = false ∧ s.unrestored = false

theorem Begins.untouched (begins : Begins current s) : Untouched s s :=
  ⟨rfl, rfl, rfl, begins.free, begins.flawless⟩

theorem Untouched.replaced {start : Handover} (untouched : Untouched start s)
    (content : Option (List UInt8)) : Untouched start { s with environment := content } :=
  ⟨untouched.slotFile, untouched.coordinationFile, untouched.mayRun, untouched.free,
    untouched.flawless⟩

theorem Untouched.missed {start : Handover} (untouched : Untouched start s)
    (content : Option (List UInt8)) : Untouched start (s.missedRestore content) := by
  refine ⟨untouched.slotFile, untouched.coordinationFile, untouched.mayRun, untouched.free,
    untouched.flawless.1, untouched.flawless.2.1, ?_⟩
  simp [Handover.missedRestore, untouched.free.1, untouched.flawless.2.2]

/-- How a handoff may fail. -/
def Fails (current : Slot) (start : Handover) (error : BridgeError) (s : Handover) : Prop :=
  Untouched start s ∧ reportsRollback error = false ∨
    FailedHandoff current start.environment error s

/-- A step before the hold whose failure puts the environment file back. -/
theorem tries_undone {step : Handoff Unit} {start : Handover} {original : Option (List UInt8)}
    {ok : Unit → Handover → Prop}
    (kept : Tries (handoffContract parse target) step s ok
      fun e t => Untouched start t ∧ reportsRollback e = false) :
    Tries (handoffContract parse target)
      (orUndo step fun error => do
        restoreFile original
        throw error) s ok (Fails current start) := by
  apply tries_orUndo
  apply Tries.mono kept fun _ _ held => held
  rintro e t ⟨untouched, unreported⟩
  apply tries_bind.mpr
  apply tries_restoreFile
  · exact .inl ⟨untouched.replaced original, unreported⟩
  · exact .inl ⟨untouched.missed original, unreported⟩

/-- What a handoff has done when it returns. -/
structure HandedOver (current : Slot) (s : Handover) : Prop where
  serves : Serves current.other s
  flawless : s.doubled = false ∧ s.unstopped = false ∧ s.unrestored = false
  held : s.held = true

theorem cutOver_serves (rounds : Nat) (clean : Clean s) (stopped : s.mayRun current.other = false) :
    Tries (handoffContract parse current.other) (cutOver parse rounds current current.other) s
      (fun _ t => Clean t ∧ t.healthy current.other = true) fun _ t => Clean t := by
  have apart : (current == current.other) = false := by cases current <;> rfl
  have back : current.other.other = current := by cases current <;> rfl
  apply tries_bind.mpr
  apply tries_compose
  · apply tries_bind.mpr
    have started : ∀ answer, Clean (Handover.restarted
        { s.commanded current with mayRun := Function.update s.mayRun current false }
        current.other answer) := by
      intro answer
      refine ⟨clean.held, ?_, clean.stopped, clean.restored⟩
      simp [Handover.restarted, Handover.started, Handover.commanded, clean.single, back]
    apply tries_compose
    · apply tries_waitHealthy
      · have up := started .succeeded
        exact ⟨⟨up.held, up.single, up.stopped, up.restored⟩, by simp⟩
      · intro error
        exact started .succeeded
    · intro answer error _ _
      exact started answer
  · intro answer error refused _
    have missed : s.next parse current.other (.compose (.stop current)) answer =
        (s.commanded current).missedStop current.other current := by
      cases answer with
      | succeeded => exact absurd rfl refused
      | failed | unavailable => rfl
    rw [missed]
    refine ⟨clean.held, clean.single, ?_, clean.restored⟩
    simp [Handover.missedStop, Handover.commanded, clean.stopped, apart]

theorem commit_serves (clean : Clean s) (healthy : s.healthy current.other = true) :
    Tries (handoffContract parse current.other) (commit current.other) s
      (fun _ t => HandedOver current t) fun _ t => Clean t := by
  apply tries_bind.mpr
  apply tries_atomicWrite
  · apply tries_atomicWrite
    · refine ⟨⟨healthy, rfl, rfl⟩, ⟨clean.single, clean.stopped, clean.restored⟩, ?_⟩
      simp [Handover.wrote, clean.held]
    · intro step
      exact ⟨clean.held, clean.single, clean.stopped, clean.restored⟩
  · intro step
    exact clean

theorem writeFailure_unreported (step : WriteStep) : reportsRollback (writeFailure step) = false := by
  have head : (writeFailure step).message.toList.head? = some 'u' ∨
      (writeFailure step).message.toList.head? = some 't' := by
    cases step
    case directory | publish => exact .inl ((congrArg List.head? String.toList_ofList).trans rfl)
    case temporary | contents => exact .inr ((congrArg List.head? String.toList_ofList).trans rfl)
  rcases head with head | head <;> exact unreported_of_head head ⟨by decide, by decide⟩

theorem readFailure_unreported : reportsRollback readFailure = false :=
  unreported_of_head ((congrArg List.head? String.toList_ofList).trans rfl) ⟨by decide, by decide⟩

theorem updateEnvNamedPin_error {original : List UInt8} {variableName image : String}
    {error : BridgeError} (failed : updateEnvNamedPin original variableName image = .error error) :
    reportsRollback error = false := by
  unfold updateEnvNamedPin at failed
  split at failed
  · cases failed
    exact unreported_of_head ((congrArg List.head? String.toList_ofList).trans rfl)
      ⟨by decide, by decide⟩
  · cases failed

/-- From the updated environment file on. -/
theorem handoff_proceeds (rounds : Nat) (updated : List UInt8) {start : Handover}
    (begins : Begins current start) :
    Tries (handoffContract parse current.other)
      (do
        atomicWrite .environment updated
        orUndo (compose (.pull current.other)) fun error => do
          restoreFile start.environment
          throw error
        orUndo (atomicWrite .coordination holdLine) fun error => do
          restoreFile start.environment
          throw error
        orUndo (cutOver parse rounds current current.other)
          (rolledBack parse rounds current current.other start.environment
            "active/passive handoff failed")
        orUndo (commit current.other)
          (rolledBack parse rounds current current.other start.environment
            "handoff state commit failed")) start
      (fun _ t => HandedOver current t) (Fails current start) := by
  apply tries_bind.mpr
  apply tries_atomicWrite
  · have pinned : Untouched start (start.wrote .environment updated) :=
      begins.untouched.replaced _
    apply tries_bind.mpr
    apply tries_undone
    apply tries_compose
    · apply tries_bind.mpr
      apply tries_undone
      apply tries_atomicWrite
      · have clean : Clean ((start.wrote .environment updated).wrote .coordination holdLine) := by
          refine ⟨?_, begins.flawless.1, begins.flawless.2.1, begins.flawless.2.2⟩
          simp [Handover.wrote]
        apply tries_bind.mpr
        apply tries_orUndo
        apply Tries.mono (cutOver_serves rounds clean begins.stopped)
        · rintro done t ⟨clean, healthy⟩
          apply tries_orUndo
          apply Tries.mono (commit_serves clean healthy)
          · exact fun _ _ handed => handed
          · intro error t clean
            apply Tries.mono (rolledBack_reports rounds (by decide) error clean)
            · exact fun _ _ never => never.elim
            · exact fun e t failed => .inr failed
        · intro error t clean
          apply Tries.mono (rolledBack_reports rounds (by decide) error clean)
          · exact fun _ _ never => never.elim
          · exact fun e t failed => .inr failed
      · intro step
        exact ⟨pinned, writeFailure_unreported step⟩
    · intro answer error _ refused
      refine ⟨pinned, ?_⟩
      rcases refused with rfl | rfl <;>
        exact unreported_of_head ((congrArg List.head? String.toList_ofList).trans rfl)
          ⟨by decide, by decide⟩
  · intro step
    exact .inl ⟨begins.untouched.missed _, writeFailure_unreported step⟩

theorem dockerHandoff_ends (rounds : Nat) (image : String) {start : Handover}
    (begins : Begins current start) :
    Tries (handoffContract parse current.other)
      (dockerHandoff parse rounds current current.other image) start
      (fun _ t => HandedOver current t) (Fails current start) := by
  have proceeds : ∀ original, start.environment = original → Tries (handoffContract parse current.other)
      (do
        let updated ← ensure (updateEnvNamedPin (original.getD []) current.other.variableName image)
        atomicWrite .environment updated
        orUndo (compose (.pull current.other)) fun error => do
          restoreFile original
          throw error
        orUndo (atomicWrite .coordination holdLine) fun error => do
          restoreFile original
          throw error
        orUndo (cutOver parse rounds current current.other)
          (rolledBack parse rounds current current.other original "active/passive handoff failed")
        orUndo (commit current.other)
          (rolledBack parse rounds current current.other original "handoff state commit failed"))
      start (fun _ t => HandedOver current t) (Fails current start) := by
    rintro original rfl
    apply tries_bind.mpr
    cases pinned : updateEnvNamedPin (start.environment.getD []) current.other.variableName image with
    | error e => exact .inl ⟨begins.untouched, updateEnvNamedPin_error pinned⟩
    | ok updated => exact handoff_proceeds rounds updated begins
  apply tries_bind.mpr
  apply tries_await
  rintro (bytes | _ | _) truly
  · exact proceeds (some bytes) truly
  · exact proceeds none truly
  · exact .inl ⟨begins.untouched, readFailure_unreported⟩

/-! ## Runs -/

/-- What a handoff promises when it ends: it never started a slot beside one that may run,
it serves the target when it succeeds and the previous slot with the previous environment
when it reports a rollback, and nothing was touched when it fails before the hold. -/
structure Honest (current : Slot) (start : Handover) (result : Outcome Unit) (s : Handover) :
    Prop where
  exclusive : s.doubled = false
  succeeded : result = .ok () → Serves current.other s
  rolledBack : ∀ error, result = .error error → reportsRollback error = true →
    Serves current s ∧ s.environment = start.environment
  unheld : ∀ error, result = .error error → s.held = false →
    s.slot = start.slot ∧ s.coordination = start.coordination ∧ s.moved = false

/-- A handoff keeps its promises exactly if the target is stopped whenever it may run, and no
rollback that reports success fails to restore the environment file. -/
theorem handoff_honest_iff (parse : String → Option Json) (rounds : Nat) (current : Slot)
    (image : String) {start : Handover} {trace : List (Exchange handoffCalls)}
    {result : Outcome Unit} (begins : Begins current start)
    (run : Follows (dockerHandoff parse rounds current current.other image).run trace (.done result))
    (truly : (handoffContract parse current.other).ExpectsAll start trace) :
    let last := (handoffMonitor parse current.other).after start trace
    Honest current start result last ↔
      last.unstopped = false ∧
        ∀ error, result = .error error → reportsRollback error = true → last.unrestored = false := by
  intro last
  have ends := (@dockerHandoff_ends parse _ rounds image _ begins).follows run truly
  cases result with
  | ok done =>
    change HandedOver current last at ends
    constructor
    · intro _
      exact ⟨ends.flawless.2.1, fun _ impossible => by cases impossible⟩
    · intro _
      exact ⟨ends.flawless.1, fun _ => ends.serves, fun _ impossible => (by cases impossible),
        fun _ impossible => (by cases impossible)⟩
  | error e =>
    change Fails current start e last at ends
    rcases ends with ⟨untouched, unreported⟩ | ⟨undone, reported⟩
    · constructor
      · intro _
        exact ⟨untouched.flawless.2.1, fun _ _ _ => untouched.flawless.2.2⟩
      · intro _
        refine ⟨untouched.flawless.1, fun impossible => (by cases impossible), ?_, ?_⟩
        · rintro error same reports
          obtain rfl := Except.error.inj same
          rw [unreported] at reports
          cases reports
        · intro error same unheld
          exact ⟨untouched.slotFile, untouched.coordinationFile, untouched.free.2⟩
    · constructor
      · intro honest
        refine ⟨undone.doubled.symm.trans honest.exclusive, ?_⟩
        intro error same reports
        exact undone.restored.mp (honest.rolledBack error same reports).2
      · rintro ⟨stopped, restored⟩
        refine ⟨undone.doubled.trans stopped, fun impossible => (by cases impossible), ?_, ?_⟩
        · rintro error same reports
          obtain rfl := Except.error.inj same
          exact ⟨reported reports, undone.restored.mpr (restored _ rfl reports)⟩
        · intro error same unheld
          rw [undone.held] at unheld
          cases unheld

/-! ## A rollback that goes wrong -/

def healthyText : String := "\x7b\"Health\":\"healthy\"\x7d"

def parseHealth (text : String) : Option Json :=
  if text = healthyText then some (.object [("Health", .string "healthy")]) else none

/-- Everything works but for what is given: the health of the target, its stop and the
removal of the environment file that the handoff made. -/
def handoffAnswers (ready : Bool) (stopped : ComposeAnswer) (removed : Bool) :
    (op : HandoffOp) → Option op.Ans
  | .readEnvironment => some .missing
  | .write .. => some .written
  | .removeEnvironment => some removed
  | .compose (.stop .green) => some stopped
  | .compose _ => some .succeeded
  | .list slot =>
    some (.listed true (if slot = .blue || ready then healthyText.toUTF8.toList else []))
  | .deadlinePassed => some true
  | .stall => none

def blueServes : Handover where
  environment := none
  coordination := some (slotLine .blue)
  slot := some (slotLine .blue)
  mayRun := fun slot => slot == .blue
  healthy := fun _ => false

theorem blueServes_begins : Begins .blue blueServes := ⟨rfl, rfl, rfl, ⟨rfl, rfl⟩, rfl, rfl, rfl⟩

def readsEnvironment (exchange : Exchange handoffCalls) : Bool :=
  match exchange.op with
  | .readEnvironment => true
  | _ => false

/-- The environment file is missing, and read once at most. -/
def readsMissing : List (Exchange handoffCalls) → Bool
  | [] => true
  | ⟨.readEnvironment, .missing⟩ :: rest => rest.all fun exchange => !readsEnvironment exchange
  | _ => false

theorem expectsAll_unread {s : Handover} {trace : List (Exchange handoffCalls)}
    (unread : (trace.all fun exchange => !readsEnvironment exchange) = true) :
    (handoffContract parse target).ExpectsAll s trace := by
  induction trace generalizing s with
  | nil => trivial
  | cons exchange trace ih =>
    simp only [List.all_cons, Bool.and_eq_true, Bool.not_eq_true'] at unread
    refine ⟨?_, ih unread.2⟩
    obtain ⟨op, answer⟩ := exchange
    cases op with
    | readEnvironment => cases unread.1
    | _ => trivial

theorem readsMissing_truly {trace : List (Exchange handoffCalls)}
    (missing : readsMissing trace = true) :
    (handoffContract parse target).ExpectsAll blueServes trace := by
  unfold readsMissing at missing
  split at missing
  · trivial
  · exact ⟨rfl, expectsAll_unread missing⟩
  · cases missing

/-- A handoff from blue to green. -/
def greenHandoff : Handoff Unit := dockerHandoff parseHealth 2 .blue .green "image:new"

/-- A run of the handoff whose outcome passes a check. -/
theorem greenHandoff_run {environment : (op : HandoffOp) → Option op.Ans}
    {check : List (Exchange handoffCalls) → Outcome Unit → Bool}
    (plays : (greenHandoff.run.driven environment).any
      (fun run => readsMissing run.1 && check run.1 run.2) = true) :
    ∃ trace result, Follows greenHandoff.run trace (.done result) ∧
      (handoffContract parseHealth .green).ExpectsAll blueServes trace ∧
      check trace result = true := by
  obtain ⟨⟨trace, result⟩, run, ends⟩ := (Option.any_eq_true ..).mp plays
  rw [Bool.and_eq_true] at ends
  exact ⟨trace, result, driven_follows run, readsMissing_truly ends.1, ends.2⟩

def afterGreen (trace : List (Exchange handoffCalls)) : Handover :=
  (handoffMonitor parseHealth .green).after blueServes trace

/-- The handoff to green succeeds. -/
theorem green_serves : ∃ trace result,
    Follows greenHandoff.run trace (.done result) ∧
      (Honest .blue blueServes result (afterGreen trace) ↔
        (afterGreen trace).unstopped = false ∧ ∀ error, result = .error error →
          reportsRollback error = true → (afterGreen trace).unrestored = false) ∧
      result.isOk = true := by
  have plays : (greenHandoff.run.driven (handoffAnswers true .succeeded true)).any
      (fun run => readsMissing run.1 && run.2.isOk) = true := by
    decide +kernel
  obtain ⟨trace, result, run, truly, succeeded⟩ :=
    @greenHandoff_run _ (fun _ result => result.isOk) plays
  exact ⟨trace, result, run,
    handoff_honest_iff parseHealth 2 .blue "image:new" blueServes_begins run truly, succeeded⟩

/-- A target that is not healthy and cannot be stopped runs beside the previous slot, and a
rollback reports success though the new environment file stays. -/
theorem rollback_dishonest :
    (∃ trace result, Follows greenHandoff.run trace (.done result) ∧
      (handoffContract parseHealth .green).ExpectsAll blueServes trace ∧
      ¬ Honest .blue blueServes result (afterGreen trace) ∧ (afterGreen trace).doubled = true) ∧
    ∃ trace result, Follows greenHandoff.run trace (.done result) ∧
      (handoffContract parseHealth .green).ExpectsAll blueServes trace ∧
      ¬ Honest .blue blueServes result (afterGreen trace) ∧
      (afterGreen trace).environment ≠ blueServes.environment := by
  constructor
  · have plays : (greenHandoff.run.driven (handoffAnswers false .failed true)).any
        (fun run => readsMissing run.1 && (afterGreen run.1).doubled) = true := by
      decide +kernel
    obtain ⟨trace, result, run, truly, doubled⟩ :=
      @greenHandoff_run _ (fun trace _ => (afterGreen trace).doubled) plays
    refine ⟨trace, result, run, truly, ?_, doubled⟩
    intro honest
    rw [honest.exclusive] at doubled
    cases doubled
  · have plays : (greenHandoff.run.driven (handoffAnswers false .succeeded false)).any
        (fun run => readsMissing run.1 && ((afterGreen run.1).environment.isSome &&
          match run.2 with
          | .ok _ => false
          | .error error => reportsRollback error)) = true := by
      decide +kernel
    obtain ⟨trace, result, run, truly, ends⟩ := @greenHandoff_run _
      (fun trace result => (afterGreen trace).environment.isSome && match result with
        | .ok _ => false
        | .error error => reportsRollback error) plays
    rw [Bool.and_eq_true] at ends
    obtain ⟨changed, reported⟩ := ends
    have differs : (afterGreen trace).environment ≠ blueServes.environment := by
      intro same
      rw [same] at changed
      cases changed
    refine ⟨trace, result, run, truly, ?_, differs⟩
    intro honest
    cases result with
    | ok done => cases reported
    | error error => exact differs (honest.rolledBack error rfl reported).2

end ImagegenBridge.Update
