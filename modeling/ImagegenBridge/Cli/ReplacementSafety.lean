import ImagegenBridge.Cli.Replacement

/-!
# What a replacement leaves

The backup is overwritten before the new binary is there. Whatever fails after that leaves the
running binary in both files, and the one that was kept for a rollback is lost.
-/

namespace ImagegenBridge.SelfUpdate

open Program

section Steps

variable {α β : Type} {s u : Files} {op : ReplaceOp} {answer : op.Ans} {current : Bytes}

theorem tries_await {f : op.Ans → Replace β} {ok : β → Files → Prop}
    {failed : BridgeError → Files → Prop}
    (rest : ∀ answer, filesContract.Expect u op answer →
      Tries filesContract (f answer) (u.next op answer) ok failed) :
    Tries filesContract (await op >>= f) u ok failed :=
  tries_bind.mpr ((tries_lift _).mpr ⟨trivial, rest⟩)

theorem tries_ensure {outcome : Outcome α} {f : α → Replace β} {ok : β → Files → Prop}
    {failed : BridgeError → Files → Prop} (refused : ∀ e, outcome = .error e → failed e u)
    (rest : ∀ a, outcome = .ok a → Tries filesContract (f a) u ok failed) :
    Tries filesContract (ensure outcome >>= f) u ok failed := by
  apply tries_bind.mpr
  cases outcome with
  | error e => exact refused e rfl
  | ok a => exact rest a rfl

/-- The last check of a program. -/
theorem tries_last {outcome : Outcome α} {ok : α → Files → Prop}
    {failed : BridgeError → Files → Prop} (refused : ∀ e, outcome = .error e → failed e u)
    (done : ∀ a, outcome = .ok a → ok a u) :
    Tries filesContract (ensure outcome) u ok failed := by
  cases outcome with
  | error e => exact refused e rfl
  | ok a => exact done a rfl

theorem succeeded_ok {success : Bool} {message : String} :
    succeeded success message = .ok () ↔ success = true := by
  cases success <;> simp [succeeded, Outcome.failIf]

theorem succeeded_error {success : Bool} {message : String} {e : BridgeError}
    (failed : succeeded success message = .error e) : success = false := by
  cases success with
  | false => rfl
  | true => cases failed

theorem contents_ok {read : Option Bytes} {message : String} {bytes : Bytes}
    (found : contents read message = .ok bytes) : read = some bytes := by
  cases read with
  | none => cases found
  | some other =>
    cases found
    rfl

/-- Not a rename. -/
def Quiet : (op : ReplaceOp) → op.Ans → Prop
  | .persist _, published => published = false
  | _, _ => True

theorem changed_quiet (quiet : Quiet op answer) :
    (u.changed op answer).content = u.content := by
  cases op with
  | createTemporary | writeTemporary bytes => cases answer <;> rfl
  | persist binary =>
    cases quiet
    rfl
  | _ => rfl

theorem next_quiet (quiet : Quiet op answer) :
    (u.next op answer).content = u.content ∧ ((u.next op answer).published ↔ u.published) ∧
      ((u.next op answer).late ↔ u.late ∨ (u.published ∧ fails ⟨op, answer⟩ = true)) := by
  refine ⟨changed_quiet quiet, ?_, Iff.rfl⟩
  have unpublished : publishesBackup ⟨op, answer⟩ = false := by
    cases op with
    | persist binary =>
      cases quiet
      cases binary <;> rfl
    | _ => rfl
  exact ⟨fun held => held.resolve_right (ne_true_of_eq_false unpublished), .inl⟩

/-! ## Before the backup is published -/

structure Unpublished (s u : Files) : Prop where
  content : u.content = s.content
  published : ¬u.published
  late : ¬u.late

theorem Unpublished.next (before : Unpublished s u) (op : ReplaceOp) (answer : op.Ans)
    (quiet : Quiet op answer) : Unpublished s (u.next op answer) := by
  obtain ⟨content, published, late⟩ := next_quiet quiet
  refine ⟨content.trans before.content, published.not.mpr before.published, late.not.mpr ?_⟩
  rintro (already | ⟨backed, _⟩)
  · exact before.late already
  · exact before.published backed

/-! ## After it -/

/-- Both files have the running binary. -/
structure Backed (s : Files) (current : Bytes) (u : Files) : Prop where
  executable : u.content .executable = some current
  backup : u.content .backup = some current
  published : u.published
  late : ¬u.late

theorem Backed.next (before : Backed s current u) (op : ReplaceOp) (answer : op.Ans)
    (quiet : Quiet op answer) (passes : fails ⟨op, answer⟩ = false) :
    Backed s current (u.next op answer) := by
  obtain ⟨content, published, late⟩ := next_quiet quiet
  refine ⟨?_, ?_, published.mpr before.published, late.not.mpr ?_⟩
  · rw [content]
    exact before.executable
  · rw [content]
    exact before.backup
  · rintro (already | ⟨_, failed⟩)
    · exact before.late already
    · rw [passes] at failed
      cases failed

/-- What a failure leaves. -/
structure Failed (s u : Files) : Prop where
  executable : u.content .executable = s.content .executable
  backup : ¬u.late ∧ u.content .backup = s.content .backup ∨
    u.late ∧ u.content .backup = s.content .executable

theorem Unpublished.failed (before : Unpublished s u) : Failed s u :=
  ⟨congrFun before.content _, .inl ⟨before.late, congrFun before.content _⟩⟩

theorem Backed.failed (before : Backed s current u) (running : s.content .executable = some current)
    (quiet : Quiet op answer) (failed : fails ⟨op, answer⟩ = true) :
    Failed s (u.next op answer) := by
  obtain ⟨content, _, late⟩ := next_quiet quiet
  refine ⟨?_, .inr ⟨late.mpr (.inr ⟨before.published, failed⟩), ?_⟩⟩
  · rw [content, before.executable, running]
  · rw [content, before.backup, running]

theorem tries_atomicWrite (before : Unpublished s u)
    (running : s.content .executable = some current) :
    Tries filesContract (atomicWrite .backup current) u (fun _ t => Backed s current t)
      (fun _ t => Unpublished s t) := by
  refine tries_await fun created _ => ?_
  have prepared := before.next .createDirectories created trivial
  refine tries_ensure (fun _ _ => prepared) fun _ _ => ?_
  refine tries_await fun opened _ => ?_
  have empty := prepared.next .createTemporary opened trivial
  refine tries_ensure (fun _ _ => empty) fun _ _ => ?_
  refine tries_await fun written _ => ?_
  have filled := empty.next (.writeTemporary current) written trivial
  refine tries_ensure (fun _ _ => filled) fun _ complete => ?_
  cases succeeded_ok.mp complete
  refine tries_await fun published _ => ?_
  refine tries_last (fun _ refused => ?_) fun _ moved => ?_
  · exact filled.next (.persist .backup) published (succeeded_error refused)
  · cases succeeded_ok.mp moved
    refine ⟨?_, rfl, .inr rfl, ?_⟩
    · exact (congrFun filled.content _).trans running
    · rintro (late | ⟨_, failed⟩)
      · exact filled.late late
      · cases failed

/-- What `replace` leaves when it succeeds. -/
structure Replaced (s : Files) (binary : Bytes) (u : Files) : Prop where
  executable : u.content .executable = some binary
  backup : u.content .backup = s.content .executable
  late : ¬u.late

theorem tries_replace (parented : Bool) (binary : Bytes) (before : Unpublished s u) :
    Tries filesContract (replace parented binary) u (fun _ t => Replaced s binary t)
      (fun _ t => Failed s t) := by
  refine tries_ensure (fun _ _ => before.failed) fun _ _ => ?_
  refine tries_await fun read found => ?_
  have seen := before.next (.read .executable) read trivial
  refine tries_ensure (fun _ _ => seen.failed) fun current known => ?_
  cases contents_ok known
  have running : s.content .executable = some current :=
    (congrFun before.content _).symm.trans found
  refine tries_bind.mpr (Tries.mono (tries_atomicWrite seen running) (fun _ t backed => ?_)
    fun _ t unpublished => unpublished.failed)
  refine tries_await fun permitted _ => ?_
  refine tries_ensure (fun _ refused => backed.failed running trivial
    (congrArg not (succeeded_error refused))) fun _ passed => ?_
  cases succeeded_ok.mp passed
  have executableBackup := backed.next (.permit .backup) true trivial rfl
  refine tries_await fun opened _ => ?_
  refine tries_ensure (fun _ refused => executableBackup.failed running trivial
    (congrArg not (succeeded_error refused))) fun _ passed => ?_
  cases succeeded_ok.mp passed
  have empty := executableBackup.next .createTemporary true trivial rfl
  refine tries_await fun written _ => ?_
  refine tries_ensure (fun _ refused => empty.failed running trivial
    (congrArg not (succeeded_error refused))) fun _ passed => ?_
  cases succeeded_ok.mp passed
  have filled := empty.next (.writeTemporary binary) true trivial rfl
  refine tries_await fun synced _ => ?_
  refine tries_ensure (fun _ refused => filled.failed running trivial
    (congrArg not (succeeded_error refused))) fun _ passed => ?_
  cases succeeded_ok.mp passed
  have durable := filled.next .syncTemporary true trivial rfl
  refine tries_await fun permitted _ => ?_
  refine tries_ensure (fun _ refused => durable.failed running trivial
    (congrArg not (succeeded_error refused))) fun _ passed => ?_
  cases succeeded_ok.mp passed
  have ready := durable.next .permitTemporary true trivial rfl
  refine tries_await fun published _ => ?_
  refine tries_last (fun _ refused => ?_) fun _ moved => ?_
  · cases succeeded_error refused
    exact ready.failed running rfl rfl
  · cases succeeded_ok.mp moved
    refine ⟨rfl, ready.backup.trans running.symm, ?_⟩
    rintro (late | ⟨_, failed⟩)
    · exact ready.late late
    · cases failed

/-- What a rollback that succeeds leaves. -/
structure RolledBack (s : Files) (result : InstallResult) (u : Files) : Prop where
  executable : result.dryRun = false → u.content .executable = s.content .backup
  backup : result.dryRun = false → u.content .backup = s.content .executable

theorem tries_rollback (container parented dryRun yes : Bool) (before : Unpublished s u) :
    Tries filesContract (rollback container parented dryRun yes) u (RolledBack s)
      fun _ _ => True := by
  refine tries_ensure (fun _ _ => trivial) fun _ _ => ?_
  refine tries_ensure (fun _ _ => trivial) fun _ _ => ?_
  refine tries_await fun present _ => ?_
  have looked := before.next (.isFile .backup) present trivial
  refine tries_ensure (fun _ _ => trivial) fun _ _ => ?_
  cases dryRun with
  | true => exact ⟨nofun, nofun⟩
  | false =>
    refine tries_await fun read found => ?_
    have seen := looked.next (.read .backup) read trivial
    refine tries_ensure (fun _ _ => trivial) fun target known => ?_
    cases contents_ok known
    refine tries_bind.mpr (Tries.mono (tries_replace parented target seen) (fun _ t replaced => ?_)
      fun _ _ _ => trivial)
    refine ⟨fun _ => ?_, fun _ => replaced.backup⟩
    rw [replaced.executable, ← looked.content]
    exact found.symm

end Steps

/-! ## Whole runs -/

/-- A step failed after the backup was published. -/
def LateFailure (trace : List (Exchange replaceCalls)) : Prop :=
  ∃ earlier published later, trace = earlier ++ published :: later ∧
    publishesBackup published = true ∧ ∃ step ∈ later, fails step = true

theorem lateFailure_cons {step : Exchange replaceCalls} {trace : List (Exchange replaceCalls)} :
    LateFailure (step :: trace) ↔
      publishesBackup step = true ∧ (∃ later ∈ trace, fails later = true) ∨
        LateFailure trace := by
  constructor
  · rintro ⟨earlier, published, later, split, backed, failed⟩
    cases earlier with
    | nil =>
      cases split
      exact .inl ⟨backed, failed⟩
    | cons first earlier =>
      cases split
      exact .inr ⟨earlier, published, later, rfl, backed, failed⟩
  · rintro (⟨backed, failed⟩ | ⟨earlier, published, later, rfl, backed, failed⟩)
    · exact ⟨[], step, trace, rfl, backed, failed⟩
    · exact ⟨step :: earlier, published, later, rfl, backed, failed⟩

theorem late_after (s : Files) (trace : List (Exchange replaceCalls)) :
    (filesMonitor.after s trace).late ↔
      s.late ∨ (s.published ∧ ∃ step ∈ trace, fails step = true) ∨ LateFailure trace := by
  induction trace generalizing s with
  | nil => simp [Monitor.after, LateFailure]
  | cons step trace ih =>
    obtain ⟨op, answer⟩ := step
    rw [Monitor.after, ih, lateFailure_cons]
    simp only [Files.next, List.mem_cons, exists_eq_or_imp]
    grind

theorem late_start (content : Binary → Option Bytes) (trace : List (Exchange replaceCalls)) :
    (filesMonitor.after (.start content) trace).late ↔ LateFailure trace := by
  rw [late_after]
  simp [Files.start]

theorem start_unpublished (content : Binary → Option Bytes) :
    Unpublished (.start content) (.start content) :=
  ⟨rfl, id, id⟩

/-- Everything or nothing. -/
structure Atomic (before after : Binary → Option Bytes) (binary : Bytes) (result : Outcome Unit) :
    Prop where
  failed : ∀ e, result = .error e → after = before
  succeeded : result = .ok () →
    after .executable = some binary ∧ after .backup = before .executable

/-- What a run leaves in the two files. -/
def leaves (before : Binary → Option Bytes) (trace : List (Exchange replaceCalls)) :
    Binary → Option Bytes :=
  (filesMonitor.after (.start before) trace).content

/-- Two rollbacks, one after the other, put both files back. -/
def Reversible (before : Binary → Option Bytes) : Prop :=
  ∀ container parented dryRun yes container' parented' dryRun' yes' trace trace' first second,
    Follows (rollback container parented dryRun yes).run trace (.done (.ok first)) →
    filesContract.ExpectsAll (.start before) trace → first.dryRun = false →
    Follows (rollback container' parented' dryRun' yes').run trace' (.done (.ok second)) →
    filesContract.ExpectsAll (.start (leaves before trace)) trace' → second.dryRun = false →
    leaves (leaves before trace) trace' = before

theorem rollback_reversible (before : Binary → Option Bytes) : Reversible before := by
  intro container parented dryRun yes container' parented' dryRun' yes' trace trace' first second
    run truthful real run' truthful' real'
  have forward : RolledBack _ _ _ := Keeps.follows
    (tries_rollback container parented dryRun yes (start_unpublished before)) run truthful
  have back : RolledBack _ _ _ := Keeps.follows
    (tries_rollback container' parented' dryRun' yes' (start_unpublished _)) run' truthful'
  funext binary
  cases binary with
  | executable => exact (back.executable real').trans (forward.backup real)
  | backup => exact (back.backup real').trans (forward.executable real)

/-- A replacement that fails leaves both files as they were exactly when no step fails after the
backup was published, or the backup was the running binary already. One that succeeds keeps the
running binary as the backup, and two rollbacks put both files back. -/
theorem replacement_atomic (parented : Bool) (binary : Bytes) (before : Binary → Option Bytes)
    {trace : List (Exchange replaceCalls)} {result : Outcome Unit}
    (run : Follows (replace parented binary).run trace (.done result))
    (truthful : filesContract.ExpectsAll (.start before) trace) :
    (Atomic before (leaves before trace) binary result ↔
      (LateFailure trace → before .backup = before .executable)) ∧ Reversible before := by
  refine ⟨?_, rollback_reversible before⟩
  have left := Keeps.follows (tries_replace parented binary (start_unpublished before)) run truthful
  rw [← late_start before trace]
  cases result with
  | ok done =>
    have replaced : Replaced _ _ _ := left
    exact ⟨fun _ late => (replaced.late late).elim,
      fun _ => ⟨nofun, fun _ => ⟨replaced.executable, replaced.backup⟩⟩⟩
  | error e =>
    have failed : Failed _ _ := left
    constructor
    · intro atomic late
      rcases failed.backup with ⟨early, _⟩ | ⟨_, lost⟩
      · exact (early late).elim
      · exact (congrFun (atomic.failed e rfl) .backup).symm.trans lost
    · intro harmless
      refine ⟨fun _ _ => funext fun file => ?_, nofun⟩
      cases file with
      | executable => exact failed.executable
      | backup =>
        rcases failed.backup with ⟨_, kept⟩ | ⟨late, lost⟩
        · exact kept
        · exact lost.trans (harmless late).symm

/-- The temporary file with the new binary cannot be synced, and the backup is gone. -/
def unsyncedAnswers : (op : ReplaceOp) → op.Ans
  | .read _ => some [1]
  | .syncTemporary => false
  | .isFile _ | .createDirectories | .createTemporary | .writeTemporary _ | .permitTemporary
  | .persist _ | .permit _ => true

def twoVersions : Binary → Option Bytes
  | .executable => some [1]
  | .backup => some [0]

def unsynced : List (Exchange replaceCalls) := ((replace true [2]).run.drive unsyncedAnswers).1

theorem unsynced_truthful : filesContract.ExpectsAll (.start twoVersions) unsynced := by
  refine ⟨rfl, ?_⟩
  repeat' first | exact trivial | refine ⟨trivial, ?_⟩

theorem replacement_atomic_unsynced :
    ∃ result, Follows (replace true [2]).run unsynced (.done result) ∧
      (Atomic twoVersions (leaves twoVersions unsynced) [2] result ↔
        (LateFailure unsynced → twoVersions .backup = twoVersions .executable)) ∧
      Reversible twoVersions := by
  have run := drive_follows unsyncedAnswers (replace true [2]).run
  exact ⟨_, run, replacement_atomic true [2] twoVersions run unsynced_truthful⟩

/-- The update has failed, and what a rollback would have put back is lost. -/
theorem failed_update_loses_backup :
    ∃ e, Follows (replace true [2]).run unsynced (.done (.error e)) ∧
      filesContract.ExpectsAll (.start twoVersions) unsynced ∧
      twoVersions .backup = some [0] ∧ leaves twoVersions unsynced .backup = some [1] ∧
      leaves twoVersions unsynced .executable = some [1] ∧
      ¬Atomic twoVersions (leaves twoVersions unsynced) [2] (.error e) := by
  have run := drive_follows unsyncedAnswers (replace true [2]).run
  refine ⟨internal "temporary executable could not be written", run, unsynced_truthful, rfl, rfl,
    rfl, ?_⟩
  intro atomic
  have same := congrFun (atomic.failed _ rfl) .backup
  exact absurd same (by decide)

end ImagegenBridge.SelfUpdate
