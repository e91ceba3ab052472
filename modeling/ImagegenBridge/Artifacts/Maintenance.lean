import Mathlib.Data.List.Sort
import ImagegenBridge.Artifacts.Store

/-!
# Retention and repair, `cleanup` and `repair_orphans`

Both passes scan the directory of the ownership records up to a bound. The order of its
entries is the file system's.
-/

namespace ImagegenBridge.ArtifactStore

open Text Inspect Materialize Files

def removeFile (path : Path) : Check Unit :=
  given (perform (.remove path)) fun
    | .done => some ()
    | .failed _ => none

/-- The scan of a directory that is about to begin. -/
def readDirectory (directory : Path) : Action Unit :=
  finished (perform (.openDirectory directory))
    fun reason => "could not scan ownership records: " ++ reason

/-! ## Retention -/

structure RetentionPolicy where
  /-- In seconds. -/
  maxAge : Nat
  maxArtifacts : Option Nat
  maxScanEntries : Nat

def RetentionPolicy.default : RetentionPolicy where
  maxAge := 7 * 24 * 60 * 60
  maxArtifacts := none
  maxScanEntries := 100000

structure CleanupReport where
  scanned : Nat
  deleted : Nat
  skipped : Nat
  scanLimitReached : Bool
  deriving DecidableEq

def CleanupReport.default : CleanupReport := ⟨0, 0, 0, false⟩

/-- The entries that are left of a scan, at most so many of them, after those that are
counted. The last verified record comes first. -/
def scanRecords (store : Store) (report : CleanupReport) (candidates : List OwnedCandidate) :
    Nat → Fs (CleanupReport × List OwnedCandidate)
  | 0 => do
    match ← nextEntry ownershipRoot with
    | .finished => pure (report, candidates)
    | .named _ | .unnamed | .failed => pure ({ report with scanLimitReached := true }, candidates)
  | remaining + 1 => do
    match ← nextEntry ownershipRoot with
    | .finished => pure (report, candidates)
    | .unnamed | .failed =>
      scanRecords store { report with scanned := report.scanned + 1, skipped := report.skipped + 1 }
        candidates remaining
    | .named name => do
      match ← (verifiedRecord store (ownershipRoot ++ [name])).run with
      | some candidate =>
        scanRecords store { report with scanned := report.scanned + 1 } (candidate :: candidates)
          remaining
      | none =>
        scanRecords store
          { report with scanned := report.scanned + 1, skipped := report.skipped + 1 } candidates
          remaining

/-- The order of `candidates.sort_by`: the newest first, and the greater identifier. -/
def newerFirst (left right : OwnedCandidate) : Bool :=
  decide (right.record.createdAt < left.record.createdAt) ||
    (decide (right.record.createdAt = left.record.createdAt) &&
      decide (right.record.id ≤ left.record.id))

def removeSidecar : Option Path → Check Unit
  | none => pure ()
  | some sidecar => removeFile sidecar

def removeVerified (store : Store) (candidate : OwnedCandidate) : Check Unit := do
  verifyCandidate store candidate
  removeSidecar candidate.sidecar
  removeFile candidate.artifact
  removeFile candidate.marker
  hushed (syncDirectory [])
  hushed (syncDirectory ownershipRoot)

def expired (cutoff : Nat) (candidate : OwnedCandidate) : Bool :=
  decide (candidate.record.createdAt.toNat ≤ cutoff)

def exceedsCount (policy : RetentionPolicy) (index : Nat) : Bool :=
  policy.maxArtifacts.any fun maximum => decide (maximum ≤ index)

/-- The removals that are left, from an index on. -/
def removeCondemned (store : Store) (policy : RetentionPolicy) (cutoff : Nat) (report : CleanupReport)
    (index : Nat) : List OwnedCandidate → Fs CleanupReport
  | [] => pure report
  | candidate :: rest =>
    if expired cutoff candidate || exceedsCount policy index then do
      match ← (removeVerified store candidate).run with
      | some _ =>
        removeCondemned store policy cutoff { report with deleted := report.deleted + 1 } (index + 1)
          rest
      | none =>
        removeCondemned store policy cutoff { report with skipped := report.skipped + 1 } (index + 1)
          rest
    else removeCondemned store policy cutoff report (index + 1) rest

/-- The candidates are collected in the order of the scan, which the stable sort keeps. -/
def cleanup (store : Store) (policy : RetentionPolicy) (now : Option UInt64) : Action CleanupReport := do
  refuse (policy.maxScanEntries = 0) "retention scan limit must be greater than zero"
  verifyOwnershipRoot
  let now ← unixTimestamp now
  readDirectory ownershipRoot
  let (report, candidates) ←
    ExceptT.lift (scanRecords store .default [] policy.maxScanEntries)
  ExceptT.lift (removeCondemned store policy (now.toNat - policy.maxAge) report 0
    (candidates.reverse.mergeSort newerFirst))

/-! ## Repair -/

inductive ArtifactRepairMode where
  | audit | apply
  deriving DecidableEq

structure ArtifactRepairReport where
  scanned : Nat
  healthy : Nat
  orphanedRecords : Nat
  missingSidecars : Nat
  repaired : Nat
  skipped : Nat
  scanLimitReached : Bool
  deriving DecidableEq

def ArtifactRepairReport.default : ArtifactRepairReport := ⟨0, 0, 0, 0, 0, 0, false⟩

/-- The record without a reference to a sidecar. -/
def withoutSidecar (record : OwnershipRecord) : OwnershipRecord :=
  { record with sidecarName := none, sidecarSha256 := none }

def clearMissingSidecar (store : Store) (expected : OwnedCandidate) : Check Unit := do
  let candidate ← readCandidate store expected.marker
  demand (candidate.record = expected.record)
  verifyArtifact store candidate
  given (sidecarState store candidate) fun state => if state = .missing then some () else none
  hushed (replaceOwnership (withoutSidecar candidate.record))

/-- What an orphaned record may lose before its marker. -/
def removeOwnedSidecar (candidate : OwnedCandidate) : SidecarState → Check Unit
  | .invalid => known none
  | .none | .missing => pure ()
  | .valid => do
    let sidecar ← known candidate.sidecar
    removeFile sidecar
    hushed (syncDirectory sidecar.dropLast)

def removeOrphanedRecord (store : Store) (expected : OwnedCandidate) : Check Unit := do
  let candidate ← readCandidate store expected.marker
  demand (candidate.record = expected.record)
  given (ownedPathState candidate.artifact) fun state => if state = .missing then some () else none
  let state ← given (sidecarState store candidate) some
  removeOwnedSidecar candidate state
  removeFile candidate.marker
  hushed (syncDirectory ownershipRoot)

def ArtifactRepairReport.skip (report : ArtifactRepairReport) : ArtifactRepairReport :=
  { report with skipped := report.skipped + 1 }

/-- A repair in the mode that applies it. -/
def applied (mode : ArtifactRepairMode) (repair : Check Unit) (report : ArtifactRepairReport) :
    Fs ArtifactRepairReport :=
  match mode with
  | .audit => pure report
  | .apply => do
    match ← repair.run with
    | some _ => pure { report with repaired := report.repaired + 1 }
    | none => pure report.skip

/-- What is done about a record whose artifact is verified. -/
def repairSidecar (store : Store) (mode : ArtifactRepairMode) (candidate : OwnedCandidate)
    (report : ArtifactRepairReport) : Fs ArtifactRepairReport := do
  match ← sidecarState store candidate with
  | .none | .valid => pure { report with healthy := report.healthy + 1 }
  | .missing =>
    applied mode (clearMissingSidecar store candidate)
      { report with missingSidecars := report.missingSidecars + 1 }
  | .invalid => pure report.skip

/-- What is done about a record whose artifact is missing. -/
def repairOrphan (store : Store) (mode : ArtifactRepairMode) (candidate : OwnedCandidate)
    (report : ArtifactRepairReport) : Fs ArtifactRepairReport := do
  match ← sidecarState store candidate with
  | .none | .missing | .valid => applied mode (removeOrphanedRecord store candidate) report
  | .invalid => pure report.skip

def repairCandidate (store : Store) (mode : ArtifactRepairMode) (candidate : OwnedCandidate)
    (report : ArtifactRepairReport) : Fs ArtifactRepairReport := do
  match ← (verifyArtifact store candidate).run with
  | some _ => repairSidecar store mode candidate report
  | none => do
    match ← ownedPathState candidate.artifact with
    | .missing =>
      repairOrphan store mode candidate { report with orphanedRecords := report.orphanedRecords + 1 }
    | .regular _ | .invalid => pure report.skip

def repairMarker (store : Store) (mode : ArtifactRepairMode) (marker : Path)
    (report : ArtifactRepairReport) : Fs ArtifactRepairReport := do
  match ← (readCandidate store marker).run with
  | some candidate => repairCandidate store mode candidate report
  | none => pure report.skip

/-- The entries that are left of a repair, at most so many of them. -/
def repairEntries (store : Store) (mode : ArtifactRepairMode) (report : ArtifactRepairReport) :
    Nat → Fs ArtifactRepairReport
  | 0 => do
    match ← nextEntry ownershipRoot with
    | .finished => pure report
    | .named _ | .unnamed | .failed => pure { report with scanLimitReached := true }
  | remaining + 1 => do
    match ← nextEntry ownershipRoot with
    | .finished => pure report
    | .unnamed | .failed =>
      repairEntries store mode { report with scanned := report.scanned + 1 }.skip remaining
    | .named name => do
      let repaired ← repairMarker store mode (ownershipRoot ++ [name])
        { report with scanned := report.scanned + 1 }
      repairEntries store mode repaired remaining

def repairOrphans (store : Store) (maxScanEntries : Nat) (mode : ArtifactRepairMode) :
    Action ArtifactRepairReport := do
  refuse (maxScanEntries = 0) "artifact repair scan limit must be greater than zero"
  verifyOwnershipRoot
  readDirectory ownershipRoot
  ExceptT.lift (repairEntries store mode .default maxScanEntries)

end ImagegenBridge.ArtifactStore
