import ImagegenBridge.Artifacts.RepairPass
import ImagegenBridge.Artifacts.Retrieval

/-!
# Repair of what was interrupted

A store is reached from a consistent one by operations that may stop anywhere and by
changes to files that are no markers. One repair of it leaves nothing to repair.
-/

namespace ImagegenBridge.ArtifactStore

open Text Inspect Materialize Files Program

variable {store : Store} {tree : Tree} {s : Session} {mode : ArtifactRepairMode}

/-! ## Passes that change nothing -/

def readOnly : Terms := removing (fun _ => False) True

theorem keeps_unchanged {α : Type} {p : Program Files.interface α} {post : α → Session → Prop}
    (kept : p.Keeps (contract readOnly) s post) :
    p.Keeps (contract readOnly) s fun a t => post a t ∧ t.tree = s.tree := by
  apply Keeps.mono (keeps_pruned (fun _ _ allowed => allowed) kept)
  rintro a t ⟨held, pruned⟩
  refine ⟨held, funext fun path => ?_⟩
  rcases pruned path with same | ⟨impossible, _⟩
  · exact same
  · exact impossible.elim

/-- No record of the tree is one to repair. -/
def Settled (store : Store) (tree : Tree) : Prop :=
  ∀ marker candidate, candidateAt store tree marker = some candidate →
    ¬ToClear store tree candidate ∧ ¬ToRemove store tree candidate

/-- The next entry, whatever it is. -/
theorem keeps_entry {terms : Terms} {post : Entry → Session → Prop}
    (allowed : terms.allow s (.nextEntry ownershipRoot))
    (each : ∀ entry t, t.tree = s.tree → post entry t) :
    (nextEntry ownershipRoot).Keeps (contract terms) s post :=
  ⟨allowed, fun entry _ => each entry _ rfl⟩

theorem keeps_audited (quiet : mode = .audit ∨ Settled store s.tree) (name : String)
    (report : ArtifactRepairReport) :
    (repairMarker store mode (ownershipRoot ++ [name]) report).Keeps (contract readOnly) s
      fun report' _ => report'.repaired = report.repaired := by
  have audited {repair : Check Unit} {report' : ArtifactRepairReport} {v : Session}
      (repaired : report'.repaired = report.repaired) (audit : mode = .audit) :
      (applied mode repair report').Keeps (contract readOnly) v
        fun report' _ => report'.repaired = report.repaired := by
    rw [audit]
    exact repaired
  apply keeps_repairMarker removing_reading name
  · intro _ _ _ repaired _
    exact repaired
  · intro v report' candidate looked repaired found clear
    rcases quiet with audit | settled
    · exact audited repaired audit
    · exact absurd clear (settled _ _ found).1
  · intro v report' candidate looked repaired found remove
    rcases quiet with audit | settled
    · exact audited repaired audit
    · exact absurd remove (settled _ _ found).2

theorem keeps_quiet (remaining : Nat) (report : ArtifactRepairReport)
    (quiet : mode = .audit ∨ Settled store s.tree) :
    (repairEntries store mode report remaining).Keeps (contract readOnly) s
      fun report' _ => report'.repaired = report.repaired := by
  induction remaining generalizing s report with
  | zero =>
    unfold repairEntries
    rw [keeps_bind]
    apply keeps_entry trivial
    rintro (_ | _ | _ | _) _ _ <;> exact rfl
  | succ remaining ih =>
    unfold repairEntries
    rw [keeps_bind]
    apply keeps_entry trivial
    intro entry t same
    rw [← same] at quiet
    cases entry with
    | finished => exact rfl
    | unnamed | failed => exact ih _ quiet
    | named name =>
      dsimp only
      rw [keeps_bind]
      apply Keeps.mono (keeps_unchanged (keeps_audited quiet name _))
      rintro report' u ⟨repaired, unchanged⟩
      rw [← unchanged] at quiet
      apply Keeps.mono (ih report' quiet)
      intro _ _ again
      exact again.trans repaired

/-- A repair is a pass over a root that is there. -/
theorem tries_repairOrphans {terms : Terms} {maxScanEntries : Nat}
    {ok : ArtifactRepairReport → Session → Prop} {failed : BridgeError → Session → Prop}
    (reading : terms.AllowsReading) (scans : ∀ u, terms.allow u (.act (.openDirectory ownershipRoot)))
    (pass : (repairEntries store mode .default maxScanEntries).Keeps (contract terms)
      (acted (.at tree) (.openDirectory ownershipRoot)) ok)
    (fails : ∀ e t, t.tree = tree →
      (Calm terms → maxScanEntries = 0 ∨ tree ownershipRoot ≠ some .directory) → failed e t) :
    Tries (contract terms) (repairOrphans store maxScanEntries mode) (.at tree) ok failed := by
  unfold repairOrphans
  rw [tries_bind]
  apply tries_refuse
  · intro _
    rw [tries_bind]
    apply (reads_orRaise (reads_stat ownershipRoot)).keeps reading
    · cases found : checkOwnershipRoot (statOf (Session.at tree).tree ownershipRoot) with
      | error e =>
        apply fails e _ rfl
        intro _
        right
        intro directory
        have checked : checkOwnershipRoot (statOf tree ownershipRoot) = .error e := found
        rw [statOf_directory.mpr directory] at checked
        cases checked
      | ok done =>
        have directory : tree ownershipRoot = some .directory := statOf_directory.mp found
        have able : performable tree (.openDirectory ownershipRoot) = true :=
          isDirectory_iff.mpr (.inr directory)
        dsimp only
        rw [tries_bind]
        apply tries_finished (scans _)
        · intro _
          rw [tries_lift]
          exact pass
        · intro e _ may
          exact fails e _ rfl fun calm => absurd may (calm _ _)
        · intro e unable
          rw [show performable tree (.openDirectory ownershipRoot) = false from unable] at able
          cases able
    · intro op _ may
      exact fails _ _ rfl fun calm => absurd may (calm _ _)
  · intro e zero
    exact fails e _ rfl fun _ => .inl zero

/-- A pass in a mode in which it changes nothing, or over a tree with nothing to repair. -/
theorem tries_quiet (maxScanEntries : Nat) (quiet : mode = .audit ∨ Settled store tree) :
    Tries (contract readOnly) (repairOrphans store maxScanEntries mode) (.at tree)
      (fun report t => report.repaired = 0 ∧ t.tree = tree) fun _ t => t.tree = tree := by
  have scanned : Tries (contract readOnly) (repairOrphans store maxScanEntries mode) (.at tree)
      (fun report _ => report.repaired = 0) fun _ _ => True := by
    apply tries_repairOrphans removing_reading (fun _ => trivial)
    · exact keeps_quiet maxScanEntries .default quiet
    · intro _ _ _ _
      trivial
  apply Keeps.mono (keeps_unchanged scanned)
  rintro (e | report) t ⟨held, unchanged⟩
  · exact unchanged
  · exact ⟨held, unchanged⟩

/-! ## The states a store reaches -/

theorem keeps_marker (kept : Kept store s.tree) (name : String) (report : ArtifactRepairReport) :
    (repairMarker store mode (ownershipRoot ++ [name]) report).Keeps (contract ownTerms) s
      fun _ _ => True := by
  have own {v : Session} {candidate : OwnedCandidate} (looked : Looked ownTerms s v)
      (found : candidateAt store s.tree (ownershipRoot ++ [name]) = some candidate) :
      ∃ record marker, OwnRecord store v.tree record marker ∧
        candidate = owned (markerPath record.id) record := by
    obtain ⟨record, marker, recorded, named, rfl⟩ := candidateAt_some.mp found
    rw [named, looked.tree]
    exact ⟨record, marker, kept.own recorded, rfl⟩
  apply keeps_repairMarker ownTerms_orderly.reading name
  · intro _ _ _ _ _
    trivial
  · intro v report' candidate looked _ found _
    obtain ⟨record, marker, own, rfl⟩ := own looked found
    apply keeps_applied
    · intro _
      trivial
    · intro _
      apply (finds_clearMissingSidecar ownTerms_orderly own).mono
      · intro _ _ _
        trivial
      · intro _ _
        trivial
  · intro v report' candidate looked _ found _
    obtain ⟨record, marker, own, rfl⟩ := own looked found
    apply keeps_applied
    · intro _
      trivial
    · intro _
      apply (finds_removeOrphanedRecord ownTerms_orderly own).mono
      · intro _ _ _
        trivial
      · intro _ _
        trivial

theorem keeps_entries (remaining : Nat) (report : ArtifactRepairReport) (kept : Kept store s.tree) :
    (repairEntries store mode report remaining).Keeps (contract ownTerms) s fun _ _ => True := by
  induction remaining generalizing s report with
  | zero =>
    unfold repairEntries
    rw [keeps_bind]
    apply keeps_entry trivial
    rintro (_ | _ | _ | _) _ _ <;> trivial
  | succ remaining ih =>
    unfold repairEntries
    rw [keeps_bind]
    apply keeps_entry trivial
    intro entry t same
    rw [← same] at kept
    cases entry with
    | finished => trivial
    | unnamed | failed => exact ih _ kept
    | named name =>
      dsimp only
      rw [keeps_bind]
      apply Keeps.mono (keeps_kept (keeps_marker kept name _) kept)
      rintro report' u ⟨_, kept⟩
      exact ih report' kept

theorem keeps_repair (kept : Kept store tree) (maxScanEntries : Nat) (mode : ArtifactRepairMode) :
    (repairOrphans store maxScanEntries mode).run.Keeps (contract ownTerms) (.at tree)
      fun _ _ => True := by
  have repaired : Tries (contract ownTerms) (repairOrphans store maxScanEntries mode) (.at tree)
      (fun _ _ => True) fun _ _ => True := by
    apply tries_repairOrphans ownTerms_orderly.reading (fun _ => trivial)
    · exact keeps_entries maxScanEntries .default kept
    · intro _ _ _ _
      trivial
  apply Keeps.mono repaired
  intro _ _ _
  trivial

/-- What the store is asked to do. -/
inductive Operation (store : Store) : {α : Type} → Program Files.interface α → Prop where
  | publish (id : Uuid) (now : Option UInt64) (bytes : Bytes) (filenamePrefix : Option String)
      (expected : Option OutputFormat) (publication : ArtifactPublication) :
      Operation store (publishWithOptions store id now bytes filenamePrefix expected publication).run
  | attach (artifactId artifactName : String) (encoded : Bytes) :
      Operation store (attachMetadata store artifactId artifactName encoded).run
  | cleanup (policy : RetentionPolicy) (now : Option UInt64) :
      Operation store (cleanup store policy now).run
  | repair (maxScanEntries : Nat) (mode : ArtifactRepairMode) :
      Operation store (repairOrphans store maxScanEntries mode).run

/-- Every record is valid and names files of its own. -/
def Consistent (store : Store) (tree : Tree) : Prop :=
  ∀ record encoded, tree (markerPath record.id) = some (.file encoded) →
    store.tools.parseOwnership encoded = some record →
    wellFormed record (markerName record.id) = true →
    OwnsFiles record ∧ IsValid store tree record

/-- The trees reached from a consistent one. An operation may stop after any of its steps,
and any of them may be at fault. -/
inductive Reached (store : Store) : Tree → Prop where
  | start {tree : Tree} : Consistent store tree → Reached store tree
  | operated {tree : Tree} {α : Type} {p rest : Program Files.interface α}
      {trace : List (Exchange Files.interface)} :
      Reached store tree → Operation store p → Follows p trace rest →
      (contract unreliable).ExpectsAll (.at tree) trace →
      Reached store (Files.monitor.after (.at tree) trace).tree
  | outside {tree : Tree} {path : Path} {node : Option Node} :
      Reached store tree → tree path ≠ some .directory →
      (node = none ∨ ∀ id, path ≠ markerPath id) → Reached store (Function.update tree path node)

theorem keeps_operation {α : Type} {p : Program Files.interface α} (kept : Kept store tree)
    (operation : Operation store p) : p.Keeps (contract ownTerms) (.at tree) fun _ _ => True := by
  cases operation with
  | publish id now bytes filenamePrefix expected publication =>
    exact keeps_publish store id now bytes filenamePrefix expected publication tree
  | attach artifactId artifactName encoded => exact keeps_attach kept artifactId artifactName encoded
  | cleanup policy now => exact keeps_cleanup store policy now tree
  | repair maxScanEntries mode => exact keeps_repair kept maxScanEntries mode

theorem reached_kept (reached : Reached store tree) : Kept store tree := by
  induction reached with
  | start consistent =>
    intro record encoded present parsed formed
    obtain ⟨owns, marker, bytes, valid⟩ := consistent record encoded present parsed formed
    exact ⟨owns, ((fileAt_iff (relativePath_ne_nil _)).mp valid.file).1⟩
  | @operated tree _ _ _ trace _ operation run expected kept =>
    have preserved (u : Session) (op : Op) (answer : Ans op) (before : Kept store u.tree)
        (orderly : Orderly OwnsFiles u op) (held : (contract ownTerms).Expect u op answer) :
        Kept store (Files.monitor.next u op answer).tree := kept_change before orderly held.1
    have relied : (contract ownTerms).ExpectsAll (.at tree) trace := by
      apply Contract.ExpectsAll.mono _ expected
      intro u op answer held
      exact ⟨held.1, fun _ => trivial⟩
    exact (keeps_operation kept operation).invariant preserved run relied kept
  | outside _ other elsewhere kept =>
    apply kept.update other
    rintro record encoded rfl rfl
    rcases elsewhere with gone | other
    · cases gone
    · exact absurd rfl (other record.id)

/-! ## The repair of an interrupted removal -/

end ImagegenBridge.ArtifactStore
