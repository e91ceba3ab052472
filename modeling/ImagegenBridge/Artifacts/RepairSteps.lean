import ImagegenBridge.Artifacts.RepairStates

/-!
# The steps of a repair

What is done about one entry depends on the states the code finds. A fault can only make
it find less to repair.
-/

namespace ImagegenBridge.ArtifactStore

open Text Inspect Materialize Files Program

variable {store : Store} {tree : Tree} {terms : Terms} {s t : Session} {record : OwnershipRecord}

/-- The artifact is verified and the sidecar is missing. -/
def ToClear (store : Store) (tree : Tree) (candidate : OwnedCandidate) : Prop :=
  artifactVerified store tree candidate = some () ∧ sidecarStateAt store tree candidate = .missing

/-- The artifact is missing, and the sidecar is none that was changed. -/
def ToRemove (store : Store) (tree : Tree) (candidate : OwnedCandidate) : Prop :=
  pathState tree candidate.artifact = .missing ∧ sidecarStateAt store tree candidate ≠ .invalid

def Calm (terms : Terms) : Prop := ∀ u op, ¬terms.mayFail u op

/-- Nothing changed while a program looked, but for faults. -/
structure Looked (terms : Terms) (s t : Session) : Prop where
  tree : t.tree = s.tree
  opened : t.opened = s.opened
  listed : t.listed = s.listed
  calm : Calm terms → t = s

theorem Looked.refl (s : Session) : Looked terms s s := ⟨rfl, rfl, rfl, fun _ => rfl⟩

theorem Looked.fault {op : Op} {u : Session} (looked : Looked terms s t) (may : terms.mayFail u op) :
    Looked terms s (Files.fault t op) :=
  ⟨looked.tree, looked.opened, looked.listed, fun calm => absurd may (calm u op)⟩

section Entry

variable {mode : ArtifactRepairMode} {candidate : OwnedCandidate} {report : ArtifactRepairReport}
  {post : ArtifactRepairReport → Session → Prop}

/-- The rest of an entry whose artifact is not verified. -/
theorem keeps_unverified (reading : terms.AllowsReading) (looked : Looked terms s t)
    (skip : ∀ v report', Looked terms s v → report'.repaired = report.repaired →
      (Calm terms → ¬ToRemove store s.tree candidate) → post report' v)
    (remove : ∀ v report', Looked terms s v → report'.repaired = report.repaired →
      ToRemove store s.tree candidate →
      (applied mode (removeOrphanedRecord store candidate) report').Keeps (contract terms) v post) :
    (ownedPathState candidate.artifact >>= fun state => match state with
      | .missing => repairOrphan store mode candidate
          { report with orphanedRecords := report.orphanedRecords + 1 }
      | .regular _ | .invalid => pure report.skip).Keeps (contract terms) t post := by
  rw [keeps_bind]
  apply (reads_pathState candidate.artifact).keeps reading
  · rw [looked.tree]
    cases state : pathState s.tree candidate.artifact with
    | regular length =>
      have present : ¬ToRemove store s.tree candidate := by
        rintro ⟨missing, _⟩
        rw [state] at missing
        cases missing
      exact skip t _ looked rfl fun _ => present
    | invalid =>
      have present : ¬ToRemove store s.tree candidate := by
        rintro ⟨missing, _⟩
        rw [state] at missing
        cases missing
      exact skip t _ looked rfl fun _ => present
    | missing =>
      dsimp only
      unfold repairOrphan
      rw [keeps_bind]
      apply (reads_sidecar candidate).keeps reading
      · rw [looked.tree]
        cases sidecar : sidecarStateAt store s.tree candidate with
        | invalid =>
          have changed : ¬ToRemove store s.tree candidate := fun orphan => orphan.2 sidecar
          exact skip t _ looked rfl fun _ => changed
        | none => exact remove t _ looked rfl ⟨state, by rw [sidecar]; nofun⟩
        | missing => exact remove t _ looked rfl ⟨state, by rw [sidecar]; nofun⟩
        | valid => exact remove t _ looked rfl ⟨state, by rw [sidecar]; nofun⟩
      · intro op _ may
        exact skip _ _ (looked.fault may) rfl fun calm => absurd may (calm _ _)
  · intro op _ may
    exact skip _ _ (looked.fault may) rfl fun calm => absurd may (calm _ _)

/-- What is done about an entry. -/
theorem keeps_repairMarker (reading : terms.AllowsReading) (name : String)
    (skip : ∀ v report', Looked terms s v → report'.repaired = report.repaired →
      (Calm terms → ∀ candidate, candidateAt store s.tree (ownershipRoot ++ [name]) = some candidate →
        ¬ToClear store s.tree candidate ∧ ¬ToRemove store s.tree candidate) → post report' v)
    (clear : ∀ v report' candidate, Looked terms s v → report'.repaired = report.repaired →
      candidateAt store s.tree (ownershipRoot ++ [name]) = some candidate →
      ToClear store s.tree candidate →
      (applied mode (clearMissingSidecar store candidate) report').Keeps (contract terms) v post)
    (remove : ∀ v report' candidate, Looked terms s v → report'.repaired = report.repaired →
      candidateAt store s.tree (ownershipRoot ++ [name]) = some candidate →
      ToRemove store s.tree candidate →
      (applied mode (removeOrphanedRecord store candidate) report').Keeps (contract terms) v post) :
    (repairMarker store mode (ownershipRoot ++ [name]) report).Keeps (contract terms) s post := by
  unfold repairMarker
  rw [keeps_bind]
  apply (looks_candidate _).keeps reading
  · cases found : candidateAt store s.tree (ownershipRoot ++ [name]) with
    | none =>
      apply skip s report.skip (.refl s) rfl
      intro _ candidate impossible
      rw [found] at impossible
      cases impossible
    | some candidate =>
      have only {other : OwnedCandidate}
          (same : candidateAt store s.tree (ownershipRoot ++ [name]) = some other) :
          other = candidate := by
        rw [found] at same
        cases same
        rfl
      dsimp only
      unfold repairCandidate
      rw [keeps_bind]
      apply (looks_artifact candidate).keeps reading
      · cases verified : artifactVerified store s.tree candidate with
        | none =>
          have unverified : ¬ToClear store s.tree candidate := by
            rintro ⟨verified', _⟩
            rw [verified] at verified'
            cases verified'
          apply keeps_unverified reading (.refl s)
          · intro v report' looked repaired calm
            apply skip v report' looked repaired
            intro quiet other same
            rw [only same]
            exact ⟨unverified, calm quiet⟩
          · intro v report' looked repaired orphan
            exact remove v report' candidate looked repaired found orphan
        | some checked =>
          have present : ¬ToRemove store s.tree candidate := by
            rintro ⟨missing, _⟩
            unfold artifactVerified at verified
            rw [missing] at verified
            cases verified
          dsimp only
          unfold repairSidecar
          rw [keeps_bind]
          apply (reads_sidecar candidate).keeps reading
          · have stays {report' : ArtifactRepairReport} (repaired : report'.repaired = report.repaired)
                (other : sidecarStateAt store s.tree candidate ≠ .missing) : post report' s := by
              apply skip s report' (.refl s) repaired
              intro _ found' same
              rw [only same]
              exact ⟨fun clears => other clears.2, present⟩
            cases sidecar : sidecarStateAt store s.tree candidate with
            | none => exact stays rfl (by rw [sidecar]; nofun)
            | valid => exact stays rfl (by rw [sidecar]; nofun)
            | invalid => exact stays rfl (by rw [sidecar]; nofun)
            | missing => exact clear s _ candidate (.refl s) rfl found ⟨verified, sidecar⟩
          · intro op _ may
            exact skip _ _ ((Looked.refl s).fault may) rfl fun calm => absurd may (calm _ _)
      · intro op _ may
        apply keeps_unverified reading ((Looked.refl s).fault may)
        · intro v report' looked repaired _
          exact skip v report' looked repaired fun calm => absurd may (calm _ _)
        · intro v report' looked repaired orphan
          exact remove v report' candidate looked repaired found orphan
  · intro op _ may
    exact skip _ _ ((Looked.refl s).fault may) rfl fun calm => absurd may (calm _ _)

end Entry

/-! ## The repairs -/

theorem Calm.keeps {α : Type} {p : Program Files.interface α} {post : α → Session → Prop}
    (calm : Calm terms) (kept : p.Keeps (contract terms) s post) :
    p.Keeps (contract terms) s fun a t => post a t ∧ t.faults = s.faults := keeps_calm calm kept

theorem keeps_applied {mode : ArtifactRepairMode} {repair : Check Unit} {report : ArtifactRepairReport}
    {post : ArtifactRepairReport → Session → Prop} (audited : mode = .audit → post report s)
    (tried : mode = .apply → Finds (contract terms) repair s
      (fun _ t => post { report with repaired := report.repaired + 1 } t) fun t => post report.skip t) :
    (applied mode repair report).Keeps (contract terms) s post := by
  unfold applied
  cases mode with
  | audit => exact audited rfl
  | apply =>
    dsimp only
    rw [keeps_bind]
    apply Keeps.mono (tried rfl)
    intro result t held
    cases result <;> exact held

theorem cleared_small (formed : wellFormed record (markerName record.id) = true) :
    Small (withoutSidecar record) := by
  have parses := wellFormed_parses formed
  obtain ⟨safe, digest⟩ := wellFormed_safe formed
  exact ⟨(parsesAsUuid_narrow parses).weaken (by decide), (safeRelative_narrow safe).weaken (by decide),
    digest_narrow digest, nofun, nofun⟩

/-- The tree with a record that names no sidecar any more. -/
def clearedTree (tree : Tree) (record : OwnershipRecord) : Tree := marked tree (withoutSidecar record)

variable {marker : Bytes}

theorem OwnRecord.replaceable (own : OwnRecord store tree record marker) :
    Replaceable tree (withoutSidecar record) where
  root := own.recorded.root
  short := encodeOwnership_short (cleared_small own.recorded.formed)
  marker := by
    show tree (markerPath record.id) ≠ some .directory
    rw [own.recorded.marker]
    nofun

theorem OwnRecord.candidate (own : OwnRecord store tree record marker) :
    candidateAt store tree (markerPath record.id) = some (owned (markerPath record.id) record) :=
  candidateAt_some.mpr ⟨record, marker, own.recorded, rfl, rfl⟩

theorem finds_hushed {α : Type} {x : Action α} {found : α → Session → Prop} {missed : Session → Prop}
    (tried : Tries (contract terms) x s found fun _ t => missed t) :
    Finds (contract terms) (hushed x) s found missed := by
  unfold Finds hushed ArtifactStore.given
  rw [OptionT.run_mk, keeps_bind]
  apply Keeps.mono tried
  intro result t held
  cases result <;> exact held

theorem finds_demand {p : Prop} [Decidable p] {found : Unit → Session → Prop}
    {missed : Session → Prop} (holds : p) (fine : found () s) :
    Finds (contract terms) (demand p) s found missed := by
  unfold demand
  rw [if_pos holds]
  exact fine

/-- Without a fault, clearing the reference to a missing sidecar succeeds. -/
theorem finds_clearMissingSidecar (orderly : AllowsOrderly OwnsFiles terms)
    (own : OwnRecord store s.tree record marker) :
    Finds (contract terms) (clearMissingSidecar store (owned (markerPath record.id) record)) s
      (fun _ t => t = { s with tree := clearedTree s.tree record })
      fun _ => Calm terms → ¬ToClear store s.tree (owned (markerPath record.id) record) := by
  have reading := orderly.reading
  have fault {u : Session} {op : Op} (may : terms.mayFail u op) :
      Calm terms → ¬ToClear store s.tree (owned (markerPath record.id) record) :=
    fun calm => absurd may (calm u op)
  unfold clearMissingSidecar
  rw [finds_bind]
  apply (looks_candidate _).keeps reading
  · rw [show (owned (markerPath record.id) record).marker = markerPath record.id from rfl, own.candidate]
    dsimp only
    rw [finds_bind]
    apply finds_demand rfl
    rw [finds_bind]
    apply (looks_artifact _).keeps reading
    · cases verified : artifactVerified store s.tree (owned (markerPath record.id) record) with
      | none =>
        rintro _ ⟨verified', _⟩
        rw [verified] at verified'
        cases verified'
      | some checked =>
        dsimp only
        rw [finds_bind]
        apply (looks_given (reads_sidecar _) rfl).keeps reading
        · by_cases missing : sidecarStateAt store s.tree (owned (markerPath record.id) record) = .missing
          · rw [if_pos missing]
            apply finds_hushed
            have replaced := tries_replaceOwnership orderly own.owns.cleared own.rooted
              (uuid_final own.parses) (s := s)
            by_cases calm : Calm terms
            · apply Keeps.mono (calm.keeps replaced)
              rintro (e | done) t ⟨ended, quiet⟩
              · rcases ended with aborted | ⟨_, rfl⟩
                · exact absurd own.replaceable fun able => aborted.faulty able quiet
                · simp [Files.fault] at quiet
              · exact ended.2
            · apply replaced.mono
              · rintro _ t ⟨_, rfl⟩
                rfl
              · intro _ _ _ quiet
                exact absurd quiet calm
          · rw [if_neg missing]
            exact fun _ clears => missing clears.2
        · intro op _ may
          exact fault may
    · intro op _ may
      exact fault may
  · intro op _ may
    exact fault may

theorem finds_given {α β : Type} {p : Fs α} {decides : α → Option β} {found : β → Session → Prop}
    {missed : Session → Prop} : Finds (contract terms) (ArtifactStore.given p decides) s found missed ↔
      p.Keeps (contract terms) s fun a t => match decides a with
        | some b => found b t
        | none => missed t := by
  unfold Finds ArtifactStore.given
  rw [OptionT.run_mk, keeps_bind]
  exact Iff.rfl

theorem OwnRecord.valid_file (own : OwnRecord store tree record marker)
    (valid : sidecarStateAt store tree (owned (markerPath record.id) record) = .valid) :
    ∃ bytes, tree (sidecarPath record) = some (.file bytes) := by
  rw [own.sidecarState_eq] at valid
  cases hashed : record.sidecarSha256 with
  | none => simp [hashed] at valid
  | some sha256 =>
    cases present : tree (sidecarPath record) with
    | none => simp [hashed, present, sidecarNode] at valid
    | some node =>
      cases node with
      | file bytes => exact ⟨bytes, rfl⟩
      | directory | link | special => simp [hashed, present, sidecarNode] at valid

/-- The tree without the sidecar an orphaned record owns. -/
def withoutOwned (store : Store) (tree : Tree) (record : OwnershipRecord) : Tree :=
  if sidecarStateAt store tree (owned (markerPath record.id) record) = .valid then
    Function.update tree (sidecarPath record) none
  else tree

/-- The tree without an orphaned record and the sidecar it owns. -/
def removedTree (store : Store) (tree : Tree) (record : OwnershipRecord) : Tree :=
  Function.update (withoutOwned store tree record) (markerPath record.id) none

/-- The end of the removal of an orphaned record. -/
theorem finds_removeLast {u : Session} {missed : Session → Prop} {path : Path} {bytes : Bytes}
    (orderly : AllowsOrderly OwnsFiles terms) (held : u.tree path = some (.file bytes))
    (root : isDirectory u.tree ownershipRoot = true) (failed : ¬Calm terms → ∀ t, missed t) :
    Finds (contract terms) (removeFile path >>= fun _ => hushed (syncDirectory ownershipRoot)) u
      (fun _ t => t = { u with tree := Function.update u.tree path none }) missed := by
  have faulty {v : Session} {op : Op} (may : terms.mayFail v op) (t : Session) : missed t :=
    failed (fun calm => calm v op may) t
  rw [finds_bind]
  unfold Finds removeFile ArtifactStore.given
  rw [OptionT.run_mk, keeps_bind]
  apply keeps_perform (orderly u (.act (.remove path)) trivial)
  · intro _
    apply finds_hushed
    apply tries_syncDirectory orderly
    · apply isDirectory_update root
      rw [held]
      nofun
    · rfl
    · intro _ may
      exact faulty may _
  · intro reason _ may
    exact faulty may _
  · intro reason impossible
    simp [performable, held] at impossible

/-- The sidecar of an orphaned record goes if it is valid, and stays otherwise. -/
theorem finds_removeOwnedSidecar {missed : Session → Prop} (orderly : AllowsOrderly OwnsFiles terms)
    (own : OwnRecord store s.tree record marker)
    (fine : sidecarStateAt store s.tree (owned (markerPath record.id) record) ≠ .invalid)
    (failed : ¬Calm terms → ∀ t, missed t) :
    Finds (contract terms)
      (removeOwnedSidecar (owned (markerPath record.id) record)
        (sidecarStateAt store s.tree (owned (markerPath record.id) record))) s
      (fun _ t => t = { s with tree := withoutOwned store s.tree record }) missed := by
  have faulty {v : Session} {op : Op} (may : terms.mayFail v op) (t : Session) : missed t :=
    failed (fun calm => calm v op may) t
  cases state : sidecarStateAt store s.tree (owned (markerPath record.id) record) with
  | invalid => exact absurd state fine
  | none | missing =>
    show s = { s with tree := withoutOwned store s.tree record }
    rw [withoutOwned, state]
    rfl
  | valid =>
    cases named : record.sidecarName with
    | none =>
      unfold sidecarStateAt owned at state
      rw [named] at state
      cases state
    | some name =>
      obtain ⟨path, _⟩ := own.sidecar named
      have sidecar : (owned (markerPath record.id) record).sidecar = some (sidecarPath record) := by
        unfold owned
        rw [named, ← path]
        rfl
      obtain ⟨bytes, held⟩ := own.valid_file state
      unfold removeOwnedSidecar
      rw [sidecar, withoutOwned, if_pos state]
      show Finds (contract terms) (removeFile (sidecarPath record) >>= fun _ =>
        hushed (syncDirectory (sidecarPath record).dropLast)) s _ _
      rw [finds_bind]
      unfold Finds removeFile ArtifactStore.given
      rw [OptionT.run_mk, keeps_bind]
      apply keeps_perform (orderly s (.act (.remove (sidecarPath record))) trivial)
      · intro _
        apply finds_hushed
        apply tries_syncDirectory orderly
        · rw [sidecarPath, List.dropLast_concat]
          apply isDirectory_update own.paved.here
          show s.tree (sidecarPath record) ≠ _
          rw [held]
          simp
        · rfl
        · intro _ may
          exact faulty may _
      · intro reason _ may
        exact faulty may _
      · intro reason impossible
        simp [performable, held] at impossible

/-- Without a fault, the removal of an orphaned record succeeds. -/
theorem finds_removeOrphanedRecord (orderly : AllowsOrderly OwnsFiles terms)
    (own : OwnRecord store s.tree record marker) :
    Finds (contract terms) (removeOrphanedRecord store (owned (markerPath record.id) record)) s
      (fun _ t => t = { s with tree := removedTree store s.tree record })
      fun _ => Calm terms → ¬ToRemove store s.tree (owned (markerPath record.id) record) := by
  have reading := orderly.reading
  have fault {u : Session} {op : Op} (may : terms.mayFail u op) :
      Calm terms → ¬ToRemove store s.tree (owned (markerPath record.id) record) :=
    fun calm => absurd may (calm u op)
  have failed (stormy : ¬Calm terms) :
      Calm terms → ¬ToRemove store s.tree (owned (markerPath record.id) record) :=
    fun calm => absurd calm stormy
  unfold removeOrphanedRecord
  rw [finds_bind]
  apply (looks_candidate _).keeps reading
  · rw [show (owned (markerPath record.id) record).marker = markerPath record.id from rfl, own.candidate]
    dsimp only
    rw [finds_bind]
    apply finds_demand rfl
    rw [finds_bind]
    apply (looks_given (reads_pathState _) rfl).keeps reading
    · by_cases missing : pathState s.tree (owned (markerPath record.id) record).artifact = .missing
      · rw [if_pos missing]
        dsimp only
        rw [finds_bind]
        apply finds_given.mpr
        apply (reads_sidecar _).keeps reading
        · by_cases fine : sidecarStateAt store s.tree (owned (markerPath record.id) record) = .invalid
          · rw [fine]
            exact fun _ orphan => orphan.2 fine
          · dsimp only
            rw [finds_bind]
            apply Finds.mono (finds_removeOwnedSidecar orderly own fine fun stormy _ => failed stormy)
            · rintro _ t rfl
              have held : withoutOwned store s.tree record (markerPath record.id) = some (.file marker) := by
                unfold withoutOwned
                split
                · rw [Function.update_of_ne, own.recorded.marker]
                  exact (own.outside _).symm
                · exact own.recorded.marker
              have root : isDirectory s.tree ownershipRoot = true :=
                isDirectory_iff.mpr (.inr own.recorded.root)
              apply finds_removeLast orderly held
              · unfold withoutOwned
                split
                · rename_i valid
                  obtain ⟨bytes, held⟩ := own.valid_file valid
                  apply isDirectory_update root
                  rw [held]
                  nofun
                · exact root
              · exact fun stormy _ => failed stormy
            · exact fun t missed => missed
        · intro op _ may
          exact fault may
      · rw [if_neg missing]
        exact fun _ orphan => missing orphan.1
    · intro op _ may
      exact fault may
  · intro op _ may
    exact fault may

end ImagegenBridge.ArtifactStore
