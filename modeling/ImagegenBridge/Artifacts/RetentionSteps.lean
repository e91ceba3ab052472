import ImagegenBridge.Artifacts.Maintenance
import ImagegenBridge.Artifacts.StoreWrites
import ImagegenBridge.Lib.FileRuns

/-!
# The steps of a retention pass

The scan collects the valid records of the entries it saw. A removal checks its record
again, and without a fault it leaves the record invalid.
-/

namespace ImagegenBridge.ArtifactStore

open Text Inspect Materialize Files Program

variable {store : Store} {tree : Tree} {s t : Session} {record : OwnershipRecord}

/-- Terms under which only these files may be removed. -/
def removing (touched : Path → Prop) (mayFail : Prop) : Terms where
  allow _ op := Removes touched op
  mayFail _ _ := mayFail

theorem removing_reading {touched : Path → Prop} {mayFail : Prop} :
    (removing touched mayFail).AllowsReading := by
  intro u op reading
  cases op <;> trivial

/-! ## Valid records in a tree with fewer files -/

def IsValid (store : Store) (tree : Tree) (record : OwnershipRecord) : Prop :=
  ∃ marker bytes, Valid store tree record marker bytes

/-- A file that is still there is what it was. -/
theorem fileAt_pruned {touched : Path → Prop} {after : Tree} {path : Path} {bytes : Bytes}
    (pruned : Pruned touched tree after) (some_path : path ≠ []) (file : FileAt after path bytes) :
    FileAt tree path bytes := by
  obtain ⟨rooted, present⟩ := (fileAt_iff some_path).mp file
  apply (fileAt_iff some_path).mpr
  refine ⟨?_, pruned.kept present⟩
  intro above below split some_below
  have directory := rooted above below split some_below
  rw [isDirectory_iff] at directory ⊢
  exact directory.imp_right fun there => pruned.kept there

/-- The sidecar of a valid record is there. -/
theorem valid_sidecar (valid : IsValid store tree record) {name : String}
    (named : record.sidecarName = some name) :
    ∃ sha256 content, record.sidecarSha256 = some sha256 ∧ FileAt tree (relativePath name) content ∧
      sidecarStateAt store tree (owned (markerPath record.id) record) = .valid := by
  obtain ⟨marker, bytes, valid⟩ := valid
  have formed := valid.recorded.formed
  have acceptable := valid.sidecar
  cases hashed : record.sidecarSha256 with
  | none => simp [wellFormed, named, hashed, sidecarValid] at formed
  | some sha256 =>
    unfold sidecarStateAt owned at acceptable ⊢
    simp only [named, hashed, Option.map_some] at acceptable ⊢
    cases state : pathState tree (relativePath name) with
    | missing => simp [state, ArtifactStore.acceptable] at acceptable
    | invalid => simp [state, ArtifactStore.acceptable] at acceptable
    | regular length =>
      obtain ⟨content, file, _⟩ := pathState_regular.mp state
      refine ⟨sha256, content, rfl, file, ?_⟩
      simp only [state] at acceptable ⊢
      split_ifs at acceptable ⊢ with long
      · cases acceptable
      · unfold sidecarContent at acceptable ⊢
        rw [readOf_some.mpr file.2] at acceptable ⊢
        dsimp only at acceptable ⊢
        split_ifs at acceptable ⊢ with wrong
        · cases acceptable
        · rfl

/-- A record that is valid was valid before some files were removed. -/
theorem valid_pruned {touched : Path → Prop} {after : Tree} (pruned : Pruned touched tree after)
    (valid : IsValid store after record) : IsValid store tree record := by
  have sidecar (name : String) (named : record.sidecarName = some name) :=
    valid_sidecar valid named
  obtain ⟨marker, bytes, valid⟩ := valid
  refine ⟨marker, bytes, ⟨pruned.kept valid.recorded.root, pruned.kept valid.recorded.marker,
    valid.recorded.short, valid.recorded.parsed, valid.recorded.formed⟩,
    fileAt_pruned pruned (relativePath_ne_nil _) valid.file, valid.described, ?_⟩
  cases named : record.sidecarName with
  | none =>
    unfold sidecarStateAt owned
    rw [named]
    rfl
  | some name =>
    obtain ⟨sha256, content, hashed, file, state⟩ := sidecar name named
    have before := fileAt_pruned pruned (relativePath_ne_nil _) file
    have same : sidecarStateAt store tree (owned (markerPath record.id) record) =
        sidecarStateAt store after (owned (markerPath record.id) record) := by
      unfold sidecarStateAt owned
      simp only [named, hashed, Option.map_some, file.1, before.1, readOf_some.mpr file.2,
        readOf_some.mpr before.2]
    rw [same, state]
    rfl

/-! ## Removing one record -/

/-- The files a record names, and its marker. -/
def recordFiles (record : OwnershipRecord) : List Path :=
  [markerPath record.id, relativePath record.name] ++ (record.sidecarName.map relativePath).toList

section Removal

variable {touched : Path → Prop} {mayFail : Prop}

theorem finds_removeFile {path : Path} (among : touched path) :
    Finds (contract (removing touched mayFail)) (removeFile path) s
      (fun _ t => t.tree path = none)
      fun _ => mayFail ∨ performable s.tree (.remove path) = false := by
  unfold Finds removeFile given
  rw [OptionT.run_mk, keeps_bind]
  apply keeps_perform among
  · intro _
    exact Function.update_self _ _ _
  · intro reason _ may
    exact .inl may
  · intro reason impossible
    exact .inr impossible

/-- Both ways to end meet one condition. -/
theorem finds_iff {α : Type} {c : Contract Files.monitor} {x : Check α} {post : Session → Prop} :
    Finds c x s (fun _ t => post t) post ↔ x.run.Keeps c s fun _ t => post t := by
  constructor
  all_goals
    intro kept
    apply Keeps.mono kept
    intro result t held
    cases result <;> exact held

theorem finds_hushed_sync (directory : Path) :
    Finds (contract (removing touched mayFail)) (hushed (syncDirectory directory)) s
      (fun _ _ => True) fun _ => True := by
  have allowed : (removing touched mayFail).allow s (.act (.sync directory)) := trivial
  have tried : Tries (contract (removing touched mayFail)) (syncDirectory directory) s (fun _ _ => True)
      fun _ _ => True := by
    apply tries_finished allowed
    · intro _
      trivial
    · intro _ _ _
      trivial
    · intro _ _
      trivial
  unfold Finds hushed given
  rw [OptionT.run_mk, keeps_bind]
  apply Keeps.mono tried
  intro result _ _
  cases result <;> trivial

/-- A record that is invalid stays so while files are removed. -/
theorem finds_invalid {α : Type} {x : Check α} (invalid : ¬IsValid store s.tree record)
    (kept : Finds (contract (removing touched mayFail)) x s (fun _ _ => True) fun _ => True) :
    Finds (contract (removing touched mayFail)) x s (fun _ t => ¬IsValid store t.tree record)
      fun t => ¬IsValid store t.tree record := by
  apply finds_iff.mpr
  apply (keeps_pruned (fun _ _ allowed => allowed) (finds_iff.mp kept)).mono
  rintro result t ⟨_, pruned⟩ valid
  exact invalid (valid_pruned pruned valid)

/-- Removing a file that a valid record needs makes it invalid, whatever follows. -/
theorem finds_removeNeeded {α : Type} {f : Unit → Check α} {path : Path} {bytes : Bytes}
    (among : touched path) (held : s.tree path = some (.file bytes))
    (needed : ∀ u : Session, u.tree path = none → ¬IsValid store u.tree record)
    (later : ∀ u, Finds (contract (removing touched mayFail)) (f ()) u (fun _ _ => True) fun _ => True) :
    Finds (contract (removing touched mayFail)) (removeFile path >>= f) s
      (fun _ t => ¬mayFail → ¬IsValid store t.tree record)
      fun t => ¬mayFail → ¬IsValid store t.tree record := by
  rw [finds_bind]
  apply (finds_removeFile among).mono
  · intro _ u gone
    apply (finds_invalid (needed u gone) (later u)).mono
    · intro _ _ invalid _
      exact invalid
    · intro _ invalid _
      exact invalid
  · rintro t (may | impossible) calm
    · exact absurd may calm
    · simp [performable, held] at impossible

/-- The removals that follow that of the artifact. -/
def removeMarker (marker : Path) : Check Unit := do
  removeFile marker
  hushed (syncDirectory [])
  hushed (syncDirectory ownershipRoot)

theorem finds_removeMarker {marker : Path} (among : touched marker) :
    Finds (contract (removing touched mayFail)) (removeMarker marker) s (fun _ _ => True)
      fun _ => True := by
  unfold removeMarker
  rw [finds_bind]
  apply (finds_removeFile among).mono
  · intro _ _ _
    rw [finds_bind]
    apply (finds_hushed_sync []).mono
    · intro _ _ _
      exact finds_hushed_sync ownershipRoot
    · intro _ _
      trivial
  · intro _ _
    trivial

variable (files : ∀ path ∈ recordFiles record, touched path)

include files

theorem touched_artifact : touched (relativePath record.name) := files _ (by simp [recordFiles])

theorem touched_sidecar {name : String} (named : record.sidecarName = some name) :
    touched (relativePath name) := files _ (by simp [recordFiles, named])

theorem finds_removeArtifact :
    Finds (contract (removing touched mayFail))
      (removeFile (relativePath record.name) >>= fun _ => removeMarker (markerPath record.id)) s
      (fun _ _ => True) fun _ => True := by
  rw [finds_bind]
  apply (finds_removeFile (touched_artifact files)).mono
  · intro _ _ _
    exact finds_removeMarker (files _ List.mem_cons_self)
  · intro _ _
    trivial

/-- Without a fault, a record is not valid after its removal. -/
theorem finds_removeVerified :
    Finds (contract (removing touched mayFail))
      (removeVerified store (owned (markerPath record.id) record)) s
      (fun _ t => ¬mayFail → ¬IsValid store t.tree record)
      fun t => ¬mayFail → ¬IsValid store t.tree record := by
  unfold removeVerified
  rw [finds_bind]
  apply (looks_verified _).keeps removing_reading
  · cases verified : candidateVerified store s.tree (owned (markerPath record.id) record) with
    | none =>
      rintro _ ⟨marker, bytes, valid⟩
      have fine := candidateVerified_iff.mpr ⟨⟨bytes, valid.file, valid.described⟩, valid.sidecar⟩
      rw [verified] at fine
      cases fine
    | some checked =>
      obtain ⟨⟨bytes, file, _⟩, _⟩ := candidateVerified_iff.mp verified
      cases named : record.sidecarName with
      | none =>
        have bare : (owned (markerPath record.id) record).sidecar = none := by
          unfold owned
          rw [named]
          rfl
        simp only [bare, removeSidecar]
        apply finds_removeNeeded (touched_artifact files) file.2
        · rintro u gone ⟨marker, content, valid⟩
          have present := valid.file.2
          rw [gone] at present
          cases present
        · intro u
          exact finds_removeMarker (files _ List.mem_cons_self)
      | some name =>
        have bare : (owned (markerPath record.id) record).sidecar = some (relativePath name) := by
          unfold owned
          rw [named]
          rfl
        simp only [bare, removeSidecar]
        by_cases valid : IsValid store s.tree record
        · obtain ⟨_, content, _, sidecar, _⟩ := valid_sidecar valid named
          apply finds_removeNeeded (touched_sidecar files named) sidecar.2
          · intro u gone valid
            obtain ⟨_, _, _, present, _⟩ := valid_sidecar valid named
            have held := present.2
            rw [gone] at held
            cases held
          · intro u
            exact finds_removeArtifact files
        · have kept : Finds (contract (removing touched mayFail))
              (removeFile (relativePath name) >>= fun _ =>
                removeFile (relativePath record.name) >>= fun _ => removeMarker (markerPath record.id)) s
              (fun _ _ => True) fun _ => True := by
            rw [finds_bind]
            apply (finds_removeFile (touched_sidecar files named)).mono
            · intro _ _ _
              exact finds_removeArtifact files
            · intro _ _
              trivial
          apply (finds_invalid valid kept).mono
          · intro _ _ invalid _
            exact invalid
          · intro _ invalid _
            exact invalid
  · intro op _ may calm
    exact absurd may calm

end Removal

/-! ## The scan -/

/-- What a scan knows: the candidates are valid records of entries it saw, each once. -/
structure Scanned (store : Store) (tree : Tree) (s : Session) (candidates : List OwnedCandidate) :
    Prop where
  same : s.tree = tree
  opened : s.opened = some tree
  sound : ∀ candidate ∈ candidates, ∃ record, candidate = owned (markerPath record.id) record ∧
    markerName record.id ∈ s.listed ∧ IsValid store tree record
  distinct : (candidates.map fun candidate => candidate.record.id).Nodup

/-- The candidates are all valid records of the entries that were given. -/
def Whole (store : Store) (tree : Tree) (s : Session) (candidates : List OwnedCandidate) : Prop :=
  ∀ record, IsValid store tree record → markerName record.id ∈ s.listed →
    owned (markerPath record.id) record ∈ candidates

/-- Every entry of the directory was given. -/
def Listed (tree : Tree) (s : Session) : Prop :=
  ∀ name, tree (ownershipRoot ++ [name]) ≠ none → name ∈ s.listed

theorem Scanned.given {candidates : List OwnedCandidate} (name : String)
    (scanned : Scanned store tree s candidates) :
    Scanned store tree (afterEntry s name) candidates where
  same := scanned.same
  opened := scanned.opened
  sound candidate among := by
    obtain ⟨record, same, listed, valid⟩ := scanned.sound candidate among
    exact ⟨record, same, List.mem_cons_of_mem _ listed, valid⟩
  distinct := scanned.distinct

theorem Scanned.fault {candidates : List OwnedCandidate} (op : Op)
    (scanned : Scanned store tree s candidates) : Scanned store tree (Files.fault s op) candidates :=
  ⟨scanned.same, scanned.opened, scanned.sound, scanned.distinct⟩

theorem Scanned.finished {candidates : List OwnedCandidate} (scanned : Scanned store tree s candidates)
    (all : ∀ name, tree (ownershipRoot ++ [name]) ≠ none → s.tree (ownershipRoot ++ [name]) ≠ none →
      name ∈ s.listed) : Listed tree s := by
  intro name present
  apply all name present
  rw [scanned.same]
  exact present

theorem Whole.given {candidates : List OwnedCandidate} {name : String}
    (whole : Whole store tree s candidates)
    (missing : ∀ record, markerName record.id = name → ¬IsValid store tree record) :
    Whole store tree (afterEntry s name) candidates := by
  intro record valid listed
  rcases List.mem_cons.mp listed with named | earlier
  · exact absurd valid (missing record named)
  · exact whole record valid earlier

theorem valid_unique {other : OwnershipRecord} (valid : IsValid store tree record)
    (again : IsValid store tree other) (same : other.id = record.id) : other = record := by
  obtain ⟨marker, bytes, valid⟩ := valid
  obtain ⟨marker', bytes', again⟩ := again
  exact (recorded_unique valid.recorded again.recorded same).1

theorem Scanned.add {candidates : List OwnedCandidate} (scanned : Scanned store tree s candidates)
    (valid : IsValid store tree record) (new : markerName record.id ∉ s.listed) :
    Scanned store tree (afterEntry s (markerName record.id))
      (owned (markerPath record.id) record :: candidates) where
  same := scanned.same
  opened := scanned.opened
  sound candidate among := by
    rcases List.mem_cons.mp among with rfl | earlier
    · exact ⟨record, rfl, List.mem_cons_self, valid⟩
    · obtain ⟨found, same, listed, known⟩ := scanned.sound candidate earlier
      exact ⟨found, same, List.mem_cons_of_mem _ listed, known⟩
  distinct := by
    rw [List.map_cons, List.nodup_cons]
    refine ⟨?_, scanned.distinct⟩
    intro among
    obtain ⟨candidate, inside, same⟩ := List.mem_map.mp among
    obtain ⟨found, rfl, listed, _⟩ := scanned.sound candidate inside
    have identity : found.id = record.id := same
    rw [identity] at listed
    exact new listed

theorem Whole.add {candidates : List OwnedCandidate} (whole : Whole store tree s candidates)
    (valid : IsValid store tree record) :
    Whole store tree (afterEntry s (markerName record.id))
      (owned (markerPath record.id) record :: candidates) := by
  intro other known listed
  rcases List.mem_cons.mp listed with named | earlier
  · obtain rfl := valid_unique valid known (markerName_inj named)
    exact List.mem_cons_self
  · exact List.mem_cons_of_mem _ (whole other known earlier)

theorem keeps_scanRecords {touched : Path → Prop} {mayFail : Prop} (remaining : Nat)
    (report : CleanupReport) (candidates : List OwnedCandidate)
    (scanned : Scanned store tree s candidates) (whole : ¬mayFail → Whole store tree s candidates) :
    (scanRecords store report candidates remaining).Keeps (contract (removing touched mayFail)) s
      fun result t => Scanned store tree t result.2 ∧ (result.1.scanLimitReached = false →
        Listed tree t ∧ (¬mayFail → Whole store tree t result.2)) := by
  induction remaining generalizing s report candidates with
  | zero =>
    have listing : (removing touched mayFail).allow s (.nextEntry ownershipRoot) := trivial
    unfold scanRecords
    rw [keeps_bind]
    apply keeps_nextEntry listing scanned.opened
    · intro name _ _
      exact ⟨scanned.given name, nofun⟩
    · exact ⟨scanned, nofun⟩
    · intro _
      exact ⟨scanned.fault _, nofun⟩
    · intro all
      exact ⟨scanned, fun _ => ⟨scanned.finished all, whole⟩⟩
  | succ remaining ih =>
    have listing : (removing touched mayFail).allow s (.nextEntry ownershipRoot) := trivial
    unfold scanRecords
    rw [keeps_bind]
    apply keeps_nextEntry listing scanned.opened
    · intro name _ fresh
      have new : name ∉ s.listed := fresh (by rw [scanned.same])
      rw [keeps_bind]
      have here : (afterEntry s name).tree = tree := scanned.same
      obtain ⟨value, looks, known⟩ :
          ∃ value, Looks tree (verifiedRecord store (ownershipRoot ++ [name])) value ∧ _ := looks_record name
      rw [← here] at looks
      apply Reads.keeps looks removing_reading
      · cases found : value with
        | none =>
          have missing : ∀ record, markerName record.id = name → ¬IsValid store tree record := by
            rintro record rfl ⟨marker, bytes, valid⟩
            have present := (known _).mpr ⟨record, marker, bytes, rfl, rfl, valid⟩
            rw [found] at present
            cases present
          exact ih _ _ (scanned.given name) (fun calm => (whole calm).given missing)
        | some candidate =>
          obtain ⟨record, marker, bytes, rfl, rfl, valid⟩ := (known candidate).mp found
          exact ih _ _ (scanned.add ⟨marker, bytes, valid⟩ new)
            (fun calm => (whole calm).add ⟨marker, bytes, valid⟩)
      · intro op _ may
        exact ih _ _ ((scanned.given name).fault op) (fun calm => absurd may calm)
    · exact ih _ _ scanned whole
    · intro may
      exact ih _ _ (scanned.fault _) fun calm => absurd may calm
    · intro all
      exact ⟨scanned, fun _ => ⟨scanned.finished all, whole⟩⟩

end ImagegenBridge.ArtifactStore
