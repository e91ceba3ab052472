import ImagegenBridge.Artifacts.RepairSteps

/-!
# A repair pass

Without a fault, every record of an entry that was given has been cleared, removed or left
for good. What happened to a record says whether its entry can be given again.
-/

namespace ImagegenBridge.ArtifactStore

open Text Inspect Materialize Files Program

variable {store : Store} {tree after : Tree} {s t : Session} {record : OwnershipRecord}
  {marker marker' : Bytes}

/-! ## What a record needs -/

/-- The artifact or the sidecar is there and is not what the record says. -/
def Altered (store : Store) (tree : Tree) (record : OwnershipRecord) : Prop :=
  (∃ node, tree (relativePath record.name) = some node ∧ ¬Intact store record (some node)) ∨
    sidecarStateAt store tree (owned (markerPath record.id) record) = .invalid

namespace OwnRecord

theorem missing_iff (own : OwnRecord store tree record marker) :
    pathState tree (relativePath record.name) = .missing ↔ tree (relativePath record.name) = none := by
  rw [pathState_rooted own.rooted (relativePath_ne_nil _)]
  cases tree (relativePath record.name) with
  | none => exact ⟨fun _ => rfl, fun _ => rfl⟩
  | some node => cases node <;> simp [nodeState]

theorem valid_of (own : OwnRecord store tree record marker)
    (intact : Intact store record (tree (relativePath record.name)))
    (fine : acceptable (sidecarStateAt store tree (owned (markerPath record.id) record)) = some ()) :
    IsValid store tree record := by
  obtain ⟨bytes, file, described⟩ := artifactVerified_iff.mp (own.verified_iff.mpr intact)
  exact ⟨marker, bytes, own.recorded, file, described, fine⟩

/-- A record is valid, or one of its files was changed, or it is one to repair. -/
theorem sorted (own : OwnRecord store tree record marker) :
    IsValid store tree record ∨ Altered store tree record ∨
      ToClear store tree (owned (markerPath record.id) record) ∨
      ToRemove store tree (owned (markerPath record.id) record) := by
  cases state : sidecarStateAt store tree (owned (markerPath record.id) record) with
  | invalid => exact .inr (.inl (.inr state))
  | none | missing | valid =>
    cases present : tree (relativePath record.name) with
    | none =>
      right; right; right
      exact ⟨own.missing_iff.mpr present, by rw [state]; nofun⟩
    | some node =>
      by_cases intact : Intact store record (some node)
      · rw [← present] at intact
        first
          | exact .inl (own.valid_of intact (by rw [state]; rfl))
          | exact .inr (.inr (.inl ⟨own.verified_iff.mpr intact, state⟩))
      · exact .inr (.inl (.inl ⟨node, present, intact⟩))

/-- A record to repair has no file that was changed, and is not valid. -/
theorem needed (own : OwnRecord store tree record marker)
    (needed : ToClear store tree (owned (markerPath record.id) record) ∨
      ToRemove store tree (owned (markerPath record.id) record)) :
    ¬Altered store tree record ∧ ¬IsValid store tree record := by
  rcases needed with clear | remove
  · have intact := own.verified_iff.mp clear.1
    constructor
    · rintro (⟨node, present, other⟩ | invalid)
      · rw [present] at intact
        exact other intact
      · rw [clear.2] at invalid
        cases invalid
    · rintro ⟨_, _, valid⟩
      have acceptable := valid.sidecar
      rw [clear.2] at acceptable
      cases acceptable
  · have absent := own.missing_iff.mp remove.1
    constructor
    · rintro (⟨node, present, _⟩ | invalid)
      · rw [absent] at present
        cases present
      · exact remove.2 invalid
    · rintro ⟨_, bytes, valid⟩
      have present := valid.file.2
      rw [absent] at present
      cases present

/-- What a record needs depends on its two files alone. -/
theorem same_sidecar (own : OwnRecord store tree record marker)
    (own' : OwnRecord store after record marker')
    (sidecar : after (sidecarPath record) = tree (sidecarPath record)) :
    sidecarStateAt store after (owned (markerPath record.id) record) =
      sidecarStateAt store tree (owned (markerPath record.id) record) := by
  rw [own.sidecarState_eq, own'.sidecarState_eq, sidecar]

theorem clear_iff (own : OwnRecord store tree record marker) (own' : OwnRecord store after record marker')
    (artifact : after (relativePath record.name) = tree (relativePath record.name))
    (sidecar : after (sidecarPath record) = tree (sidecarPath record)) :
    ToClear store after (owned (markerPath record.id) record) ↔
      ToClear store tree (owned (markerPath record.id) record) := by
  unfold ToClear
  rw [own.verified_iff, own'.verified_iff, artifact, own.same_sidecar own' sidecar]

theorem remove_iff (own : OwnRecord store tree record marker)
    (own' : OwnRecord store after record marker')
    (artifact : after (relativePath record.name) = tree (relativePath record.name))
    (sidecar : after (sidecarPath record) = tree (sidecarPath record)) :
    ToRemove store after (owned (markerPath record.id) record) ↔
      ToRemove store tree (owned (markerPath record.id) record) := by
  have first := own.missing_iff
  have later := own'.missing_iff
  unfold ToRemove
  rw [own.same_sidecar own' sidecar]
  show pathState after (relativePath record.name) = _ ∧ _ ↔ pathState tree (relativePath record.name) = _ ∧ _
  rw [first, later, artifact]

end OwnRecord

theorem bare_sidecarState (bare : record.sidecarName = none) :
    sidecarStateAt store tree (owned (markerPath record.id) record) = .none := by
  unfold sidecarStateAt owned
  rw [bare]
  rfl

/-! ## The fate of a record -/

/-- What a pass has made of a record. -/
inductive Fate (store : Store) (tree after : Tree) (listed : List String) (record : OwnershipRecord) :
    Prop where
  | waiting : after (markerPath record.id) = tree (markerPath record.id) →
      after (sidecarPath record) = tree (sidecarPath record) →
      (markerName record.id ∈ listed → ¬ToClear store tree (owned (markerPath record.id) record) ∧
        ¬ToRemove store tree (owned (markerPath record.id) record)) →
      Fate store tree after listed record
  | cleared : ToClear store tree (owned (markerPath record.id) record) →
      after (markerPath record.id) = some (.file (encodeOwnership (withoutSidecar record))) →
      Fate store tree after listed record
  | removed : ToRemove store tree (owned (markerPath record.id) record) →
      after (markerPath record.id) = none → Fate store tree after listed record

/-- A path that the repair of a record changes. -/
def Mends (store : Store) (tree : Tree) (record : OwnershipRecord) (path : Path) : Prop :=
  (path = markerPath record.id ∧ (ToClear store tree (owned (markerPath record.id) record) ∨
    ToRemove store tree (owned (markerPath record.id) record))) ∨
  (path = sidecarPath record ∧ ToRemove store tree (owned (markerPath record.id) record) ∧
    sidecarStateAt store tree (owned (markerPath record.id) record) = .valid)

/-- How far a pass over the records of a tree has come. -/
structure Progress (store : Store) (tree : Tree) (u : Session) : Prop where
  opened : u.opened = some tree
  kept : Kept store u.tree
  fates : ∀ {record marker}, Recorded store tree record marker →
    Fate store tree u.tree u.listed record
  rest : ∀ path, u.tree path = tree path ∨
    ∃ record marker, Recorded store tree record marker ∧ Mends store tree record path

namespace Progress

variable (progress : Progress store tree s) (start : Kept store tree)

include progress start

theorem artifact (recorded : Recorded store tree record marker) :
    s.tree (relativePath record.name) = tree (relativePath record.name) := by
  have own := start.own recorded
  rcases progress.rest (relativePath record.name) with same | ⟨other, _, _, mends⟩
  · exact same
  · rcases mends with ⟨marker, _⟩ | ⟨sidecar, _⟩
    · exact absurd marker (own.artifact_outside _)
    · exact absurd sidecar (own.artifact_beside other)

/-- The directory of the records stays. -/
theorem root : s.tree ownershipRoot = tree ownershipRoot := by
  rcases progress.rest ownershipRoot with same | ⟨other, _, found, mends⟩
  · exact same
  · rcases mends with ⟨marker, _⟩ | ⟨sidecar, _⟩
    · simp [markerPath, ownershipRoot] at marker
    · exact absurd sidecar.symm ((start.own found).outside _)

/-- A record that is read now waits, or is what was left of one whose sidecar was cleared. -/
theorem origin (recorded : Recorded store s.tree record marker) :
    (Recorded store tree record marker ∧ s.tree (sidecarPath record) = tree (sidecarPath record) ∧
      (markerName record.id ∈ s.listed → ¬ToClear store tree (owned (markerPath record.id) record) ∧
        ¬ToRemove store tree (owned (markerPath record.id) record))) ∨
      ∃ before encoded, Recorded store tree before encoded ∧
        ToClear store tree (owned (markerPath before.id) before) ∧ record = withoutSidecar before := by
  have root : tree ownershipRoot = some .directory := (progress.root start).symm.trans recorded.root
  have known : s.tree (markerPath record.id) = tree (markerPath record.id) ∨
      ∃ before encoded, Recorded store tree before encoded ∧ before.id = record.id := by
    rcases progress.rest (markerPath record.id) with same | ⟨before, encoded, found, mends⟩
    · exact .inl same
    · rcases mends with ⟨marker, _⟩ | ⟨sidecar, _⟩
      · exact .inr ⟨before, encoded, found, (markerPath_inj marker).symm⟩
      · exact absurd sidecar.symm ((start.own found).outside _)
  have before : ∃ before encoded, Recorded store tree before encoded ∧ before.id = record.id := by
    rcases known with same | found
    · refine ⟨record, marker, ⟨root, ?_, recorded.short, recorded.parsed, recorded.formed⟩, rfl⟩
      rw [← same, recorded.marker]
    · exact found
  obtain ⟨before, encoded, found, same⟩ := before
  have held := recorded.marker
  rw [← same] at held
  cases progress.fates found with
  | waiting steady sidecar listed =>
    rw [steady] at held
    have again : Recorded store tree record marker :=
      ⟨root, same ▸ held, recorded.short, recorded.parsed, recorded.formed⟩
    obtain ⟨rfl, rfl⟩ := recorded_unique again found same
    exact .inl ⟨again, sidecar, listed⟩
  | cleared clear written =>
    rw [written] at held
    cases held
    have parsed := recorded.parsed
    rw [store.tools.parse_encode] at parsed
    cases parsed
    exact .inr ⟨before, encoded, found, clear, rfl⟩
  | removed remove gone =>
    rw [gone] at held
    cases held

/-- A record that needs a repair now needed it at the start, and waits for it. -/
theorem needs (recorded : Recorded store s.tree record marker)
    (needed : ToClear store s.tree (owned (markerPath record.id) record) ∨
      ToRemove store s.tree (owned (markerPath record.id) record)) :
    Recorded store tree record marker ∧ markerName record.id ∉ s.listed ∧
      s.tree (sidecarPath record) = tree (sidecarPath record) ∧
      (ToClear store s.tree (owned (markerPath record.id) record) ↔
        ToClear store tree (owned (markerPath record.id) record)) ∧
      (ToRemove store s.tree (owned (markerPath record.id) record) ↔
        ToRemove store tree (owned (markerPath record.id) record)) := by
  have own := progress.kept.own recorded
  rcases progress.origin start recorded with ⟨before, sidecar, listed⟩ | ⟨before, _, found, clear, rfl⟩
  · have artifact := progress.artifact start before
    have clears := (start.own before).clear_iff own artifact sidecar
    have removes := (start.own before).remove_iff own artifact sidecar
    refine ⟨before, ?_, sidecar, clears, removes⟩
    intro among
    obtain ⟨unclear, unremoved⟩ := listed among
    exact needed.elim (fun clear => unclear (clears.mp clear)) fun remove => unremoved (removes.mp remove)
  · have bare : sidecarStateAt store s.tree
        (owned (markerPath (withoutSidecar before).id) (withoutSidecar before)) = .none :=
      bare_sidecarState rfl
    rcases needed with ⟨_, missing⟩ | ⟨missing, _⟩
    · rw [bare] at missing
      cases missing
    · have intact := (start.own found).verified_iff.mp clear.1
      have absent := own.missing_iff.mp missing
      rw [show (withoutSidecar before).name = before.name from rfl,
        progress.artifact start found] at absent
      rw [absent] at intact
      exact intact.elim

/-! ## Entries -/

/-- An entry was given whose record needs no repair. -/
theorem skipped {name : String}
    (done : ∀ candidate, candidateAt store s.tree (ownershipRoot ++ [name]) = some candidate →
      ¬ToClear store s.tree candidate ∧ ¬ToRemove store s.tree candidate) :
    Progress store tree (afterEntry s name) where
  opened := progress.opened
  kept := progress.kept
  rest := progress.rest
  fates {record marker} recorded := by
    cases progress.fates recorded with
    | cleared clear written => exact .cleared clear written
    | removed remove gone => exact .removed remove gone
    | waiting steady sidecar listed =>
      apply Fate.waiting steady sidecar
      intro among
      rcases List.mem_cons.mp among with rfl | earlier
      · have now : Recorded store s.tree record marker :=
          ⟨(progress.root start).trans recorded.root, steady.trans recorded.marker, recorded.short,
            recorded.parsed, recorded.formed⟩
        have own := progress.kept.own now
        obtain ⟨unclear, unremoved⟩ := done _ own.candidate
        have artifact := progress.artifact start recorded
        exact ⟨fun clear => unclear (((start.own recorded).clear_iff own artifact sidecar).mpr clear),
          fun remove => unremoved (((start.own recorded).remove_iff own artifact sidecar).mpr remove)⟩
      · exact listed earlier

/-- A record was repaired, and nothing else changed. -/
theorem repaired (recorded : Recorded store tree record marker) (kept : Kept store after)
    (fate : ∀ listed, Fate store tree after listed record)
    (elsewhere : ∀ path, ¬Mends store tree record path → after path = s.tree path) :
    Progress store tree { afterEntry s (markerName record.id) with tree := after } where
  opened := progress.opened
  kept := kept
  rest path := by
    by_cases mends : Mends store tree record path
    · exact .inr ⟨record, marker, recorded, mends⟩
    · rcases progress.rest path with same | found
      · exact .inl ((elsewhere path mends).trans same)
      · exact .inr found
  fates {other encoded} found := by
    by_cases same : other.id = record.id
    · obtain ⟨rfl, rfl⟩ := recorded_unique recorded found same
      exact fate _
    · have marker : after (markerPath other.id) = s.tree (markerPath other.id) := by
        apply elsewhere
        rintro (⟨marker, _⟩ | ⟨sidecar, _⟩)
        · exact same (markerPath_inj marker)
        · exact (start.own recorded).outside _ sidecar.symm
      have sidecar : after (sidecarPath other) = s.tree (sidecarPath other) := by
        apply elsewhere
        rintro (⟨marker, _⟩ | ⟨sidecar, _⟩)
        · exact (start.own found).outside _ marker
        · exact same (sidecarPath_inj sidecar)
      cases progress.fates found with
      | cleared clear written => exact .cleared clear (marker.trans written)
      | removed remove gone => exact .removed remove (marker.trans gone)
      | waiting steady steadySidecar listed =>
        apply Fate.waiting (marker.trans steady) (sidecar.trans steadySidecar)
        intro among
        rcases List.mem_cons.mp among with named | earlier
        · exact absurd (markerName_inj named) same
        · exact listed earlier

end Progress

/-! ## The whole pass -/

end ImagegenBridge.ArtifactStore
