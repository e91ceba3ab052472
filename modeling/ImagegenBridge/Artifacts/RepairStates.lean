import ImagegenBridge.Artifacts.Consistency

/-!
# What repair can find

A record that names files of its own has an artifact and a sidecar in one directory that
is there, and shares neither with another record. What repair does with it depends on
these two files alone.
-/

namespace ImagegenBridge.ArtifactStore

open Text Inspect Materialize Files Program

variable {store : Store} {tree : Tree} {record other : OwnershipRecord} {marker : Bytes}

/-! ## The files of a record -/

/-- A record that is read from the tree and names files of its own. -/
structure OwnRecord (store : Store) (tree : Tree) (record : OwnershipRecord) (marker : Bytes) :
    Prop where
  recorded : Recorded store tree record marker
  owns : OwnsFiles record
  rooted : Rooted tree (relativePath record.name)

theorem Kept.own (kept : Kept store tree) (recorded : Recorded store tree record marker) :
    OwnRecord store tree record marker := by
  obtain ⟨owns, rooted⟩ := kept.recorded recorded
  exact ⟨recorded, owns, rooted⟩

theorem sidecarFilename_free (parses : parsesAsUuid record.id = true) :
    '/' ∉ (sidecarFilename record.id).toList := by
  have whole : (sidecarFilename record.id).toList =
      "metadata-".toList ++ (record.id.toList ++ ".json".toList) := by
    simp [sidecarFilename]
  rw [whole, List.mem_append, List.mem_append]
  rintro (opening | inside | ending)
  · revert opening
    decide
  · exact parsesAsUuid_free parses inside
  · revert ending
    decide

theorem sidecarFilename_inj {id other : String} (same : sidecarFilename id = sidecarFilename other) :
    id = other := by
  simpa [sidecarFilename] using same

/-- The last component of a name, and what is before it. -/
theorem relativePath_last (name : String) : ∃ before after, name.toList = before ++ after ∧
    '/' ∉ after ∧ relativePath name = directoryPath (parentName name) ++ [String.ofList after] := by
  unfold parentName relativePath
  cases split : rsplitOnce '/' name.toList with
  | none =>
    have free := rsplitOnce_none.mp split
    refine ⟨[], name.toList, rfl, free, ?_⟩
    rw [splitOn_free free]
    rfl
  | some parts =>
    obtain ⟨before, after⟩ := parts
    obtain ⟨whole, free⟩ := rsplitOnce_some split
    refine ⟨before ++ ['/'], after, by simp [whole], free, ?_⟩
    rw [whole, splitOn_append, splitOn_free free]
    simp [directoryPath, relativePath]

namespace OwnRecord

variable (own : OwnRecord store tree record marker)

include own

theorem safe : safeRelative record.name = true := (wellFormed_safe own.recorded.formed).1

theorem parses : parsesAsUuid record.id = true := wellFormed_parses own.recorded.formed

theorem paved : Paved tree (artifactDirectory record) := by
  obtain ⟨last, split⟩ := artifact_split record
  have rooted := own.rooted
  rw [split] at rooted
  exact rooted_concat.mp rooted

theorem sidecarRooted : Rooted tree (sidecarPath record) := rooted_concat.mpr own.paved

/-- A named sidecar is the one beside the artifact. -/
theorem sidecar {name : String} (named : record.sidecarName = some name) :
    relativePath name = sidecarPath record ∧ ∃ sha256, record.sidecarSha256 = some sha256 := by
  constructor
  · rw [own.owns.beside name named, relativePath_joined _ (sidecarFilename_free own.parses),
      sidecarPath, artifactDirectory_eq]
  · have formed := own.recorded.formed
    cases hashed : record.sidecarSha256 with
    | none => simp [wellFormed, named, hashed, sidecarValid] at formed
    | some sha256 => exact ⟨sha256, rfl⟩

theorem outside (rest : Path) : sidecarPath record ≠ ownershipDirectory :: rest := by
  intro same
  have among : ownershipDirectory ∈ sidecarPath record := by
    rw [same]
    exact List.mem_cons_self
  rcases List.mem_append.mp among with inside | last
  · exact plain_outside (directory_plain own.safe) inside
  · have different := congrArg String.toList (List.mem_singleton.mp last)
    simp [ownershipDirectory, sidecarFilename] at different

theorem artifact_outside (rest : Path) : relativePath record.name ≠ ownershipDirectory :: rest := by
  intro same
  have plain : PlainName ownershipDirectory.toList := undotted_component own.safe (by
    rw [same]
    exact List.mem_cons_self)
  exact plain.undotted (by decide)

/-- No artifact has the place of a sidecar. -/
theorem artifact_beside (other : OwnershipRecord) : relativePath record.name ≠ sidecarPath other := by
  intro same
  obtain ⟨before, after, whole, _, path⟩ := relativePath_last record.name
  rw [path] at same
  have last := List.singleton_inj.mp (List.append_inj' same rfl).2
  have ending : after = (("metadata-" ++ other.id).toList ++ ".json".toList) := by
    have characters := congrArg String.toList last
    rw [String.toList_ofList] at characters
    simpa [sidecarFilename] using characters
  apply own.owns.image (before ++ ("metadata-" ++ other.id).toList)
  have split : record.name.toList =
      (before ++ ("metadata-" ++ other.id).toList) ++ '.' :: "json".toList := by
    rw [whole, ending]
    simp
  rw [split]
  exact rsplitOnce_append _ (by decide)

end OwnRecord

theorem sidecarPath_inj (same : sidecarPath record = sidecarPath other) : record.id = other.id :=
  sidecarFilename_inj (List.singleton_inj.mp (List.append_inj' same rfl).2)

/-! ## The states -/

/-- The state of a path whose directory is there. -/
def nodeState : Option Node → OwnedPathState
  | none => .missing
  | some (.file bytes) => .regular bytes.length
  | some .directory | some .link | some .special => .invalid

theorem pathState_rooted {path : Path} (rooted : Rooted tree path) (some_path : path ≠ []) :
    pathState tree path = nodeState (tree path) := by
  have from_here (current path : Path) (some_path : path ≠ [])
      (rooted : ∀ above below, path = above ++ below → above ≠ [] → below ≠ [] →
        tree (current ++ above) = some .directory) :
      pathStateFrom tree current path = nodeState (tree (current ++ path)) := by
    induction path generalizing current with
    | nil => exact absurd rfl some_path
    | cons component rest ih =>
      unfold pathStateFrom
      by_cases last : rest = []
      · subst last
        cases tree (current ++ [component]) with
        | none => rfl
        | some node => cases node <;> rfl
      · rw [rooted [component] rest rfl (by simp) last]
        simp only [last, if_false]
        rw [ih (current ++ [component]) last, List.append_assoc]
        · rfl
        · intro above below split some_above some_below
          have found := rooted (component :: above) below (by rw [split, List.cons_append]) (by simp)
            some_below
          simpa using found
  apply from_here [] path some_path
  intro above below split some_above some_below
  have directory := rooted above below split some_below
  rw [isDirectory_iff] at directory
  exact directory.resolve_left some_above

/-- The artifact is what its record says. -/
def Intact (store : Store) (record : OwnershipRecord) : Option Node → Prop
  | some (.file bytes) => DescribedBy store record bytes
  | _ => False

/-- The state of a sidecar whose directory is there. -/
def sidecarNode (store : Store) (expected : String) : Option Node → SidecarState
  | none => .missing
  | some (.file bytes) =>
    if bytes.length > maxSidecarBytes then .invalid else sidecarContent store expected (some bytes)
  | some .directory | some .link | some .special => .invalid

theorem OwnRecord.verified_iff (own : OwnRecord store tree record marker) :
    artifactVerified store tree (owned (markerPath record.id) record) = some () ↔
      Intact store record (tree (relativePath record.name)) := by
  rw [artifactVerified_iff]
  constructor
  · rintro ⟨bytes, file, described⟩
    have present : tree (relativePath record.name) = some (.file bytes) := file.2
    rw [present]
    exact described
  · intro intact
    cases present : tree (relativePath record.name) with
    | none =>
      rw [present] at intact
      exact intact.elim
    | some node =>
      rw [present] at intact
      cases node with
      | file bytes =>
        exact ⟨bytes, (fileAt_iff (relativePath_ne_nil _)).mpr ⟨own.rooted, present⟩, intact⟩
      | directory | link | special => exact intact.elim

theorem OwnRecord.sidecarState_eq (own : OwnRecord store tree record marker) :
    sidecarStateAt store tree (owned (markerPath record.id) record) =
      match record.sidecarSha256 with
      | none => .none
      | some expected => sidecarNode store expected (tree (sidecarPath record)) := by
  unfold sidecarStateAt owned
  cases named : record.sidecarName with
  | none =>
    have formed := own.recorded.formed
    cases hashed : record.sidecarSha256 with
    | none => rfl
    | some sha256 => simp [wellFormed, named, hashed, sidecarValid] at formed
  | some name =>
    obtain ⟨path, sha256, hashed⟩ := own.sidecar named
    simp only [hashed, Option.map_some, path]
    rw [pathState_rooted own.sidecarRooted (by simp [sidecarPath])]
    unfold sidecarNode readOf
    cases tree (sidecarPath record) with
    | none => rfl
    | some node => cases node <;> rfl

end ImagegenBridge.ArtifactStore
