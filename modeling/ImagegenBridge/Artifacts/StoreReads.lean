import ImagegenBridge.Artifacts.Store

/-!
# What the store reads

The reading functions of the store change nothing. Without a fault each ends with a
value of the tree, and at a fault with the answer that keeps the store away from the
file.
-/

namespace ImagegenBridge.ArtifactStore

open Text Inspect Materialize Files

variable {α β : Type} {tree : Tree} {store : Store}

/-! ## The values -/

/-- The record a marker holds. -/
def candidateAt (store : Store) (tree : Tree) (marker : Path) : Option OwnedCandidate :=
  (if marker.dropLast = ownershipRoot then some () else none).bind fun _ =>
  (if tree ownershipRoot = some .directory then some () else none).bind fun _ =>
  (checkMarker (statOf tree marker)).bind fun _ =>
  marker.getLast?.bind fun name =>
  (readOf tree marker).bind fun encoded =>
  (store.tools.parseOwnership encoded).bind fun record =>
  (if wellFormed record name = true then some () else none).bind fun _ =>
  some (owned marker record)

def pathStateFrom (tree : Tree) (current : Path) : List String → OwnedPathState
  | [] => .invalid
  | component :: rest =>
    match tree (current ++ [component]) with
    | none => .missing
    | some .directory =>
      if rest = [] then .invalid else pathStateFrom tree (current ++ [component]) rest
    | some (.file bytes) => if rest = [] then .regular bytes.length else .invalid
    | some .link | some .special => .invalid

def pathState (tree : Tree) (path : Path) : OwnedPathState := pathStateFrom tree [] path

def artifactVerified (store : Store) (tree : Tree) (candidate : OwnedCandidate) : Option Unit :=
  (regularLength (pathState tree candidate.artifact)).bind fun length =>
  (if length ≤ store.limits.maxEncodedBytes then some () else none).bind fun _ =>
  (readOf tree candidate.artifact).bind fun bytes =>
  if store.tools.sha256 bytes = candidate.record.sha256 ∧
      (inspectImage store.tools.toDecoders store.limits bytes).isOk = true then some () else none

def sidecarStateAt (store : Store) (tree : Tree) (candidate : OwnedCandidate) : SidecarState :=
  match candidate.sidecar, candidate.record.sidecarSha256 with
  | some sidecar, some expected =>
    match pathState tree sidecar with
    | .missing => .missing
    | .invalid => .invalid
    | .regular length =>
      if length > maxSidecarBytes then .invalid
      else sidecarContent store expected (readOf tree sidecar)
  | _, _ => .none

def candidateVerified (store : Store) (tree : Tree) (candidate : OwnedCandidate) : Option Unit :=
  (artifactVerified store tree candidate).bind fun _ =>
    acceptable (sidecarStateAt store tree candidate)

/-! ## Rules -/

/-- A check that only looks. -/
def Looks (tree : Tree) (x : Check α) (value : Option α) : Prop := Reads tree x.run value none

theorem looks_known (value : Option α) : Looks tree (known value) value := reads_done value none

theorem looks_demand (p : Prop) [Decidable p] :
    Looks tree (demand p) (if p then some () else none) := looks_known _

theorem looks_given {p : Fs α} {decides : α → Option β} {value worst : α}
    (reads : Reads tree p value worst) (ends : decides worst = none) :
    Looks tree (given p decides) (decides value) :=
  reads.bind (reads_done _ _) (by rw [ends])

theorem Looks.bind {x : Check α} {f : α → Check β} {value : Option α} {next : α → Option β}
    (first : Looks tree x value) (later : ∀ a, value = some a → Looks tree (f a) (next a)) :
    Looks tree (x >>= f) (value.bind next) := by
  unfold Looks
  rw [Program.run_bind]
  apply Reads.bind first
  · cases value with
    | none => exact reads_done none none
    | some a => exact later a rfl
  · rfl

/-! ## The reading functions -/

theorem statOf_directory {path : Path} :
    checkOwnershipRoot (statOf tree path) = .ok () ↔ tree path = some .directory := by
  unfold statOf
  cases present : tree path with
  | none => simp [checkOwnershipRoot]
  | some node => cases node <;> simp [checkOwnershipRoot, Node.kind]

theorem reads_orRaise {p : Fs α} {decides : α → Except BridgeError β} {value worst : α}
    (reads : Reads tree p value worst) :
    Reads tree (orRaise p decides).run (decides value) (decides worst) :=
  reads.bind (reads_done _ _) rfl

theorem looks_root : Looks tree (hushed verifyOwnershipRoot)
    (if tree ownershipRoot = some .directory then some () else none) := by
  have reads : Reads tree (orRaise (stat ownershipRoot) checkOwnershipRoot).run
      (checkOwnershipRoot (statOf tree ownershipRoot)) (checkOwnershipRoot .failed) :=
    reads_orRaise (reads_stat ownershipRoot)
  have looks : Looks tree (hushed verifyOwnershipRoot) _ := looks_given reads rfl
  have same : (checkOwnershipRoot (statOf tree ownershipRoot)).toOption =
      if tree ownershipRoot = some .directory then some () else none := by
    split_ifs with directory
    · rw [statOf_directory.mpr directory]
      rfl
    · cases checked : checkOwnershipRoot (statOf tree ownershipRoot) with
      | ok => exact absurd (statOf_directory.mp checked) directory
      | error e => rfl
  rw [← same]
  exact looks

theorem looks_candidate (marker : Path) :
    Looks tree (readCandidate store marker) (candidateAt store tree marker) := by
  apply (looks_demand _).bind
  intro _ _
  apply looks_root.bind
  intro _ _
  apply (looks_given (reads_stat marker) rfl).bind
  intro _ _
  apply (looks_known _).bind
  intro name _
  apply (looks_given (reads_read marker) rfl).bind
  intro encoded _
  apply (looks_known _).bind
  intro record _
  apply (looks_demand _).bind
  intro _ _
  exact looks_known _

theorem reads_walk (current : Path) (path : List String) :
    Reads tree (walk current path) (pathStateFrom tree current path) .invalid := by
  induction path generalizing current with
  | nil => exact reads_done _ _
  | cons component rest ih =>
    unfold walk
    apply (reads_stat (current ++ [component])).bind
    · unfold statOf pathStateFrom
      cases tree (current ++ [component]) with
      | none => exact reads_done _ _
      | some node =>
        cases node with
        | file bytes => exact reads_done _ _
        | link => exact reads_done _ _
        | special => exact reads_done _ _
        | directory =>
          dsimp only [Node.kind]
          split_ifs
          · exact reads_done _ _
          · exact ih (current ++ [component])
    · rfl

theorem reads_pathState (path : Path) :
    Reads tree (ownedPathState path) (pathState tree path) .invalid := reads_walk [] path

theorem pathStateFrom_regular {current : Path} {path : List String} {length : Nat}
    (regular : pathStateFrom tree current path = .regular length) :
    ∃ bytes, tree (current ++ path) = some (.file bytes) ∧ bytes.length = length := by
  induction path generalizing current with
  | nil => cases regular
  | cons component rest ih =>
    unfold pathStateFrom at regular
    cases present : tree (current ++ [component]) with
    | none => simp [present] at regular
    | some node =>
      cases node with
      | link => simp [present] at regular
      | special => simp [present] at regular
      | file bytes =>
        by_cases last : rest = []
        · subst last
          simp only [present, if_true, OwnedPathState.regular.injEq] at regular
          exact ⟨bytes, present, regular⟩
        · simp [present, last] at regular
      | directory =>
        by_cases last : rest = []
        · simp [present, last] at regular
        · simp only [present, last, if_false] at regular
          have found := ih regular
          rwa [List.append_assoc] at found

theorem looks_artifact (candidate : OwnedCandidate) :
    Looks tree (verifyArtifact store candidate) (artifactVerified store tree candidate) := by
  apply (looks_given (reads_pathState _) rfl).bind
  intro _ _
  apply (looks_demand _).bind
  intro _ _
  apply (looks_given (reads_read _) rfl).bind
  intro _ _
  exact looks_demand _

theorem reads_sidecar (candidate : OwnedCandidate) :
    Reads tree (sidecarState store candidate) (sidecarStateAt store tree candidate) .invalid := by
  unfold sidecarState sidecarStateAt
  cases candidate.sidecar with
  | none => exact reads_done _ _
  | some sidecar =>
    cases candidate.record.sidecarSha256 with
    | none => exact reads_done _ _
    | some expected =>
      dsimp only
      apply (reads_pathState sidecar).bind
      · cases pathState tree sidecar with
        | missing => exact reads_done _ _
        | invalid => exact reads_done _ _
        | regular length =>
          dsimp only
          split_ifs
          · exact reads_done _ _
          · apply (reads_read sidecar).bind
            · exact reads_done _ _
            · rfl
      · rfl

theorem looks_verified (candidate : OwnedCandidate) :
    Looks tree (verifyCandidate store candidate) (candidateVerified store tree candidate) := by
  apply (looks_artifact candidate).bind
  intro _ _
  exact looks_given (reads_sidecar candidate) rfl

/-! ## What the values say -/

/-- The content of a file that is reached without a link. -/
def FileAt (tree : Tree) (path : Path) (bytes : Bytes) : Prop :=
  pathState tree path = .regular bytes.length ∧ tree path = some (.file bytes)

/-- The content of an artifact that a record describes. -/
structure DescribedBy (store : Store) (record : OwnershipRecord) (bytes : Bytes) : Prop where
  short : bytes.length ≤ store.limits.maxEncodedBytes
  checksum : store.tools.sha256 bytes = record.sha256
  image : (inspectImage store.tools.toDecoders store.limits bytes).isOk = true

theorem readOf_some {path : Path} {bytes : Bytes} :
    readOf tree path = some bytes ↔ tree path = some (.file bytes) := by
  unfold readOf
  split
  · rename_i found present
    simp [present]
  · rename_i other
    constructor
    · intro impossible
      cases impossible
    · intro present
      exact absurd present (other bytes)

theorem pathState_regular {path : Path} {length : Nat} :
    pathState tree path = .regular length ↔ ∃ bytes, FileAt tree path bytes ∧ bytes.length = length := by
  constructor
  · intro regular
    obtain ⟨bytes, present, same⟩ := pathStateFrom_regular regular
    subst same
    exact ⟨bytes, ⟨regular, present⟩, rfl⟩
  · rintro ⟨bytes, ⟨regular, _⟩, rfl⟩
    exact regular

theorem artifactVerified_iff {candidate : OwnedCandidate} :
    artifactVerified store tree candidate = some () ↔
      ∃ bytes, FileAt tree candidate.artifact bytes ∧ DescribedBy store candidate.record bytes := by
  simp only [artifactVerified, Option.bind_eq_some_iff]
  constructor
  · rintro ⟨length, regular, _, short, bytes, content, described⟩
    have state : pathState tree candidate.artifact = .regular length := by
      revert regular
      cases pathState tree candidate.artifact <;> simp [regularLength]
    obtain ⟨found, file, rfl⟩ := pathState_regular.mp state
    obtain rfl : found = bytes := by
      have present := readOf_some.mp content
      rw [file.2] at present
      cases present
      rfl
    split_ifs at short described with bounded same
    exact ⟨found, file, bounded, same.1, same.2⟩
  · rintro ⟨bytes, ⟨state, present⟩, short, checksum, image⟩
    refine ⟨bytes.length, by rw [state]; rfl, (), if_pos short, bytes, readOf_some.mpr present, ?_⟩
    exact if_pos ⟨checksum, image⟩

/-- A marker with a well-formed record of that name. -/
structure Recorded (store : Store) (tree : Tree) (record : OwnershipRecord) (encoded : Bytes) :
    Prop where
  root : tree ownershipRoot = some .directory
  marker : tree (markerPath record.id) = some (.file encoded)
  short : encoded.length ≤ maxMarkerBytes
  parsed : store.tools.parseOwnership encoded = some record
  formed : wellFormed record (markerName record.id) = true

theorem candidateAt_some {marker : Path} {candidate : OwnedCandidate} :
    candidateAt store tree marker = some candidate ↔
      ∃ record encoded, Recorded store tree record encoded ∧ marker = markerPath record.id ∧
        candidate = owned marker record := by
  simp only [candidateAt, Option.bind_eq_some_iff]
  constructor
  · rintro ⟨_, parent, _, root, _, checked, name, last, encoded, content, record, parsed, _, formed,
      same⟩
    split_ifs at parent root formed with below directory named
    obtain rfl : name = markerName record.id := by
      simp only [wellFormed, Bool.and_eq_true, beq_iff_eq] at named
      exact named.1.1.1.1.2
    have path : marker = markerPath record.id := by
      have whole := List.dropLast_append_getLast? _ last
      rw [below] at whole
      exact whole.symm
    subst path
    have present := readOf_some.mp content
    have short : encoded.length ≤ maxMarkerBytes := by
      by_contra long
      have seen : statOf tree (markerPath record.id) = .found (.file encoded.length) := by
        unfold statOf
        rw [present]
        rfl
      rw [seen, checkMarker, if_neg long] at checked
      cases checked
    cases same
    exact ⟨record, encoded, ⟨directory, present, short, parsed, named⟩, rfl, rfl⟩
  · rintro ⟨record, encoded, ⟨root, present, short, parsed, formed⟩, rfl, rfl⟩
    have seen : statOf tree (markerPath record.id) = .found (.file encoded.length) := by
      unfold statOf
      rw [present]
      rfl
    refine ⟨(), if_pos (by simp [markerPath]), (), if_pos root, (), ?_, markerName record.id,
      by simp [markerPath], encoded, readOf_some.mpr present, record, parsed, (), if_pos formed, rfl⟩
    rw [seen]
    exact if_pos short

/-- The way to a regular file is paved. -/
theorem pathStateFrom_rooted {current : Path} {path : List String} {length : Nat}
    (regular : pathStateFrom tree current path = .regular length) {above below : List String}
    (split : path = above ++ below) (some_above : above ≠ []) (some_below : below ≠ []) :
    tree (current ++ above) = some .directory := by
  induction path generalizing current above with
  | nil => cases regular
  | cons component rest ih =>
    cases above with
    | nil => exact absurd rfl some_above
    | cons first above =>
      rw [List.cons_append, List.cons.injEq] at split
      obtain ⟨rfl, split⟩ := split
      have more : rest ≠ [] := by
        rw [split]
        exact List.append_ne_nil_of_right_ne_nil _ some_below
      unfold pathStateFrom at regular
      cases present : tree (current ++ [component]) with
      | none => simp [present] at regular
      | some node =>
        cases node with
        | link => simp [present] at regular
        | special => simp [present] at regular
        | file bytes => simp [present, more] at regular
        | directory =>
          simp only [present, more, if_false] at regular
          by_cases last : above = []
          · subst last
            exact present
          · have found := ih regular split last
            rwa [List.append_assoc] at found

theorem pathStateFrom_file {current : Path} {path : List String} {bytes : Bytes}
    (rooted : ∀ above below, path = above ++ below → above ≠ [] → below ≠ [] →
      tree (current ++ above) = some .directory)
    (present : tree (current ++ path) = some (.file bytes)) (some_path : path ≠ []) :
    pathStateFrom tree current path = .regular bytes.length := by
  induction path generalizing current with
  | nil => exact absurd rfl some_path
  | cons component rest ih =>
    unfold pathStateFrom
    by_cases last : rest = []
    · subst last
      rw [present]
      exact if_pos rfl
    · rw [rooted [component] rest rfl (by simp) last]
      simp only [last, if_false]
      apply ih _ (by simpa using present) last
      intro above below split some_above some_below
      have found := rooted (component :: above) below (by rw [split, List.cons_append]) (by simp)
        some_below
      simpa using found

/-- A path that is rooted in directories and holds a file. -/
theorem fileAt_iff {path : Path} {bytes : Bytes} (some_path : path ≠ []) :
    FileAt tree path bytes ↔ Rooted tree path ∧ tree path = some (.file bytes) := by
  constructor
  · rintro ⟨regular, present⟩
    refine ⟨?_, present⟩
    intro above below split some_below
    rw [isDirectory_iff]
    by_cases top : above = []
    · exact .inl top
    · exact .inr (pathStateFrom_rooted regular split top some_below)
  · rintro ⟨rooted, present⟩
    refine ⟨?_, present⟩
    apply pathStateFrom_file _ present some_path
    intro above below split some_above some_below
    have directory := rooted above below split some_below
    rw [isDirectory_iff] at directory
    exact directory.resolve_left some_above

theorem relativePath_ne_nil (name : String) : relativePath name ≠ [] := by
  simp [relativePath, splitOn_ne_nil]

theorem markerName_inj {id other : String} (same : markerName id = markerName other) : id = other := by
  rwa [markerName, markerName, String.append_left_inj] at same

theorem markerPath_inj {id other : String} (same : markerPath id = markerPath other) : id = other :=
  markerName_inj (List.singleton_inj.mp (List.append_inj' same rfl).2)

/-- The record a marker is for is the only one it holds. -/
theorem recorded_unique {record other : OwnershipRecord} {marker marker' : Bytes}
    (recorded : Recorded store tree record marker) (again : Recorded store tree other marker')
    (same : other.id = record.id) : other = record ∧ marker' = marker := by
  have first := recorded.marker
  have later := again.marker
  rw [same, first] at later
  cases later
  have parsed := again.parsed
  rw [recorded.parsed] at parsed
  cases parsed
  exact ⟨rfl, rfl⟩

/-! ## Valid records -/

variable {record : OwnershipRecord}

/-- A record with the artifact and the sidecar it describes. -/
structure Valid (store : Store) (tree : Tree) (record : OwnershipRecord) (marker bytes : Bytes) :
    Prop where
  recorded : Recorded store tree record marker
  file : FileAt tree (relativePath record.name) bytes
  described : DescribedBy store record bytes
  sidecar : acceptable (sidecarStateAt store tree (owned (markerPath record.id) record)) = some ()

theorem candidateVerified_iff : candidateVerified store tree (owned (markerPath record.id) record) = some () ↔
    (∃ bytes, FileAt tree (relativePath record.name) bytes ∧ DescribedBy store record bytes) ∧
      acceptable (sidecarStateAt store tree (owned (markerPath record.id) record)) = some () := by
  simp only [candidateVerified, Option.bind_eq_some_iff]
  constructor
  · rintro ⟨_, artifact, sidecar⟩
    exact ⟨artifactVerified_iff.mp artifact, sidecar⟩
  · rintro ⟨artifact, sidecar⟩
    exact ⟨(), artifactVerified_iff.mpr artifact, sidecar⟩

theorem fileAt_unique {path : Path} {bytes other : Bytes} (file : FileAt tree path bytes)
    (again : FileAt tree path other) : other = bytes := by
  have present := again.2
  rw [file.2] at present
  cases present
  rfl

/-- The check of an entry finds the valid record it is the marker of. -/
theorem looks_record (name : String) :
    ∃ value, Looks tree (verifiedRecord store (ownershipRoot ++ [name])) value ∧
      ∀ candidate, value = some candidate ↔ ∃ record marker bytes, markerName record.id = name ∧
        candidate = owned (markerPath record.id) record ∧ Valid store tree record marker bytes := by
  refine ⟨_, (looks_candidate _).bind fun candidate _ => (looks_verified candidate).bind fun _ _ =>
    looks_known (some candidate), ?_⟩
  intro candidate
  simp only [Option.bind_eq_some_iff, candidateAt_some]
  constructor
  · rintro ⟨found, ⟨record, marker, recorded, place, rfl⟩, _, verified, same⟩
    cases same
    rw [place, candidateVerified_iff] at verified
    obtain ⟨⟨bytes, file, described⟩, sidecar⟩ := verified
    have named := List.singleton_inj.mp (List.append_inj' place rfl).2
    exact ⟨record, marker, bytes, named.symm, by rw [place], recorded, file, described, sidecar⟩
  · rintro ⟨record, marker, bytes, rfl, rfl, valid⟩
    refine ⟨_, ⟨record, marker, valid.recorded, rfl, rfl⟩, (), ?_, rfl⟩
    exact candidateVerified_iff.mpr ⟨⟨bytes, valid.file, valid.described⟩, valid.sidecar⟩

end ImagegenBridge.ArtifactStore
