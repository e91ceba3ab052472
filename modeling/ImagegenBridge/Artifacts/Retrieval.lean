import ImagegenBridge.Artifacts.Attachment
import ImagegenBridge.Lib.FileRuns

/-!
# Retrieving what was published

What is read back after a publication and after an attachment. The reader checks the
whole recorded name again, which the writer puts together from parts.
-/

namespace ImagegenBridge.ArtifactStore

open Text Validation Inspect Materialize Files Program
open EmbeddedRecord (utf8)

variable {store : Store} {terms : Terms} {tree : Tree} {s t : Session} {record : OwnershipRecord}
  {marker bytes encoded : Bytes}

/-- Reading gives the content of a valid record, and fails without a fault only if there
is none. -/
theorem tries_readArtifact (allowed : terms.AllowsReading) (id : String) :
    Tries (contract terms) (readArtifact store id) s
      (fun content t => t = s ∧ ∃ record marker, record.id = id ∧ content.id = id ∧
        content.name = record.name ∧ Valid store s.tree record marker content.bytes)
      (fun _ t => (∃ op, terms.mayFail s op) ∨
        (t = s ∧ ¬∃ record marker bytes, record.id = id ∧ Valid store s.tree record marker bytes)) := by
  unfold readArtifact
  rw [tries_bind]
  apply tries_refuse
  · intro identified
    rw [tries_bind]
    apply (reads_orRaise (looks_candidate (markerPath id))).keeps allowed
    · cases found : candidateAt store s.tree (markerPath id) with
      | none =>
        refine .inr ⟨rfl, ?_⟩
        rintro ⟨record, marker, bytes, rfl, valid⟩
        have present := candidateAt_some.mpr ⟨record, marker, valid.recorded, rfl, rfl⟩
        rw [found] at present
        cases present
      | some candidate =>
        obtain ⟨record, marker, recorded, place, rfl⟩ := candidateAt_some.mp found
        have named : record.id = id := (markerPath_inj place).symm
        subst named
        dsimp only [Option.elim]
        rw [tries_bind]
        apply (reads_orRaise (looks_verified _)).keeps allowed
        · cases verified : candidateVerified store s.tree (owned (markerPath record.id) record) with
          | none =>
            refine .inr ⟨rfl, ?_⟩
            rintro ⟨other, marker', bytes, same, valid⟩
            obtain ⟨rfl, rfl⟩ := recorded_unique recorded valid.recorded same
            have fine := candidateVerified_iff.mpr ⟨⟨bytes, valid.file, valid.described⟩, valid.sidecar⟩
            rw [verified] at fine
            cases fine
          | some checked =>
            obtain ⟨⟨bytes, file, described⟩, sidecar⟩ := candidateVerified_iff.mp verified
            dsimp only [Option.elim]
            rw [tries_bind]
            apply (reads_orRaise (reads_read _)).keeps allowed
            · have content : readOf s.tree (owned (markerPath record.id) record).artifact = some bytes :=
                readOf_some.mpr file.2
              rw [content]
              dsimp only [Option.elim]
              cases inspected : inspectImage store.tools.toDecoders store.limits bytes with
              | error error =>
                have image := described.image
                rw [inspected] at image
                cases image
              | ok metadata =>
                exact ⟨rfl, record, marker, rfl, rfl, rfl, recorded, file, described, sidecar⟩
            · intro op _ may
              exact .inl ⟨op, may⟩
        · intro op _ may
          exact .inl ⟨op, may⟩
    · intro op _ may
      exact .inl ⟨op, may⟩
  · intro e refused
    refine .inr ⟨rfl, ?_⟩
    rintro ⟨record, marker, bytes, rfl, valid⟩
    rw [wellFormed_parses valid.recorded.formed] at refused
    cases refused

/-- Reading an artifact gives these bytes, and a scan for retention finds its record
valid. -/
structure Retrievable (store : Store) (tree : Tree) (id : String) (bytes : Bytes) : Prop where
  read : Tries (contract faultless) (readArtifact store id) (.at tree)
    (fun content _ => content.id = id ∧ content.bytes = bytes) fun _ _ => False
  scanned : (verifiedRecord store (markerPath id)).run.Keeps (contract faultless) (.at tree)
    fun found _ => ∃ candidate, found = some candidate ∧ candidate.record.id = id

theorem retrievable_iff {id : String} : Retrievable store tree id bytes ↔
    ∃ record marker, record.id = id ∧ Valid store tree record marker bytes := by
  have allowed : faultless.AllowsReading := fun _ _ _ => trivial
  constructor
  · intro retrievable
    have reads : Tries (contract looking) (readArtifact store id) (.at tree) _ _ :=
      tries_readArtifact (fun _ _ reading => reading) id
    obtain ⟨result, t, found, wanted⟩ := looked reads retrievable.read
    cases result with
    | error e => exact wanted.elim
    | ok content =>
      obtain ⟨_, record, marker, named, _, _, valid⟩ := found
      rw [wanted.2] at valid
      exact ⟨record, marker, named, valid⟩
  · rintro ⟨record, marker, rfl, valid⟩
    constructor
    · apply (tries_readArtifact allowed record.id).mono
      · rintro content t ⟨_, other, marker', same, named, _, again⟩
        obtain ⟨rfl, rfl⟩ := recorded_unique valid.recorded again.recorded same
        exact ⟨named, fileAt_unique valid.file again.file⟩
      · rintro e t (⟨op, impossible⟩ | ⟨_, missing⟩)
        · exact impossible
        · exact missing ⟨record, marker, bytes, rfl, valid⟩
    · obtain ⟨value, looks, known⟩ := looks_record (markerName record.id)
      have found := (known _).mpr ⟨record, marker, bytes, rfl, rfl, valid⟩
      apply Reads.keeps (s := .at tree) looks allowed
      · exact ⟨_, found, rfl⟩
      · intro op _ impossible
        exact impossible.elim

/-! ## Names that fit -/

/-- A file name of at most 160 characters, and a whole name of at most 512. -/
def Fits (directory : Option String) (filename : String) : Prop :=
  filename.toList.length ≤ 160 ∧ len (placedName directory filename) ≤ 512

/-- The record of a publication is well formed exactly when its name is safe. -/
theorem wellFormed_published {id : Uuid} {name sha256 : String} {createdAt : UInt64}
    (digest : isDigest sha256 = true) :
    wellFormed (newRecord id name createdAt sha256) (markerName id.text) = true ↔
      safeRelative name = true := by
  have parses : parsesAsUuid id.text = true := by
    simp [parsesAsUuid, id.hyphenated]
  simp [wellFormed, newRecord, sidecarValid, parses, digest]

theorem published_valid {p : Placement} {attempt : Nat} {createdAt : UInt64}
    (inspected : inspectImage store.tools.toDecoders store.limits bytes = .ok p.metadata)
    (chosen : attempt < p.attempts) (published : p.Published bytes attempt createdAt tree) :
    (∃ record marker, record.id = p.id.text ∧ Valid store tree record marker bytes) ↔
      Fits p.publication.directory (p.name attempt) := by
  have checksum := (inspectImage_ok inspected).2.2
  have digest : isDigest p.metadata.sha256 = true := by
    rw [checksum]
    exact store.tools.sha256_digest bytes
  have plain : PlainName (p.name attempt).toList :=
    plain_candidate (plain_requested published.named _ _) attempt
  have formed : wellFormed (p.record attempt createdAt) (markerName p.id.text) = true ↔
      Fits p.publication.directory (p.name attempt) :=
    (wellFormed_published digest).trans (placedName_safe published.safe plain)
  constructor
  · rintro ⟨record, marker, named, valid⟩
    have held := valid.recorded.marker
    rw [named, published.marker] at held
    cases held
    have parsed := valid.recorded.parsed
    rw [store.tools.parse_encode] at parsed
    cases parsed
    exact formed.mp valid.recorded.formed
  · intro fits
    have small := p.record_small createdAt published.safe published.named chosen digest
    have path : relativePath (p.record attempt createdAt).name = p.destination attempt :=
      relativePath_placed p.publication.directory plain
    refine ⟨p.record attempt createdAt, _, rfl, ⟨published.root, published.marker,
      encodeOwnership_short small, store.tools.parse_encode _, formed.mpr fits⟩, ?_, ?_, rfl⟩
    · rw [path]
      apply (fileAt_iff (by simp [Placement.destination])).mpr
      exact ⟨rooted_concat.mpr published.paved, published.artifact⟩
    · refine ⟨(inspectImage_ok inspected).2.1, checksum.symm, ?_⟩
      rw [inspected]
      rfl

theorem plain_sidecar (id : Uuid) : PlainName (sidecarFilename id.text).toList ∧
    (sidecarFilename id.text).toList.length ≤ 160 := by
  have whole : (sidecarFilename id.text).toList =
      "metadata-".toList ++ (id.text.toList ++ ".json".toList) := by
    simp [sidecarFilename]
  have long := id.inner.1
  rw [whole]
  refine ⟨⟨by simp, by simp, ?_⟩, by simp [long]⟩
  intro c among
  rcases List.mem_append.mp among with opening | later
  · have each : ∀ c ∈ "metadata-".toList, isPortable c = true :=
        List.all_eq_true.mp (by decide)
    exact each c opening
  · rcases List.mem_append.mp later with inside | ending
    · exact (id.inner.2 c inside).1
    · have each : ∀ c ∈ ".json".toList, isPortable c = true :=
        List.all_eq_true.mp (by decide)
      exact each c ending

/-- The record of an attachment is well formed exactly when the name of the sidecar is
short. -/
theorem wellFormed_attached {id : Uuid} (named : record.id = id.text)
    (formed : wellFormed record (markerName record.id) = true) :
    wellFormed (attachedRecord store record encoded) (markerName record.id) = true ↔
      len (sidecarName record) ≤ 512 := by
  have safe : safeRelative (sidecarName record) = true ↔ len (sidecarName record) ≤ 512 := by
    unfold sidecarName
    rw [named, placedName_safe (parentName_safe (wellFormed_safe formed).1) (plain_sidecar id).1]
    exact and_iff_right (plain_sidecar id).2
  rw [← safe]
  have digest := store.tools.sha256_digest encoded
  simp only [wellFormed, Bool.and_eq_true] at formed ⊢
  simp [attachedRecord, withSidecar, sidecarValid, digest, formed.1]

/-- What was there stays in the tree of an attachment, but for the marker. -/
theorem attached_other {path : Path} (marker : path ≠ markerPath record.id)
    (sidecar : path ≠ sidecarPath record) : attached store s record encoded path = s.tree path :=
  (Function.update_of_ne marker _ _).trans (withFile_other s encoded sidecar)

theorem attached_rooted (bare : Bare store s.tree record marker bytes)
    (free : s.tree (sidecarPath record) = none) {path : Path} (rooted : Rooted s.tree path) :
    Rooted (attached store s record encoded) path := by
  have placed : Rooted (withFile s (sidecarPath record) encoded).tree path := by
    apply rooted.update
    rw [free]
    nofun
  exact placed.update bare.replaceable.marker

theorem attached_sidecar (bare : Bare store s.tree record marker bytes) {id : Uuid}
    (named : record.id = id.text) (content : SidecarContent store encoded)
    (free : s.tree (sidecarPath record) = none) :
    sidecarStateAt store (attached store s record encoded)
      (owned (markerPath record.id) (attachedRecord store record encoded)) = .valid := by
  have path : relativePath (sidecarName record) = sidecarPath record := by
    unfold sidecarName sidecarPath
    rw [named, relativePath_placed _ (plain_sidecar id).1, artifactDirectory_eq]
  have held : attached store s record encoded (sidecarPath record) = some (.file encoded) :=
    (Function.update_of_ne (bare.apart _) _ _).trans (withFile_held s _ encoded)
  have file : FileAt (attached store s record encoded) (sidecarPath record) encoded := by
    apply (fileAt_iff (by simp [sidecarPath])).mpr
    refine ⟨?_, held⟩
    exact attached_rooted bare free (rooted_concat.mpr bare.paved)
  have short : ¬encoded.length > maxSidecarBytes := Nat.not_lt.mpr content.short
  unfold sidecarStateAt
  simp only [owned, attachedRecord, withSidecar, Option.map_some, path, file.1, if_neg short,
    readOf_some.mpr file.2]
  simp [sidecarContent, content.object]

theorem attached_valid (bare : Bare store s.tree record marker bytes) {id : Uuid}
    (named : record.id = id.text) (content : SidecarContent store encoded)
    (free : s.tree (sidecarPath record) = none) :
    (∃ record' marker', record'.id = id.text ∧
      Valid store (attached store s record encoded) record' marker' bytes) ↔
      len (sidecarName record) ≤ 512 := by
  have formed : wellFormed (attachedRecord store record encoded) (markerName record.id) = true ↔
      len (sidecarName record) ≤ 512 := wellFormed_attached named bare.recorded.formed
  constructor
  · rintro ⟨record', marker', same, valid⟩
    have held := valid.recorded.marker
    rw [same, ← named, attached, marked] at held
    have written : Function.update (withFile s (sidecarPath record) encoded).tree
        (markerPath record.id) (some (.file (encodeOwnership (attachedRecord store record encoded))))
        (markerPath record.id) = some (.file marker') := held
    rw [Function.update_self] at written
    cases written
    have parsed := valid.recorded.parsed
    rw [store.tools.parse_encode] at parsed
    cases parsed
    exact formed.mp valid.recorded.formed
  · intro fits
    obtain ⟨rooted, present⟩ := (fileAt_iff (relativePath_ne_nil record.name)).mp bare.file
    have beside : relativePath record.name ≠ sidecarPath record := by
      intro same
      rw [same, free] at present
      cases present
    have outside : relativePath record.name ≠ markerPath record.id := by
      intro same
      have plain : PlainName ownershipDirectory.toList := undotted_component bare.safe (by
        rw [same]
        exact List.mem_cons_self)
      exact plain.undotted (by decide)
    have top : ownershipRoot ≠ markerPath record.id := by
      simp [markerPath, ownershipRoot]
    refine ⟨attachedRecord store record encoded, _, named, ⟨?_, Function.update_self _ _ _,
      encodeOwnership_short (attachedRecord_small bare.recorded.formed), store.tools.parse_encode _,
      formed.mpr fits⟩, ?_, ?_, ?_⟩
    · rw [attached_other top (bare.apart []).symm]
      exact bare.recorded.root
    · apply (fileAt_iff (relativePath_ne_nil _)).mpr
      refine ⟨attached_rooted bare free rooted, ?_⟩
      exact (attached_other outside beside).trans present
    · exact ⟨bare.described.short, bare.described.checksum, bare.described.image⟩
    · have state := attached_sidecar bare named content free
      show acceptable (sidecarStateAt store (attached store s record encoded)
        (owned (markerPath record.id) (attachedRecord store record encoded))) = some ()
      rw [state]
      rfl

/-! ## Retrieval -/

theorem unreliable_orderly : AllowsOrderly (fun _ => True) unreliable := fun _ _ _ => trivial

/-- A published artifact is retrievable exactly when the name it was given fits, and it
stays so after an attachment exactly when the name of the sidecar fits. -/
theorem retrievable_exactly_when_names_fit (store : Store) (id : Uuid) (tree : Tree) :
    (∀ (now : Option UInt64) (bytes : Bytes) (filenamePrefix : Option String)
      (expected : Option OutputFormat) (publication : ArtifactPublication),
      Tries (contract unreliable)
        (publishWithOptions store id now bytes filenamePrefix expected publication) (.at tree)
        (fun stored t => stored.id = id.text ∧
          ∃ metadata, inspectImage store.tools.toDecoders store.limits bytes = .ok metadata ∧
          ∃ p : Placement, p = ⟨publication, filenamePrefix, id, metadata⟩ ∧
          ∃ attempt, p.Chosen tree attempt ∧
            (Retrievable store t.tree stored.id bytes ↔ Fits publication.directory (p.name attempt)))
        fun _ _ => True) ∧
    ∀ (artifactName : String) (encoded bytes : Bytes), Retrievable store tree id.text bytes →
      Tries (contract unreliable) (attachMetadata store id.text artifactName encoded) (.at tree)
        (fun _ t => Retrievable store t.tree id.text bytes ↔
          len (placedName (parentName artifactName) (sidecarFilename id.text)) ≤ 512)
        fun _ _ => True := by
  constructor
  · intro now bytes filenamePrefix expected publication
    apply (tries_publishWithOptions unreliable_orderly (fun _ _ => trivial) store id now bytes
      filenamePrefix expected publication (.at tree)).mono
    · rintro stored t ⟨metadata, inspected, p, rfl, attempt, createdAt, chosen, published, named, _⟩
      refine ⟨named, metadata, inspected, _, rfl, attempt, chosen, ?_⟩
      rw [named, retrievable_iff]
      exact published_valid inspected chosen.2.1 published
    · intro _ _ _
      trivial
  · intro artifactName encoded bytes retrievable
    apply (tries_attachMetadata unreliable_orderly (fun _ _ _ _ => trivial) (fun _ _ _ => trivial)
      id.text artifactName encoded).mono
    · rintro name t ⟨record, marker, found, bare, named, rfl, content, _, free, _, attached⟩
      obtain ⟨other, marker', same, valid⟩ := retrievable_iff.mp retrievable
      obtain ⟨rfl, rfl⟩ := recorded_unique bare.recorded valid.recorded (same.trans named.symm)
      obtain rfl := fileAt_unique bare.file valid.file
      rw [retrievable_iff, attached, ← named]
      have exact := attached_valid bare named content free
      rw [← named] at exact
      exact exact
    · intro _ _ _
      trivial

/-! ### A name that does not fit -/

/-- A publication that nothing hinders succeeds, and its artifact cannot be read when the
name does not fit. -/
theorem unreadable_when_long {id : Uuid} {now : Option UInt64} {filenamePrefix : Option String}
    {expected : Option OutputFormat} {publication : ArtifactPublication} {metadata : ImageMetadata}
    (sparse : Sparse tree)
    (publishing : Publishing store tree id now bytes filenamePrefix expected publication metadata)
    (long : ∀ attempt, Placement.Chosen ⟨publication, filenamePrefix, id, metadata⟩ tree attempt →
      ¬Fits publication.directory (Placement.name ⟨publication, filenamePrefix, id, metadata⟩ attempt)) :
    ¬Tries (contract faultless)
      (publishWithOptions store id now bytes filenamePrefix expected publication) (.at tree)
      (fun stored t => Retrievable store t.tree stored.id bytes) fun _ _ => True := by
  intro always
  have orderly : AllowsOrderly (fun _ => True) faultless := fun _ _ _ => trivial
  have spec := tries_publishWithOptions orderly (fun _ _ => trivial) store id now bytes filenamePrefix
    expected publication (.at tree)
  obtain ⟨result, t, ended, kept, calm, _⟩ := exists_run sparse spec always
  cases result with
  | error e =>
    obtain ⟨new, faults, unable, _⟩ := ended
    rw [faults, List.append_right_eq_self] at calm
    exact unable calm ⟨metadata, publishing⟩
  | ok stored =>
    obtain ⟨found, inspected, p, rfl, attempt, createdAt, chosen, published, named, _⟩ := ended
    have same := publishing.inspected
    rw [inspected] at same
    cases same
    have retrievable : Retrievable store t.tree stored.id bytes := kept
    rw [named, retrievable_iff] at retrievable
    exact long attempt chosen ((published_valid inspected chosen.2.1 published).mp retrievable)

def onePixel : Bytes :=
  [137, 80, 78, 71, 13, 10, 26, 10, 0, 0, 0, 13, 73, 72, 68, 82, 0, 0, 0, 1, 0, 0, 0, 1, 8, 0, 0, 0, 0, 58, 126, 155, 85, 0, 0, 0, 10, 73, 68, 65, 84, 120, 218, 99, 96, 0, 0, 0, 2, 0, 1, 229, 39, 222, 252, 0, 0, 0, 0, 73, 69, 78, 68, 174, 66, 96, 130]

/-- Tools that know the image of one pixel and the empty object. -/
noncomputable def smallTools : Tools where
  imageType bytes := if bytes = onePixel then some (.known .png) else none
  blobSize bytes := if bytes = onePixel then some (1, 1) else none
  decode bytes _ _ := if bytes = onePixel then some (1, 1) else none
  sha256 bytes :=
    if bytes = onePixel then "a4d4c009619311d9b83904acfd62fe3b7f918c312522bbcc6ad51cdec4fd1edf"
    else "44136fa355b3678a1146ad16f7e8649e94fb4fc21fe77e8310c060f61caaff8a"
  isObject bytes := bytes = utf8 "\x7b\x7d"
  parseOwnership := Function.partialInv encodeOwnership
  sha256_digest bytes := by
    split_ifs <;> rfl
  parse_encode := Function.partialInv_left encodeOwnership_injective

noncomputable def smallStore : Store := ⟨smallTools, .default⟩

/-- A root with no artifact. -/
def emptyRoot : Tree := Function.update (fun _ => none) ownershipRoot (some .directory)

def firstId : Uuid := ⟨"01890a5d-ac96-774b-bcce-b302099a8057", by rfl⟩

theorem onePixel_inspected :
    inspectImage smallStore.tools.toDecoders smallStore.limits onePixel =
      .ok { format := .png, width := 1, height := 1, bytes := onePixel.length,
            sha256 := smallTools.sha256 onePixel } := by
  simp [inspectImage, smallStore, smallTools, orError, enabledFormat, edge, Outcome.failIf,
    ImageLimits.default, onePixel]
  rfl

theorem emptyRoot_sparse : Sparse emptyRoot := by
  apply Sparse.update
  simp [Sparse]

theorem emptyRoot_free {path : Path} (other : path ≠ ownershipRoot) : emptyRoot path = none :=
  Function.update_of_ne other _ _

/-- Publishing the image in the root under a name that is free. -/
theorem onePixel_publishing (filename : Option String)
    (named : SafeName ⟨none, filename, .error⟩ .png)
    (other : requestedName ⟨none, filename, .error⟩ none firstId .png ≠ ownershipDirectory) :
    Publishing smallStore emptyRoot firstId (some 1) onePixel none none ⟨none, filename, .error⟩
      { format := .png, width := 1, height := 1, bytes := onePixel.length,
        sha256 := smallTools.sha256 onePixel } where
  inspected := onePixel_inspected
  expects := nofun
  able :=
    { safe := nofun
      enterable := fun _ top some => absurd (List.prefix_nil.mp top) some
      named := named
      free := by
        refine ⟨0, le_rfl, ?_, emptyRoot_free fun same => other (List.singleton_inj.mp same),
          fun _ _ => by omega⟩
        cases filename <;> exact Nat.one_pos
      clock := nofun
      root := Function.update_self _ _ _
      marker := emptyRoot_free (by simp [markerPath, ownershipRoot]) }

/-- A file name that is safe, and too long with its extension. -/
@[irreducible] def longName : String := String.ofList (List.replicate 158 'a')

theorem longName_toList : longName.toList = List.replicate 158 'a' := by
  unfold longName
  rw [String.toList_ofList]

theorem longName_extension : extension? longName.toList = none := by
  rw [extension?_none, longName_toList, List.mem_replicate]
  decide

theorem longName_safe : safeFilename longName .png = true := by
  have narrow : ∀ c ∈ longName.toList, Narrow c := by
    intro c among
    rw [longName_toList] at among
    rw [List.eq_of_mem_replicate among]
    exact narrow_portable (by decide)
  have size : len longName = 158 := by
    rw [len_narrow narrow, longName_toList, List.length_replicate]
  have occupied : longName.isEmpty = false := by
    rw [← Bool.not_eq_true, String.isEmpty_iff]
    intro empty
    rw [empty] at size
    cases size
  unfold safeFilename validOutputFilename
  rw [longName_extension, size, occupied, longName_toList]
  decide

theorem longName_extended : (filenameWithExtension longName .png).toList.length = 162 := by
  unfold filenameWithExtension
  rw [longName_extension, if_neg (by simp), String.toList_append, String.toList_append,
    List.length_append, List.length_append, longName_toList, List.length_replicate]
  rfl

theorem longName_requested :
    requestedName ⟨none, some longName, .error⟩ none firstId .png = filenameWithExtension longName .png :=
  rfl

/-- Publishing under this name succeeds, and the artifact cannot be read. -/
theorem long_name_unreadable :
    ¬Tries (contract faultless)
      (publishWithOptions smallStore firstId (some 1) onePixel none none
        ⟨none, some longName, .error⟩) (.at emptyRoot)
      (fun stored t => Retrievable smallStore t.tree stored.id onePixel) fun _ _ => True := by
  have named : SafeName ⟨none, some longName, .error⟩ .png := by
    intro filename given
    rw [← Option.some.inj given]
    exact longName_safe
  have other : requestedName ⟨none, some longName, .error⟩ none firstId .png ≠ ownershipDirectory := by
    intro same
    have long := longName_extended
    rw [← longName_requested, same] at long
    revert long
    decide
  apply unreadable_when_long emptyRoot_sparse (onePixel_publishing _ named other)
  rintro attempt ⟨_, few, _⟩ ⟨short, _⟩
  obtain rfl : attempt = 0 := Nat.lt_one_iff.mp few
  unfold Placement.name candidateName Placement.requested at short
  rw [if_pos rfl, longName_requested, longName_extended] at short
  omega

end ImagegenBridge.ArtifactStore
