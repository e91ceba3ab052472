import ImagegenBridge.Artifacts.Publication

/-!
# Attaching metadata

A sidecar is placed beside its artifact, and then the record is replaced by one that
names it.
-/

namespace ImagegenBridge.ArtifactStore

open Text Inspect Materialize Files Program

variable {store : Store} {terms : Terms} {s t : Session} {good : OwnershipRecord → Prop}
  {record : OwnershipRecord} {marker bytes encoded : Bytes}

/-- The directory of a recorded artifact. -/
def artifactDirectory (record : OwnershipRecord) : Path := (relativePath record.name).dropLast

def sidecarPath (record : OwnershipRecord) : Path :=
  artifactDirectory record ++ [sidecarFilename record.id]

def sidecarName (record : OwnershipRecord) : String :=
  placedName (parentName record.name) (sidecarFilename record.id)

def attachedRecord (store : Store) (record : OwnershipRecord) (encoded : Bytes) : OwnershipRecord :=
  withSidecar record (sidecarName record) (store.tools.sha256 encoded)

/-- A record of an artifact that is there and that has no sidecar. -/
structure Bare (store : Store) (tree : Tree) (record : OwnershipRecord) (marker bytes : Bytes) :
    Prop where
  recorded : Recorded store tree record marker
  unnamed : record.sidecarName = none
  unhashed : record.sidecarSha256 = none
  file : FileAt tree (relativePath record.name) bytes
  described : DescribedBy store record bytes

/-! ## The names around a record -/

theorem wellFormed_safe {name : String} (formed : wellFormed record name = true) :
    safeRelative record.name = true ∧ isDigest record.sha256 = true := by
  simp only [wellFormed, Bool.and_eq_true] at formed
  exact ⟨formed.1.1.2, formed.1.2⟩

/-- The last component of a recorded name. -/
theorem artifact_split (record : OwnershipRecord) :
    ∃ last, relativePath record.name = artifactDirectory record ++ [last] := by
  have some := relativePath_ne_nil record.name
  exact ⟨_, (List.dropLast_append_getLast some).symm⟩

theorem directory_plain (safe : safeRelative record.name = true) :
    ∀ name ∈ artifactDirectory record, PlainName name.toList :=
  fun _ among => undotted_component safe (List.dropLast_subset _ among)

/-- The directory of a file is named by the directory part of its name. -/
theorem artifactDirectory_eq (record : OwnershipRecord) :
    artifactDirectory record = directoryPath (parentName record.name) := by
  unfold artifactDirectory parentName relativePath
  cases split : rsplitOnce '/' record.name.toList with
  | none =>
    rw [splitOn_free (rsplitOnce_none.mp split)]
    rfl
  | some parts =>
    obtain ⟨before, after⟩ := parts
    obtain ⟨whole, free⟩ := rsplitOnce_some split
    rw [whole, splitOn_append, splitOn_free free, List.map_append, List.map_singleton,
      List.dropLast_concat]
    simp [directoryPath, relativePath]

theorem sidecarFilename_narrow (parses : parsesAsUuid record.id = true) :
    NarrowText 100 (sidecarFilename record.id) := by
  have opening : ∀ c ∈ "metadata-".toList, Text.isPortable c = true :=
    List.all_eq_true.mp (by decide)
  have ending : ∀ c ∈ ".json".toList, Text.isPortable c = true :=
    List.all_eq_true.mp (by decide)
  have whole := ((portable_narrow opening).append (parsesAsUuid_narrow parses)).append
    (portable_narrow ending)
  exact whole.weaken (by decide)

/-- The directory part of a safe name is safe. -/
theorem parentName_safe {name : String} (safe : safeRelative name = true) :
    SafeDirectory (parentName name) := by
  intro directory parent
  obtain ⟨⟨before, after⟩, split, rfl⟩ := Option.map_eq_some_iff.mp parent
  obtain ⟨whole, _⟩ := rsplitOnce_some split
  have narrow := safeRelative_narrow safe
  obtain ⟨short, components⟩ := safeRelative_iff.mp safe
  rw [whole, splitOn_append] at components
  rw [safeRelative_iff, String.toList_ofList]
  have inside : ∀ c ∈ (String.ofList before).toList, Narrow c := by
    rw [String.toList_ofList]
    intro c among
    exact narrow.2 c (by rw [whole]; exact List.mem_append_left _ among)
  refine ⟨?_, fun component part => components component (List.mem_append_left _ part)⟩
  have fits := narrow.1
  rw [whole, List.length_append] at fits
  rw [len_narrow inside, String.toList_ofList]
  omega

theorem attachedRecord_small (formed : wellFormed record (markerName record.id) = true) :
    Small (attachedRecord store record encoded) := by
  have parses := wellFormed_parses formed
  obtain ⟨safe, digest⟩ := wellFormed_safe formed
  refine ⟨(parsesAsUuid_narrow parses).weaken (by decide),
    (safeRelative_narrow safe).weaken (by decide), digest_narrow digest, ?_, ?_⟩
  · rintro name ⟨⟩
    exact (placed_narrow (parentName_safe safe) (sidecarFilename_narrow parses)).weaken (by decide)
  · rintro sha256 ⟨⟩
    exact digest_narrow (store.tools.sha256_digest encoded)

/-! ## Failures -/

/-- The operations that wait for a directory to be on the disk. -/
def Syncs (op : Op) : Prop := ∃ directory, op = .act (.sync directory)

instance (op : Op) : Decidable (Syncs op) :=
  match op with
  | .act (.sync directory) => .isTrue ⟨directory, rfl⟩
  | .act (.createDirectory _) | .act (.persist _ _) | .act (.discard _) | .act (.remove _)
  | .act (.openDirectory _) | .stat _ | .read _ | .canonicalize _ | .createTemporary _
  | .write _ _ | .persistNoclobber _ _ | .nextEntry _ => .isFalse nofun

/-- What a failed attachment leaves, by its fault if it has one only. -/
def AttachFailed (able : Prop) (s t : Session) : Prop :=
  ∃ new, t.faults = s.faults ++ new ∧ (new = [] → ¬able) ∧ ∀ op, new = [op] → ¬Compensates op →
    if Syncs op then t.tree ≠ s.tree else t.tree = s.tree

theorem attachFailed_aborted {able : Prop} (aborted : Aborted able s t) : AttachFailed able s t := by
  obtain ⟨new, left, unsynced, unable⟩ := aborted
  refine ⟨new, left.faults, unable, ?_⟩
  rintro op rfl uncompensating
  have other : ¬Syncs op := by
    rintro ⟨directory, rfl⟩
    exact unsynced directory List.mem_cons_self
  rw [if_neg other]
  funext path
  rcases left.tree path with same | ⟨_, discarded⟩
  · exact same
  · exact absurd ⟨path, .inl (List.mem_singleton.mp discarded).symm⟩ uncompensating

/-- After two faults nothing is promised. -/
theorem attachFailed_many {able : Prop} (new : List Op) (faults : t.faults = s.faults ++ new)
    (many : 2 ≤ new.length) : AttachFailed able s t := by
  refine ⟨new, faults, ?_, ?_⟩
  · rintro rfl
    cases many
  · rintro op rfl
    exact absurd many (by simp)

theorem attachFailed_synced {able : Prop} {directory : Path}
    (faults : t.faults = s.faults ++ [.act (.sync directory)]) (changed : t.tree ≠ s.tree) :
    AttachFailed able s t := by
  refine ⟨_, faults, by simp, ?_⟩
  intro op one _
  rw [List.cons.injEq] at one
  rw [← one.1, if_pos ⟨directory, rfl⟩]
  exact changed

/-! ## The steps -/

namespace Bare

variable (bare : Bare store s.tree record marker bytes)

include bare

theorem safe : safeRelative record.name = true := (wellFormed_safe bare.recorded.formed).1

theorem paved : Paved s.tree (artifactDirectory record) := by
  obtain ⟨last, split⟩ := artifact_split record
  have rooted := ((fileAt_iff (relativePath_ne_nil _)).mp bare.file).1
  rw [split] at rooted
  exact rooted_concat.mp rooted

theorem outside : ownershipDirectory ∉ artifactDirectory record :=
  plain_outside (directory_plain bare.safe)

theorem final : ¬Temporary (markerPath record.id) := uuid_final (wellFormed_parses bare.recorded.formed)

theorem apart (rest : Path) : sidecarPath record ≠ ownershipDirectory :: rest := by
  intro same
  have among : ownershipDirectory ∈ sidecarPath record := by
    rw [same]
    exact List.mem_cons_self
  rcases List.mem_append.mp among with inside | last
  · exact bare.outside inside
  · have different := congrArg String.toList (List.mem_singleton.mp last)
    simp [ownershipDirectory, sidecarFilename] at different

/-- The record can be replaced while its sidecar is there. -/
theorem replaceable : Replaceable (withFile s (sidecarPath record) encoded).tree
    (attachedRecord store record encoded) where
  root := (withFile_other s encoded (bare.apart []).symm).trans bare.recorded.root
  short := encodeOwnership_short (attachedRecord_small bare.recorded.formed)
  marker := by
    have same : (withFile s (sidecarPath record) encoded).tree (markerPath record.id) =
        some (.file marker) :=
      (withFile_other s encoded (bare.apart _).symm).trans bare.recorded.marker
    show (withFile s (sidecarPath record) encoded).tree (markerPath record.id) ≠ _
    rw [same]
    nofun

/-- The new record is not the old one. -/
theorem changes : encodeOwnership (attachedRecord store record encoded) ≠ marker := by
  intro same
  have read := bare.recorded.parsed
  rw [← same, store.tools.parse_encode] at read
  have named := congrArg OwnershipRecord.sidecarName (Option.some.inj read)
  rw [bare.unnamed] at named
  cases named

end Bare

theorem tries_replacePlaced (orderly : AllowsOrderly good terms)
    (bare : Bare store s.tree record marker bytes)
    (fine : good (attachedRecord store record encoded))
    (free : s.tree (sidecarPath record) = none) :
    Tries (contract terms)
      (compensated (replaceOwnership (attachedRecord store record encoded))
        [.remove (sidecarPath record), .sync (artifactDirectory record)])
      (withFile s (sidecarPath record) encoded)
      (fun _ t => t.faults = s.faults ∧ t.tree =
        marked (withFile s (sidecarPath record) encoded).tree (attachedRecord store record encoded))
      (fun _ t => AttachFailed (s.tree (sidecarPath record) = none) s t) := by
  have replaceable : Replaceable (withFile s (sidecarPath record) encoded).tree
      (attachedRecord store record encoded) := bare.replaceable
  have here : isDirectory s.tree (artifactDirectory record) = true := bare.paved.here
  have placed : isDirectory (withFile s (sidecarPath record) encoded).tree
      (artifactDirectory record) = true := isDirectory_update here (by rw [free]; nofun)
  have rooted : Rooted (withFile s (sidecarPath record) encoded).tree
      (relativePath (attachedRecord store record encoded).name) := by
    have before := ((fileAt_iff (relativePath_ne_nil _)).mp bare.file).1
    apply before.update
    rw [free]
    nofun
  apply tries_compensated
  apply (tries_replaceOwnership orderly fine rooted bare.final).mono
  · rintro _ t ⟨_, rfl⟩
    exact ⟨rfl, rfl⟩
  · rintro e t (⟨new, left, unsynced, unable⟩ | ⟨_, rfl⟩)
    · have held : t.tree (sidecarPath record) = some (.file encoded) :=
        (left.steady (sidecar_final _ _)).trans (withFile_held s _ encoded)
      have stays : isDirectory t.tree (artifactDirectory record) = true := by
        rw [isDirectory_iff] at placed ⊢
        rw [left.steady (plain_final (directory_plain bare.safe))]
        exact placed
      have some : new ≠ [] := fun none => unable none replaceable
      have earlier : 0 < new.length := List.length_pos_iff.mpr some
      apply keeps_takeBack orderly held stays
      · rintro later (rfl | rfl)
        · refine attachFailed_aborted ⟨_, left_removed left free [], ?_, ?_⟩
          · simpa using unsynced
          · simpa using fun none => absurd none some
        · apply attachFailed_many _ (left_removed left free _).faults
          rw [List.length_append, List.length_singleton]
          exact Nat.succ_le_succ earlier
      · intro later u faults
        rw [left.faults, List.append_assoc] at faults
        have whole : u.faults = s.faults ++ (new ++ .act (.remove (sidecarPath record)) :: later) :=
          faults
        apply attachFailed_many _ whole
        rw [List.length_append, List.length_cons]
        omega
    · have held : marked (withFile s (sidecarPath record) encoded).tree
          (attachedRecord store record encoded) (sidecarPath record) = some (.file encoded) :=
        (Function.update_of_ne (bare.apart _) _ _).trans (withFile_held s _ encoded)
      have stays : isDirectory (marked (withFile s (sidecarPath record) encoded).tree
          (attachedRecord store record encoded)) (artifactDirectory record) = true :=
        isDirectory_update placed replaceable.marker
      apply keeps_takeBack orderly held stays
      · rintro later (rfl | rfl)
        · apply attachFailed_synced
          · simp [fault, withFile]
            rfl
          · intro same
            have after : Function.update (marked (withFile s (sidecarPath record) encoded).tree
                (attachedRecord store record encoded)) (sidecarPath record) none
                (markerPath record.id) =
                  Option.some (.file (encodeOwnership (attachedRecord store record encoded))) :=
              (Function.update_of_ne (bare.apart _).symm _ _).trans (Function.update_self _ _ _)
            have before := bare.recorded.marker
            rw [← congrFun same (markerPath record.id)] at before
            have equal := after.symm.trans before
            injection equal with equal
            injection equal with equal
            exact bare.changes equal
        · apply attachFailed_many
            [.act (.sync ownershipRoot), .act (.sync (artifactDirectory record))]
          · simp [fault, withFile]
          · simp
      · intro later u faults
        apply attachFailed_many
          (.act (.sync ownershipRoot) :: .act (.remove (sidecarPath record)) :: later)
        · rw [faults]
          simp [fault, withFile]
        · simp

/-- The tree with a sidecar and the record that names it. -/
def attached (store : Store) (s : Session) (record : OwnershipRecord) (encoded : Bytes) : Tree :=
  marked (withFile s (sidecarPath record) encoded).tree (attachedRecord store record encoded)

theorem tries_attachSidecar (orderly : AllowsOrderly good terms)
    (bare : Bare store s.tree record marker bytes)
    (fine : good (attachedRecord store record encoded)) :
    Tries (contract terms)
      (attachSidecar store (owned (markerPath record.id) record) record.id record.name encoded) s
      (fun name t => name = sidecarName record ∧ s.tree (sidecarPath record) = none ∧
        t.faults = s.faults ∧ t.tree = attached store s record encoded)
      (fun _ t => AttachFailed (s.tree (sidecarPath record) = none) s t) := by
  have here : isDirectory s.tree (artifactDirectory record) = true := bare.paved.here
  have elsewhere : (sidecarPath record).dropLast ≠ ownershipRoot := by
    rw [sidecarPath, List.dropLast_concat]
    intro same
    have outside := bare.outside
    rw [same] at outside
    exact outside List.mem_cons_self
  unfold attachSidecar
  rw [tries_bind]
  apply (tries_writeTemporary orderly _ encoded _ _ s).mono
  · intro temporary t staged
    rw [tries_bind]
    apply (tries_placeTemporary orderly staged (.inl elsewhere) (sidecar_final _ _) _).mono
    · rintro _ _ ⟨free, rfl⟩
      rw [tries_bind]
      apply tries_syncDirectory orderly
      · apply isDirectory_update here
        rw [free]
        nofun
      · rw [tries_bind]
        apply (tries_replacePlaced orderly bare fine free).mono
        · rintro _ t ⟨faults, tree⟩
          exact ⟨rfl, free, faults, tree⟩
        · intro e t failed
          exact failed
      · intro e _
        apply attachFailed_synced rfl
        intro same
        have present := congrFun same (sidecarPath record)
        rw [free] at present
        have held := withFile_held s (sidecarPath record) encoded
        exact nomatch present.symm.trans held
    · intro e t aborted
      exact attachFailed_aborted aborted
  · intro e t aborted
    exact attachFailed_aborted (aborted.weaken fun _ => here)

/-- Content a sidecar may have. -/
structure SidecarContent (store : Store) (encoded : Bytes) : Prop where
  occupied : encoded ≠ []
  short : encoded.length ≤ maxSidecarBytes
  object : store.tools.isObject encoded = true

/-- What makes an attachment succeed when nothing is at fault. -/
structure Attachable (store : Store) (tree : Tree) (record : OwnershipRecord) (encoded : Bytes) :
    Prop where
  content : SidecarContent store encoded
  bare : ∃ marker bytes, Bare store tree record marker bytes
  free : tree (sidecarPath record) = none

theorem attachFailed_refl {able : Prop} (unable : ¬able) : AttachFailed able s s :=
  attachFailed_aborted (aborted_refl s unable)

/-- A step that only looks, at a fault of its own. -/
theorem attachFailed_looking {able : Prop} {op : Op} (reading : Reading op) :
    AttachFailed able s (fault s op) := by
  apply attachFailed_aborted
  apply aborted_fault
  rintro directory rfl
  exact reading

/-- The record of a bare candidate is verified. -/
theorem bare_verified {candidate : OwnedCandidate} (recorded : Recorded store s.tree record marker)
    (same : candidate = owned (markerPath record.id) record) (unnamed : record.sidecarName = none)
    (unhashed : record.sidecarSha256 = none) :
    candidateVerified store s.tree candidate = some () ↔
      ∃ bytes, Bare store s.tree record marker bytes := by
  subst same
  have none : sidecarStateAt store s.tree (owned (markerPath record.id) record) = .none := by
    unfold sidecarStateAt owned
    rw [unnamed]
    rfl
  unfold candidateVerified
  rw [none]
  have whole : ((artifactVerified store s.tree (owned (markerPath record.id) record)).bind
      fun _ => acceptable .none) = some () ↔
        artifactVerified store s.tree (owned (markerPath record.id) record) = some () := by
    cases artifactVerified store s.tree (owned (markerPath record.id) record) with
    | none => simp
    | some checked => simp [acceptable]
  rw [whole, artifactVerified_iff]
  constructor
  · rintro ⟨bytes, file, described⟩
    exact ⟨bytes, recorded, unnamed, unhashed, file, described⟩
  · rintro ⟨bytes, bare⟩
    exact ⟨bytes, bare.file, bare.described⟩

/-- Attaching metadata places a sidecar and replaces the record, or it fails. -/
theorem tries_attachMetadata (orderly : AllowsOrderly good terms)
    (owning : ∀ record, record.sidecarName = none → good record → ∀ encoded,
      good (attachedRecord store record encoded))
    (marked : ∀ record marker, Recorded store s.tree record marker → good record)
    (artifactId artifactName : String) (encoded : Bytes) :
    Tries (contract terms) (attachMetadata store artifactId artifactName encoded) s
      (fun name t => ∃ record marker bytes, Bare store s.tree record marker bytes ∧
        record.id = artifactId ∧ record.name = artifactName ∧ SidecarContent store encoded ∧
        name = sidecarName record ∧ s.tree (sidecarPath record) = none ∧
        t.faults = s.faults ∧ t.tree = attached store s record encoded)
      (fun _ t => AttachFailed (∃ record, Attachable store s.tree record encoded ∧
        record.id = artifactId ∧ record.name = artifactName) s t) := by
  unfold attachMetadata
  rw [tries_bind]
  apply tries_refuse
  · intro identified
    rw [tries_bind]
    apply tries_refuse
    · intro accepted
      simp only [not_or, Nat.not_lt, gt_iff_lt, Bool.not_eq_false] at accepted
      have content : SidecarContent store encoded := ⟨accepted.1, accepted.2.1, accepted.2.2⟩
      rw [tries_bind]
      apply (reads_orRaise (looks_candidate (markerPath artifactId))).keeps orderly.reading
      · cases found : candidateAt store s.tree (markerPath artifactId) with
        | none =>
          apply attachFailed_refl
          rintro ⟨record, able, rfl, _⟩
          obtain ⟨marker, bytes, bare⟩ := able.bare
          have present := candidateAt_some.mpr ⟨record, marker, bare.recorded, rfl, rfl⟩
          rw [found] at present
          cases present
        | some candidate =>
          obtain ⟨record, marker, recorded, place, same⟩ := candidateAt_some.mp found
          have named : record.id = artifactId := (markerPath_inj place).symm
          have unique {other : OwnershipRecord} (able : Attachable store s.tree other encoded)
              (identity : other.id = artifactId) : other = record := by
            obtain ⟨marker', bytes, bare⟩ := able.bare
            exact (recorded_unique recorded bare.recorded (identity.trans named.symm)).1
          dsimp only [Option.elim]
          rw [tries_bind]
          apply tries_refuse
          · intro plain
            have facts : candidate.record = record := by rw [same]; rfl
            rw [facts] at plain
            simp only [not_or, not_not, Bool.not_eq_true, Option.isSome_eq_false_iff,
              Option.isNone_iff_eq_none] at plain
            obtain ⟨called, unnamed, unhashed⟩ := plain
            rw [place] at same
            rw [tries_bind]
            apply (reads_orRaise (looks_verified candidate)).keeps orderly.reading
            · cases verified : candidateVerified store s.tree candidate with
              | none =>
                apply attachFailed_refl
                rintro ⟨other, able, identity, _⟩
                obtain rfl := unique able identity
                obtain ⟨marker', bytes, bare⟩ := able.bare
                have fine := (bare_verified bare.recorded same unnamed unhashed).mpr ⟨bytes, bare⟩
                rw [verified] at fine
                cases fine
              | some checked =>
                obtain ⟨bytes, bare⟩ := (bare_verified recorded same unnamed unhashed).mp verified
                dsimp only [Option.elim]
                subst same
                subst named called
                apply (tries_attachSidecar orderly bare (owning _ unnamed (marked _ _ recorded) _)).mono
                · rintro name t ⟨rfl, free, faults, tree⟩
                  exact ⟨record, marker, bytes, bare, rfl, rfl, content, rfl, free, faults, tree⟩
                · rintro e t ⟨new, faults, unable, one⟩
                  refine ⟨new, faults, ?_, one⟩
                  rintro none ⟨other, able, identity, _⟩
                  obtain rfl := unique able identity
                  exact unable none able.free
            · intro op reading _
              exact attachFailed_looking reading
          · intro e wrong
            apply attachFailed_refl
            rintro ⟨other, able, identity, called⟩
            obtain rfl := unique able identity
            obtain ⟨marker', bytes, bare⟩ := able.bare
            rw [same] at wrong
            simp [owned, bare.unnamed, bare.unhashed, called] at wrong
      · intro op reading _
        exact attachFailed_looking reading
    · intro e refused
      apply attachFailed_refl
      rintro ⟨record, able, _⟩
      obtain ⟨occupied, short, object⟩ := able.content
      rcases refused with empty | long | other
      · exact occupied empty
      · omega
      · rw [object] at other
        cases other
  · intro e refused
    apply attachFailed_refl
    rintro ⟨record, able, rfl, rfl⟩
    obtain ⟨marker, bytes, bare⟩ := able.bare
    rw [wellFormed_parses bare.recorded.formed, bare.safe] at refused
    simp at refused

end ImagegenBridge.ArtifactStore
