import ImagegenBridge.Artifacts.StoreReads

/-!
# What the store writes

Each writing function of the store either ends with the tree it is for, or it fails and
says which faults made it fail and what they left.
-/

namespace ImagegenBridge.ArtifactStore

open Text Inspect Materialize Files Program

variable {α β : Type} {store : Store} {terms : Terms} {s t : Session}

theorem temporary_iff {directory : Path} {name : String} :
    Temporary (directory ++ [name]) ↔ IsTemporary name := by
  constructor
  · rintro ⟨other, found, same, dotted⟩
    obtain ⟨_, last⟩ := List.append_inj' same rfl
    cases last
    exact dotted
  · intro dotted
    exact ⟨directory, name, rfl, dotted⟩

theorem PlainName.final {name : String} (plain : PlainName name.toList) (directory : Path) :
    ¬Temporary (directory ++ [name]) := by
  rw [temporary_iff]
  exact fun temporary => plain.undotted temporary.dotted

theorem ownershipRoot_final : ¬Temporary ownershipRoot := by
  intro temporary
  have named : IsTemporary ownershipDirectory := by
    rwa [ownershipRoot, ← List.nil_append [ownershipDirectory], temporary_iff] at temporary
  revert named
  unfold IsTemporary
  decide

/-- The names of sidecars and markers are not those of temporary files. -/
theorem sidecar_final (directory : Path) (id : String) :
    ¬Temporary (directory ++ [sidecarFilename id]) := by
  rw [temporary_iff]
  intro temporary
  have dotted := temporary.dotted
  simp [sidecarFilename] at dotted

theorem parsesAsUuid_head {id : String} (parses : parsesAsUuid id = true) :
    ∃ first rest, id.toList = first :: rest ∧ first ≠ '.' := by
  have inner {text : List Char} {count : Nat} (long : text.length = count + 1)
      (each : ∀ c ∈ text, Inner c) : ∃ first rest, text = first :: rest ∧ first ≠ '.' := by
    cases text with
    | nil => cases long
    | cons first rest => exact ⟨first, rest, rfl, (each first List.mem_cons_self).2⟩
  simp only [parsesAsUuid, Bool.or_eq_true, Bool.and_eq_true, beq_iff_eq, List.all_eq_true] at parses
  rcases parses with ((⟨long, hex⟩ | hyphenated) | ⟨⟨braced, _⟩, _⟩) | ⟨urn, _⟩
  · exact inner long fun c among => inner_hex (hex c among)
  · have whole := hyphenated_inner hyphenated
    exact inner whole.1 whole.2
  · cases chars : id.toList with
    | nil =>
      rw [chars] at braced
      cases braced
    | cons first rest =>
      rw [chars] at braced
      cases braced
      exact ⟨'{', rest, rfl, by decide⟩
  · obtain ⟨rest, same⟩ := List.isPrefixOf_iff_prefix.mp urn
    exact ⟨'u', _, same.symm, by decide⟩

theorem wellFormed_parses {record : OwnershipRecord} {name : String}
    (formed : wellFormed record name = true) : parsesAsUuid record.id = true := by
  simp only [wellFormed, Bool.and_eq_true] at formed
  exact formed.1.1.1.2

theorem uuid_final {id : String} (parses : parsesAsUuid id = true) : ¬Temporary (markerPath id) := by
  obtain ⟨first, rest, whole, undotted⟩ := parsesAsUuid_head parses
  unfold markerPath
  rw [temporary_iff]
  intro temporary
  have dotted := temporary.dotted
  rw [markerName, String.toList_append, whole] at dotted
  cases dotted
  exact undotted rfl

/-- A record that names files of its own: an image, and at most one sidecar beside it. -/
structure OwnsFiles (record : OwnershipRecord) : Prop where
  image : ∀ stem, rsplitOnce '.' record.name.toList ≠ some (stem, "json".toList)
  beside : ∀ name, record.sidecarName = some name →
    name = placedName (parentName record.name) (sidecarFilename record.id)

/-- Content that may become the marker of a good record. -/
def MarkerFor (good : OwnershipRecord → Prop) (tree : Tree) (temporary destination : Path) : Prop :=
  ∃ record, tree temporary = some (.file (encodeOwnership record)) ∧
    destination = markerPath record.id ∧ good record ∧ Rooted tree (relativePath record.name)

/-- What the store does with files: temporary ones are written, and a marker holds the
record of an artifact that is in a directory. -/
def Orderly (good : OwnershipRecord → Prop) (u : Session) : Op → Prop
  | .write temporary _ => Temporary temporary ∧ u.tree temporary ≠ some .directory
  | .persistNoclobber temporary destination =>
    destination.dropLast ≠ ownershipRoot ∨ MarkerFor good u.tree temporary destination
  | .act (.persist temporary destination) => MarkerFor good u.tree temporary destination
  | _ => True

/-- Terms that allow all this. -/
def AllowsOrderly (good : OwnershipRecord → Prop) (terms : Terms) : Prop :=
  ∀ u op, Orderly good u op → terms.allow u op

variable {good : OwnershipRecord → Prop}

theorem AllowsOrderly.reading (orderly : AllowsOrderly good terms) : terms.AllowsReading := by
  intro u op reading
  apply orderly
  cases op <;> trivial

theorem tries_orRaise {p : Fs α} {decides : α → Except BridgeError β} {ok : β → Session → Prop}
    {failed : BridgeError → Session → Prop} :
    Tries (contract terms) (orRaise p decides) s ok failed ↔
      p.Keeps (contract terms) s fun answer t => match decides answer with
        | .ok b => ok b t
        | .error e => failed e t := by
  unfold Tries orRaise
  rw [ExceptT.run_mk, keeps_bind]
  constructor
  all_goals
    intro kept
    apply kept.mono
    intro answer u
    cases decides answer <;> exact id

theorem tries_finished {act : Act} {message : String → String} {ok : Unit → Session → Prop}
    {failed : BridgeError → Session → Prop} (allowed : terms.allow s (.act act))
    (done : performable s.tree act = true → ok () (acted s act))
    (faulty : ∀ e, performable s.tree act = true → terms.mayFail s (.act act) →
      failed e (fault s (.act act)))
    (impossible : ∀ e, performable s.tree act = false → failed e s) :
    Tries (contract terms) (finished (perform act) message) s ok failed := by
  apply tries_orRaise.mpr
  apply keeps_perform allowed done
  · intro reason able may
    exact faulty _ able may
  · intro reason unable
    exact impossible _ unable

theorem tries_syncDirectory {directory : Path} {ok : Unit → Session → Prop}
    {failed : BridgeError → Session → Prop} (orderly : AllowsOrderly good terms)
    (present : isDirectory s.tree directory = true) (done : ok () s)
    (faulty : ∀ e, terms.mayFail s (.act (.sync directory)) →
      failed e (fault s (.act (.sync directory)))) :
    Tries (contract terms) (syncDirectory directory) s ok failed := by
  apply tries_finished (orderly s (.act (.sync directory)) trivial)
  · intro _
    exact done
  · intro e _ may
    exact faulty e may
  · intro e impossible
    rw [performable, present] at impossible
    cases impossible

/-- Discarding a temporary file before an error is raised. -/
theorem staged_raise {base : Session} {temporary : Path} {bytes : Bytes} {early : List Op}
    {able : Prop} {ok : β → Session → Prop} {e : BridgeError} (staged : Staged base temporary bytes t)
    (orderly : AllowsOrderly good terms)
    (unsynced : ∀ directory, .act (.sync directory) ∉ early) (unable : early = [] → ¬able) :
    Tries (contract terms)
      (ExceptT.lift (perform (.discard temporary)) >>= fun _ => (throw e : Action β))
      { t with faults := t.faults ++ early } ok fun _ u => Aborted able base u := by
  rw [tries_bind, tries_lift]
  apply staged.discard
  · rintro u op rfl
    exact orderly u _ trivial
  · intro answer later u left one
    refine ⟨early ++ later, left, ?_, ?_⟩
    · intro directory among
      rcases List.mem_append.mp among with first | last
      · exact unsynced directory first
      · rcases one with rfl | rfl
        · cases last
        · simp at last
    · intro none
      exact unable (List.append_eq_nil_iff.mp none).1

theorem tries_writeTemporary (orderly : AllowsOrderly good terms) (directory : Path) (bytes : Bytes)
    (uncreated unwritten : String → String) (s : Session) :
    Tries (contract terms) (writeTemporary directory bytes uncreated unwritten) s
      (fun temporary t => Staged s temporary bytes t)
      (fun _ t => Aborted (isDirectory s.tree directory = true) s t) := by
  unfold writeTemporary
  rw [tries_bind]
  apply tries_orRaise.mpr
  apply keeps_createTemporary (orderly s _ trivial)
  · intro name dotted present fresh
    have temporary : Temporary (directory ++ [name]) := temporary_iff.mpr dotted
    have staged (content : Bytes) : Staged s (directory ++ [name]) content
        { s with tree := Function.update s.tree (directory ++ [name]) (some (.file content)) } :=
      ⟨temporary, fresh, rfl⟩
    dsimp only
    rw [tries_bind, tries_lift]
    apply keeps_write
    · apply orderly
      refine ⟨temporary, ?_⟩
      dsimp only
      rw [Function.update_self]
      nofun
    · dsimp only
      rw [Function.update_idem]
      exact staged bytes
    · intro part reason _
      dsimp only
      rw [Function.update_idem]
      apply staged_raise (staged part) orderly
      · simp
      · intro none
        cases none
  · intro reason _ _
    exact aborted_fault s nofun
  · intro reason absent
    apply aborted_refl
    rw [absent]
    nofun

theorem tries_placeTemporary {base : Session} {temporary destination : Path} {bytes : Bytes}
    (orderly : AllowsOrderly good terms) (staged : Staged base temporary bytes t)
    (allowed : Orderly good t (.persistNoclobber temporary destination)) (final : ¬Temporary destination)
    (message : String → String) :
    Tries (contract terms) (placeTemporary temporary destination message) t
      (fun _ u => base.tree destination = none ∧
        u = { base with tree := Function.update base.tree destination (some (.file bytes)) })
      (fun _ u => Aborted (base.tree destination = none) base u) := by
  have apart : destination ≠ temporary := by
    rintro rfl
    exact final staged.dotted
  have elsewhere := staged.elsewhere apart
  unfold placeTemporary
  rw [tries_bind, tries_lift]
  apply keeps_persistNoclobber (orderly t _ allowed)
  · rw [isFile, staged.held]
  · intro free
    rw [elsewhere] at free
    refine ⟨free, ?_⟩
    rw [staged.moved final, staged.written]
  · intro reason occupied
    rw [elsewhere] at occupied
    have same : t = { t with faults := t.faults ++ [] } := by rw [List.append_nil]
    rw [same]
    apply staged_raise staged orderly
    · simp
    · exact fun _ => occupied
  · intro reason _
    apply staged_raise staged orderly
    · simp
    · intro none
      cases none

theorem isFile_some {path : Path} {bytes : Bytes} (held : s.tree path = some (.file bytes)) :
    isFile s.tree path = true := by
  rw [isFile, held]

theorem tries_swapTemporary {base : Session} {temporary destination : Path} {bytes : Bytes}
    (orderly : AllowsOrderly good terms) (staged : Staged base temporary bytes t)
    (marker : MarkerFor good t.tree temporary destination) (final : ¬Temporary destination)
    (message : String → String) :
    Tries (contract terms) (swapTemporary temporary destination message) t
      (fun _ u => base.tree destination ≠ some .directory ∧
        u = { base with tree := Function.update base.tree destination (some (.file bytes)) })
      (fun _ u => Aborted (base.tree destination ≠ some .directory) base u) := by
  have apart : destination ≠ temporary := by
    rintro rfl
    exact final staged.dotted
  have elsewhere := staged.elsewhere apart
  unfold swapTemporary
  rw [tries_bind, tries_lift]
  apply keeps_perform (orderly t (.act (.persist temporary destination)) marker)
  · intro able
    simp only [performable, isFile_some staged.held, Bool.true_and, bne_iff_ne, elsewhere] at able
    refine ⟨able, ?_⟩
    rw [← staged.moved final]
    rw [staged.written]
    rfl
  · intro reason _ _
    apply staged_raise staged orderly
    · simp
    · intro none
      cases none
  · intro reason impossible
    simp only [performable, isFile_some staged.held, Bool.true_and, bne_eq_false_iff_eq,
      elsewhere] at impossible
    have same : t = { t with faults := t.faults ++ [] } := by rw [List.append_nil]
    rw [same]
    apply staged_raise staged orderly
    · simp
    · exact fun _ able => able impossible

/-! ## Ownership records -/

theorem tries_verifyOwnershipRoot (orderly : AllowsOrderly good terms) (s : Session) :
    Tries (contract terms) verifyOwnershipRoot s
      (fun _ t => t = s ∧ s.tree ownershipRoot = some .directory)
      (fun _ t => Aborted (s.tree ownershipRoot = some .directory) s t) := by
  apply (reads_orRaise (reads_stat ownershipRoot)).keeps orderly.reading
  · cases checked : checkOwnershipRoot (statOf s.tree ownershipRoot) with
    | ok => exact ⟨rfl, statOf_directory.mp checked⟩
    | error e =>
      apply aborted_refl
      intro directory
      rw [statOf_directory.mpr directory] at checked
      cases checked
  · intro op reading _
    apply aborted_fault
    rintro directory rfl
    exact reading

theorem tries_refuse {p : Prop} [Decidable p] {message : String} {ok : Unit → Session → Prop}
    {failed : BridgeError → Session → Prop} (fine : ¬p → ok () s)
    (refused : ∀ e, p → failed e s) : Tries (contract terms) (refuse p message) s ok failed := by
  unfold refuse
  split_ifs with bad
  · exact refused _ bad
  · exact fine bad

theorem tries_checkMarkerSize {encoded : Bytes} {ok : Unit → Session → Prop}
    {failed : BridgeError → Session → Prop} (fits : encoded.length ≤ maxMarkerBytes → ok () s)
    (long : ∀ e, ¬encoded.length ≤ maxMarkerBytes → failed e s) :
    Tries (contract terms) (checkMarkerSize encoded) s ok failed := by
  apply tries_refuse
  · intro short
    exact fits (Nat.le_of_not_lt short)
  · intro e large
    exact long e (Nat.not_le_of_lt large)

/-- What publishing a record needs. -/
structure Publishable (tree : Tree) (record : OwnershipRecord) : Prop where
  root : tree ownershipRoot = some .directory
  short : (encodeOwnership record).length ≤ maxMarkerBytes
  free : tree (markerPath record.id) = none

/-- The tree with the marker of a record. -/
def marked (tree : Tree) (record : OwnershipRecord) : Tree :=
  Function.update tree (markerPath record.id) (some (.file (encodeOwnership record)))

theorem Staged.marker {record : OwnershipRecord} {temporary : Path} {base : Session}
    (staged : Staged base temporary (encodeOwnership record) t) (fine : good record)
    (rooted : Rooted base.tree (relativePath record.name)) :
    MarkerFor good t.tree temporary (markerPath record.id) := by
  refine ⟨record, staged.held, rfl, fine, ?_⟩
  rw [staged.written]
  apply rooted.update
  rw [staged.fresh]
  nofun

theorem root_directory (present : s.tree ownershipRoot = some .directory) :
    isDirectory s.tree ownershipRoot = true := isDirectory_iff.mpr (.inr present)

/-- Publishing a record adds its marker, and fails after that only when the directory of
the markers cannot be synced. -/
theorem tries_publishOwnership (orderly : AllowsOrderly good terms) {record : OwnershipRecord}
    (fine : good record) (rooted : Rooted s.tree (relativePath record.name))
    (final : ¬Temporary (markerPath record.id)) :
    Tries (contract terms) (publishOwnership record) s
      (fun _ t => Publishable s.tree record ∧ t = { s with tree := marked s.tree record })
      (fun _ t => Aborted (Publishable s.tree record) s t ∨
        (Publishable s.tree record ∧
          t = fault { s with tree := marked s.tree record } (.act (.sync ownershipRoot)))) := by
  unfold publishOwnership
  rw [tries_bind]
  apply (tries_verifyOwnershipRoot orderly s).mono
  · rintro _ _ ⟨rfl, root⟩
    rw [tries_bind]
    apply tries_checkMarkerSize
    · intro short
      rw [tries_bind]
      apply (tries_writeTemporary orderly ownershipRoot _ _ _ _).mono
      · intro temporary t staged
        rw [tries_bind]
        apply (tries_placeTemporary orderly staged (.inr (Staged.marker staged fine rooted)) final _).mono
        · rintro _ _ ⟨free, rfl⟩
          have publishable : Publishable _ record := ⟨root, short, free⟩
          apply tries_syncDirectory orderly
          · apply isDirectory_update (root_directory root)
            rw [free]
            nofun
          · exact ⟨publishable, rfl⟩
          · intro e _
            exact .inr ⟨publishable, rfl⟩
        · intro e u aborted
          exact .inl (aborted.weaken fun publishable => publishable.free)
      · intro e t aborted
        exact .inl (aborted.weaken fun _ => root_directory root)
    · intro e long
      exact .inl (aborted_refl _ fun publishable => long publishable.short)
  · intro e t aborted
    exact .inl (aborted.weaken fun publishable => publishable.root)

/-- What replacing a record needs. -/
structure Replaceable (tree : Tree) (record : OwnershipRecord) : Prop where
  root : tree ownershipRoot = some .directory
  short : (encodeOwnership record).length ≤ maxMarkerBytes
  marker : tree (markerPath record.id) ≠ some .directory

/-- Replacing a record writes its marker again, and fails after that only when the
directory of the markers cannot be synced. -/
theorem tries_replaceOwnership (orderly : AllowsOrderly good terms) {record : OwnershipRecord}
    (fine : good record) (rooted : Rooted s.tree (relativePath record.name))
    (final : ¬Temporary (markerPath record.id)) :
    Tries (contract terms) (replaceOwnership record) s
      (fun _ t => Replaceable s.tree record ∧ t = { s with tree := marked s.tree record })
      (fun _ t => Aborted (Replaceable s.tree record) s t ∨
        (Replaceable s.tree record ∧
          t = fault { s with tree := marked s.tree record } (.act (.sync ownershipRoot)))) := by
  unfold replaceOwnership
  rw [tries_bind]
  apply (tries_verifyOwnershipRoot orderly s).mono
  · rintro _ _ ⟨rfl, root⟩
    rw [tries_bind]
    apply tries_checkMarkerSize
    · intro short
      rw [tries_bind]
      apply (tries_writeTemporary orderly ownershipRoot _ _ _ _).mono
      · intro temporary t staged
        rw [tries_bind]
        apply (tries_swapTemporary orderly staged (Staged.marker staged fine rooted) final _).mono
        · rintro _ _ ⟨other, rfl⟩
          have replaceable : Replaceable _ record := ⟨root, short, other⟩
          apply tries_syncDirectory orderly
          · exact isDirectory_update (root_directory root) other
          · exact ⟨replaceable, rfl⟩
          · intro e _
            exact .inr ⟨replaceable, rfl⟩
        · intro e u aborted
          exact .inl (aborted.weaken fun replaceable => replaceable.marker)
      · intro e t aborted
        exact .inl (aborted.weaken fun _ => root_directory root)
    · intro e long
      exact .inl (aborted_refl _ fun replaceable => long replaceable.short)
  · intro e t aborted
    exact .inl (aborted.weaken fun replaceable => replaceable.root)

end ImagegenBridge.ArtifactStore
