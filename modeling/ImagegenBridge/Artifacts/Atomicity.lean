import ImagegenBridge.Artifacts.Retrieval

/-!
# One fault

What a publication and an attachment leave when one operation is at fault and all that
takes back what they did succeeds.
-/

namespace ImagegenBridge.ArtifactStore

open Text Inspect Materialize Files Program

variable {store : Store} {tree : Tree} {s t : Session} {bytes : Bytes}

/-- One operation was at fault, and it was not one that takes something back. -/
def SingleFault (op : Op) (t : Session) : Prop := t.faults = [op] ∧ ¬Compensates op

theorem singleFault_new {op : Op} {new : List Op} (faults : t.faults = (Session.at tree).faults ++ new)
    (single : SingleFault op t) : new = [op] := by
  have whole := single.1
  rw [faults] at whole
  exact whole

/-- A record that was left is something that changed. -/
theorem LeavesRecord.changed {before after : Tree} (leaves : LeavesRecord before after) :
    ¬Undone before after := by
  intro undone
  obtain ⟨record, free, left⟩ := leaves
  rcases undone (markerPath record.id) with same | ⟨_, directory⟩
  · rw [left, free] at same
    cases same
  · rw [left] at directory
    cases directory

/-- When one operation is at fault, a publication fails, and it leaves nothing but
directories exactly when that was not the sync of the ownership records. An attachment
fails, and it leaves everything as it was exactly when that was no sync. An attachment
that can succeed does so when nothing is at fault. -/
theorem one_fault_undone_unless_sync (store : Store) (tree : Tree) :
    (∀ (id : Uuid) (now : Option UInt64) (bytes : Bytes) (filenamePrefix : Option String)
      (expected : Option OutputFormat) (publication : ArtifactPublication),
      Tries (contract unreliable)
        (publishWithOptions store id now bytes filenamePrefix expected publication) (.at tree)
        (fun _ t => ∀ op, ¬SingleFault op t)
        fun _ t => ∀ op, SingleFault op t →
          (Undone tree t.tree ↔ op ≠ .act (.sync ownershipRoot))) ∧
    (∀ (artifactId artifactName : String) (encoded : Bytes),
      Tries (contract unreliable) (attachMetadata store artifactId artifactName encoded) (.at tree)
        (fun _ t => ∀ op, ¬SingleFault op t)
        fun _ t => ∀ op, SingleFault op t → (t.tree = tree ↔ ¬Syncs op)) ∧
    ∀ (record : OwnershipRecord) (encoded : Bytes), Attachable store tree record encoded →
      Tries (contract faultless) (attachMetadata store record.id record.name encoded) (.at tree)
        (fun _ _ => True) fun _ _ => False := by
  refine ⟨?_, ?_, ?_⟩
  · intro id now bytes filenamePrefix expected publication
    apply (tries_publishWithOptions unreliable_orderly (fun _ _ => trivial) store id now bytes
      filenamePrefix expected publication (.at tree)).mono
    · rintro stored t ⟨_, _, _, _, _, _, _, _, _, _, new, faults, only⟩ op single
      obtain rfl := singleFault_new faults single
      obtain ⟨path, discard⟩ := only op List.mem_cons_self
      exact single.2 ⟨path, .inl discard⟩
    · rintro e t ⟨new, faults, _, left⟩ op single
      have one := left op (singleFault_new faults single) single.2
      by_cases synced : op = .act (.sync ownershipRoot)
      · rw [if_pos synced] at one
        exact iff_of_false one.changed fun other => other synced
      · rw [if_neg synced] at one
        exact iff_of_true one synced
  · intro artifactId artifactName encoded
    apply (tries_attachMetadata unreliable_orderly (fun _ _ _ _ => trivial) (fun _ _ _ => trivial)
      artifactId artifactName encoded).mono
    · rintro name t ⟨_, _, _, _, _, _, _, _, _, faults, _⟩ op single
      have none := faults.symm.trans single.1
      cases none
    · rintro e t ⟨new, faults, _, left⟩ op single
      have one := left op (singleFault_new faults single) single.2
      by_cases synced : Syncs op
      · rw [if_pos synced] at one
        exact iff_of_false one fun other => other synced
      · rw [if_neg synced] at one
        exact iff_of_true one synced
  · intro record encoded able
    have orderly : AllowsOrderly (fun _ => True) faultless := fun _ _ _ => trivial
    have spec : Tries (contract faultless) (attachMetadata store record.id record.name encoded) (.at tree)
        _ _ := tries_attachMetadata orderly (fun _ _ _ _ => trivial) (fun _ _ _ => trivial) record.id
      record.name encoded
    apply (keeps_calm (fun _ _ impossible => impossible) spec).mono
    rintro (e | name) t ⟨ended, calm⟩
    · obtain ⟨new, faults, unable, _⟩ := ended
      rw [faults, List.append_right_eq_self] at calm
      exact unable calm ⟨record, able, rfl, rfl⟩
    · trivial

/-! ### A record without its artifact -/

theorem tries_refused {β : Type} {c : Contract Files.monitor} {p : Prop} [Decidable p] {message : String} (fine : ¬p)
    {f : Unit → Action β} {ok : β → Session → Prop} {failed : BridgeError → Session → Prop} :
    Tries c (refuse p message >>= f) s ok failed ↔ Tries c (f ()) s ok failed := by
  rw [tries_bind]
  unfold refuse
  rw [if_neg fine]
  exact Iff.rfl

theorem exists_failed_sync {directory : Path} {ok : Unit → Session → Prop}
    {failed : BridgeError → Session → Prop}
    (kept : Tries (contract unreliable) (syncDirectory directory) s ok failed)
    (present : isDirectory s.tree directory = true) :
    ∃ e, failed e (fault s (.act (.sync directory))) := by
  have faulty : faulted s.tree (.act (.sync directory)) (.failed "") = true := present
  have later := kept.2 (.failed "") ⟨trivial, fun _ => trivial⟩
  have same : monitor.next s (.act (.sync directory)) (.failed "") = fault s (.act (.sync directory)) :=
    congrArg (Session.mk s.tree s.opened s.listed) (if_pos faulty)
  rw [same] at later
  exact ⟨_, later⟩

/-- A publication of a record whose last sync fails. -/
theorem exists_unsynced_record {record : OwnershipRecord} {ok : Unit → Session → Prop}
    {failed : BridgeError → Session → Prop} (sparse : Sparse s.tree)
    (kept : Tries (contract unreliable) (publishOwnership record) s ok failed)
    (publishable : Publishable s.tree record) (rooted : Rooted s.tree (relativePath record.name))
    (final : ¬Temporary (markerPath record.id)) :
    ∃ e, failed e (fault { s with tree := marked s.tree record } (.act (.sync ownershipRoot))) := by
  unfold publishOwnership at kept
  rw [tries_bind] at kept
  obtain ⟨_, _, ⟨rfl, _⟩, kept, _⟩ := exists_success sparse
    (tries_verifyOwnershipRoot unreliable_orderly s) kept
    fun _ _ aborted => aborted.faulty publishable.root
  unfold checkMarkerSize at kept
  rw [tries_refused (Nat.not_lt.mpr publishable.short), tries_bind] at kept
  obtain ⟨temporary, t, staged, kept, _, finite⟩ := exists_success sparse
    (tries_writeTemporary unreliable_orderly ownershipRoot _ _ _ _) kept
    fun _ _ aborted => aborted.faulty (root_directory publishable.root)
  rw [tries_bind] at kept
  have fine : Orderly (fun _ => True) t (.persistNoclobber temporary (markerPath record.id)) :=
    .inr (Staged.marker staged trivial rooted)
  obtain ⟨_, _, ⟨_, rfl⟩, kept, _⟩ := exists_success finite
    (tries_placeTemporary unreliable_orderly staged fine final _) kept
    fun _ _ aborted calm => aborted.faulty publishable.free (calm.trans (by rw [staged.written]))
  apply exists_failed_sync kept
  apply isDirectory_update (root_directory publishable.root)
  rw [publishable.free]
  nofun

/-- The marker stays when the artifact is taken back. -/
theorem takeBack_marked {terms : Terms} {good : OwnershipRecord → Prop} {record : OwnershipRecord}
    {destination : Path} (orderly : AllowsOrderly good terms) (s : Session)
    (apart : destination ≠ markerPath record.id) (held : s.tree destination = some (.file bytes)) :
    (performAll [.remove destination, .sync []]).Keeps (contract terms)
      (fault { s with tree := marked s.tree record } (.act (.sync ownershipRoot))) fun _ t =>
        t.faults = (fault { s with tree := marked s.tree record } (.act (.sync ownershipRoot))).faults →
          t.tree (markerPath record.id) = some (.file (encodeOwnership record)) := by
  have still : marked s.tree record destination = some (.file bytes) :=
    (Function.update_of_ne apart _ _).trans held
  apply keeps_takeBack orderly still rfl
  · intro later _ _
    exact (Function.update_of_ne apart.symm _ _).trans (Function.update_self _ _ _)
  · intro later t faults calm
    rw [faults, List.append_right_eq_self] at calm
    cases calm

/-- Every publication that can succeed leaves a record without an artifact when only the
last sync is at fault. -/
theorem exists_record_left {id : Uuid} {now : Option UInt64} {filenamePrefix : Option String}
    {expected : Option OutputFormat} {publication : ArtifactPublication} {metadata : ImageMetadata}
    {ok : StoredArtifact → Session → Prop} {failed : BridgeError → Session → Prop}
    (sparse : Sparse tree)
    (publishing : Publishing store tree id now bytes filenamePrefix expected publication metadata)
    (kept : Tries (contract unreliable)
      (publishWithOptions store id now bytes filenamePrefix expected publication) (.at tree) ok failed) :
    ∃ e t, failed e t ∧ t.faults = [.act (.sync ownershipRoot)] ∧ LeavesRecord tree t.tree := by
  obtain ⟨inspected, expects, able⟩ := publishing
  have expectable : ¬expected.any (· ≠ metadata.format) = true := by
    cases expected with
    | none => nofun
    | some format => simp [expects format rfl]
  have named : ¬publication.filename.any (fun filename => !safeFilename filename metadata.format) = true := by
    cases given : publication.filename with
    | none => nofun
    | some filename => simp [able.named filename given]
  obtain ⟨createdAt, rfl⟩ := Option.ne_none_iff_exists'.mp able.clock
  unfold publishWithOptions at kept
  rw [inspected] at kept
  dsimp only at kept
  rw [tries_refused expectable] at kept
  unfold publishInspected at kept
  rw [tries_bind] at kept
  obtain ⟨_, u, ⟨rfl, safe, entered, paved⟩, kept, _, finite⟩ := exists_success sparse
    (tries_publicationDirectory unreliable_orderly publication.directory (.at tree)) kept
    (by
      rintro e t ⟨u, entered, aborted⟩ calm
      exact aborted.faulty ⟨able.safe, able.enterable⟩ (calm.trans entered.faults.symm))
  rw [tries_refused named, tries_bind] at kept
  have safeName : SafeName publication metadata.format := able.named
  let p : Placement := ⟨publication, filenamePrefix, id, metadata⟩
  have below (attempt : Nat) : p.Chosen u.tree attempt ↔ p.Chosen tree attempt :=
    p.chosen_entered entered
  obtain ⟨⟨destination, filename⟩, _, ⟨same, ⟨attempt, free, called⟩, w, new, left, only, none, rfl⟩,
      kept, calm, finite⟩ := exists_success finite
    (tries_attemptNames unreliable_orderly (plain_requested safeName filenamePrefix id) bytes
      (directoryPath_plain safe) _ 0 paved.here) kept
    (by
      rintro e t aborted calm
      obtain ⟨attempt, chosen⟩ := able.free
      rw [Nat.zero_add] at aborted
      exact aborted.faulty ⟨attempt, (below attempt).mpr chosen⟩ calm)
  dsimp only at same called none kept calm finite
  subst same called
  rw [Nat.zero_add] at free
  have ready : p.Ready attempt (.at tree) w new :=
    ⟨safe, safeName, (below attempt).mp free, ⟨u, entered, paved, left⟩, only, none⟩
  rw [tries_bind] at kept
  obtain ⟨_, _, rfl, kept, _, finite⟩ := exists_success finite
    (tries_syncPlaced unreliable_orderly none (ready.paved bytes).here) kept
    (by
      rintro e t (later | ⟨more, faults, among⟩) calm
      · rw [later.faults] at calm
        simp [withFile] at calm
      · rw [faults] at calm
        have none : more = [] := by simpa [withFile] using calm
        rw [none] at among
        cases among)
  have small := p.record_small createdAt safe safeName ready.chosen.2.1 (by
    rw [(inspectImage_ok inspected).2.2]
    exact store.tools.sha256_digest bytes)
  have publishable : Publishable (withFile w (p.destination attempt) bytes).tree
      (p.record attempt createdAt) :=
    ⟨(ready.root bytes).trans able.root, encodeOwnership_short small,
      (ready.marker bytes).trans able.marker⟩
  have rooted : Rooted (withFile w (p.destination attempt) bytes).tree
      (relativePath (p.record attempt createdAt).name) := by
    rw [ready.path]
    exact rooted_concat.mpr (ready.paved bytes)
  simp only [unixTimestamp] at kept
  rw [tries_bind, tries_pure, tries_bind] at kept
  unfold compensated at kept
  rw [tries_attempt] at kept
  obtain ⟨e, undone⟩ := exists_unsynced_record finite kept publishable rooted (marker_final id)
  rw [tries_bind, tries_lift] at undone
  have quiet : w.faults = [] := calm.trans entered.faults
  have finite := finite.update (markerPath id.text)
    (some (.file (encodeOwnership (p.record attempt createdAt))))
  have apart : p.destination attempt ≠ markerPath (p.record attempt createdAt).id := ready.apart.1
  have spec := takeBack_marked unreliable_orderly (withFile w (p.destination attempt) bytes) apart
    (withFile_held w _ bytes)
  obtain ⟨_, t, left, ended, calm, _⟩ := exists_run finite spec undone
  refine ⟨e, t, ended, ?_, p.record attempt createdAt, able.marker, left calm⟩
  rw [calm]
  simp [fault, withFile, quiet]

/-- When the sync after a new record fails, the record stays without its artifact. -/
theorem failed_sync_leaves_record :
    ¬Tries (contract unreliable)
      (publishWithOptions smallStore firstId (some 1) onePixel none none ⟨none, none, .error⟩)
      (.at emptyRoot) (fun _ t => ∀ op, ¬SingleFault op t)
      fun _ t => ∀ op, SingleFault op t → Undone emptyRoot t.tree := by
  intro always
  obtain ⟨e, t, undone, faults, leaves⟩ := exists_record_left emptyRoot_sparse
    (onePixel_publishing none nofun (by decide +kernel)) always
  refine leaves.changed (undone (.act (.sync ownershipRoot)) ⟨faults, ?_⟩)
  rintro ⟨path, same | same⟩ <;> cases same

end ImagegenBridge.ArtifactStore
