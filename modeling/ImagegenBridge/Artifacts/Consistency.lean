import ImagegenBridge.Artifacts.Retention
import ImagegenBridge.Artifacts.Attachment

/-!
# Records and their files

Every record the store writes names files of its own, below directories that are there.
What the store does keeps this so, wherever it stops, and so does the deletion of files.
-/

namespace ImagegenBridge.ArtifactStore

open Text Inspect Materialize Files Program

variable {store : Store} {tree : Tree} {s t : Session} {record : OwnershipRecord}

/-- Every well-formed record names files of its own, and the directory of its artifact is
there. -/
def Kept (store : Store) (tree : Tree) : Prop :=
  ∀ record encoded, tree (markerPath record.id) = some (.file encoded) →
    store.tools.parseOwnership encoded = some record →
    wellFormed record (markerName record.id) = true →
    OwnsFiles record ∧ Rooted tree (relativePath record.name)

theorem Kept.update {path : Path} {node : Option Node} (kept : Kept store tree)
    (other : tree path ≠ some .directory)
    (fine : ∀ record encoded, path = markerPath record.id → node = some (.file encoded) →
      store.tools.parseOwnership encoded = some record →
      wellFormed record (markerName record.id) = true →
      OwnsFiles record ∧ Rooted tree (relativePath record.name)) :
    Kept store (Function.update tree path node) := by
  intro record encoded present parsed formed
  have before : OwnsFiles record ∧ Rooted tree (relativePath record.name) := by
    by_cases same : markerPath record.id = path
    · rw [same, Function.update_self] at present
      exact fine record encoded same.symm present parsed formed
    · rw [Function.update_of_ne same] at present
      exact kept record encoded present parsed formed
  exact ⟨before.1, before.2.update other⟩

theorem Kept.gone {path : Path} (kept : Kept store tree) (other : tree path ≠ some .directory) :
    Kept store (Function.update tree path none) := by
  apply kept.update other
  rintro record encoded _ impossible
  cases impossible

/-- A temporary file is no marker. -/
theorem Kept.temporary {path : Path} {node : Option Node} (kept : Kept store tree)
    (temporary : Temporary path) (other : tree path ≠ some .directory) :
    Kept store (Function.update tree path node) := by
  apply kept.update other
  rintro record encoded rfl _ _ formed
  exact absurd temporary (uuid_final (wellFormed_parses formed))

theorem Kept.moved {temporary destination : Path} (kept : Kept store tree)
    (held : isFile tree temporary = true) (other : tree destination ≠ some .directory)
    (marker : destination.dropLast ≠ ownershipRoot ∨ MarkerFor OwnsFiles tree temporary destination) :
    Kept store (moved tree temporary destination) := by
  have file : tree temporary ≠ some .directory := by
    intro directory
    rw [isFile, directory] at held
    cases held
  apply Kept.gone
  · apply kept.update other
    rintro record encoded rfl content parsed _
    rcases marker with elsewhere | ⟨written, same, place, owns, rooted⟩
    · exact absurd (by simp [markerPath]) elsewhere
    · rw [content] at same
      cases same
      rw [store.tools.parse_encode] at parsed
      cases parsed
      exact ⟨owns, rooted⟩
  · by_cases same : temporary = destination
    · rw [same, Function.update_self, ← same]
      exact file
    · rw [Function.update_of_ne same]
      exact file

/-- What the store does keeps the records in order. -/
theorem kept_change {op : Op} {answer : Ans op} (kept : Kept store s.tree)
    (orderly : Orderly OwnsFiles s op) (truthful : Truthful s op answer) :
    Kept store (change s.tree op answer) := by
  cases op with
  | stat | read | canonicalize | nextEntry => exact kept
  | createTemporary directory =>
    cases answer with
    | error => exact kept
    | ok name =>
      obtain ⟨dotted, _, free⟩ := truthful
      apply kept.temporary (temporary_iff.mpr dotted)
      rw [free]
      nofun
  | write temporary bytes => cases answer <;> exact kept.temporary orderly.1 orderly.2
  | persistNoclobber temporary destination =>
    cases answer with
    | occupied | failed => exact kept
    | moved =>
      obtain ⟨held, free⟩ := truthful
      apply kept.moved held _ orderly
      rw [free]
      nofun
  | act act =>
    cases answer with
    | failed => exact kept
    | done =>
      have able : performable s.tree act = true := truthful
      cases act with
      | sync | openDirectory => exact kept
      | createDirectory path =>
        simp only [performable, Bool.and_eq_true, Option.isNone_iff_eq_none] at able
        apply kept.update
        · rw [able.1]
          nofun
        · rintro record encoded _ impossible
          cases impossible
      | persist temporary destination =>
        simp only [performable, Bool.and_eq_true, bne_iff_ne] at able
        exact kept.moved able.1 able.2 (.inr orderly)
      | discard path | remove path =>
        simp only [performable, Bool.and_eq_true, bne_iff_ne] at able
        exact kept.gone able.2

/-- What the store may do, with anything at fault. -/
def ownTerms : Terms where
  allow u op := Orderly OwnsFiles u op
  mayFail _ _ := True

theorem ownTerms_orderly : AllowsOrderly OwnsFiles ownTerms := fun _ _ orderly => orderly

theorem keeps_kept {α : Type} {p : Program Files.interface α} {post : α → Session → Prop}
    (kept : p.Keeps (contract ownTerms) s post) (start : Kept store s.tree) :
    p.Keeps (contract ownTerms) s fun a t => post a t ∧ Kept store t.tree := by
  apply kept.and_invariant _ start
  intro u op answer before orderly expected
  exact kept_change before orderly expected.1

/-! ## The operations -/

theorem Kept.recorded (kept : Kept store tree) {marker : Bytes}
    (recorded : Recorded store tree record marker) :
    OwnsFiles record ∧ Rooted tree (relativePath record.name) :=
  kept record marker recorded.marker recorded.parsed recorded.formed

theorem OwnsFiles.attached {encoded : Bytes} (owns : OwnsFiles record) :
    OwnsFiles (attachedRecord store record encoded) := by
  refine ⟨owns.image, ?_⟩
  rintro name ⟨⟩
  rfl

theorem OwnsFiles.cleared (owns : OwnsFiles record) : OwnsFiles (withoutSidecar record) :=
  ⟨owns.image, nofun⟩

theorem keeps_publish (store : Store) (id : Uuid) (now : Option UInt64) (bytes : Bytes)
    (filenamePrefix : Option String) (expected : Option OutputFormat)
    (publication : ArtifactPublication) (tree : Tree) :
    (publishWithOptions store id now bytes filenamePrefix expected publication).run.Keeps
      (contract ownTerms) (.at tree) fun _ _ => True := by
  apply Keeps.mono (tries_publishWithOptions ownTerms_orderly (fun _ owns => owns) store id now bytes
    filenamePrefix expected publication (.at tree))
  intro _ _ _
  trivial

theorem keeps_attach (kept : Kept store tree) (artifactId artifactName : String) (encoded : Bytes) :
    (attachMetadata store artifactId artifactName encoded).run.Keeps (contract ownTerms) (.at tree)
      fun _ _ => True := by
  apply Keeps.mono (tries_attachMetadata ownTerms_orderly (fun _ _ owns _ => owns.attached)
    (fun _ _ recorded => (kept.recorded recorded).1) artifactId artifactName encoded)
  intro _ _ _
  trivial

theorem keeps_cleanup (store : Store) (policy : RetentionPolicy) (now : Option UInt64) (tree : Tree) :
    (cleanup store policy now).run.Keeps (contract ownTerms) (.at tree) fun _ _ => True := by
  have removed : Tries (contract (removing (CondemnedFile store tree policy now) True))
      (cleanup store policy now) (.at tree) _ _ := tries_cleanup policy now
  apply Keeps.mono (keeps_relax _ _ removed)
  · intro _ _ _
    trivial
  · intro u op removes
    cases op with
    | stat | read | canonicalize | nextEntry | createTemporary => trivial
    | write | persistNoclobber => cases removes
    | act act =>
      cases act with
      | persist => cases removes
      | createDirectory | discard | remove | sync | openDirectory => trivial
  · intro _ _ _
    trivial

end ImagegenBridge.ArtifactStore
