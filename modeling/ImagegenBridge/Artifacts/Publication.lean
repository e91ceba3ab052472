import ImagegenBridge.Artifacts.PublicationSteps
import ImagegenBridge.Artifacts.Records

/-!
# Publishing an artifact

A publication puts an image under the first free name it asks for, with a record of it,
or it fails.
-/

namespace ImagegenBridge.ArtifactStore

open Text Validation Inspect Materialize Files Program

variable {terms : Terms} {s t : Session} {good : OwnershipRecord → Prop}

/-! ## The names of a publication -/

/-- The file name of a publication, if it has one, suits the image. -/
def SafeName (publication : ArtifactPublication) (format : OutputFormat) : Prop :=
  ∀ filename, publication.filename = some filename → safeFilename filename format = true

theorem safeFilename_length {filename : String} {format : OutputFormat}
    (safe : safeFilename filename format = true) : filename.toList.length ≤ 160 := by
  have plain := plain_safe safe
  rw [← len_narrow fun c among => narrow_portable (plain.portable c among)]
  unfold safeFilename validOutputFilename at safe
  split at safe
  · cases safe
  · rename_i fine
    simp only [Bool.or_eq_true, not_or, decide_eq_true_eq] at fine
    omega

section Names

variable {publication : ArtifactPublication} {format : OutputFormat} (named : SafeName publication format)
  (filenamePrefix : Option String) (id : Uuid)

include named

theorem plain_requested :
    PlainName (requestedName publication filenamePrefix id format).toList := by
  unfold requestedName
  cases given : publication.filename with
  | none => exact plain_generated filenamePrefix id format
  | some filename => exact plain_extended (plain_safe (named filename given)) format

theorem image_requested :
    ImageName (requestedName publication filenamePrefix id format).toList := by
  unfold requestedName
  cases given : publication.filename with
  | none => exact image_generated filenamePrefix id format
  | some filename => exact image_extended (named filename given)

theorem requested_length :
    (requestedName publication filenamePrefix id format).toList.length ≤ 165 := by
  unfold requestedName
  cases given : publication.filename with
  | none =>
    have short := generatedName_short filenamePrefix id format
    dsimp only
    omega
  | some filename =>
    have longer := filenameWithExtension_length filename format
    have short := safeFilename_length (named filename given)
    dsimp only
    omega

theorem image_candidate (attempt : Nat) :
    ImageName (candidateName (requestedName publication filenamePrefix id format) attempt).toList := by
  unfold candidateName
  split_ifs
  · exact image_requested named filenamePrefix id
  · exact image_suffixed (image_requested named filenamePrefix id) _

theorem candidate_length {attempt : Nat} (few : attempt < 10000) :
    (candidateName (requestedName publication filenamePrefix id format) attempt).toList.length ≤
      171 := by
  have short := requested_length named filenamePrefix id
  unfold candidateName
  split_ifs
  · omega
  · have few : attempt + 1 < 10 ^ 5 := by omega
    have longer := suffixedFilename_length (requestedName publication filenamePrefix id format) few
    omega

end Names

theorem placed_narrow {directory : Option String} {filename : String} {bound : Nat}
    (safe : SafeDirectory directory) (narrow : NarrowText bound filename) :
    NarrowText (513 + bound) (placedName directory filename) := by
  cases directory with
  | none => exact narrow.weaken (by omega)
  | some name => exact ((safeRelative_narrow (safe name rfl)).append slash_narrow).append narrow

/-! ## The publication -/

theorem uuid_plain (id : Uuid) : PlainName (markerName id.text).toList := by
  have whole : (markerName id.text).toList = id.text.toList ++ ['.', 'j', 's', 'o', 'n'] := by
    simp [markerName]
  rw [whole]
  apply (plain_inner _ id.inner.2).append
  · exact List.all_eq_true.mp (by decide)
  · intro none
    have long := id.inner.1
    rw [none] at long
    cases long

theorem marker_final (id : Uuid) : ¬Temporary (markerPath id.text) :=
  (uuid_plain id).final ownershipRoot

/-- Where the publication of an image goes. -/
structure Placement where
  publication : ArtifactPublication
  filenamePrefix : Option String
  id : Uuid
  metadata : ImageMetadata

namespace Placement

variable (p : Placement)

def directory : Path := directoryPath p.publication.directory

def requested : String := requestedName p.publication p.filenamePrefix p.id p.metadata.format

def attempts : Nat := collisionAttempts p.publication.collision p.publication.filename.isSome

/-- The name of an attempt. -/
def name (attempt : Nat) : String := candidateName p.requested attempt

/-- The place of the artifact of an attempt. -/
def destination (attempt : Nat) : Path := p.directory ++ [p.name attempt]

/-- The record of an artifact that is published in an attempt. -/
def record (attempt : Nat) (createdAt : UInt64) : OwnershipRecord :=
  newRecord p.id (placedName p.publication.directory (p.name attempt)) createdAt p.metadata.sha256

/-- The attempt that publishes the artifact. -/
def Chosen (tree : Tree) (attempt : Nat) : Prop :=
  FreeAt tree p.directory p.requested 0 p.attempts attempt

/-- What makes a publication succeed when nothing is at fault. -/
structure Able (tree : Tree) (now : Option UInt64) : Prop where
  safe : SafeDirectory p.publication.directory
  enterable : Enterable tree p.directory
  named : SafeName p.publication p.metadata.format
  free : ∃ attempt, p.Chosen tree attempt
  clock : now ≠ none
  root : tree ownershipRoot = some .directory
  marker : tree (markerPath p.id.text) = none

/-- The tree after a publication. -/
structure Published (bytes : Bytes) (attempt : Nat) (createdAt : UInt64) (tree : Tree) : Prop where
  safe : SafeDirectory p.publication.directory
  named : SafeName p.publication p.metadata.format
  paved : Paved tree p.directory
  artifact : tree (p.destination attempt) = some (.file bytes)
  root : tree ownershipRoot = some .directory
  marker : tree (markerPath p.id.text) = some (.file (encodeOwnership (p.record attempt createdAt)))

end Placement

/-! ### What the steps before the record leave of the tree -/

theorem entered_below {directory : Path} {u : Session} (entered : Entered directory s u)
    (name : String) : u.tree (directory ++ [name]) = s.tree (directory ++ [name]) := by
  rcases entered.tree (directory ++ [name]) with same | ⟨top, _⟩
  · exact same
  · have longer := top.length_le
    rw [List.length_append, List.length_singleton] at longer
    omega

/-- Nothing changes in the directory of the markers while another one is entered. -/
theorem entered_owned {directory : Path} {u : Session} (entered : Entered directory s u)
    (outside : ownershipDirectory ∉ directory) (rest : Path) :
    u.tree (ownershipDirectory :: rest) = s.tree (ownershipDirectory :: rest) := by
  rcases entered.tree (ownershipDirectory :: rest) with same | ⟨top, _⟩
  · exact same
  · exact absurd (top.subset List.mem_cons_self) outside

theorem owned_apart {directory : Path} (outside : ownershipDirectory ∉ directory) {name : String}
    (plain : PlainName name.toList) (rest : Path) :
    directory ++ [name] ≠ ownershipDirectory :: rest := by
  intro same
  have among : ownershipDirectory ∈ directory ++ [name] := by
    rw [same]
    exact List.mem_cons_self
  rcases List.mem_append.mp among with inside | last
  · exact outside inside
  · rw [← List.mem_singleton.mp last] at plain
    exact plain.undotted (by decide)

theorem Placement.chosen_entered {p : Placement} {u : Session} {attempt : Nat}
    (entered : Entered p.directory s u) : p.Chosen u.tree attempt ↔ p.Chosen s.tree attempt := by
  have same (tried : Nat) := entered_below entered (candidateName p.requested tried)
  simp only [Placement.Chosen, FreeAt, same]

theorem Placement.attempts_le (p : Placement) : p.attempts ≤ 10000 := by
  unfold Placement.attempts collisionAttempts
  split_ifs
  · rfl
  · decide

theorem Placement.record_small {p : Placement} {attempt : Nat} (createdAt : UInt64)
    (safe : SafeDirectory p.publication.directory)
    (named : SafeName p.publication p.metadata.format) (few : attempt < p.attempts)
    (digest : isDigest p.metadata.sha256 = true) : Small (p.record attempt createdAt) := by
  have bounded := p.attempts_le
  have identifier : NarrowText 64 p.id.text := by
    refine ⟨?_, fun c among => narrow_portable (p.id.inner.2 c among).1⟩
    have long := p.id.inner.1
    omega
  have plain := plain_candidate (plain_requested named p.filenamePrefix p.id) attempt
  have short : (p.name attempt).toList.length ≤ 171 :=
    candidate_length named p.filenamePrefix p.id (by omega)
  have filename : NarrowText 171 (p.name attempt) := (portable_narrow plain.portable).weaken short
  exact ⟨identifier, (placed_narrow safe filename).weaken (by omega), digest_narrow digest, nofun,
    nofun⟩

theorem Placement.record_owns {p : Placement} (attempt : Nat) (createdAt : UInt64)
    (named : SafeName p.publication p.metadata.format) : OwnsFiles (p.record attempt createdAt) :=
  ⟨image_placed _ (image_candidate named _ _ attempt), nofun⟩

/-- A session in which the place of the artifact is ready. -/
structure Placement.Ready (p : Placement) (attempt : Nat) (s w : Session) (new : List Op) :
    Prop where
  safe : SafeDirectory p.publication.directory
  named : SafeName p.publication p.metadata.format
  chosen : p.Chosen s.tree attempt
  before : ∃ u, Entered p.directory s u ∧ Paved u.tree p.directory ∧ Left u w new
  only : OnlyDiscards new
  free : w.tree (p.destination attempt) = none

namespace Placement.Ready

variable {p : Placement} {attempt : Nat} {w : Session} {new : List Op}
  (ready : p.Ready attempt s w new) (bytes : Bytes)

include ready

theorem plain : PlainName (p.name attempt).toList :=
  plain_candidate (plain_requested ready.named _ _) attempt

theorem outside : ownershipDirectory ∉ p.directory := plain_outside (directoryPath_plain ready.safe)

theorem faults : w.faults = s.faults ++ new := by
  obtain ⟨u, entered, _, left⟩ := ready.before
  rw [left.faults, entered.faults]

theorem paved : Paved (withFile w (p.destination attempt) bytes).tree p.directory := by
  obtain ⟨u, _, paved, left⟩ := ready.before
  have same : Paved w.tree p.directory := by
    intro above top
    have before := paved above top
    rw [isDirectory_iff] at before ⊢
    have final : ¬Temporary above :=
      plain_final fun name among => directoryPath_plain ready.safe name (top.subset among)
    rw [left.steady final]
    exact before
  apply same.update
  rw [ready.free]
  nofun

theorem apart : p.destination attempt ≠ markerPath p.id.text ∧ p.destination attempt ≠ ownershipRoot :=
  ⟨owned_apart ready.outside ready.plain _, owned_apart ready.outside ready.plain _⟩

theorem marker : (withFile w (p.destination attempt) bytes).tree (markerPath p.id.text) =
    s.tree (markerPath p.id.text) := by
  obtain ⟨u, entered, _, left⟩ := ready.before
  rw [withFile_other w bytes ready.apart.1.symm, left.steady (marker_final p.id)]
  exact entered_owned entered ready.outside _

theorem root : (withFile w (p.destination attempt) bytes).tree ownershipRoot =
    s.tree ownershipRoot := by
  obtain ⟨u, entered, _, left⟩ := ready.before
  rw [withFile_other w bytes ready.apart.2.symm, left.steady ownershipRoot_final]
  exact entered_owned entered ready.outside _

theorem path (createdAt : UInt64) :
    relativePath (p.record attempt createdAt).name = p.destination attempt :=
  relativePath_placed p.publication.directory ready.plain

end Placement.Ready

theorem Placement.Ready.published {p : Placement} {attempt : Nat} {w : Session} {new : List Op}
    {bytes : Bytes} {createdAt : UInt64} (ready : p.Ready attempt s w new)
    (publishable : Publishable (withFile w (p.destination attempt) bytes).tree
      (p.record attempt createdAt)) :
    p.Published bytes attempt createdAt
      (marked (withFile w (p.destination attempt) bytes).tree (p.record attempt createdAt)) where
  safe := ready.safe
  named := ready.named
  paved := (ready.paved bytes).update (by rw [publishable.free]; nofun)
  artifact := (Function.update_of_ne ready.apart.1 _ _).trans (withFile_held w _ bytes)
  root := by
    have other : ownershipRoot ≠ markerPath (p.record attempt createdAt).id := by
      simp [markerPath, ownershipRoot]
    unfold marked
    rw [Function.update_of_ne other]
    exact publishable.root
  marker := Function.update_self _ _ _

/-- The failures of the steps that follow a placed artifact. -/
theorem Placement.Ready.failed {p : Placement} {attempt : Nat} {w : Session} {new later : List Op}
    {able : Prop} (ready : p.Ready attempt s w new) (left : Left w t later)
    (unsynced : .act (.sync ownershipRoot) ∉ later) (unable : later = [] → ¬able) :
    PublishFailed able s t := by
  obtain ⟨u, entered, _, before⟩ := ready.before
  apply publishFailed_left entered (before.trans left)
  · intro among
    rcases List.mem_append.mp among with first | last
    · exact ready.only.unsynced _ first
    · exact unsynced last
  · intro none
    exact unable (List.append_eq_nil_iff.mp none).2

theorem Placement.Ready.compensating {p : Placement} {attempt : Nat} {w : Session} {new : List Op}
    {able : Prop} {path : Path} (ready : p.Ready attempt s w new)
    (removal : RemovalFailed path w t) : PublishFailed able s t := by
  obtain ⟨later, faults, among⟩ := removal
  have whole : t.faults = s.faults ++ (new ++ later) := by
    rw [faults, ready.faults, List.append_assoc]
  exact publishFailed_compensating whole (List.mem_append_right _ among) ⟨path, .inr rfl⟩

theorem Placement.Ready.recorded {p : Placement} {attempt : Nat} {w : Session} {new later : List Op}
    {able : Prop} {record : OwnershipRecord} (ready : p.Ready attempt s w new)
    (before : s.tree (markerPath record.id) = none)
    (after : t.tree (markerPath record.id) = some (.file (encodeOwnership record)))
    (faults : t.faults = w.faults ++ .act (.sync ownershipRoot) :: later) :
    PublishFailed able s t := by
  refine ⟨new ++ .act (.sync ownershipRoot) :: later, ?_, by simp, ?_⟩
  · rw [faults, ready.faults, List.append_assoc]
  · intro op one _
    have among : .act (.sync ownershipRoot) ∈ [op] := by
      rw [← one]
      simp
    rw [if_pos (List.mem_singleton.mp among).symm]
    exact ⟨record, before, after⟩

/-- A publication puts the artifact under the first free name and its record beside it,
or it fails. -/
theorem tries_publishInspected (orderly : AllowsOrderly good terms)
    (owning : ∀ record, OwnsFiles record → good record) (p : Placement) (now : Option UInt64)
    (bytes : Bytes) (digest : isDigest p.metadata.sha256 = true) (s : Session) :
    Tries (contract terms)
      (publishInspected p.id now bytes p.filenamePrefix p.publication p.metadata) s
      (fun stored t => ∃ attempt createdAt, p.Chosen s.tree attempt ∧
        p.Published bytes attempt createdAt t.tree ∧
        stored.id = p.id.text ∧ stored.name = placedName p.publication.directory (p.name attempt) ∧
        ∃ new, t.faults = s.faults ++ new ∧ OnlyDiscards new)
      (fun _ t => PublishFailed (p.Able s.tree now) s t) := by
  unfold publishInspected
  rw [tries_bind]
  apply (tries_publicationDirectory orderly p.publication.directory s).mono
  · rintro _ u ⟨rfl, safe, entered, paved⟩
    rw [tries_bind]
    apply tries_refuse
    · intro accepted
      have named : SafeName p.publication p.metadata.format := by
        intro filename given
        rw [given] at accepted
        simpa using accepted
      rw [tries_bind]
      apply (tries_attemptNames orderly (plain_requested named p.filenamePrefix p.id) bytes
        (directoryPath_plain safe) _ 0 paved.here).mono
      · rintro ⟨destination, filename⟩ v ⟨placed, ⟨attempt, free, called⟩, w, new, left, only, none,
          written⟩
        dsimp only at placed called none written
        subst placed called written
        dsimp only
        rw [Nat.zero_add] at free
        have ready : p.Ready attempt s w new :=
          ⟨safe, named, (p.chosen_entered entered).mp free, ⟨u, entered, paved, left⟩, only, none⟩
        have image := ready.plain.final p.directory
        rw [tries_bind]
        apply (tries_syncPlaced orderly none (ready.paved bytes).here).mono
        · rintro _ _ rfl
          rw [tries_bind]
          cases now with
          | none =>
            refine ⟨new, ready.faults, fun _ able => able.clock rfl, ?_⟩
            rintro op rfl uncompensating
            obtain ⟨path, same⟩ := only op List.mem_cons_self
            exact absurd ⟨path, .inl same⟩ uncompensating
          | some createdAt =>
            have small := p.record_small createdAt safe named ready.chosen.2.1 digest
            have rooted : Rooted (withFile w (p.destination attempt) bytes).tree
                (relativePath (p.record attempt createdAt).name) := by
              rw [ready.path]
              exact rooted_concat.mpr (ready.paved bytes)
            have needs (able : p.Able s.tree (some createdAt)) :
                Publishable (withFile w (p.destination attempt) bytes).tree
                  (p.record attempt createdAt) :=
              ⟨(ready.root bytes).trans able.root, encodeOwnership_short small,
                (ready.marker bytes).trans able.marker⟩
            simp only [unixTimestamp, tries_pure]
            rw [tries_bind]
            apply (tries_recordPlaced orderly (owning _ (p.record_owns attempt createdAt named)) rooted
              (marker_final p.id) image ready.apart.1 none).mono
            · rintro _ _ ⟨publishable, rfl⟩
              exact ⟨attempt, createdAt, ready.chosen, ready.published publishable, rfl, rfl, new,
                ready.faults, only⟩
            · rintro e t (⟨later, last, left, unsynced, unable⟩ | removal |
                ⟨before, after, later, faults⟩)
              · exact ready.failed left unsynced fun none able => unable none (needs able)
              · exact ready.compensating removal
              · have earlier := ready.marker bytes
                rw [withFile_other w bytes ready.apart.1.symm] at earlier
                exact ready.recorded (earlier.symm.trans before) after faults
        · rintro e t (later | removal)
          · apply ready.failed later
            · rw [List.mem_singleton]
              intro same
              have inside := ready.outside
              have root : p.directory = ownershipRoot := by
                injection same with same
                injection same with same
                exact same.symm
              rw [root] at inside
              exact inside List.mem_cons_self
            · simp
          · exact ready.compensating removal
      · intro e t aborted
        rw [Nat.zero_add] at aborted
        apply publishFailed_aborted entered
        apply aborted.weaken
        rintro able
        obtain ⟨attempt, chosen⟩ := able.free
        exact ⟨attempt, (p.chosen_entered entered).mpr chosen⟩
    · intro e refused
      apply publishFailed_left entered (.refl u) List.not_mem_nil
      intro _ able
      cases given : p.publication.filename with
      | none =>
        rw [given] at refused
        cases refused
      | some filename =>
        rw [given, Option.any_some, able.named filename given] at refused
        cases refused
  · rintro e t ⟨u, entered, aborted⟩
    apply publishFailed_aborted entered
    exact aborted.weaken fun able => ⟨able.safe, able.enterable⟩

/-- What makes the publication of some bytes succeed when nothing is at fault. -/
structure Publishing (store : Store) (tree : Tree) (id : Uuid) (now : Option UInt64) (bytes : Bytes)
    (filenamePrefix : Option String) (expected : Option OutputFormat)
    (publication : ArtifactPublication) (metadata : ImageMetadata) : Prop where
  inspected : inspectImage store.tools.toDecoders store.limits bytes = .ok metadata
  expects : ∀ format, expected = some format → format = metadata.format
  able : Placement.Able ⟨publication, filenamePrefix, id, metadata⟩ tree now

theorem tries_publishWithOptions (orderly : AllowsOrderly good terms)
    (owning : ∀ record, OwnsFiles record → good record) (store : Store) (id : Uuid)
    (now : Option UInt64) (bytes : Bytes) (filenamePrefix : Option String)
    (expected : Option OutputFormat) (publication : ArtifactPublication) (s : Session) :
    Tries (contract terms)
      (publishWithOptions store id now bytes filenamePrefix expected publication) s
      (fun stored t => ∃ metadata, inspectImage store.tools.toDecoders store.limits bytes = .ok metadata ∧
        ∃ p : Placement, p = ⟨publication, filenamePrefix, id, metadata⟩ ∧
        ∃ attempt createdAt, p.Chosen s.tree attempt ∧ p.Published bytes attempt createdAt t.tree ∧
        stored.id = id.text ∧ stored.name = placedName publication.directory (p.name attempt) ∧
        ∃ new, t.faults = s.faults ++ new ∧ OnlyDiscards new)
      (fun _ t => PublishFailed
        (∃ metadata, Publishing store s.tree id now bytes filenamePrefix expected publication metadata)
        s t) := by
  have unchanged {able : Prop} (unable : ¬able) : PublishFailed able s s :=
    publishFailed_left (.refl [] s) (.refl s) List.not_mem_nil fun _ => unable
  unfold publishWithOptions
  cases inspected : inspectImage store.tools.toDecoders store.limits bytes with
  | error error =>
    apply unchanged
    rintro ⟨metadata, publishing⟩
    rw [publishing.inspected] at inspected
    cases inspected
  | ok metadata =>
    have known {other : ImageMetadata}
        (publishing : Publishing store s.tree id now bytes filenamePrefix expected publication other) :
        other = metadata := by
      have same := publishing.inspected
      rw [inspected] at same
      cases same
      rfl
    rw [tries_bind]
    apply tries_refuse
    · intro accepted
      have digest : isDigest metadata.sha256 = true := by
        rw [(inspectImage_ok inspected).2.2]
        exact store.tools.sha256_digest bytes
      apply (tries_publishInspected orderly owning ⟨publication, filenamePrefix, id, metadata⟩ now bytes
        digest s).mono
      · rintro stored t ⟨attempt, createdAt, published⟩
        exact ⟨metadata, rfl, _, rfl, attempt, createdAt, published⟩
      · rintro e t ⟨new, faults, unable, left⟩
        refine ⟨new, faults, ?_, left⟩
        rintro none ⟨other, publishing⟩
        obtain rfl := known publishing
        exact unable none publishing.able
    · intro e refused
      apply unchanged
      rintro ⟨other, publishing⟩
      obtain rfl := known publishing
      cases expected with
      | none => cases refused
      | some format =>
        rw [publishing.expects format rfl, Option.any_some] at refused
        simp at refused

end ImagegenBridge.ArtifactStore
