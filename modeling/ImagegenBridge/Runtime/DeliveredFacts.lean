import ImagegenBridge.Runtime.StoredDelivery
import ImagegenBridge.Runtime.DeliveredOutputs

/-!
# What is reported about delivered bytes

The bytes of an image are replaced by the chroma stage and by the embedded record. Whatever
replaces them brings its own inspection along, up to the bytes the caller gets.
-/

namespace ImagegenBridge.StoredDelivery

open Materialize Outcome Program
open Inspect (ImageLimits Decoders inspectImage)
open ArtifactStore (Action Store Stored Grown)
open EmbeddedRecord (utf8)
open Files (Session Tree contract unreliable)

/-- The reported facts are those of the bytes. -/
structure Describes (decoders : Decoders) (bytes : Bytes) (metadata : ImageMetadata) : Prop where
  format : decoders.imageType bytes = some (.known metadata.format)
  dimensions : decoders.blobSize bytes = some (metadata.width, metadata.height)
  length : metadata.bytes = bytes.length
  sha256 : metadata.sha256 = decoders.sha256 bytes

variable {parts : Parts} {decoders : Decoders} {limits : ImageLimits} {config : MaterializationConfig}

theorem orError_ok {α : Type} {value : Option α} {message : String} {a : α}
    (ok : Inspect.orError value message = .ok a) : value = some a := by
  cases value with
  | none => cases ok
  | some b =>
    cases ok
    rfl

theorem edge_ok {value width : Nat} {message : String} (ok : Inspect.edge value message = .ok width) :
    value = width := by
  unfold Inspect.edge at ok
  split at ok
  · cases ok
    rfl
  · cases ok

theorem inspectImage_describes {bytes : Bytes} {metadata : ImageMetadata}
    (inspected : inspectImage decoders limits bytes = .ok metadata) :
    Describes decoders bytes metadata := by
  unfold inspectImage at inspected
  obtain ⟨_, _, inspected⟩ := bind_ok.mp inspected
  obtain ⟨imageType, typed, inspected⟩ := bind_ok.mp inspected
  obtain ⟨format, enabled, inspected⟩ := bind_ok.mp inspected
  obtain ⟨dimensions, sized, inspected⟩ := bind_ok.mp inspected
  obtain ⟨width, wide, inspected⟩ := bind_ok.mp inspected
  obtain ⟨height, high, inspected⟩ := bind_ok.mp inspected
  obtain ⟨_, _, inspected⟩ := bind_ok.mp inspected
  obtain ⟨_, _, inspected⟩ := bind_ok.mp inspected
  obtain ⟨_, _, inspected⟩ := bind_ok.mp inspected
  cases inspected
  have known : imageType = .known format := by
    cases imageType with
    | known => cases enabled; rfl
    | other => cases enabled
  constructor
  · rw [orError_ok typed, known]
  · rw [orError_ok sized, ← edge_ok wide, ← edge_ok high]
  · rfl
  · rfl

/-- An image whose metadata describe its bytes. -/
def Sound (parts : Parts) (image : VerifiedImage) : Prop :=
  Describes parts.libraries.decoders image.bytes image.metadata

theorem verifiedBy_ok {α : Type} {x : Outcome α} {a : α} (ok : verifiedBy x = .ok a) : x = .ok a := by
  cases x with
  | error e => cases ok
  | ok b => exact ok

/-! ## The stages -/

theorem loadResponse_describes {response : Remote.Response} {loaded : Remote.LoadedImage}
    (ok : Remote.loadResponse decoders limits response = .ok loaded) :
    Describes decoders loaded.bytes loaded.metadata := by
  unfold Remote.loadResponse at ok
  obtain ⟨_, _, ok⟩ := bind_ok.mp ok
  obtain ⟨_, _, ok⟩ := bind_ok.mp ok
  obtain ⟨bytes, _, ok⟩ := bind_ok.mp ok
  obtain ⟨metadata, inspected, ok⟩ := bind_ok.mp ok
  cases ok
  exact inspectImage_describes inspected

theorem follow_describes {fetcher : Remote.RemoteImageFetcher} {network : Remote.Network}
    {left count : Nat} {url : Remote.Url} {loaded : Remote.LoadedImage}
    (ok : (fetcher.follow network left count url).1 = .ok loaded) :
    Describes fetcher.decoders loaded.bytes loaded.metadata := by
  induction left generalizing count url with
  | zero => cases ok
  | succ left ih =>
    unfold Remote.RemoteImageFetcher.follow at ok
    split at ok
    · cases ok
    · rename_i pinned _
      split at ok
      · rename_i outcome answer
        unfold Remote.RemoteImageFetcher.answered at answer
        split at answer
        · cases answer
          cases ok
        · split at answer
          · split at answer
            · cases answer
              cases ok
            · split at answer
              · cases answer
                cases ok
              · cases answer
          · cases answer
            exact loadResponse_describes ok
      · exact ih ok

theorem fetch_describes {url : String} {bytes : Bytes} {metadata : ImageMetadata}
    (ok : parts.fetch url = .ok (bytes, metadata)) :
    Describes parts.libraries.decoders bytes metadata := by
  unfold Parts.fetch at ok
  cases fetched : (parts.fetcher.fetch (parts.network url) url).1 with
  | error e =>
    rw [fetched] at ok
    cases ok
  | ok loaded =>
    rw [fetched] at ok
    cases ok
    unfold Remote.RemoteImageFetcher.fetch at fetched
    split at fetched
    · cases fetched
    · exact follow_describes fetched

theorem verify_sound {format : OutputFormat} {image : GeneratedImage} {loaded : VerifiedImage}
    (ok : verify config parts.world format image = .ok loaded) : Sound parts loaded := by
  unfold verify at ok
  obtain ⟨⟨bytes, metadata⟩, loads, ok⟩ := bind_ok.mp ok
  obtain ⟨_, _, ok⟩ := bind_ok.mp ok
  obtain ⟨_, _, ok⟩ := bind_ok.mp ok
  cases ok
  unfold loadImage at loads
  split at loads
  · obtain ⟨_, _, loads⟩ := bind_ok.mp loads
    split at loads
    · cases loads
    · obtain ⟨found, inspected, loads⟩ := bind_ok.mp loads
      cases loads
      exact inspectImage_describes (verifiedBy_ok inspected)
  · split at loads
    · exact fetch_describes (verifiedBy_ok loads)
    · cases loads
  · cases loads
  · cases loads

theorem removeChromaKey_describes {bytes encoded : Bytes} {format : OutputFormat}
    {options : Transparency.ChromaKeyOptions} {metadata : ImageMetadata} {alpha : AlphaSummary}
    (ok : Chroma.removeChromaKey parts.codec bytes format options = .ok (encoded, metadata, alpha)) :
    Describes parts.libraries.decoders encoded metadata := by
  unfold Chroma.removeChromaKey at ok
  obtain ⟨_, _, ok⟩ := bind_ok.mp ok
  obtain ⟨_, _, ok⟩ := bind_ok.mp ok
  obtain ⟨_, _, ok⟩ := bind_ok.mp ok
  obtain ⟨_, _, ok⟩ := bind_ok.mp ok
  obtain ⟨_, _, ok⟩ := bind_ok.mp ok
  obtain ⟨_, _, ok⟩ := bind_ok.mp ok
  obtain ⟨found, inspected, ok⟩ := bind_ok.mp ok
  cases ok
  exact inspectImage_describes inspected

theorem checkAlpha_sound {effective : ImageRequest} {plan : Option Transparency.TransparencyPlan}
    {image checked : VerifiedImage} {notes : List Normalization} (sound : Sound parts image)
    (ok : checkAlpha parts.world effective plan image = .ok (checked, notes)) :
    Sound parts checked := by
  cases plan with
  | some plan =>
    obtain ⟨key, _, ok⟩ := bind_ok.mp ok
    obtain ⟨⟨bytes, metadata, alpha⟩, removed, ok⟩ := bind_ok.mp ok
    cases ok
    exact removeChromaKey_describes (verifiedBy_ok removed)
  | none =>
    simp only [checkAlpha] at ok
    split at ok
    · obtain ⟨alpha, _, ok⟩ := bind_ok.mp ok
      cases ok
      exact sound
    · cases ok
      exact sound

theorem inspectArtifact_describes {libraries : Metadata.Libraries} {bytes : Bytes}
    {metadata : ImageMetadata} (ok : Metadata.inspectArtifact libraries limits bytes = .ok metadata) :
    Describes libraries.decoders bytes metadata := by
  unfold Metadata.inspectArtifact at ok
  cases inspected : inspectImage libraries.decoders limits bytes with
  | error e =>
    rw [inspected] at ok
    cases ok
  | ok found =>
    rw [inspected] at ok
    cases ok
    exact inspectImage_describes inspected

theorem embedImageMetadata_describes {libraries : Metadata.Libraries} {bytes embedded encoded : Bytes}
    {expected : OutputFormat} {before metadata : ImageMetadata}
    (described : Describes libraries.decoders bytes before)
    (ok : Metadata.embedImageMetadata libraries limits bytes expected encoded =
      .ok (embedded, metadata)) :
    Describes libraries.decoders embedded metadata ∧
      (metadata.width, metadata.height) = (before.width, before.height) := by
  unfold Metadata.embedImageMetadata at ok
  obtain ⟨_, _, ok⟩ := bind_ok.mp ok
  obtain ⟨source, first, ok⟩ := bind_ok.mp ok
  obtain ⟨_, _, ok⟩ := bind_ok.mp ok
  obtain ⟨written, _, ok⟩ := bind_ok.mp ok
  obtain ⟨result, second, ok⟩ := bind_ok.mp ok
  obtain ⟨_, unchanged, ok⟩ := bind_ok.mp ok
  cases ok
  rw [failIf_ok, not_or, not_or, not_not, not_not, not_not] at unchanged
  have same : (source.width, source.height) = (before.width, before.height) :=
    Option.some.inj ((inspectArtifact_describes first).dimensions.symm.trans described.dimensions)
  refine ⟨inspectArtifact_describes second, ?_⟩
  rw [← same, unchanged.2.1, unchanged.2.2]

/-- An embedded record brings its own inspection and keeps the dimensions. -/
theorem embed_sound {original effective : ImageRequest} {response : ImageResponse}
    {image embedded : VerifiedImage} (sound : Sound parts image)
    (ok : embed parts.world original effective response image = .ok embedded) :
    Sound parts embedded ∧ dimensionsOf embedded = dimensionsOf image := by
  unfold embed at ok
  split at ok
  · obtain ⟨encoded, _, ok⟩ := bind_ok.mp ok
    obtain ⟨⟨bytes, metadata⟩, embeds, ok⟩ := bind_ok.mp ok
    cases ok
    have written : Metadata.embedImageMetadata parts.libraries parts.limits image.bytes
        image.metadata.format encoded = .ok (bytes, metadata) :=
      (Metadata.raised_answered _ _).symm.trans embeds
    exact embedImageMetadata_describes sound written
  · cases ok
    exact ⟨sound, rfl⟩

/-! ## The first half -/

theorem verifyAll_sound {job : Job} {verified : Verified}
    (ok : verifyAll config parts.world job = .ok verified) :
    ∀ image ∈ verified.images, Sound parts image := by
  obtain ⟨_, _, ok⟩ := bind_ok.mp ok
  obtain ⟨_, _, ok⟩ := bind_ok.mp ok
  obtain ⟨_, _, ok⟩ := bind_ok.mp ok
  apply foldlM_relates (R := fun _ (s : Verified) => ∀ image ∈ s.images, Sound parts image) _ _ ok
  · intro image among
    cases among
  · intro before s image s' sound next
    unfold verifyNext at next
    obtain ⟨loaded, verifies, next⟩ := bind_ok.mp next
    obtain ⟨⟨checked, notes⟩, checks, next⟩ := bind_ok.mp next
    obtain ⟨_, _, next⟩ := bind_ok.mp next
    obtain ⟨_, _, next⟩ := bind_ok.mp next
    cases next
    intro other among
    rcases List.mem_append.mp among with earlier | last
    · exact sound other earlier
    · rw [List.mem_singleton.mp last]
      exact checkAlpha_sound (verify_sound verifies) checks

/-- Dimensions other than the expected ones are the effective size or have a note. -/
def Reported (response : ImageResponse) (expected : ImageSize) (index : Nat)
    (actual : Nat × Nat) : Prop :=
  ∀ requested, expected.dimensions = some requested → actual ≠ requested →
    response.effective.size.dimensions = some actual ∨
      sizeNormalization (s!"data[{index}].size") expected actual.1 actual.2 ∈ response.normalizations

theorem ofDimensions_dimensions {width height : Nat} {size : ImageSize}
    (ok : ImageSize.ofDimensions width height = .ok size) :
    size.dimensions = some (width, height) := by
  unfold ImageSize.ofDimensions at ok
  split at ok
  · cases ok
    rfl
  · cases ok

theorem reportSize_reports {response reported : ImageResponse} {expected : ImageSize}
    {requested : Nat × Nat} {first : VerifiedImage} {rest : List VerifiedImage}
    (explicit : expected.dimensions = some requested)
    (ok : reportSize response expected requested first rest = .ok reported) :
    ∀ image ∈ first :: rest, Reported reported expected image.index (dimensionsOf image) := by
  intro image among other same different
  rw [explicit] at same
  cases same
  unfold reportSize at ok
  dsimp only at ok
  split at ok
  · rename_i uniform
    obtain ⟨size, sized, ok⟩ := bind_ok.mp ok
    cases ok
    left
    have actual : dimensionsOf image = dimensionsOf first := by
      rcases List.mem_cons.mp among with rfl | later
      · rfl
      · exact beq_iff_eq.mp (List.all_eq_true.mp uniform image later)
    rw [actual]
    exact ofDimensions_dimensions sized
  · cases ok
    right
    apply List.mem_append_right
    apply List.mem_map.mpr
    exact ⟨image, List.mem_filter.mpr ⟨among, bne_iff_ne.mpr different⟩, rfl⟩

theorem reconcileDimensions_reports {response reconciled : ImageResponse}
    {verified : List VerifiedImage} {expected : ImageSize}
    (ok : reconcileDimensions response verified expected = .ok reconciled) :
    ∀ image ∈ verified, Reported reconciled expected image.index (dimensionsOf image) := by
  intro image among
  unfold reconcileDimensions at ok
  split at ok
  · rename_i automatic
    intro requested explicit
    rw [automatic] at explicit
    cases explicit
  · cases among
  · rename_i requested first rest explicit
    split at ok
    · rename_i uniform
      intro other same different
      rw [explicit] at same
      cases same
      exact absurd (beq_iff_eq.mp (List.all_eq_true.mp uniform image among)) different
    · obtain ⟨reported, reports, ok⟩ := bind_ok.mp ok
      cases ok
      have noted := reportSize_reports explicit reports image among
      unfold warnOnce
      split
      · exact noted
      · exact noted

/-! ## The second half -/

/-- The bytes behind a payload. Nothing is delivered where only metadata are asked for. -/
def Holds (parts : Parts) (config : MaterializationConfig) (tree : Tree) :
    ImagePayload → Bytes → Prop
  | .b64Json text, bytes => Base64.decodePadded (utf8 text) = some bytes
  | .artifact _ name, bytes => ∃ given, name = some given ∧ Stored tree given bytes
  | .url url, bytes => ∃ name,
      config.publicArtifactBaseUrl.bind (parts.world.joinUrl · name) = some url ∧
        Stored tree name bytes
  | .metadata, _ => True

def factsOf (image : GeneratedImage) : ImageMetadata where
  format := image.format
  width := image.width
  height := image.height
  bytes := image.bytes
  sha256 := image.sha256

/-- The bytes that are delivered are the ones the image describes. -/
def Delivered (parts : Parts) (config : MaterializationConfig) (tree : Tree)
    (image : GeneratedImage) : Prop :=
  ∃ bytes, Holds parts config tree image.payload bytes ∧
    Describes parts.libraries.decoders bytes (factsOf image)

theorem Holds.grown {before after : Tree} {payload : ImagePayload} {bytes : Bytes}
    (holds : Holds parts config before payload bytes) (grown : Grown before after) :
    Holds parts config after payload bytes := by
  cases payload with
  | b64Json | metadata => exact holds
  | artifact id name =>
    obtain ⟨given, same, stored⟩ := holds
    exact ⟨given, same, stored.grown grown⟩
  | url url =>
    obtain ⟨name, joined, stored⟩ := holds
    exact ⟨name, joined, stored.grown grown⟩

theorem tries_lifted {α : Type} {x : Outcome α} {s : Session} {ok : α → Session → Prop} :
    Tries (contract unreliable) (lifted x) s ok (fun _ _ => True) ↔ ∀ a, x = .ok a → ok a s := by
  cases x with
  | error e =>
    constructor
    · intro _ a impossible
      cases impossible
    · intro _
      trivial
  | ok a =>
    constructor
    · intro kept b same
      cases same
      exact kept
    · intro fine
      exact fine a rfl

theorem utf8_base64 (bytes : Bytes) : utf8 (parts.world.encode bytes) = Base64.encodePadded bytes := by
  have ascii := Base64.encodePadded_ascii bytes
  have single : ∀ n < 128, String.utf8EncodeChar (Char.ofNat n) = [UInt8.ofNat n] := by
    decide +kernel
  unfold utf8
  show (String.ofList _).toList.flatMap _ = _
  rw [String.toList_ofList]
  generalize Base64.encodePadded bytes = text at ascii ⊢
  induction text with
  | nil => rfl
  | cons b rest ih =>
    obtain ⟨small, later⟩ := List.forall_mem_cons.mp ascii
    rw [List.map_cons, List.flatMap_cons, single b.toNat small, ih later, UInt8.ofNat_toNat]
    rfl

theorem tries_publish (store : Store) (ids : Nat → ArtifactStore.Uuid) (clock : Nat → Option UInt64)
    (image : VerifiedImage) (output : OutputOptions) (s : Session) :
    Tries (contract unreliable) (publish (storing store ids clock) config parts.world image output) s
      (fun payload t => Grown s.tree t.tree ∧ Holds parts config t.tree payload image.bytes)
      fun _ _ => True := by
  unfold publish
  rw [tries_bind]
  apply tries_lifted.mpr
  intro _ _
  rw [tries_bind]
  apply tries_lifted.mpr
  intro _ _
  rw [tries_bind]
  unfold storing
  rw [tries_bind]
  apply (ArtifactStore.publish_stores store (ids image.index) (clock image.index) image.bytes
    output.filenamePrefix (some image.metadata.format) _ s).mono
  · rintro stored t ⟨grown, kept⟩
    rw [tries_pure]
    apply tries_lifted.mpr
    intro payload given
    refine ⟨grown, ?_⟩
    unfold storedPayload at given
    split at given
    · cases given
      exact ⟨_, rfl, kept⟩
    · split at given
      · rename_i url joined
        cases given
        exact ⟨_, joined, kept⟩
      · cases given
  · intro e t _
    trivial

theorem tries_deliver (store : Store) (ids : Nat → ArtifactStore.Uuid) (clock : Nat → Option UInt64)
    (image : VerifiedImage) (output : OutputOptions) (s : Session) :
    Tries (contract unreliable) (deliver (storing store ids clock) config parts.world image output) s
      (fun payload t => Grown s.tree t.tree ∧ Holds parts config t.tree payload image.bytes)
      fun _ _ => True := by
  unfold deliver
  split
  · apply tries_lifted.mpr
    intro payload given
    cases given
    refine ⟨.refl _, ?_⟩
    show Base64.decodePadded (utf8 (parts.world.encode image.bytes)) = some image.bytes
    rw [utf8_base64, Base64.decodePadded_encodePadded]
  · apply tries_lifted.mpr
    intro payload given
    cases given
    exact ⟨.refl _, trivial⟩
  all_goals exact tries_publish store ids clock image output s

/-- What a round of the second half leaves: images that are delivered and that the response reports. -/
def Projection (parts : Parts) (config : MaterializationConfig) (response : ImageResponse)
    (expected : ImageSize) (s : Projected) (tree : Tree) : Prop :=
  ∀ image ∈ s.images, Delivered parts config tree image ∧
    Reported response expected image.index (image.width, image.height)

theorem tries_projectNext (store : Store) (ids : Nat → ArtifactStore.Uuid)
    (clock : Nat → Option UInt64) (job : Job) {response : ImageResponse} {expected : ImageSize}
    {p : Projected} {image : VerifiedImage} {s : Session} (sound : Sound parts image)
    (reported : Reported response expected image.index (dimensionsOf image))
    (before : Projection parts config response expected p s.tree) :
    Tries (contract unreliable)
      (projectNext (storing store ids clock) config parts.world job response p image) s
      (fun p' t => Projection parts config response expected p' t.tree) fun _ _ => True := by
  unfold projectNext
  rw [tries_bind]
  apply tries_lifted.mpr
  intro embedded embeds
  obtain ⟨sound', same⟩ := embed_sound sound embeds
  rw [tries_bind]
  apply (tries_deliver store ids clock embedded job.effective.output s).mono
  · rintro payload t ⟨grown, holds⟩
    apply tries_lifted.mpr
    intro p' counts
    unfold counted at counts
    obtain ⟨_, _, counts⟩ := bind_ok.mp counts
    obtain ⟨_, _, counts⟩ := bind_ok.mp counts
    cases counts
    intro other among
    rcases List.mem_append.mp among with earlier | last
    · obtain ⟨⟨bytes, held, described⟩, noted⟩ := before other earlier
      exact ⟨⟨bytes, held.grown grown, described⟩, noted⟩
    · rw [List.mem_singleton.mp last]
      refine ⟨⟨embedded.bytes, holds, sound'⟩, ?_⟩
      show Reported response expected embedded.index (dimensionsOf embedded)
      rw [embed_index embeds, same]
      exact reported
  · intro e t _
    trivial

theorem tries_projections (store : Store) (ids : Nat → ArtifactStore.Uuid)
    (clock : Nat → Option UInt64) (job : Job) {response : ImageResponse} {expected : ImageSize}
    {images : List VerifiedImage} {p : Projected} {s : Session}
    (sound : ∀ image ∈ images, Sound parts image)
    (reported : ∀ image ∈ images, Reported response expected image.index (dimensionsOf image))
    (before : Projection parts config response expected p s.tree) :
    Tries (contract unreliable)
      (images.foldlM (projectNext (storing store ids clock) config parts.world job response) p) s
      (fun p' t => Projection parts config response expected p' t.tree) fun _ _ => True := by
  induction images generalizing p s with
  | nil => exact before
  | cons image rest ih =>
    obtain ⟨first, later⟩ := List.forall_mem_cons.mp sound
    obtain ⟨noted, others⟩ := List.forall_mem_cons.mp reported
    rw [List.foldlM_cons, tries_bind]
    apply (tries_projectNext store ids clock job first noted before).mono
    · intro p' t projected
      exact ih later others projected
    · intro e t _
      trivial

/-- Every image of a successful materialization is described by the bytes that are delivered for it,
and the response reports the dimensions that were not asked for. -/
theorem delivered_as_reported (parts : Parts) (config : MaterializationConfig) (store : Store)
    (ids : Nat → ArtifactStore.Uuid) (clock : Nat → Option UInt64) (job : Job) (s : Session) :
    Tries (contract unreliable)
      (materialize (storing store ids clock) config parts.world job) s
      (fun response t => ∀ image ∈ response.data, Delivered parts config t.tree image ∧
        Reported response job.effective.parameters.size image.index (image.width, image.height))
      fun _ _ => True := by
  unfold materialize
  rw [tries_bind]
  apply tries_lifted.mpr
  intro verified verifies
  unfold projectAll
  rw [tries_bind]
  apply tries_lifted.mpr
  intro response reconciles
  rw [tries_bind]
  have empty : Projection parts config response job.effective.parameters.size
      { aggregateBytes := verified.aggregateBytes, images := [] } s.tree := by
    intro image among
    cases among
  apply (tries_projections store ids clock job (verifyAll_sound verifies)
    (reconcileDimensions_reports reconciles) empty).mono
  · intro projected t all
    apply tries_lifted.mpr
    intro final same
    cases same
    exact all
  · intro e t _
    trivial

end ImagegenBridge.StoredDelivery
