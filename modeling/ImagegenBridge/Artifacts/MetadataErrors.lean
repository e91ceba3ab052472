import ImagegenBridge.Artifacts.Metadata
import ImagegenBridge.Runtime.MaterializeErrors

/-!
# The errors of metadata embedding

Every error that embedding raises is an artifact error, so it answers as a `World` does.
-/

namespace ImagegenBridge.Metadata

open Chunks Inspect Materialize Outcome

variable {α β σ ρ : Type}

theorem raises_metadata (message : String) :
    Raises [.artifact] (.error (metadataError message) : Outcome α) :=
  raises_error (by simp [metadataError])

theorem raises_refusal (refused : Prop) [Decidable refused] (message : String) :
    Raises [.artifact] (failIf refused (metadataError message)) := by
  unfold failIf
  split
  · exact raises_metadata message
  · exact raises_ok ()

theorem raises_map {x : Outcome α} (raises : Raises [.artifact] x) (f : α → β) :
    Raises [.artifact] (x.map f) := by
  cases x with
  | error e => exact raises_error (raises e rfl)
  | ok a => exact raises_ok (f a)

theorem raises_slice (size : Nat) (message : String) (stream : List β) :
    Raises [.artifact] (slice size (metadataError message) stream) := by
  unfold slice
  split
  · exact raises_ok _
  · exact raises_metadata message

theorem raises_walk (reader : Reader BridgeError UInt8 ρ) {enter : σ → Outcome σ}
    {visit : σ → ρ → Outcome (Verdict σ)} (reads : ∀ stream, Raises [.artifact] (reader.read stream))
    (enters : ∀ s, Raises [.artifact] (enter s)) (visits : ∀ s r, Raises [.artifact] (visit s r))
    (s : σ) (stream : Bytes) : Raises [.artifact] (reader.walk enter visit s stream) := by
  induction s, stream using Reader.walk.induct reader enter visit with
  | case1 s =>
    rw [Reader.walk]
    exact raises_ok s
  | case2 s b stream e failed =>
    rw [Reader.walk, failed]
    exact raises_error (enters s e failed)
  | case3 s b stream s' entered e failed =>
    rw [Reader.walk, entered]
    dsimp only
    split
    · rename_i e' again
      exact raises_error (reads _ e' again)
    · rename_i again
      rw [failed] at again
      cases again
  | case4 s b stream s' entered r rest taken e failed =>
    rw [Reader.walk, entered]
    dsimp only
    split
    · rename_i e' again
      exact raises_error (reads _ e' again)
    · rename_i r' rest' again
      rw [taken] at again
      cases again
      rw [failed]
      exact raises_error (visits s' r e failed)
  | case5 s b stream s' entered r rest taken t done =>
    rw [Reader.walk, entered]
    dsimp only
    split
    · rename_i e' again
      exact raises_error (reads _ e' again)
    · rename_i r' rest' again
      rw [taken] at again
      cases again
      rw [done]
      exact raises_ok t
  | case6 s b stream s' entered r rest taken t onward ih =>
    rw [Reader.walk, entered]
    dsimp only
    split
    · rename_i e' again
      exact raises_error (reads _ e' again)
    · rename_i r' rest' again
      rw [taken] at again
      cases again
      rw [onward]
      exact ih

theorem pngChunk_raises (stream : Bytes) : Raises [.artifact] (pngChunk stream) :=
  raises_bind (raises_slice _ _ _) fun _ => raises_bind (raises_slice _ _ _) fun _ =>
    raises_bind (raises_slice _ _ _) fun _ => raises_ok _

theorem webpChunk_raises (stream : Bytes) : Raises [.artifact] (webpChunk stream) :=
  raises_bind (raises_slice _ _ _) fun _ => raises_bind (raises_slice _ _ _) fun _ =>
    raises_bind (raises_slice _ _ _) fun _ => raises_ok _

theorem embedPng_raises (bytes xmp : Bytes) : Raises [.artifact] (embedPng bytes xmp) := by
  have copies (state : Bytes × Bool) (chunk : PngChunk) :
      Raises [.artifact] (copyPngChunk xmp state chunk) := by
    have inserts : Raises [.artifact] (insertPngXmp xmp state chunk) := by
      unfold insertPngXmp
      split
      · exact raises_map (raises_bind (raises_refusal _ _) fun _ => raises_ok _) _
      · exact raises_ok _
    exact raises_bind inserts fun _ => raises_ok _
  have walks := raises_walk pngReader pngChunk_raises (fun s => raises_ok s) copies
  exact raises_bind (raises_refusal _ _) fun _ => raises_bind (walks _ _) fun _ =>
    raises_bind (raises_refusal _ _) fun _ => raises_ok _

theorem embedJpeg_raises (bytes xmp : Bytes) : Raises [.artifact] (embedJpeg bytes xmp) :=
  raises_bind (raises_refusal _ _) fun _ => raises_bind (raises_refusal _ _) fun _ => raises_ok _

theorem visitWebpChunks_raises {visit : σ → WebpChunk → Outcome (Verdict σ)}
    (visits : ∀ s chunk, Raises [.artifact] (visit s chunk)) (bytes : Bytes) (s : σ) :
    Raises [.artifact] (visitWebpChunks bytes visit s) := by
  have enters (state : Nat × σ) : Raises [.artifact] (countWebpChunk state) :=
    raises_bind (raises_refusal _ _) fun _ => raises_ok _
  have counted (state : Nat × σ) (chunk : WebpChunk) :
      Raises [.artifact] (visitCounted visit state chunk) := raises_map (visits _ _) _
  have walks := raises_walk webpReader webpChunk_raises enters counted
  exact raises_bind (raises_refusal _ _) fun _ => raises_bind (raises_refusal _ _) fun _ =>
    raises_bind (walks _ _) fun _ => raises_ok _

theorem appendWebpChunk_raises (output kind data : Bytes) :
    Raises [.artifact] (appendWebpChunk output kind data) :=
  raises_bind (raises_refusal _ _) fun _ => raises_bind (raises_refusal _ _) fun _ => raises_ok _

theorem writeU24_raises (value : Nat) : Raises [.artifact] (writeU24 value) :=
  raises_bind (raises_refusal _ _) fun _ => raises_ok _

theorem copyWebpChunk_raises (output : Bytes) (chunk : WebpChunk) :
    Raises [.artifact] (copyWebpChunk output chunk) := by
  unfold copyWebpChunk
  split
  · exact raises_ok _
  split
  · split
    · exact raises_metadata _
    · exact raises_map (appendWebpChunk_raises _ _ _) _
  · exact raises_map (appendWebpChunk_raises _ _ _) _

theorem withVp8x_raises (noted : Bool × UInt8) (output : Bytes) (width height : Nat) :
    Raises [.artifact] (withVp8x noted output width height) := by
  unfold withVp8x
  split
  · exact raises_bind (writeU24_raises _) fun _ => raises_bind (writeU24_raises _) fun _ =>
      appendWebpChunk_raises _ _ _
  · exact raises_ok _

theorem embedWebp_raises (bytes xmp : Bytes) (width height : Nat) :
    Raises [.artifact] (embedWebp bytes xmp width height) := by
  have notes (state : Bool × UInt8) :
      Raises [.artifact] (visitWebpChunks bytes noteWebpChunk state) :=
    visitWebpChunks_raises (fun _ _ => raises_ok _) bytes state
  exact raises_bind (notes _) fun _ => raises_bind (withVp8x_raises _ _ _ _) fun _ =>
    raises_bind (visitWebpChunks_raises copyWebpChunk_raises _ _) fun _ =>
      raises_bind (appendWebpChunk_raises _ _ _) fun _ =>
        raises_bind (raises_refusal _ _) fun _ => raises_ok _

theorem inspectArtifact_raises (libraries : Libraries) (limits : ImageLimits) (bytes : Bytes) :
    Raises [.artifact] (inspectArtifact libraries limits bytes) := by
  unfold inspectArtifact
  cases inspectImage libraries.decoders limits bytes with
  | ok metadata => exact raises_ok metadata
  | error e => exact raises_error (by simp [asArtifactError])

theorem embedImageMetadata_raises (libraries : Libraries) (limits : ImageLimits) (bytes : Bytes)
    (expected : OutputFormat) (encodedJson : Bytes) :
    Raises [.artifact] (embedImageMetadata libraries limits bytes expected encodedJson) := by
  have embeds (source : ImageMetadata) (xmp : Bytes) :
      Raises [.artifact] (embedXmp source bytes xmp) := by
    unfold embedXmp
    split
    · exact embedPng_raises _ _
    · exact embedJpeg_raises _ _
    · exact embedWebp_raises _ _ _ _
  exact raises_bind (raises_refusal _ _) fun _ =>
    raises_bind (inspectArtifact_raises _ _ _) fun _ =>
      raises_bind (raises_refusal _ _) fun _ => raises_bind (embeds _ _) fun _ =>
        raises_bind (inspectArtifact_raises _ _ _) fun _ =>
          raises_bind (raises_refusal _ _) fun _ => raises_ok _

/-! ## As an answer of a world -/

/-- An outcome whose errors are artifact errors. -/
def answered (x : Outcome α) (raises : Raises [.artifact] x) : Except ArtifactError α :=
  match x, raises with
  | .ok value, _ => .ok value
  | .error e, raises => .error ⟨e, List.mem_singleton.mp (raises e rfl)⟩

theorem raised_answered (x : Outcome α) (raises : Raises [.artifact] x) :
    ArtifactError.raised (answered x raises) = x := by
  cases x <;> rfl

end ImagegenBridge.Metadata
