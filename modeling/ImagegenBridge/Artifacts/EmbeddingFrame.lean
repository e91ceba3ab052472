import ImagegenBridge.Artifacts.MetadataReplacement

/-!
# What embedding leaves as it was

Apart from the record, the chunks of the new file are those of the old one. A PNG chunk is copied
with the checksum it had, a WebP chunk is written anew.
-/

namespace ImagegenBridge.Metadata

open Chunks Inspect Materialize Outcome

variable {libraries : Libraries} {limits : ImageLimits} {bytes xmp record out : Bytes}
  {format : OutputFormat} {metadata : ImageMetadata}

/-! ## PNG -/

/-- The checksum is that of the kind and the data. -/
def PngChunk.Checked (chunk : PngChunk) : Prop :=
  chunk.checksum = toBigEndian 4 (crc32 (chunk.kind ++ chunk.data)).toNat

theorem png_formed {chunk : PngChunk} (reads : pngReader.Reads chunk) : chunk.Formed :=
  (pngChunk_ok (reads.2 [])).2

theorem pngXmpChunk_checked (xmp : Bytes) : (pngXmpChunk xmp).Checked := by
  rw [PngChunk.Checked, pngXmpChunk_kind]
  rfl

theorem embeddedPng_others (xmp : Bytes) (chunks : List PngChunk) :
    (embeddedPng xmp chunks).filter (!isRecord ·) = chunks.filter (!isRecord ·) := by
  induction chunks with
  | nil => rfl
  | cons chunk rest ih =>
    rw [embeddedPng]
    split
    · rw [List.filter_cons, pngXmpChunk_record, List.filter_filter]
      simp
    · split
      · rename_i own
        rw [ih, List.filter_cons, own]
        rfl
      · rename_i other
        rw [List.filter_cons, List.filter_cons, ih]

/-- The chunks of the new file: the others in their order, and the record. -/
structure PngFrame (xmp : Bytes) (chunks rows : List PngChunk) : Prop where
  others : rows.filter (!isRecord ·) = chunks.filter (!isRecord ·)
  record : rows.filter isRecord = [pngXmpChunk xmp]
  lengths : ∀ chunk ∈ rows, chunk.Formed
  checksum : (pngXmpChunk xmp).Checked
  /-- A copied chunk has the checksum it had. -/
  checksums : ∀ chunk ∈ rows, chunk.Checked ∨ chunk ∈ chunks

theorem embeddedPng_frame (countable : Countable xmp) {chunks : List PngChunk}
    (reads : ∀ chunk ∈ chunks, pngReader.Reads chunk) (ends : HasEnd chunks) :
    PngFrame xmp chunks (embeddedPng xmp chunks) where
  others := embeddedPng_others xmp chunks
  record := embeddedPng_records ends
  lengths chunk among := png_formed (embeddedPng_reads countable reads chunk among)
  checksum := pngXmpChunk_checked xmp
  checksums := by
    intro chunk among
    cases own : isRecord chunk with
    | true =>
      have alone : chunk ∈ (embeddedPng xmp chunks).filter isRecord := List.mem_filter.mpr ⟨among, own⟩
      rw [embeddedPng_records ends] at alone
      rw [List.mem_singleton.mp alone]
      exact .inl (pngXmpChunk_checked xmp)
    | false =>
      have kept : chunk ∈ (embeddedPng xmp chunks).filter (!isRecord ·) :=
        List.mem_filter.mpr ⟨among, by rw [own]; rfl⟩
      rw [embeddedPng_others] at kept
      exact .inr (List.mem_of_mem_filter kept)

/-! ## JPEG -/

theorem jpeg_formed {segment : JpegSegment} (reads : jpegReader.Reads segment) : segment.Formed :=
  (jpegSegment_ok (reads.2 [])).2

/-- One segment goes before everything that follows the first marker. -/
structure JpegFrame (xmp old new : Bytes) : Prop where
  bytes : new = jpegReader.raw (jpegXmpSegment xmp) ++ old
  segments : jpegReader.records new = jpegXmpSegment xmp :: jpegReader.records old
  length : (jpegXmpSegment xmp).Formed

theorem jpegXmp_frame (fits : FitsSegment xmp) (tail : Bytes) :
    JpegFrame xmp tail (jpegReader.raw (jpegXmpSegment xmp) ++ tail) where
  bytes := rfl
  segments := by
    have own : ∀ segment ∈ [jpegXmpSegment xmp], jpegReader.Reads segment := by
      intro segment among
      rw [List.mem_singleton.mp among]
      exact jpegXmpSegment_reads fits
    have row := Reader.records_append own tail
    rw [List.flatMap_cons, List.flatMap_nil, List.append_nil] at row
    exact row
  length := jpeg_formed (jpegXmpSegment_reads fits)

/-! ## WebP -/

/-- The kind and the data of a chunk, and of the header of an extended file with its flag set. -/
structure Copy (chunk copy : WebpChunk) : Prop where
  kind : copy.kind = chunk.kind
  data : copy.data = if isVp8x chunk = true then setXmpFlag chunk.data else chunk.data
  padding : copy.padding = if copy.data.length % 2 = 1 then [0] else []

/-- A chunk whose size counts its data. -/
def WebpChunk.Sized (chunk : WebpChunk) : Prop :=
  chunk.data.length = chunk.size ∧ chunk.padding.length = chunk.size % 2

/-- The chunks of the new file: a header where there was none, the copies, and the record. -/
structure WebpFrame (xmp : Bytes) (width height : Nat) (chunks inserted copies : List WebpChunk)
    (last : WebpChunk) : Prop where
  header : inserted =
    if chunks.any isVp8x = true then [] else [vp8xChunk (flagsOf chunks) width height]
  others : List.Forall₂ Copy (chunks.filter (!isXmp ·)) copies
  record : last.kind = ascii "XMP " ∧ last.data = xmp
  lengths : ∀ chunk ∈ inserted ++ (copies ++ [last]), chunk.Sized

theorem webp_sized {chunk : WebpChunk} (reads : webpReader.Reads chunk) : chunk.Sized :=
  (webpChunk_ok (reads.2 [])).2.2

theorem rewrite_copy {chunk : WebpChunk} (reads : webpReader.Reads chunk) :
    Copy chunk (rewrite chunk) where
  kind := writtenChunk_kind (reads_formed reads).1
  data := rfl
  padding := rfl

theorem embeddedWebp_frame {width height : Nat} {chunks : List WebpChunk}
    (writable : Writable xmp width height chunks) :
    WebpFrame xmp width height chunks (insertedWebp chunks width height)
      ((chunks.filter (!isXmp ·)).map rewrite) (writtenChunk (ascii "XMP ") xmp) where
  header := rfl
  others := by
    have reads : ∀ chunk ∈ chunks.filter (!isXmp ·), webpReader.Reads chunk :=
      fun chunk among => writable.reads chunk (List.mem_of_mem_filter among)
    generalize chunks.filter (!isXmp ·) = kept at reads
    induction kept with
    | nil => exact .nil
    | cons chunk rest ih =>
      obtain ⟨own, later⟩ := List.forall_mem_cons.mp reads
      exact .cons (rewrite_copy own) (ih later)
  record := ⟨writtenChunk_kind (length_ascii _), rfl⟩
  lengths chunk among := webp_sized (embeddedWebp_reads writable.short writable.reads chunk among)

theorem visit_parts {σ : Type} {visit : σ → WebpChunk → Outcome (Verdict σ)} {s t : σ}
    (visited : visitWebpChunks bytes visit s = .ok t) : RiffParts bytes (bytes.drop 12) := by
  unfold visitWebpChunks at visited
  obtain ⟨_, whole, visited⟩ := bind_ok.mp visited
  obtain ⟨_, sized, _⟩ := bind_ok.mp visited
  rw [failIf_ok, not_or, not_or, not_not, not_not] at whole
  rw [failIf_ok, not_not] at sized
  obtain ⟨long, riff, webp⟩ := whole
  have rest : (bytes.drop 12).length = bytes.length - 12 := List.length_drop
  refine ⟨riff, ?_, webp, rfl, ?_⟩ <;> omega

/-! ## Embedding -/

/-- The new file around the record, for each format. -/
def Framed (format : OutputFormat) (bytes xmp out : Bytes) : Prop :=
  match format with
  | .png => ∃ chunks rows, (∀ chunk ∈ chunks, pngReader.Reads chunk) ∧ bytes = pngFile chunks ∧
      out = pngFile rows ∧ PngFrame xmp chunks rows
  | .jpeg => ∃ old new, bytes = jpegSignature ++ old ∧ out = jpegSignature ++ new ∧
      JpegFrame xmp old new
  | .webp => ∃ width height chunks inserted copies last,
      (∀ chunk ∈ chunks, webpReader.Reads chunk) ∧
      RiffParts bytes (chunks.flatMap webpReader.raw) ∧
      RiffParts out ((inserted ++ (copies ++ [last])).flatMap webpReader.raw) ∧
      WebpFrame xmp width height chunks inserted copies last

theorem embedXmp_framed {source : ImageMetadata} (countable : Countable xmp)
    (written : embedXmp source bytes xmp = .ok out) : Framed source.format bytes xmp out := by
  unfold embedXmp at written
  cases format : source.format with
  | png =>
    rw [format] at written
    obtain ⟨chunks, reads, ends, same, same'⟩ := embedPng_ok countable written
    exact ⟨chunks, _, reads, same, same', embeddedPng_frame countable reads ends⟩
  | jpeg =>
    rw [format] at written
    obtain ⟨fits, tail, same, same'⟩ := embedJpeg_ok written
    exact ⟨tail, _, same, same', jpegXmp_frame fits tail⟩
  | webp =>
    rw [format] at written
    have whole := written
    unfold embedWebp at whole
    obtain ⟨noted, first, _⟩ := bind_ok.mp whole
    obtain ⟨chunks, split, writable, rfl⟩ := embedWebp_ok written
    have source := visit_parts first
    rw [split] at source
    exact ⟨_, _, chunks, _, _, _, writable.reads, source, riffFile_parts writable.small,
      embeddedWebp_frame writable⟩

/-- Every embedding that is accepted frames its record and leaves the rest of the file. -/
theorem embedding_frames
    (ok : embedImageMetadata libraries limits bytes format record = .ok (out, metadata)) :
    Framed format bytes (xmpPacket record) out := by
  obtain ⟨valid, ⟨source, _, rfl, written⟩, _, _⟩ := embed_ok ok
  exact embedXmp_framed (packet_countable (validateJson_ok.mp valid).2.1) written

theorem grey_framed : ∃ out metadata,
    embedImageMetadata greyLibraries .default (jpegSignature ++ greyPixel) .jpeg foxRecord =
      .ok (out, metadata) ∧
    Framed .jpeg (jpegSignature ++ greyPixel) (xmpPacket foxRecord) out := by
  obtain ⟨pictures, ⟨metadata, first⟩, _, _⟩ := grey_pictures
  exact ⟨pictures.first, metadata, first, embedding_frames first⟩

/-! ## A checksum that was wrong before -/

/-- The chunks of a picture of one pixel, with a note whose checksum nobody computed. -/
def strayNote : PngChunk :=
  ⟨[0, 0, 0, 10] ++ ascii "tEXt", ascii "Comment" ++ [0] ++ ascii "hi", [0, 0, 0, 0]⟩

def notedChunks : List PngChunk :=
  [⟨[0, 0, 0, 13] ++ ascii "IHDR", [0, 0, 0, 1, 0, 0, 0, 1, 8, 0, 0, 0, 0], [58, 126, 155, 85]⟩,
    strayNote,
    ⟨[0, 0, 0, 10] ++ ascii "IDAT", [120, 218, 99, 96, 0, 0, 0, 2, 0, 1], [229, 39, 222, 252]⟩,
    ⟨[0, 0, 0, 0] ++ ascii "IEND", [], [174, 66, 96, 130]⟩]

/-- The libraries on that picture. A decoder passes over a note that it cannot check. -/
def notedLibraries : Libraries :=
  { greyLibraries with
    decoders := { greyLibraries.decoders with imageType := fun _ => some (.known .png) } }

structure NotedKinds : Prop where
  formed : ∀ chunk ∈ notedChunks, chunk.Formed
  last : ∃ chunk ∈ notedChunks, chunk.kind = ascii "IEND"
  wrong : ¬strayNote.Checked
  length : (pngFile notedChunks).length = 89

theorem notedKinds : NotedKinds where
  formed := by
    unfold PngChunk.Formed
    decide
  last := by decide
  wrong := by
    unfold PngChunk.Checked
    decide +kernel
  length := by rfl

theorem embeddedPng_before {xmp : Bytes} {before rest : List PngChunk} {last : PngChunk}
    (others : ∀ chunk ∈ before, chunk.kind ≠ ascii "IEND" ∧ isRecord chunk = false)
    (ends : last.kind = ascii "IEND") :
    embeddedPng xmp (before ++ last :: rest) =
      before ++ pngXmpChunk xmp :: (last :: rest).filter (!isRecord ·) := by
  induction before with
  | nil => rw [List.nil_append, embeddedPng, if_pos ends, List.nil_append]
  | cons chunk before ih =>
    obtain ⟨⟨goes, other⟩, later⟩ := List.forall_mem_cons.mp others
    rw [List.cons_append, embeddedPng, if_neg goes, other, if_neg Bool.false_ne_true, ih later,
      List.cons_append]

theorem embeddedPng_noted (xmp : Bytes) :
    embeddedPng xmp notedChunks =
      notedChunks.take 3 ++ pngXmpChunk xmp :: notedChunks.drop 3 := by
  have others : ∀ chunk ∈ notedChunks.take 3,
      chunk.kind ≠ ascii "IEND" ∧ isRecord chunk = false := by
    decide
  have last : (PngChunk.mk ([0, 0, 0, 0] ++ ascii "IEND") [] [174, 66, 96, 130]).kind =
      ascii "IEND" := by
    rfl
  have whole := @embeddedPng_before xmp _ [] _ others last
  rw [List.filter_cons, end_not_record last] at whole
  exact whole

/-- The embedding is accepted, and the new file holds the note with its wrong checksum. -/
theorem stray_checksum_stays : ∃ out metadata rows,
    embedImageMetadata notedLibraries .default (pngFile notedChunks) .png foxRecord =
      .ok (out, metadata) ∧
    out = pngFile rows ∧ (∀ chunk ∈ rows, pngReader.Reads chunk) ∧
    strayNote ∈ rows ∧ ¬strayNote.Checked := by
  obtain ⟨formed, ends, wrong, length⟩ := notedKinds
  have one : OnePixel notedLibraries.decoders .png := ⟨fun _ => rfl, fun _ => rfl, fun _ _ => rfl⟩
  have object : notedLibraries.isObject foxRecord = true := by simp [notedLibraries, greyLibraries]
  have valid : validateJson notedLibraries.isObject foxRecord = .ok () :=
    validateJson_ok.mpr ⟨foxRecord_small.1, foxRecord_small.2, object⟩
  have countable : Countable (xmpPacket foxRecord) := packet_countable foxRecord_small.2
  have reads : ∀ chunk ∈ notedChunks, pngReader.Reads chunk :=
    fun chunk among => png_reads (formed chunk among)
  have among : strayNote ∈ embeddedPng (xmpPacket foxRecord) notedChunks := by
    rw [embeddedPng_noted]
    simp [notedChunks]
  have size : (pngFile (embeddedPng (xmpPacket foxRecord) notedChunks)).length ≤ 200000 := by
    have packet := length_xmpPacket foxRecord_small.2
    have keyword : pngXmpKeyword.length = 17 ∧ (ascii "iTXt").length = 4 := by decide +kernel
    have own : (pngReader.raw (pngXmpChunk (xmpPacket foxRecord))).length =
        34 + (xmpPacket foxRecord).length := by
      simp only [pngReader, PngChunk.raw, pngXmpChunk, pngXmpData, List.length_append,
        length_toBigEndian, keyword, List.length_cons, List.length_nil]
      omega
    have whole : (pngFile (embeddedPng (xmpPacket foxRecord) notedChunks)).length =
        89 + (34 + (xmpPacket foxRecord).length) := by
      rw [← own, ← length, embeddedPng_noted]
      simp only [pngFile, notedChunks, List.take, List.drop, List.flatMap_cons, List.flatMap_nil,
        List.flatMap_append, List.length_append, List.append_nil]
      omega
    omega
  obtain ⟨found, inspected, png, width, height⟩ :=
    one.inspected (pngFile notedChunks) (List.append_ne_nil_of_left_ne_nil (by decide) _) (by omega)
  obtain ⟨metadata, verified, png', width', height'⟩ :=
    one.inspected (pngFile (embeddedPng (xmpPacket foxRecord) notedChunks))
      (List.append_ne_nil_of_left_ne_nil (by decide) _) size
  refine ⟨_, metadata, _, embed_made valid inspected png ?_ verified
    ⟨png'.trans png.symm, width'.trans width.symm, height'.trans height.symm⟩, rfl,
    embeddedPng_reads countable reads, among, wrong⟩
  rw [embedXmp, png]
  exact embedPng_file countable reads ends

end ImagegenBridge.Metadata
