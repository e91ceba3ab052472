import ImagegenBridge.Artifacts.MetadataRoundTrip

/-!
# Embedding another record

A second record takes the place of the first one in PNG and WebP files. A JPEG file keeps both.
-/

namespace ImagegenBridge.Metadata

open Chunks Inspect Materialize Outcome

variable {libraries : Libraries} {limits : ImageLimits} {source first second direct : Bytes}
  {old new : Bytes} {format : OutputFormat} {metadata metadata' metadata'' : ImageMetadata}

/-! ## The records of a file -/

def isJpegXmp (segment : JpegSegment) : Bool :=
  segment.marker == 0xe1 && decide (jpegXmpHeader <+: segment.data)

/-- The XMP records of a file, as its format marks them. -/
def xmpRecords (format : OutputFormat) (bytes : Bytes) : List Bytes :=
  match format with
  | .png => ((pngReader.records (bytes.drop pngSignature.length)).filter isRecord).map (·.data)
  | .jpeg => (((jpegReader.records (bytes.drop 2)).takeWhile (!endsHeaders ·.marker)).filter
      isJpegXmp).map (·.data)
  | .webp => ((webpReader.records (bytes.drop 12)).filter isXmp).map (·.data)

/-! ## PNG -/

theorem same_png {chunks others : List PngChunk} (same : pngFile chunks = pngFile others)
    (reads : ∀ chunk ∈ chunks, pngReader.Reads chunk)
    (reads' : ∀ chunk ∈ others, pngReader.Reads chunk) : chunks = others := by
  have read := Reader.records_all reads
  rw [List.append_cancel_left same, Reader.records_all reads'] at read
  exact read.symm

/-- The earlier record is left out and the new one stands where it stood. -/
theorem embeddedPng_again (old new : Bytes) (chunks : List PngChunk) :
    embeddedPng new (embeddedPng old chunks) = embeddedPng new chunks := by
  induction chunks with
  | nil => rfl
  | cons chunk rest ih =>
    by_cases last : chunk.kind = ascii "IEND"
    · have other : (pngXmpChunk old).kind ≠ ascii "IEND" := by
        rw [pngXmpChunk_kind]
        exact ascii_ne (by decide)
      have kept : (chunk :: rest).filter (!isRecord ·) = chunk :: rest.filter (!isRecord ·) := by
        rw [List.filter_cons, end_not_record last]
        rfl
      have again : (chunk :: rest.filter (!isRecord ·)).filter (!isRecord ·) =
          chunk :: rest.filter (!isRecord ·) := by
        rw [← kept, List.filter_filter]
        simp
      rw [embeddedPng, if_pos last, embeddedPng, if_neg other, if_pos (pngXmpChunk_record old), kept,
        embeddedPng, if_pos last, again, embeddedPng, if_pos last, kept]
    · by_cases record : isRecord chunk = true
      · rw [embeddedPng, if_neg last, if_pos record, ih, embeddedPng, if_neg last, if_pos record]
      · rw [embeddedPng, if_neg last, if_neg record, embeddedPng, if_neg last, if_neg record, ih,
          embeddedPng, if_neg last, if_neg record]

theorem embeddedPng_records {chunks : List PngChunk} (ends : HasEnd chunks) :
    (embeddedPng new chunks).filter isRecord = [pngXmpChunk new] := by
  induction chunks with
  | nil =>
    obtain ⟨chunk, absent, _⟩ := ends
    cases absent
  | cons chunk rest ih =>
    by_cases last : chunk.kind = ascii "IEND"
    · have others : ((chunk :: rest).filter (!isRecord ·)).filter isRecord = [] := by
        rw [List.filter_filter, List.filter_eq_nil_iff]
        intro other _
        simp
      rw [embeddedPng, if_pos last, List.filter_cons, if_pos (pngXmpChunk_record new), others]
    · have later : HasEnd rest := by
        obtain ⟨found, among, kind⟩ := ends
        obtain rfl | inside := List.mem_cons.mp among
        · exact absurd kind last
        · exact ⟨found, inside, kind⟩
      rw [embeddedPng, if_neg last]
      by_cases record : isRecord chunk = true
      · rw [if_pos record]
        exact ih later
      · rw [if_neg record, List.filter_cons, if_neg record]
        exact ih later

theorem embedPng_again (small : Countable old) (small' : Countable new)
    (before : embedPng source old = .ok first) (after : embedPng first new = .ok second)
    (once : embedPng source new = .ok direct) :
    second = direct ∧ (xmpRecords .png second).length = 1 := by
  obtain ⟨chunks, reads, ends, rfl, rfl⟩ := embedPng_ok small before
  obtain ⟨others, reads', _, same, rfl⟩ := embedPng_ok small' after
  obtain rfl := same_png same (embeddedPng_reads small reads) reads'
  have alone := embedPng_file small' reads ends
  rw [once] at alone
  cases alone
  rw [embeddedPng_again]
  refine ⟨rfl, ?_⟩
  rw [xmpRecords, pngFile, List.drop_left, Reader.records_all (embeddedPng_reads small' reads),
    embeddedPng_records ends]
  rfl

/-! ## JPEG -/

theorem embedJpeg_again (before : embedJpeg source old = .ok first)
    (after : embedJpeg first new = .ok second) (once : embedJpeg source new = .ok direct) :
    second ≠ direct := by
  obtain ⟨_, tail, rfl, rfl⟩ := embedJpeg_ok before
  obtain ⟨_, rest, same, rfl⟩ := embedJpeg_ok after
  obtain ⟨_, tail', same', rfl⟩ := embedJpeg_ok once
  obtain rfl := List.append_cancel_left same
  obtain rfl := List.append_cancel_left same'
  intro equal
  have bytes := congrArg List.length equal
  simp only [List.length_append, jpegReader, JpegSegment.raw, jpegXmpSegment, List.length_cons,
    List.length_nil] at bytes
  omega

/-! ## WebP -/

theorem setXmpFlag_again (data : Bytes) : setXmpFlag (setXmpFlag data) = setXmpFlag data := by
  cases data with
  | nil => rfl
  | cons first rest => rw [setXmpFlag, setXmpFlag, UInt8.or_assoc, UInt8.or_self]

theorem isVp8x_rewrite {chunk : WebpChunk} (four : chunk.kind.length = 4) :
    isVp8x (rewrite chunk) = isVp8x chunk := by
  rw [isVp8x, rewrite, writtenChunk_kind four, isVp8x]

theorem rewrite_again {chunk : WebpChunk} (four : chunk.kind.length = 4) :
    rewrite (rewrite chunk) = rewrite chunk := by
  have data : (rewrite chunk).data =
      if isVp8x chunk = true then setXmpFlag chunk.data else chunk.data := rfl
  have kind : (rewrite chunk).kind = chunk.kind := writtenChunk_kind four
  rw [rewrite.eq_1 (rewrite chunk), kind, isVp8x_rewrite four, data, rewrite]
  split
  · rw [setXmpFlag_again]
  · rfl

/-- The flag of the record is among the flags from the start. -/
theorem flags_set (chunks : List WebpChunk) : flagsOf chunks ||| 0x04 = flagsOf chunks := by
  have kept (flags : UInt8) (set : flags ||| 0x04 = flags) :
      chunks.foldl (fun flags chunk => flags ||| flagOf chunk) flags ||| 0x04 =
        chunks.foldl (fun flags chunk => flags ||| flagOf chunk) flags := by
    induction chunks generalizing flags with
    | nil => exact set
    | cons chunk rest ih =>
      refine ih (flags ||| flagOf chunk) ?_
      rw [UInt8.or_assoc, UInt8.or_comm (flagOf chunk), ← UInt8.or_assoc, set]
  exact kept 0x04 rfl

theorem rewrite_vp8x (chunks : List WebpChunk) (width height : Nat) :
    rewrite (vp8xChunk (flagsOf chunks) width height) = vp8xChunk (flagsOf chunks) width height := by
  have four : (ascii "VP8X").length = 4 := length_ascii _
  have own : isVp8x (vp8xChunk (flagsOf chunks) width height) = true := by
    simp [isVp8x, vp8xChunk, writtenChunk_kind four]
  rw [rewrite, if_pos own, vp8xChunk, writtenChunk_kind four]
  simp [writtenChunk, setXmpFlag, flags_set]

/-- A file that was written has a header. -/
theorem embeddedWebp_extended (xmp : Bytes) (width height : Nat) {chunks : List WebpChunk}
    (reads : ∀ chunk ∈ chunks, webpReader.Reads chunk) :
    (embeddedWebp xmp width height chunks).any isVp8x = true := by
  have kinds : (ascii "VP8X").length = 4 ∧ ascii "VP8X" ≠ ascii "XMP " :=
    ⟨length_ascii _, ascii_ne (by decide)⟩
  rw [embeddedWebp, List.any_append, List.any_append, Bool.or_eq_true, Bool.or_eq_true]
  by_cases extended : chunks.any isVp8x = true
  · obtain ⟨header, among, own⟩ := List.any_eq_true.mp extended
    have kind : header.kind = ascii "VP8X" := of_decide_eq_true own
    have copied : isXmp header = false := by simp [isXmp, kind, kinds.2]
    refine Or.inr (Or.inl (List.any_eq_true.mpr ⟨rewrite header, ?_, ?_⟩))
    · exact List.mem_map_of_mem (List.mem_filter.mpr ⟨among, by rw [copied]; rfl⟩)
    · rw [isVp8x_rewrite (reads_formed (reads header among)).1]
      exact own
  · refine Or.inl ?_
    rw [insertedWebp, if_neg extended]
    simp [isVp8x, vp8xChunk, writtenChunk_kind kinds.1]

theorem embeddedWebp_again (width height width' height' : Nat) {chunks : List WebpChunk}
    (reads : ∀ chunk ∈ chunks, webpReader.Reads chunk) :
    embeddedWebp new width' height' (embeddedWebp old width height chunks) =
      embeddedWebp new width height chunks := by
  have unrecorded : (embeddedWebp old width height chunks).filter (!isXmp ·) =
      insertedWebp chunks width height ++ (chunks.filter (!isXmp ·)).map rewrite := by
    have others : ∀ chunk ∈ insertedWebp chunks width height ++
        (chunks.filter (!isXmp ·)).map rewrite, isXmp chunk = false := copies_unrecorded reads
    rw [embeddedWebp, ← List.append_assoc, List.filter_append, List.filter_eq_self.mpr]
    · simp [record_isXmp]
    · intro chunk among
      rw [others chunk among]
      rfl
  have copies : (insertedWebp chunks width height ++ (chunks.filter (!isXmp ·)).map rewrite).map
      rewrite = insertedWebp chunks width height ++ (chunks.filter (!isXmp ·)).map rewrite := by
    rw [List.map_append, List.map_map]
    congr 1
    · unfold insertedWebp
      split
      · rfl
      · rw [List.map_singleton, rewrite_vp8x]
    · refine List.map_congr_left fun chunk among => ?_
      exact rewrite_again (reads_formed (reads chunk (List.mem_of_mem_filter among))).1
  rw [embeddedWebp, insertedWebp, if_pos (embeddedWebp_extended old width height reads), unrecorded,
    copies, List.nil_append, List.append_assoc]
  rfl

theorem embeddedWebp_records (width height : Nat) {chunks : List WebpChunk}
    (reads : ∀ chunk ∈ chunks, webpReader.Reads chunk) :
    (embeddedWebp new width height chunks).filter isXmp = [writtenChunk (ascii "XMP ") new] := by
  have others : ∀ chunk ∈ insertedWebp chunks width height ++
      (chunks.filter (!isXmp ·)).map rewrite, isXmp chunk = false := copies_unrecorded reads
  rw [embeddedWebp, ← List.append_assoc, List.filter_append, List.filter_eq_nil_iff.mpr]
  · simp [record_isXmp]
  · intro chunk among
    rw [others chunk among]
    decide

theorem embedWebp_again {width height width' height' : Nat}
    (before : embedWebp source old width height = .ok first)
    (after : embedWebp first new width' height' = .ok second)
    (once : embedWebp source new width height = .ok direct) :
    second = direct ∧ (xmpRecords .webp second).length = 1 := by
  obtain ⟨chunks, split, writable, rfl⟩ := embedWebp_ok before
  obtain ⟨others, split', writable', rfl⟩ := embedWebp_ok after
  obtain ⟨again, split'', writable'', rfl⟩ := embedWebp_ok once
  have reads : ∀ chunk ∈ embeddedWebp old width height chunks, webpReader.Reads chunk :=
    embeddedWebp_reads writable.short writable.reads
  rw [(riffFile_parts writable.small).rest] at split'
  obtain rfl := same_chunks split' reads writable'.reads
  obtain rfl := same_chunks (split.symm.trans split'') writable.reads writable''.reads
  rw [embeddedWebp_again width height width' height' writable.reads]
  refine ⟨rfl, ?_⟩
  have final : ∀ chunk ∈ embeddedWebp new width height chunks, webpReader.Reads chunk :=
    embeddedWebp_reads writable''.short writable.reads
  rw [xmpRecords, (riffFile_parts writable''.small).rest, Reader.records_all final,
    embeddedWebp_records width height writable.reads]
  rfl

/-! ## All formats -/

/-- Embedding again replaces the earlier record in every format but JPEG. -/
theorem reembedded_iff
    (before : embedImageMetadata libraries limits source format old = .ok (first, metadata))
    (after : embedImageMetadata libraries limits first format new = .ok (second, metadata'))
    (once : embedImageMetadata libraries limits source format new = .ok (direct, metadata'')) :
    second = direct ∧ (xmpRecords format second).length = 1 ↔ format ≠ .jpeg := by
  obtain ⟨valid, ⟨found, inspected, kind, written⟩, _⟩ := embed_ok before
  obtain ⟨valid', ⟨found', _, kind', written'⟩, _⟩ := embed_ok after
  obtain ⟨_, ⟨again, inspected', _, alone⟩, _⟩ := embed_ok once
  obtain rfl : found = again := Except.ok.inj (inspected.symm.trans inspected')
  have small := packet_countable (validateJson_ok.mp valid).2.1
  have small' := packet_countable (validateJson_ok.mp valid').2.1
  unfold embedXmp at written written' alone
  rw [kind] at written alone
  rw [kind'] at written'
  cases format with
  | png => exact iff_of_true (embedPng_again small small' written written' alone) (by decide)
  | jpeg =>
    refine iff_of_false (fun replaced => ?_) (fun other => other rfl)
    exact embedJpeg_again written written' alone replaced.1
  | webp => exact iff_of_true (embedWebp_again written written' alone) (by decide)

/-! ## A picture that keeps a record -/

/-- A grey picture of one pixel, behind its first marker. -/
def greyPixel : Bytes :=
  [0xff, 0xdb, 0x00, 0x43, 0x00] ++ List.replicate 64 0x01 ++
  [0xff, 0xc0, 0x00, 0x0b, 0x08, 0x00, 0x01, 0x00, 0x01, 0x01, 0x01, 0x11, 0x00] ++
  [0xff, 0xc4, 0x00, 0x14, 0x00, 0x01] ++ List.replicate 16 0x00 ++
  [0xff, 0xc4, 0x00, 0x14, 0x10, 0x01] ++ List.replicate 16 0x00 ++
  [0xff, 0xda, 0x00, 0x08, 0x01, 0x01, 0x00, 0x00, 0x3f, 0x00, 0x3f, 0xff, 0xd9]

def hareRecord : Bytes := ascii "\x7b\"version\":2\x7d"

/-- The libraries on that picture. -/
def greyLibraries : Libraries where
  decoders :=
    { imageType := fun _ => some (.known .jpeg)
      blobSize := fun _ => some (1, 1)
      decode := fun _ _ _ => some (1, 1)
      sha256 := fun _ => "e3b0c44298fc1c149afbf4c8996fb92427ae41e4649b934ca495991b7852b855" }
  isObject := fun bytes => decide (bytes = foxRecord ∨ bytes = hareRecord)

theorem grey_onePixel : OnePixel greyLibraries.decoders .jpeg :=
  ⟨fun _ => rfl, fun _ => rfl, fun _ _ => rfl⟩

theorem length_jpegXmpSegment (xmp : Bytes) :
    (jpegReader.raw (jpegXmpSegment xmp)).length = 33 + xmp.length := by
  have header : jpegXmpHeader.length = 29 := length_texts (length_ascii _) rfl
  simp only [jpegReader, JpegSegment.raw, jpegXmpSegment, List.length_append, List.length_cons,
    List.length_nil, length_toBigEndian, header]
  omega

/-- A segment with a record goes before whatever follows the first marker. -/
theorem grey_embeds {record tail : Bytes} (valid : validateJson greyLibraries.isObject record = .ok ())
    (small : tail.length ≤ 100000) :
    ∃ metadata, embedImageMetadata greyLibraries .default (jpegSignature ++ tail) .jpeg record =
      .ok (jpegSignature ++ (jpegReader.raw (jpegXmpSegment (xmpPacket record)) ++ tail),
        metadata) := by
  have long := length_xmpPacket (validateJson_ok.mp valid).2.1
  have header : jpegXmpHeader.length = 29 := length_texts (length_ascii _) rfl
  have segment := length_jpegXmpSegment (xmpPacket record)
  have written : embedJpeg (jpegSignature ++ tail) (xmpPacket record) =
      .ok (jpegSignature ++ (jpegReader.raw (jpegXmpSegment (xmpPacket record)) ++ tail)) := by
    refine bind_ok.mpr ⟨(), (failIf_ok ..).mpr (not_not.mpr ⟨tail, rfl⟩), ?_⟩
    refine bind_ok.mpr ⟨(), (failIf_ok ..).mpr ?_, ?_⟩
    · rw [header]
      omega
    · simp [jpegSignature, jpegReader, JpegSegment.raw, jpegXmpSegment]
  have two : jpegSignature.length = 2 := rfl
  obtain ⟨found, inspected, jpeg, width, height⟩ :=
    grey_onePixel.inspected (jpegSignature ++ tail) (by simp [jpegSignature]) (by
      rw [List.length_append, two]
      omega)
  obtain ⟨metadata, verified, jpeg', width', height'⟩ :=
    grey_onePixel.inspected
      (jpegSignature ++ (jpegReader.raw (jpegXmpSegment (xmpPacket record)) ++ tail))
      (by simp [jpegSignature]) (by
        rw [List.length_append, List.length_append, segment, two]
        omega)
  refine ⟨metadata, embed_made valid inspected jpeg ?_ verified
    ⟨jpeg'.trans jpeg.symm, width'.trans width.symm, height'.trans height.symm⟩⟩
  rw [embedXmp, jpeg]
  exact written

theorem grey_small {xmp tail : Bytes} (packet : xmp.length ≤ 55000) (short : tail.length ≤ 200) :
    (jpegReader.raw (jpegXmpSegment xmp) ++ tail).length ≤ 100000 := by
  rw [List.length_append, length_jpegXmpSegment]
  omega

/-- The picture with one record, with both, and with the later one alone. -/
structure Pictures where
  first : Bytes
  both : Bytes
  alone : Bytes

def Pictures.Made (pictures : Pictures) : Prop :=
  (∃ metadata, embedImageMetadata greyLibraries .default (jpegSignature ++ greyPixel) .jpeg foxRecord =
    .ok (pictures.first, metadata)) ∧
  (∃ metadata, embedImageMetadata greyLibraries .default pictures.first .jpeg hareRecord =
    .ok (pictures.both, metadata)) ∧
  ∃ metadata, embedImageMetadata greyLibraries .default (jpegSignature ++ greyPixel) .jpeg hareRecord =
    .ok (pictures.alone, metadata)

theorem grey_pictures : ∃ pictures : Pictures, pictures.Made := by
  have fox : foxRecord ≠ [] ∧ foxRecord.length ≤ maxEmbeddedMetadataBytes := foxRecord_small
  have hare : hareRecord ≠ [] ∧ hareRecord.length ≤ maxEmbeddedMetadataBytes := by
    rw [hareRecord, ascii_ofList]
    exact ⟨by decide, by decide⟩
  have objects : greyLibraries.isObject foxRecord = true ∧ greyLibraries.isObject hareRecord = true := by
    simp [greyLibraries]
  have valid : validateJson greyLibraries.isObject foxRecord = .ok () :=
    validateJson_ok.mpr ⟨fox.1, fox.2, objects.1⟩
  have valid' : validateJson greyLibraries.isObject hareRecord = .ok () :=
    validateJson_ok.mpr ⟨hare.1, hare.2, objects.2⟩
  have size : greyPixel.length ≤ 200 := by decide +kernel
  have long := grey_small (length_xmpPacket fox.2) size
  exact ⟨⟨_, _, _⟩, grey_embeds valid (by omega), grey_embeds valid' long,
    grey_embeds valid' (by omega)⟩

theorem grey_reembedded : ∃ pictures : Pictures, pictures.Made ∧
    (pictures.both = pictures.alone ∧ (xmpRecords .jpeg pictures.both).length = 1 ↔
      OutputFormat.jpeg ≠ .jpeg) := by
  obtain ⟨pictures, made⟩ := grey_pictures
  obtain ⟨⟨_, first⟩, ⟨_, both⟩, ⟨_, alone⟩⟩ := id made
  exact ⟨pictures, made, reembedded_iff first both alone⟩

/-- The first record is still in the picture behind the second one. -/
theorem grey_keeps : ∃ pictures : Pictures, pictures.Made ∧ pictures.both ≠ pictures.alone := by
  obtain ⟨pictures, made⟩ := grey_pictures
  obtain ⟨⟨_, first⟩, ⟨_, both⟩, ⟨_, alone⟩⟩ := id made
  obtain ⟨_, ⟨found, inspected, kind, written⟩, _⟩ := embed_ok first
  obtain ⟨_, ⟨found', _, kind', written'⟩, _⟩ := embed_ok both
  obtain ⟨_, ⟨_, _, kind'', written''⟩, _⟩ := embed_ok alone
  rw [embedXmp, kind] at written
  rw [embedXmp, kind'] at written'
  rw [embedXmp, kind''] at written''
  exact ⟨pictures, made, embedJpeg_again written written' written''⟩

end ImagegenBridge.Metadata
