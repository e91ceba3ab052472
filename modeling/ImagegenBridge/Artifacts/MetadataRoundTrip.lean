import ImagegenBridge.Artifacts.MetadataContainers
import ImagegenBridge.Artifacts.WebpContainer

/-!
# The record that was embedded is extracted

The packet of a record keeps every bound of the readers. Only the number of chunks that the
writer leaves in a WebP file can be one that the reader refuses.
-/

namespace ImagegenBridge.Metadata

open Chunks Inspect Materialize Outcome

variable {libraries : Libraries} {limits : ImageLimits} {bytes xmp out record : Bytes}
  {format : OutputFormat} {metadata : ImageMetadata}

/-! ## The packet -/

theorem validateJson_ok {isObject : Bytes → Bool} :
    validateJson isObject record = .ok () ↔
      record ≠ [] ∧ record.length ≤ maxEmbeddedMetadataBytes ∧ isObject record = true := by
  simp [validateJson, not_or, List.isEmpty_iff]

theorem length_xmpStart : xmpStart.length ≤ 280 := by
  refine Eq.trans_le (length_texts (length_texts (length_texts (length_ascii _) (length_ascii _))
    (length_ascii _)) (length_ascii _)) ?_
  decide

/-- The packet of the largest record is below every limit. -/
theorem length_xmpPacket (small : record.length ≤ maxEmbeddedMetadataBytes) :
    (xmpPacket record).length ≤ 55000 := by
  have start := length_xmpStart
  have opening : xmpOpen.length = 14 := length_ascii _
  have closing : xmpClose.length = 15 := length_ascii _
  have ending : xmpEnd.length = 40 := length_ascii _
  have coded := Base64.length_encodePadded record
  have most : maxEmbeddedMetadataBytes = 40960 := rfl
  simp only [xmpPacket, List.length_append, coded]
  generalize xmpStart.length = before, xmpOpen.length = o, xmpClose.length = c,
    xmpEnd.length = after at start opening closing ending ⊢
  omega

theorem boundedXmp_packet (small : record.length ≤ maxEmbeddedMetadataBytes) :
    boundedXmp (xmpPacket record) = .ok (xmpPacket record) := by
  have long := length_xmpPacket small
  have most : maxXmpBytes = 57344 := rfl
  have some_bytes : xmpPacket record ≠ [] := by
    have opening : xmpOpen.length = 14 := length_ascii _
    rw [← List.length_pos_iff, xmpPacket, List.length_append, List.length_append, opening]
    omega
  refine bind_ok.mpr ⟨(), (failIf_ok ..).mpr ?_, rfl⟩
  rw [List.isEmpty_iff, not_or]
  exact ⟨some_bytes, by omega⟩

theorem packet_countable (small : record.length ≤ maxEmbeddedMetadataBytes) :
    Countable (xmpPacket record) := by
  have long := length_xmpPacket small
  have keyword : pngXmpKeyword.length = 17 := length_ascii _
  simp only [Countable, pngXmpData, List.length_append, keyword, List.length_cons, List.length_nil]
  omega

/-- The marks of a packet stand where they were written. -/
theorem between_packet (record : Bytes) :
    between (xmpPacket record) xmpOpen xmpClose = some (Base64.encodePadded record) := by
  have start : cut xmpOpen (xmpStart ++ xmpOpen) = some (xmpStart, []) := by
    unfold xmpStart xmpOpen
    repeat rw [ascii_ofList]
    decide +kernel
  have opened := cut_append start (Base64.encodePadded record ++ (xmpClose ++ xmpEnd))
  rw [List.append_assoc, List.nil_append] at opened
  obtain ⟨rest, tag⟩ : ∃ rest, xmpClose = 60 :: rest := ⟨_, rfl⟩
  have closed : cut xmpClose (Base64.encodePadded record ++ (xmpClose ++ xmpEnd)) =
      some (Base64.encodePadded record, xmpEnd) := by
    rw [tag]
    exact cut_fresh (Base64.encodePadded_plain record) xmpEnd
  rw [between, xmpPacket, opened]
  dsimp only [Option.bind_eq_bind, Option.bind_some]
  rw [closed]
  rfl

theorem decodeXmp_ok {isObject : Bytes → Bool} {encoded : Bytes}
    (marked : between xmp xmpOpen xmpClose = some encoded)
    (decoded : Base64.decodePadded encoded = some record)
    (valid : validateJson isObject record = .ok ()) : decodeXmp isObject xmp = .ok record := by
  rw [decodeXmp, marked]
  dsimp only
  rw [decoded]
  dsimp only
  rw [valid]
  rfl

theorem decodeXmp_packet {isObject : Bytes → Bool} (valid : validateJson isObject record = .ok ()) :
    decodeXmp isObject (xmpPacket record) = .ok record :=
  decodeXmp_ok (between_packet record) (Base64.decodePadded_encodePadded record) valid

/-! ## Round trips -/

/-- The chunks a writer leaves in a WebP file: the copies, the record, and a header where the
file had none. -/
def writtenWebpChunks (bytes : Bytes) : Nat :=
  let chunks := webpReader.records (bytes.drop 12)
  (if chunks.any isVp8x = true then 0 else 1) + (chunks.filter (!isXmp ·)).length + 1

/-- A file that the writer fills beyond the limit of the reader. -/
def Crowded (format : OutputFormat) (bytes : Bytes) : Prop :=
  format = .webp ∧ writtenWebpChunks bytes > maxWebpChunks

instance : Decidable (Crowded format bytes) := inferInstanceAs (Decidable (_ ∧ _))

theorem embeddedWebp_count {width height : Nat} {chunks : List WebpChunk}
    (split : bytes.drop 12 = chunks.flatMap webpReader.raw)
    (reads : ∀ chunk ∈ chunks, webpReader.Reads chunk) :
    (embeddedWebp xmp width height chunks).length = writtenWebpChunks bytes := by
  rw [writtenWebpChunks, split, Reader.records_all reads, embeddedWebp, insertedWebp]
  split
  · simp
  · simp
    omega

/-- What an embedding that succeeded has read and found. -/
structure Embedded (libraries : Libraries) (limits : ImageLimits) (bytes : Bytes)
    (format : OutputFormat) (record out : Bytes) (metadata : ImageMetadata) : Prop where
  valid : validateJson libraries.isObject record = .ok ()
  written : ∃ source, inspectArtifact libraries limits bytes = .ok source ∧ source.format = format ∧
    embedXmp source bytes (xmpPacket record) = .ok out
  verified : inspectArtifact libraries limits out = .ok metadata
  kept : metadata.format = format

theorem embed_ok (ok : embedImageMetadata libraries limits bytes format record = .ok (out, metadata)) :
    Embedded libraries limits bytes format record out metadata := by
  unfold embedImageMetadata at ok
  obtain ⟨_, valid, ok⟩ := bind_ok.mp ok
  obtain ⟨source, inspected, ok⟩ := bind_ok.mp ok
  obtain ⟨_, expected, ok⟩ := bind_ok.mp ok
  obtain ⟨embedded, written, ok⟩ := bind_ok.mp ok
  obtain ⟨result, verified, ok⟩ := bind_ok.mp ok
  obtain ⟨_, same, ok⟩ := bind_ok.mp ok
  cases ok
  rw [failIf_ok, not_not] at expected
  rw [failIf_ok, not_or, not_not] at same
  exact ⟨valid, ⟨source, inspected, expected, written⟩, verified, same.1.trans expected⟩

theorem embed_made {source : ImageMetadata} (valid : validateJson libraries.isObject record = .ok ())
    (inspected : inspectArtifact libraries limits bytes = .ok source) (kind : source.format = format)
    (written : embedXmp source bytes (xmpPacket record) = .ok out)
    (verified : inspectArtifact libraries limits out = .ok metadata)
    (kept : metadata.format = source.format ∧ metadata.width = source.width ∧
      metadata.height = source.height) :
    embedImageMetadata libraries limits bytes format record = .ok (out, metadata) := by
  obtain ⟨same, width, height⟩ := kept
  refine bind_ok.mpr ⟨(), valid, bind_ok.mpr ⟨source, inspected, ?_⟩⟩
  refine bind_ok.mpr ⟨(), (failIf_ok ..).mpr (not_not.mpr kind), bind_ok.mpr ⟨out, written, ?_⟩⟩
  refine bind_ok.mpr ⟨metadata, verified, bind_ok.mpr ⟨(), (failIf_ok ..).mpr ?_, rfl⟩⟩
  simp [same, width, height]

/-- The reader finds the packet that the writer left. -/
theorem extractXmp_embedded {source : ImageMetadata} (small : record.length ≤ maxEmbeddedMetadataBytes)
    (written : embedXmp source bytes (xmpPacket record) = .ok out) :
    extractXmp source.format out =
      if Crowded source.format bytes then
        .error (metadataError "WebP chunk count exceeds the limit")
      else .ok (some (xmpPacket record)) := by
  have countable := packet_countable small
  have bounded : (boundedXmp (xmpPacket record)).map some = .ok (some (xmpPacket record)) := by
    rw [boundedXmp_packet small]
    rfl
  unfold embedXmp at written
  cases format : source.format with
  | png =>
    rw [format] at written
    obtain ⟨chunks, reads, ends, rfl, rfl⟩ := embedPng_ok countable written
    have sparse : ¬Crowded .png (pngFile chunks) := fun crowded => by cases crowded.1
    rw [if_neg sparse, ← bounded]
    exact extractPng_embedded countable reads ends
  | jpeg =>
    rw [format] at written
    obtain ⟨fits, tail, rfl, rfl⟩ := embedJpeg_ok written
    have sparse : ¬Crowded .jpeg (jpegSignature ++ tail) := fun crowded => by cases crowded.1
    rw [if_neg sparse, ← bounded]
    exact extractJpeg_embedded fits tail
  | webp =>
    rw [format] at written
    obtain ⟨chunks, split, writable, rfl⟩ := embedWebp_ok written
    have count : (embeddedWebp (xmpPacket record) source.width source.height chunks).length =
        writtenWebpChunks bytes := embeddedWebp_count split writable.reads
    refine (extractWebp_embedded writable).trans ?_
    rw [count, bounded]
    by_cases few : writtenWebpChunks bytes ≤ maxWebpChunks
    · rw [if_pos few, if_neg (fun crowded => by have := crowded.2; omega)]
    · rw [if_neg few, if_pos ⟨rfl, Nat.lt_of_not_le few⟩]

theorem extract_embedded
    (ok : embedImageMetadata libraries limits bytes format record = .ok (out, metadata)) :
    extractEmbeddedMetadata libraries limits out =
      if Crowded format bytes then .error (metadataError "WebP chunk count exceeds the limit")
      else .ok (some record) := by
  obtain ⟨valid, ⟨source, _, rfl, written⟩, verified, kept⟩ := embed_ok ok
  have small := (validateJson_ok.mp valid).2.1
  have found := extractXmp_embedded small written
  unfold extractEmbeddedMetadata
  rw [verified]
  dsimp only [bind, Except.bind]
  rw [kept, found]
  by_cases crowded : Crowded source.format bytes
  · rw [if_pos crowded, if_pos crowded]
  · rw [if_neg crowded, if_neg crowded]
    dsimp only
    rw [decodeXmp_packet valid]
    rfl

/-- An embedded record is extracted unless its WebP file has become too crowded. -/
theorem embedded_extracted_iff
    (ok : embedImageMetadata libraries limits bytes format record = .ok (out, metadata)) :
    extractEmbeddedMetadata libraries limits out = .ok (some record) ↔ ¬Crowded format bytes := by
  rw [extract_embedded ok]
  by_cases crowded : Crowded format bytes
  · simp [crowded]
  · simp [crowded]

/-! ## One pixel among other chunks -/

/-- The decoders take every file for a picture of one pixel. -/
structure OnePixel (decoders : Decoders) (format : OutputFormat) : Prop where
  imageType : ∀ bytes, decoders.imageType bytes = some (.known format)
  blobSize : ∀ bytes, decoders.blobSize bytes = some (1, 1)
  decode : ∀ bytes limits, decoders.decode bytes format limits = some (1, 1)

theorem OnePixel.inspected (one : OnePixel libraries.decoders format) (bytes : Bytes)
    (filled : bytes ≠ []) (small : bytes.length ≤ 200000) :
    ∃ metadata, inspectArtifact libraries .default bytes = .ok metadata ∧
      metadata.format = format ∧ metadata.width = 1 ∧ metadata.height = 1 := by
  have limit : ImageLimits.default.maxEncodedBytes = 33554432 := rfl
  have bounds : ¬(bytes.isEmpty = true ∨ bytes.length > ImageLimits.default.maxEncodedBytes) := by
    rw [List.isEmpty_iff, not_or]
    exact ⟨filled, by omega⟩
  have inspected : inspectImage libraries.decoders .default bytes =
      .ok ⟨format, 1, 1, bytes.length, libraries.decoders.sha256 bytes⟩ := by
    have known : orError (libraries.decoders.imageType bytes)
        "input is not a supported PNG, JPEG, or WebP image" = .ok (.known format) := by
      rw [one.imageType]
      rfl
    have size : orError (libraries.decoders.blobSize bytes) "could not read image dimensions" =
        .ok (1, 1) := by
      rw [one.blobSize]
      rfl
    have decoded : orError (libraries.decoders.decode bytes format .default)
        "image payload is malformed or incomplete" = .ok (1, 1) := by
      rw [one.decode]
      rfl
    refine bind_ok.mpr ⟨(), (failIf_ok ..).mpr bounds, bind_ok.mpr ⟨_, known, ?_⟩⟩
    refine bind_ok.mpr ⟨format, rfl, bind_ok.mpr ⟨_, size, ?_⟩⟩
    refine bind_ok.mpr ⟨1, rfl, bind_ok.mpr ⟨1, rfl, bind_ok.mpr ⟨(), rfl, ?_⟩⟩⟩
    exact bind_ok.mpr ⟨_, decoded, rfl⟩
  refine ⟨⟨format, 1, 1, bytes.length, libraries.decoders.sha256 bytes⟩, ?_, rfl, rfl, rfl⟩
  rw [inspectArtifact, inspected]
  rfl

/-- A lossless picture of one pixel. -/
def pixelChunk : WebpChunk :=
  writtenChunk (ascii "VP8L") [0x2f, 0, 0, 0, 0x10, 0x07, 0x10, 0x11, 0x11, 0x88, 0x88, 0xfe, 0x07]

def emptyChunk : WebpChunk := writtenChunk (ascii "JUNK") []

def pixelChunks (others : Nat) : List WebpChunk := pixelChunk :: List.replicate others emptyChunk

/-- A picture of one pixel with empty chunks behind it. -/
def pixelFile (others : Nat) : Bytes := riffFile ((pixelChunks others).flatMap webpReader.raw)

def foxRecord : Bytes := ascii "\x7b\"prompt\":\"a paper fox\",\"model\":\"gpt-image-2\"\x7d"

/-- The libraries on files of one pixel. -/
def pixelLibraries : Libraries where
  decoders :=
    { imageType := fun _ => some (.known .webp)
      blobSize := fun _ => some (1, 1)
      decode := fun _ _ _ => some (1, 1)
      sha256 := fun _ => "e3b0c44298fc1c149afbf4c8996fb92427ae41e4649b934ca495991b7852b855" }
  isObject := fun bytes => decide (bytes = foxRecord)

theorem length_riffFile (body : Bytes) : (riffFile body).length = body.length + 12 := by
  have literals : (ascii "RIFF").length = 4 ∧ (ascii "WEBP").length = 4 :=
    ⟨length_ascii _, length_ascii _⟩
  simp only [riffFile, List.length_append, literals, length_toLittleEndian]
  omega

theorem pixel_inspected {body : Bytes} (small : body.length ≤ 100000) :
    ∃ metadata, inspectArtifact pixelLibraries .default (riffFile body) = .ok metadata ∧
      metadata.format = .webp ∧ metadata.width = 1 ∧ metadata.height = 1 := by
  have one : OnePixel pixelLibraries.decoders .webp := ⟨fun _ => rfl, fun _ => rfl, fun _ _ => rfl⟩
  have long := length_riffFile body
  apply one.inspected (riffFile body)
  · rw [← List.length_pos_iff]
    omega
  · omega

/-- The literals of a file of one pixel. -/
structure PixelKinds : Prop where
  lengths : (ascii "VP8L").length = 4 ∧ (ascii "JUNK").length = 4
  picture : isXmp pixelChunk = false ∧ isVp8x pixelChunk = false
  empty : isXmp emptyChunk = false ∧ isVp8x emptyChunk = false
  bytes : (webpReader.raw pixelChunk).length = 22 ∧ (webpReader.raw emptyChunk).length = 8
  copies : rewrite pixelChunk = pixelChunk ∧ rewrite emptyChunk = emptyChunk

theorem pixelKinds : PixelKinds := by
  constructor
  case lengths => exact ⟨length_ascii _, length_ascii _⟩
  case picture =>
    unfold isXmp isVp8x pixelChunk writtenChunk
    repeat rw [ascii_ofList]
    exact ⟨rfl, rfl⟩
  case empty =>
    unfold isXmp isVp8x emptyChunk writtenChunk
    repeat rw [ascii_ofList]
    exact ⟨rfl, rfl⟩
  case bytes | copies =>
    unfold pixelChunk emptyChunk writtenChunk
    repeat rw [ascii_ofList]
    exact ⟨rfl, rfl⟩

variable {others : Nat}

theorem pixel_reads : ∀ chunk ∈ pixelChunks others, webpReader.Reads chunk := by
  have lengths := pixelKinds.lengths
  intro chunk among
  obtain rfl | other := List.mem_cons.mp among
  · exact writtenChunk_reads lengths.1 (by decide)
  · rw [List.eq_of_mem_replicate other]
    exact writtenChunk_reads lengths.2 (by decide)

theorem pixel_simple : (pixelChunks others).any isVp8x = false := by
  simp [pixelChunks, pixelKinds.picture, pixelKinds.empty]

theorem embeddedWebp_pixel :
    embeddedWebp xmp 1 1 (pixelChunks others) =
      vp8xChunk (flagsOf (pixelChunks others)) 1 1 :: (pixelChunks others ++
        [writtenChunk (ascii "XMP ") xmp]) := by
  have unrecorded : (pixelChunks others).filter (!isXmp ·) = pixelChunks others := by
    refine List.filter_eq_self.mpr fun chunk among => ?_
    obtain rfl | other := List.mem_cons.mp among
    · simp [pixelKinds.picture]
    · simp [List.eq_of_mem_replicate other, pixelKinds.empty]
  have copies : (pixelChunks others).map rewrite = pixelChunks others := by
    simp [pixelChunks, pixelKinds.copies]
  rw [embeddedWebp, insertedWebp, pixel_simple, unrecorded, copies]
  rfl

theorem length_pixelChunks :
    ((pixelChunks others).flatMap webpReader.raw).length = 22 + others * 8 := by
  have bytes := pixelKinds.bytes
  simp [pixelChunks, List.length_flatMap, bytes]

theorem length_writtenChunk (kind data : Bytes) :
    (webpReader.raw (writtenChunk kind data)).length =
      kind.length + 4 + data.length + data.length % 2 := by
  simp only [webpReader, WebpChunk.raw, writtenChunk, List.length_append, length_toLittleEndian]
  split <;> simp only [List.length_singleton, List.length_nil] <;> omega

theorem length_embeddedPixel (long : xmp.length ≤ 55000) (few : others < maxWebpChunks) :
    ((embeddedWebp xmp 1 1 (pixelChunks others)).flatMap webpReader.raw).length ≤ 100000 := by
  have kinds : (ascii "VP8X").length = 4 ∧ (ascii "XMP ").length = 4 :=
    ⟨length_ascii _, length_ascii _⟩
  have most : maxWebpChunks = 4096 := rfl
  rw [embeddedWebp_pixel, List.flatMap_cons, List.flatMap_append, List.flatMap_singleton,
    vp8xChunk]
  simp only [List.length_append, length_pixelChunks, length_writtenChunk, kinds,
    length_toLittleEndian, List.length_cons, List.length_nil]
  omega

theorem foxRecord_small : foxRecord ≠ [] ∧ foxRecord.length ≤ maxEmbeddedMetadataBytes := by
  rw [foxRecord, ascii_ofList]
  exact ⟨by decide, by decide⟩

theorem pixel_writable (few : others < maxWebpChunks) :
    Writable (xmpPacket foxRecord) 1 1 (pixelChunks others) := by
  have long := length_xmpPacket foxRecord_small.2
  have size := length_embeddedPixel long few
  have most : maxWebpChunks = 4096 := rfl
  refine ⟨pixel_reads, ?_, fun _ => ⟨by decide, by decide⟩, ?_, by omega, by omega⟩
  · rw [pixelChunks, List.length_cons, List.length_replicate]
    omega
  · intro chunk among extended
    exact absurd extended (List.any_eq_false.mp pixel_simple chunk among)

/-- The picture with a record in it. -/
def pixelResult (others : Nat) : Bytes :=
  riffFile ((embeddedWebp (xmpPacket foxRecord) 1 1 (pixelChunks others)).flatMap webpReader.raw)

theorem pixel_embeds (few : others < maxWebpChunks) :
    ∃ metadata, embedImageMetadata pixelLibraries .default (pixelFile others) .webp foxRecord =
      .ok (pixelResult others, metadata) := by
  have object : pixelLibraries.isObject foxRecord = true := by
    rw [pixelLibraries, decide_eq_true_eq]
  have valid : validateJson pixelLibraries.isObject foxRecord = .ok () :=
    validateJson_ok.mpr ⟨foxRecord_small.1, foxRecord_small.2, object⟩
  have most : maxWebpChunks = 4096 := rfl
  have size := length_embeddedPixel (length_xmpPacket foxRecord_small.2) few
  have source : ((pixelChunks others).flatMap webpReader.raw).length ≤ 100000 := by
    rw [length_pixelChunks]
    omega
  obtain ⟨found, inspected, webp, width, height⟩ := pixel_inspected source
  obtain ⟨metadata, verified, webp', width', height'⟩ := pixel_inspected size
  have written : embedXmp found (pixelFile others) (xmpPacket foxRecord) =
      .ok (pixelResult others) := by
    rw [embedXmp, webp]
    dsimp only
    rw [width, height]
    exact embedWebp_file (pixel_writable few) (by omega)
  exact ⟨metadata, embed_made valid inspected webp written verified
    ⟨webp'.trans webp.symm, width'.trans width.symm, height'.trans height.symm⟩⟩

theorem written_pixel : writtenWebpChunks (pixelFile others) = others + 3 := by
  have rest : (pixelFile others).drop 12 = (pixelChunks others).flatMap webpReader.raw := by
    have twelve : (ascii "RIFF" ++ toLittleEndian 4
        (((pixelChunks others).flatMap webpReader.raw).length + 4) ++ ascii "WEBP").length = 12 := by
      have literals : (ascii "RIFF").length = 4 ∧ (ascii "WEBP").length = 4 :=
        ⟨length_ascii _, length_ascii _⟩
      simp only [List.length_append, literals, length_toLittleEndian]
    rw [pixelFile, riffFile, ← List.append_assoc, ← List.append_assoc, List.drop_left' twelve]
  have count : (embeddedWebp [] 1 1 (pixelChunks others)).length = writtenWebpChunks (pixelFile others) :=
    embeddedWebp_count rest pixel_reads
  rw [← count, embeddedWebp_pixel]
  simp [pixelChunks]

theorem pixel_extracted : ∃ out metadata,
    embedImageMetadata pixelLibraries .default (pixelFile 0) .webp foxRecord = .ok (out, metadata) ∧
      extractEmbeddedMetadata pixelLibraries .default out = .ok (some foxRecord) := by
  obtain ⟨metadata, embedded⟩ := @pixel_embeds 0 (by decide)
  refine ⟨_, metadata, embedded, (embedded_extracted_iff embedded).mpr fun crowded => ?_⟩
  have many := crowded.2
  rw [written_pixel] at many
  exact absurd many (by decide)

/-- Beside 4,095 other chunks the record is written and not found again. -/
theorem crowded_lost : ∃ out metadata,
    embedImageMetadata pixelLibraries .default (pixelFile 4095) .webp foxRecord =
        .ok (out, metadata) ∧
      extractEmbeddedMetadata pixelLibraries .default out ≠ .ok (some foxRecord) := by
  obtain ⟨metadata, embedded⟩ := @pixel_embeds 4095 (by decide)
  have crowded : Crowded .webp (pixelFile 4095) := ⟨rfl, by rw [written_pixel]; decide⟩
  refine ⟨_, metadata, embedded, ?_⟩
  rw [extract_embedded embedded, if_pos crowded]
  exact fun impossible => by cases impossible

end ImagegenBridge.Metadata
