import ImagegenBridge.Artifacts.MetadataReplacement
import Mathlib.Data.List.TakeWhile

/-!
# Images without a record of this program

Other tools write XMP packets too. The extractor takes the first packet it comes to for a
record of its own, and reads no chunk behind it.
-/

namespace ImagegenBridge.Metadata

open Chunks Inspect Materialize Outcome
open Reader (follow)

variable {libraries : Libraries} {limits : ImageLimits} {bytes data xmp : Bytes}
  {format : OutputFormat} {metadata : ImageMetadata}

/-! ## Records of this program and of others -/

/-- The packet inside an XMP record. -/
def packetOf (format : OutputFormat) (data : Bytes) : Outcome Bytes :=
  match format with
  | .png => pngXmpText data
  | .jpeg => boundedXmp (data.drop jpegXmpHeader.length)
  | .webp => boundedXmp data

/-- The record opens the element of this program. -/
def Claims (data : Bytes) : Prop := xmpOpen <:+: data

/-- No generation record can be read from the record. -/
def Malformed (isObject : Bytes → Bool) (format : OutputFormat) (data : Bytes) : Prop :=
  ∀ decoded, (packetOf format data >>= decodeXmp isObject) ≠ .ok decoded

/-- No record of this program is reported as absence, and an error is about a record that
claims to be one and is malformed. -/
structure Honest (libraries : Libraries) (limits : ImageLimits) (bytes : Bytes)
    (format : OutputFormat) : Prop where
  absence : (∀ data ∈ xmpRecords format bytes, ¬Claims data) →
    extractEmbeddedMetadata libraries limits bytes = .ok none
  error : ∀ e, extractEmbeddedMetadata libraries limits bytes = .error e →
    ∃ data ∈ xmpRecords format bytes, Claims data ∧ Malformed libraries.isObject format data

/-! ## What the extractor comes to -/

/-- The checks before the chunks of a WebP file. -/
def RiffHeader (bytes : Bytes) : Prop :=
  (12 ≤ bytes.length ∧ bytes.take 4 = ascii "RIFF" ∧ (bytes.drop 8).take 4 = ascii "WEBP") ∧
    littleEndian ((bytes.drop 4).take 4) + 8 = bytes.length

instance (bytes : Bytes) : Decidable (RiffHeader bytes) := by
  unfold RiffHeader
  infer_instance

/-- The XMP record that the extractor comes to. -/
def reached (format : OutputFormat) (bytes : Bytes) : Option Bytes :=
  match format with
  | .png => ((pngReader.records (bytes.drop pngSignature.length)).find? isRecord).map (·.data)
  | .jpeg => (((jpegReader.records (bytes.drop 2)).takeWhile (!endsHeaders ·.marker)).find?
      isJpegXmp).map (·.data)
  | .webp =>
    if RiffHeader bytes then
      (((webpReader.records (bytes.drop 12)).take maxWebpChunks).find? isXmp).map (·.data)
    else none

/-- The headers can be read to their end. -/
def Readable (format : OutputFormat) (bytes : Bytes) : Prop :=
  match format with
  | .png => pngReader.Whole (bytes.drop pngSignature.length)
  | .jpeg => (jpegReader.records (bytes.drop 2)).any (endsHeaders ·.marker) = true ∨
      jpegReader.Whole (bytes.drop 2)
  | .webp => RiffHeader bytes ∧ webpReader.Whole (bytes.drop 12) ∧
      (webpReader.records (bytes.drop 12)).length ≤ maxWebpChunks

/-! ## Packets -/

theorem nulTerminatedEnd_suffix {stream rest : Bytes} (found : nulTerminatedEnd stream = .ok rest) :
    rest <:+ stream := by
  unfold nulTerminatedEnd at found
  split at found
  · rename_i b after dropped
    cases found
    exact (List.suffix_cons b rest).trans (dropped ▸ List.dropWhile_suffix _)
  · cases found

theorem boundedXmp_eq {packet : Bytes} (bounded : boundedXmp packet = .ok xmp) : xmp = packet := by
  obtain ⟨_, _, same⟩ := bind_ok.mp bounded
  exact (Except.ok.inj same).symm

/-- A packet is the end of its record. -/
theorem packetOf_suffix (found : packetOf format data = .ok xmp) : xmp <:+ data := by
  cases format with
  | png =>
    obtain ⟨_, _, found⟩ := bind_ok.mp found
    obtain ⟨translated, first, found⟩ := bind_ok.mp found
    obtain ⟨text, second, bounded⟩ := bind_ok.mp found
    obtain rfl := boundedXmp_eq bounded
    exact (nulTerminatedEnd_suffix second).trans ((nulTerminatedEnd_suffix first).trans
      ((List.drop_suffix _ _).trans (List.drop_suffix _ _)))
  | jpeg =>
    obtain rfl := boundedXmp_eq found
    exact List.drop_suffix _ _
  | webp =>
    obtain rfl := boundedXmp_eq found
    exact List.suffix_rfl

/-- What decodes has opened the element. -/
theorem decodeXmp_opens {isObject : Bytes → Bool} {decoded : Bytes}
    (found : decodeXmp isObject xmp = .ok decoded) : xmpOpen <:+: xmp := by
  unfold decodeXmp between at found
  cases opened : cut xmpOpen xmp with
  | none => simp [opened] at found
  | some parts =>
    obtain ⟨before, inside⟩ := parts
    exact ⟨before, inside, by rw [cut_split opened, List.append_assoc]⟩

/-- A foreign record is none that could be read. -/
theorem malformed_of_foreign {isObject : Bytes → Bool} (foreign : ¬Claims data) :
    Malformed isObject format data := by
  intro decoded found
  obtain ⟨packet, taken, opened⟩ := bind_ok.mp found
  exact foreign ((decodeXmp_opens opened).trans (packetOf_suffix taken).isInfix)

/-! ## The three scans -/

theorem png_seeks : Reader.Seeks (fun _ => false) isRecord (fun chunk => pngXmpText chunk.data)
    findPngXmp := by
  intro chunk
  unfold findPngXmp isRecord
  simp [decide_eq_true_eq]

theorem jpeg_seeks : Reader.Seeks (endsHeaders ·.marker) isJpegXmp
    (fun segment => boundedXmp (segment.data.drop jpegXmpHeader.length)) findJpegXmp := by
  intro segment
  unfold findJpegXmp isJpegXmp
  split
  · rfl
  · split
    · rename_i alone
      have other : segment.marker ≠ 0xe1 := by
        intro marker
        rw [marker] at alone
        exact absurd alone (by decide)
      simp [other]
    · simp

/-- A PNG file has no chunk that stops the extractor. -/
theorem unstopped (chunks : List PngChunk) : chunks.takeWhile (fun _ => !false) = chunks :=
  List.takeWhile_eq_self_iff.mpr fun _ _ => rfl

theorem extractPngXmp_reached (found : reached .png bytes = some data) :
    extractPngXmp bytes = (packetOf .png data).map some := by
  obtain ⟨chunk, first, rfl⟩ := Option.map_eq_some_iff.mp found
  refine Reader.walk_ended _ (Reader.follow_found png_seeks ?_)
  rw [unstopped]
  exact first

theorem extractPngXmp_missed (missed : reached .png bytes = none) :
    (Readable .png bytes → extractPngXmp bytes = .ok none) ∧
      (¬Readable .png bytes → ∃ e, extractPngXmp bytes = .error e) := by
  have absent := Option.map_eq_none_iff.mp missed
  refine Reader.walk_onward ?_
  rw [Reader.follow_missed png_seeks (by rw [unstopped]; exact absent)]
  simp

theorem extractJpegXmp_reached (found : reached .jpeg bytes = some data) :
    extractJpegXmp bytes = (packetOf .jpeg data).map some := by
  obtain ⟨segment, first, rfl⟩ := Option.map_eq_some_iff.mp found
  exact Reader.walk_ended _ (Reader.follow_found jpeg_seeks first)

theorem extractJpegXmp_missed (missed : reached .jpeg bytes = none) :
    (Readable .jpeg bytes → extractJpegXmp bytes = .ok none) ∧
      (¬Readable .jpeg bytes → ∃ e, extractJpegXmp bytes = .error e) := by
  have followed := Reader.follow_missed jpeg_seeks (Option.map_eq_none_iff.mp missed)
  cases stopped : (jpegReader.records (bytes.drop 2)).any (endsHeaders ·.marker) with
  | true =>
    rw [stopped, if_pos rfl] at followed
    have ended : extractJpegXmp bytes = .ok none := Reader.walk_ended (.ok none) followed
    exact ⟨fun _ => ended, fun unreadable => absurd (Or.inl stopped) unreadable⟩
  | false =>
    rw [stopped, if_neg Bool.false_ne_true] at followed
    have walked := Reader.walk_onward followed
    refine ⟨fun readable => walked.1 ?_, fun unreadable => walked.2 fun whole =>
      unreadable (Or.inr whole)⟩
    obtain ends | whole := readable
    · rw [stopped] at ends
      cases ends
    · exact whole

theorem countWebpChunk_ok {σ : Type} {n : Nat} (below : n < maxWebpChunks) (s : σ) :
    countWebpChunk (n, s) = .ok (n + 1, s) := by
  have within : ¬n + 1 > maxWebpChunks := by omega
  simp [countWebpChunk, failIf, within, bind, Except.bind]

theorem countWebpChunk_error {σ : Type} {n : Nat} (full : maxWebpChunks ≤ n) (s : σ) :
    ∃ e, countWebpChunk (n, s) = .error e := by
  have beyond : n + 1 > maxWebpChunks := by omega
  simp [countWebpChunk, failIf, beyond, bind, Except.bind]

/-- Among the chunks that the count admits, the first record is found. -/
theorem follow_webp_found {n : Nat} {chunks : List WebpChunk} {chunk : WebpChunk}
    (found : (chunks.take (maxWebpChunks - n)).find? isXmp = some chunk) :
    ∃ count, follow countWebpChunk (visitCounted findWebpXmp) (n, none) chunks =
      ((boundedXmp chunk.data).map fun packet => (count, some packet)).map .done := by
  induction chunks generalizing n with
  | nil =>
    rw [List.take_nil] at found
    cases found
  | cons first rest ih =>
    have below : n < maxWebpChunks := by
      refine Nat.lt_of_not_le fun full => ?_
      rw [Nat.sub_eq_zero_of_le full] at found
      cases found
    obtain ⟨left, more⟩ : ∃ left, maxWebpChunks - n = left + 1 := ⟨maxWebpChunks - n - 1, by omega⟩
    rw [more, List.take_succ_cons, List.find?_cons] at found
    rw [follow, countWebpChunk_ok below]
    cases mark : isXmp first with
    | true =>
      simp only [mark, Option.some.injEq] at found
      subst found
      refine ⟨n + 1, ?_⟩
      simp only [visitCounted, findWebpXmp, if_pos (of_decide_eq_true mark)]
      cases boundedXmp first.data <;> rfl
    | false =>
      simp only [mark] at found
      have foreign : first.kind ≠ ascii "XMP " := of_decide_eq_false mark
      have same : left = maxWebpChunks - (n + 1) := by omega
      rw [same] at found
      simp only [visitCounted, findWebpXmp, if_neg foreign]
      exact ih found

theorem follow_webp_missed {n : Nat} {chunks : List WebpChunk} (least : n ≤ maxWebpChunks)
    (missed : (chunks.take (maxWebpChunks - n)).find? isXmp = none) :
    (n + chunks.length ≤ maxWebpChunks →
      follow countWebpChunk (visitCounted findWebpXmp) (n, none) chunks =
        .ok (.onward (n + chunks.length, none))) ∧
    (¬n + chunks.length ≤ maxWebpChunks →
      ∃ e, follow countWebpChunk (visitCounted findWebpXmp) (n, none) chunks = .error e) := by
  induction chunks generalizing n with
  | nil => exact ⟨fun _ => rfl, fun many => absurd least many⟩
  | cons first rest ih =>
    rw [List.length_cons]
    rw [follow]
    by_cases below : n < maxWebpChunks
    · obtain ⟨left, more⟩ : ∃ left, maxWebpChunks - n = left + 1 := ⟨maxWebpChunks - n - 1, by omega⟩
      rw [more, List.take_succ_cons, List.find?_cons] at missed
      cases mark : isXmp first with
      | true => simp [mark] at missed
      | false =>
        simp only [mark] at missed
        have foreign : first.kind ≠ ascii "XMP " := of_decide_eq_false mark
        have same : left = maxWebpChunks - (n + 1) := by omega
        rw [same] at missed
        simp only [countWebpChunk_ok below, visitCounted, findWebpXmp, if_neg foreign]
        have count : n + (rest.length + 1) = n + 1 + rest.length := by omega
        rw [count]
        exact ih below missed
    · obtain ⟨e, refused⟩ := @countWebpChunk_error (Option Bytes) n (Nat.not_lt.mp below) none
      rw [refused]
      exact ⟨fun few => absurd few (by omega), fun _ => ⟨e, rfl⟩⟩

theorem visit_header {σ : Type} {visit : σ → WebpChunk → Outcome (Verdict σ)} {s : σ}
    (header : RiffHeader bytes) : visitWebpChunks bytes visit s =
      (webpReader.walk countWebpChunk (visitCounted visit) (0, s) (bytes.drop 12)).map (·.2) := by
  obtain ⟨⟨long, riff, webp⟩, size⟩ := header
  have formed : ¬(bytes.length < 12 ∨ bytes.take 4 ≠ ascii "RIFF" ∨
      (bytes.drop 8).take 4 ≠ ascii "WEBP") := by
    simp only [riff, webp, ne_eq, not_true_eq_false, or_false, Nat.not_lt]
    exact long
  rw [visitWebpChunks, failIf, failIf, if_neg formed, if_neg (not_not_intro size)]
  simp only [Bind.bind, Except.bind]
  cases webpReader.walk countWebpChunk (visitCounted visit) (0, s) (bytes.drop 12) <;> rfl

theorem visit_headless {σ : Type} {visit : σ → WebpChunk → Outcome (Verdict σ)} {s : σ}
    (headless : ¬RiffHeader bytes) : ∃ e, visitWebpChunks bytes visit s = .error e := by
  cases visited : visitWebpChunks bytes visit s with
  | error e => exact ⟨e, rfl⟩
  | ok t =>
    obtain ⟨_, formed, visited⟩ := bind_ok.mp visited
    obtain ⟨_, sized, _⟩ := bind_ok.mp visited
    rw [failIf_ok, not_or, not_or, not_not, not_not, Nat.not_lt] at formed
    rw [failIf_ok, not_not] at sized
    exact absurd ⟨formed, sized⟩ headless

theorem extractWebpXmp_reached (found : reached .webp bytes = some data) :
    extractWebpXmp bytes = (packetOf .webp data).map some := by
  simp only [reached, Option.ite_none_right_eq_some] at found
  obtain ⟨header, found⟩ := found
  obtain ⟨chunk, first, rfl⟩ := Option.map_eq_some_iff.mp found
  obtain ⟨count, followed⟩ := follow_webp_found (n := 0) first
  rw [extractWebpXmp, visit_header header, Reader.walk_ended _ followed, packetOf]
  cases boundedXmp chunk.data <;> rfl

theorem extractWebpXmp_missed (missed : reached .webp bytes = none) :
    (Readable .webp bytes → extractWebpXmp bytes = .ok none) ∧
      (¬Readable .webp bytes → ∃ e, extractWebpXmp bytes = .error e) := by
  by_cases header : RiffHeader bytes
  · rw [reached, if_pos header, Option.map_eq_none_iff] at missed
    obtain ⟨few, many⟩ := follow_webp_missed (n := 0) (Nat.zero_le _) missed
    rw [Nat.zero_add] at few many
    rw [extractWebpXmp, visit_header header]
    by_cases counted : (webpReader.records (bytes.drop 12)).length ≤ maxWebpChunks
    · have walked := Reader.walk_onward (few counted)
      constructor
      · rintro ⟨_, whole, _⟩
        rw [walked.1 whole]
        rfl
      · intro unreadable
        obtain ⟨e, failed⟩ := walked.2 fun whole => unreadable ⟨header, whole, counted⟩
        rw [failed]
        exact ⟨e, rfl⟩
    · obtain ⟨e, refused⟩ := many counted
      rw [Reader.walk_refused refused]
      exact ⟨fun readable => absurd readable.2.2 counted, fun _ => ⟨e, rfl⟩⟩
  · exact ⟨fun readable => absurd readable.1 header, fun _ => visit_headless header⟩

/-! ## All formats -/

theorem extractXmp_reached (found : reached format bytes = some data) :
    extractXmp format bytes = (packetOf format data).map some := by
  cases format with
  | png => exact extractPngXmp_reached found
  | jpeg => exact extractJpegXmp_reached found
  | webp => exact extractWebpXmp_reached found

theorem extractXmp_missed (missed : reached format bytes = none) :
    (Readable format bytes → extractXmp format bytes = .ok none) ∧
      (¬Readable format bytes → ∃ e, extractXmp format bytes = .error e) := by
  cases format with
  | png => exact extractPngXmp_missed missed
  | jpeg => exact extractJpegXmp_missed missed
  | webp => exact extractWebpXmp_missed missed

theorem reached_among (found : reached format bytes = some data) :
    data ∈ xmpRecords format bytes := by
  cases format with
  | png =>
    obtain ⟨chunk, first, rfl⟩ := Option.map_eq_some_iff.mp found
    exact List.mem_map_of_mem
      (List.mem_filter.mpr ⟨List.mem_of_find?_eq_some first, List.find?_some first⟩)
  | jpeg =>
    obtain ⟨segment, first, rfl⟩ := Option.map_eq_some_iff.mp found
    exact List.mem_map_of_mem
      (List.mem_filter.mpr ⟨List.mem_of_find?_eq_some first, List.find?_some first⟩)
  | webp =>
    simp only [reached, Option.ite_none_right_eq_some] at found
    obtain ⟨chunk, first, rfl⟩ := Option.map_eq_some_iff.mp found.2
    have among := List.mem_of_mem_take (List.mem_of_find?_eq_some first)
    exact List.mem_map_of_mem (List.mem_filter.mpr ⟨among, List.find?_some first⟩)

theorem extract_inspected (inspected : inspectArtifact libraries limits bytes = .ok metadata) :
    extractEmbeddedMetadata libraries limits bytes = (do
      let xmp ← extractXmp metadata.format bytes
      match xmp with
      | none => .ok none
      | some xmp => (decodeXmp libraries.isObject xmp).map some) := by
  rw [extractEmbeddedMetadata, inspected]
  rfl

/-- The record that is reached decides alone. -/
theorem extract_reached (inspected : inspectArtifact libraries limits bytes = .ok metadata)
    (found : reached metadata.format bytes = some data) :
    extractEmbeddedMetadata libraries limits bytes =
      (packetOf metadata.format data >>= decodeXmp libraries.isObject).map some := by
  rw [extract_inspected inspected, extractXmp_reached found]
  cases packetOf metadata.format data <;> rfl

theorem extract_error_iff (inspected : inspectArtifact libraries limits bytes = .ok metadata)
    (found : reached metadata.format bytes = some data) :
    (∃ e, extractEmbeddedMetadata libraries limits bytes = .error e) ↔
      Malformed libraries.isObject metadata.format data := by
  rw [extract_reached inspected found]
  unfold Malformed
  cases packetOf metadata.format data >>= decodeXmp libraries.isObject with
  | error e => simp [Except.map]
  | ok decoded => simp [Except.map]

/-- Absence is reported as absence, and errors are about records of this program, exactly
where one of them is malformed, the extractor comes to one of them first, or it comes to
the end of readable headers without any record. -/
theorem absence_reported_iff
    (inspected : inspectArtifact libraries limits bytes = .ok metadata) :
    Honest libraries limits bytes metadata.format ↔
      (∃ data ∈ xmpRecords metadata.format bytes,
        Claims data ∧ Malformed libraries.isObject metadata.format data) ∨
      (∃ data, reached metadata.format bytes = some data ∧ Claims data) ∨
      (reached metadata.format bytes = none ∧ Readable metadata.format bytes) := by
  constructor
  · intro honest
    cases found : reached metadata.format bytes with
    | some data =>
      by_cases own : Claims data
      · exact Or.inr (Or.inl ⟨data, rfl, own⟩)
      · obtain ⟨e, failed⟩ := (extract_error_iff inspected found).mpr (malformed_of_foreign own)
        exact Or.inl (honest.error e failed)
    | none =>
      by_cases readable : Readable metadata.format bytes
      · exact Or.inr (Or.inr ⟨rfl, readable⟩)
      · obtain ⟨e, failed⟩ := (extractXmp_missed found).2 readable
        refine Or.inl (honest.error e ?_)
        rw [extract_inspected inspected, failed]
        rfl
  · rintro (⟨data, among, own, malformed⟩ | ⟨data, found, own⟩ | ⟨missed, readable⟩)
    · exact ⟨fun foreign => absurd own (foreign data among),
        fun _ _ => ⟨data, among, own, malformed⟩⟩
    · have among := reached_among found
      exact ⟨fun foreign => absurd own (foreign data among), fun e failed =>
        ⟨data, among, own, (extract_error_iff inspected found).mp ⟨e, failed⟩⟩⟩
    · have absent : extractEmbeddedMetadata libraries limits bytes = .ok none := by
        rw [extract_inspected inspected, (extractXmp_missed missed).1 readable]
        rfl
      refine ⟨fun _ => absent, fun e failed => ?_⟩
      rw [absent] at failed
      cases failed

/-! ## A packet of another tool -/

def foreignPacket : Bytes := ascii "<x:xmpmeta xmlns:x=\"adobe:ns:meta/\"></x:xmpmeta>"

/-- A picture of one pixel in an extended file with a foreign packet. -/
def foreignFile : Bytes :=
  riffFile ((embeddedWebp foreignPacket 1 1 (pixelChunks 0)).flatMap webpReader.raw)

theorem riffFile_header {body : Bytes} (short : body.length + 4 < 2 ^ 32) :
    RiffHeader (riffFile body) := by
  have parts := riffFile_parts short
  refine ⟨⟨by rw [parts.long]; omega, parts.riff, parts.webp⟩, ?_⟩
  rw [parts.size, parts.long]

theorem foreign_packet : foreignPacket.length ≤ 55000 ∧ ¬xmpOpen <:+: foreignPacket := by
  decide +kernel

theorem foreignFile_inspected :
    ∃ metadata, inspectArtifact pixelLibraries .default foreignFile = .ok metadata ∧
      metadata.format = .webp := by
  obtain ⟨metadata, inspected, webp, _⟩ :=
    pixel_inspected (length_embeddedPixel foreign_packet.1 (by decide : 0 < maxWebpChunks))
  exact ⟨metadata, inspected, webp⟩

theorem foreignFile_header : RiffHeader foreignFile := by
  have small := length_embeddedPixel foreign_packet.1 (by decide : 0 < maxWebpChunks)
  exact riffFile_header (by omega)

theorem foreignFile_chunks :
    webpReader.records (foreignFile.drop 12) = embeddedWebp foreignPacket 1 1 (pixelChunks 0) := by
  have small := length_embeddedPixel foreign_packet.1 (by decide : 0 < maxWebpChunks)
  have reads : ∀ chunk ∈ embeddedWebp foreignPacket 1 1 (pixelChunks 0), webpReader.Reads chunk :=
    embeddedWebp_reads (by have := foreign_packet.1; omega) pixel_reads
  rw [foreignFile, (riffFile_parts (by omega)).rest, Reader.records_all reads]

theorem foreignFile_records : xmpRecords .webp foreignFile = [foreignPacket] := by
  rw [xmpRecords, foreignFile_chunks, embeddedWebp_records 1 1 pixel_reads]
  rfl

/-- A file without XMP at all is reported as one. -/
theorem plain_absent : ∃ metadata,
    inspectArtifact pixelLibraries .default (pixelFile 0) = .ok metadata ∧
      Honest pixelLibraries .default (pixelFile 0) metadata.format := by
  have size : ((pixelChunks 0).flatMap webpReader.raw).length = 22 := length_pixelChunks
  have short : ((pixelChunks 0).flatMap webpReader.raw).length + 4 < 2 ^ 32 := by omega
  have chunks : webpReader.records ((pixelFile 0).drop 12) = pixelChunks 0 := by
    rw [pixelFile, (riffFile_parts short).rest, Reader.records_all pixel_reads]
  have header : RiffHeader (pixelFile 0) := riffFile_header short
  have found : ∃ metadata, inspectArtifact pixelLibraries .default (pixelFile 0) = .ok metadata ∧
      metadata.format = .webp ∧ _ := pixel_inspected (by omega)
  obtain ⟨metadata, inspected, webp, _⟩ := found
  refine ⟨metadata, inspected, (absence_reported_iff inspected).mpr (Or.inr (Or.inr ?_))⟩
  rw [webp]
  refine ⟨?_, header, ?_, ?_⟩
  · rw [reached, if_pos header, chunks, List.take_of_length_le (by decide)]
    simp [pixelChunks, pixelKinds.picture]
  · rw [Reader.Whole, chunks, pixelFile, (riffFile_parts short).rest]
  · rw [chunks]
    decide

/-- The packet of another tool is refused as a malformed record of this program. -/
theorem foreign_refused : ∃ metadata,
    inspectArtifact pixelLibraries .default foreignFile = .ok metadata ∧
      (∀ data ∈ xmpRecords metadata.format foreignFile, ¬Claims data) ∧
      extractEmbeddedMetadata pixelLibraries .default foreignFile ≠ .ok none ∧
      ¬Honest pixelLibraries .default foreignFile metadata.format := by
  obtain ⟨metadata, inspected, webp⟩ := foreignFile_inspected
  have foreign : ∀ data ∈ xmpRecords metadata.format foreignFile, ¬Claims data := by
    rw [webp, foreignFile_records]
    intro data among
    rw [List.mem_singleton.mp among]
    exact foreign_packet.2
  have found : reached metadata.format foreignFile = some foreignPacket := by
    have few : (embeddedWebp foreignPacket 1 1 (pixelChunks 0)).length ≤ maxWebpChunks := by
      rw [embeddedWebp_pixel]
      decide
    rw [webp, reached, if_pos foreignFile_header, foreignFile_chunks, List.take_of_length_le few,
      ← List.head?_filter, embeddedWebp_records 1 1 pixel_reads]
    rfl
  obtain ⟨e, failed⟩ := (extract_error_iff inspected found).mpr
    (malformed_of_foreign (foreign _ (reached_among found)))
  have refused : extractEmbeddedMetadata pixelLibraries .default foreignFile ≠ .ok none := by
    rw [failed]
    exact fun impossible => nomatch impossible
  exact ⟨metadata, inspected, foreign, refused, fun honest => refused (honest.absence foreign)⟩

end ImagegenBridge.Metadata
