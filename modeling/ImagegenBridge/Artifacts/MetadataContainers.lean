import ImagegenBridge.Artifacts.Metadata

/-!
# What embedding makes of a PNG or JPEG file

A PNG file is a row of chunks. Its writer is one function of that row, and its reader walks the
row that the writer leaves. The writer of JPEG files puts one segment before all others.
-/

namespace ImagegenBridge.Metadata

open Chunks Materialize Outcome
open Reader (follow)

variable {bytes xmp out : Bytes}

/-! ## PNG -/

def PngChunk.Formed (chunk : PngChunk) : Prop :=
  chunk.header.length = 8 ∧ chunk.data.length = bigEndian (chunk.header.take 4) ∧
    chunk.checksum.length = 4

theorem png_reads {chunk : PngChunk} (formed : chunk.Formed) : pngReader.Reads chunk := by
  obtain ⟨eight, sized, four⟩ := formed
  refine ⟨fun empty => ?_, pngChunk_raw eight sized four⟩
  have nothing := congrArg List.length empty
  simp only [pngReader, PngChunk.raw, List.length_append, eight, List.length_nil] at nothing
  omega

def isRecord (chunk : PngChunk) : Bool :=
  decide (chunk.kind = ascii "iTXt") && isPngXmp chunk.data

def pngXmpData (xmp : Bytes) : Bytes := pngXmpKeyword ++ [0, 0, 0, 0, 0] ++ xmp

/-- The chunk of a record. -/
def pngXmpChunk (xmp : Bytes) : PngChunk where
  header := toBigEndian 4 (pngXmpData xmp).length ++ ascii "iTXt"
  data := pngXmpData xmp
  checksum := toBigEndian 4 (crc32 (ascii "iTXt" ++ pngXmpData xmp)).toNat

/-- Bytes of a record that its chunk can count. -/
def Countable (xmp : Bytes) : Prop := (pngXmpData xmp).length < 2 ^ 32

theorem pngXmpChunk_formed (countable : Countable xmp) : (pngXmpChunk xmp).Formed := by
  have four : (toBigEndian 4 (pngXmpData xmp).length).length = 4 := length_toBigEndian ..
  refine ⟨?_, ?_, length_toBigEndian ..⟩
  · rw [pngXmpChunk, List.length_append, four]
    rfl
  · rw [pngXmpChunk, List.take_left' four, bigEndian_toBigEndian countable]

theorem pngXmpChunk_kind (xmp : Bytes) : (pngXmpChunk xmp).kind = ascii "iTXt" := by
  rw [PngChunk.kind, pngXmpChunk, List.drop_left' (length_toBigEndian ..)]

theorem pngXmpData_start (xmp : Bytes) : isPngXmp (pngXmpData xmp) = true := by
  rw [isPngXmp, Bool.and_eq_true, decide_eq_true_eq, beq_iff_eq, pngXmpData, List.append_assoc]
  refine ⟨List.prefix_append .., ?_⟩
  rw [List.getElem?_append_right (Nat.le_refl _), Nat.sub_self]
  rfl

theorem pngXmpChunk_record (xmp : Bytes) : isRecord (pngXmpChunk xmp) = true := by
  rw [isRecord, Bool.and_eq_true, decide_eq_true_eq]
  exact ⟨pngXmpChunk_kind xmp, pngXmpData_start xmp⟩

theorem appendPngXmp_raw (countable : Countable xmp) (output : Bytes) :
    appendPngXmp output xmp = .ok (output ++ (pngXmpChunk xmp).raw) := by
  rw [appendPngXmp, appendPngChunk]
  refine bind_ok.mpr ⟨(), (failIf_ok ..).mpr (Nat.not_le.mpr countable), ?_⟩
  simp [PngChunk.raw, pngXmpChunk, pngXmpData]

/-- The chunks of the new file: the record stands before the first end. -/
def embeddedPng (xmp : Bytes) : List PngChunk → List PngChunk
  | [] => []
  | chunk :: rest =>
    if chunk.kind = ascii "IEND" then pngXmpChunk xmp :: (chunk :: rest).filter (!isRecord ·)
    else if isRecord chunk = true then embeddedPng xmp rest
    else chunk :: embeddedPng xmp rest

def HasEnd (chunks : List PngChunk) : Prop := ∃ chunk ∈ chunks, chunk.kind = ascii "IEND"

theorem end_not_record {chunk : PngChunk} (ends : chunk.kind = ascii "IEND") :
    isRecord chunk = false := by
  have other : ascii "IEND" ≠ ascii "iTXt" := ascii_ne (by decide)
  simp [isRecord, ends, other]

/-- The bytes a chunk leaves in the output of the loop. -/
def kept (chunk : PngChunk) : Bytes := if isRecord chunk = true then [] else chunk.raw

theorem copyPngChunk_later (output : Bytes) (chunk : PngChunk) :
    copyPngChunk xmp (output, true) chunk = .ok (.onward (output ++ kept chunk, true)) := by
  simp only [copyPngChunk, insertPngXmp, Bool.true_eq_false, and_false, if_false, kept, isRecord, Bool.and_eq_true,
    decide_eq_true_eq]
  by_cases record : chunk.kind = ascii "iTXt" ∧ isPngXmp chunk.data = true
  · simp [record, bind, Except.bind]
  · simp [record, bind, Except.bind]

theorem copyPngChunk_other {chunk : PngChunk} (goes : chunk.kind ≠ ascii "IEND") (output : Bytes) :
    copyPngChunk xmp (output, false) chunk = .ok (.onward (output ++ kept chunk, false)) := by
  simp only [copyPngChunk, insertPngXmp, goes, false_and, if_false, kept, isRecord, Bool.and_eq_true,
    decide_eq_true_eq]
  by_cases record : chunk.kind = ascii "iTXt" ∧ isPngXmp chunk.data = true
  · simp [record, bind, Except.bind]
  · simp [record, bind, Except.bind]

theorem copyPngChunk_end {chunk : PngChunk} (countable : Countable xmp)
    (ends : chunk.kind = ascii "IEND") (output : Bytes) :
    copyPngChunk xmp (output, false) chunk =
      .ok (.onward (output ++ (pngXmpChunk xmp).raw ++ kept chunk, true)) := by
  have other : ascii "IEND" ≠ ascii "iTXt" := ascii_ne (by decide)
  simp [copyPngChunk, insertPngXmp, ends, other, appendPngXmp_raw countable, kept, end_not_record ends, bind,
    Except.bind, Except.map]

theorem kept_filter (chunks : List PngChunk) :
    chunks.flatMap kept = (chunks.filter (!isRecord ·)).flatMap pngReader.raw := by
  induction chunks with
  | nil => rfl
  | cons chunk rest ih =>
    rw [List.flatMap_cons, ih, kept]
    cases record : isRecord chunk <;> simp [record, pngReader]

theorem follow_later (output : Bytes) (chunks : List PngChunk) :
    follow .ok (copyPngChunk xmp) (output, true) chunks =
      .ok (.onward (output ++ chunks.flatMap kept, true)) := by
  induction chunks generalizing output with
  | nil => simp [follow]
  | cons chunk rest ih =>
    simp only [follow, copyPngChunk_later, ih, List.flatMap_cons, List.append_assoc]

theorem follow_png (countable : Countable xmp) (output : Bytes) (chunks : List PngChunk)
    (ends : HasEnd chunks) :
    follow .ok (copyPngChunk xmp) (output, false) chunks =
      .ok (.onward (output ++ (embeddedPng xmp chunks).flatMap pngReader.raw, true)) := by
  induction chunks generalizing output with
  | nil =>
    obtain ⟨chunk, absent, _⟩ := ends
    cases absent
  | cons chunk rest ih =>
    by_cases last : chunk.kind = ascii "IEND"
    · have kept_end : kept chunk = chunk.raw := by rw [kept, end_not_record last]; rfl
      simp only [follow, copyPngChunk_end countable last, follow_later, kept_filter, embeddedPng,
        last, if_true, List.flatMap_cons, List.filter_cons, end_not_record last, Bool.not_false,
        kept_end, List.append_assoc]
      rfl
    · have later : HasEnd rest := by
        obtain ⟨found, among, kind⟩ := ends
        obtain rfl | inside := List.mem_cons.mp among
        · exact absurd kind last
        · exact ⟨found, inside, kind⟩
      simp only [follow, copyPngChunk_other last, ih _ later, embeddedPng, last, if_false]
      cases record : isRecord chunk
      · simp [kept, record, pngReader]
      · simp [kept, record]

theorem follow_endless (output : Bytes) (chunks : List PngChunk) (endless : ¬HasEnd chunks) :
    follow .ok (copyPngChunk xmp) (output, false) chunks =
      .ok (.onward (output ++ chunks.flatMap kept, false)) := by
  induction chunks generalizing output with
  | nil => simp [follow]
  | cons chunk rest ih =>
    have goes : chunk.kind ≠ ascii "IEND" := fun last =>
      endless ⟨chunk, List.mem_cons_self .., last⟩
    have later : ¬HasEnd rest := by
      rintro ⟨found, among, last⟩
      exact endless ⟨found, List.mem_cons_of_mem _ among, last⟩
    simp only [follow, copyPngChunk_other goes, ih _ later, List.flatMap_cons, List.append_assoc]

theorem copyPngChunk_goes (state : Bytes × Bool) (chunk : PngChunk)
    (verdict : Verdict (Bytes × Bool)) (copied : copyPngChunk xmp state chunk = .ok verdict) :
    ∃ next, verdict = .onward next := by
  unfold copyPngChunk at copied
  obtain ⟨⟨output, inserted⟩, _, copied⟩ := bind_ok.mp copied
  cases copied
  exact ⟨_, rfl⟩

/-- A file of chunks. -/
def pngFile (chunks : List PngChunk) : Bytes := pngSignature ++ chunks.flatMap pngReader.raw

theorem embedPng_file (countable : Countable xmp) {chunks : List PngChunk}
    (reads : ∀ chunk ∈ chunks, pngReader.Reads chunk) (ends : HasEnd chunks) :
    embedPng (pngFile chunks) xmp = .ok (pngFile (embeddedPng xmp chunks)) := by
  have walked : pngReader.walk .ok (copyPngChunk xmp) (pngSignature, false)
      ((pngFile chunks).drop pngSignature.length) =
      .ok (pngFile (embeddedPng xmp chunks), true) := by
    rw [pngFile, List.drop_left, Reader.walk_all reads, follow_png countable _ _ ends]
    rfl
  refine bind_ok.mpr ⟨(), (failIf_ok ..).mpr (not_not.mpr (List.prefix_append ..)), ?_⟩
  exact bind_ok.mpr ⟨_, walked, rfl⟩

/-- Whatever was embedded in was a file of chunks with an end. -/
theorem embedPng_ok (countable : Countable xmp) (embedded : embedPng bytes xmp = .ok out) :
    ∃ chunks, (∀ chunk ∈ chunks, pngReader.Reads chunk) ∧ HasEnd chunks ∧ bytes = pngFile chunks ∧
      out = pngFile (embeddedPng xmp chunks) := by
  have whole := embedded
  unfold embedPng at embedded
  obtain ⟨_, starts, embedded⟩ := bind_ok.mp embedded
  rw [failIf_ok, not_not] at starts
  obtain ⟨tail, rfl⟩ := starts
  obtain ⟨⟨output, inserted⟩, walked, embedded⟩ := bind_ok.mp embedded
  obtain ⟨_, done, embedded⟩ := bind_ok.mp embedded
  rw [List.drop_left] at walked
  obtain ⟨chunks, rfl, reads, followed⟩ := Reader.walk_ok copyPngChunk_goes walked
  have ends : HasEnd chunks := by
    by_contra endless
    rw [follow_endless _ _ endless] at followed
    cases followed
    exact absurd rfl ((failIf_ok ..).mp done)
  refine ⟨chunks, reads, ends, rfl, ?_⟩
  have again := embedPng_file countable reads ends
  exact Except.ok.inj (whole.symm.trans again)

theorem embeddedPng_reads (countable : Countable xmp) {chunks : List PngChunk}
    (reads : ∀ chunk ∈ chunks, pngReader.Reads chunk) :
    ∀ chunk ∈ embeddedPng xmp chunks, pngReader.Reads chunk := by
  induction chunks with
  | nil => exact reads
  | cons first rest ih =>
    obtain ⟨own, later⟩ := List.forall_mem_cons.mp reads
    unfold embeddedPng
    split
    · refine List.forall_mem_cons.mpr ⟨png_reads (pngXmpChunk_formed countable), ?_⟩
      exact fun chunk among => reads chunk (List.mem_of_mem_filter among)
    · split
      · exact ih later
      · exact List.forall_mem_cons.mpr ⟨own, ih later⟩

theorem pngXmpText_data (xmp : Bytes) : pngXmpText (pngXmpData xmp) = boundedXmp xmp := by
  have fields : (pngXmpData xmp).drop pngXmpKeyword.length = [0, 0, 0, 0, 0] ++ xmp := by
    rw [pngXmpData, List.append_assoc, List.drop_left]
  unfold pngXmpText
  rw [fields]
  rfl

theorem follow_findPng {chunks : List PngChunk} (ends : HasEnd chunks) :
    follow .ok findPngXmp none (embeddedPng xmp chunks) =
      (boundedXmp xmp).map (.done <| some ·) := by
  have record : findPngXmp none (pngXmpChunk xmp) = (boundedXmp xmp).map (.done <| some ·) := by
    have found := pngXmpChunk_record xmp
    rw [isRecord, Bool.and_eq_true, decide_eq_true_eq] at found
    rw [findPngXmp, if_pos found]
    exact congrArg _ (pngXmpText_data xmp)
  induction chunks with
  | nil =>
    obtain ⟨chunk, absent, _⟩ := ends
    cases absent
  | cons chunk rest ih =>
    unfold embeddedPng
    by_cases last : chunk.kind = ascii "IEND"
    · rw [if_pos last]
      simp only [follow, record]
      cases boundedXmp xmp <;> rfl
    · have later : HasEnd rest := by
        obtain ⟨found, among, kind⟩ := ends
        obtain rfl | inside := List.mem_cons.mp among
        · exact absurd kind last
        · exact ⟨found, inside, kind⟩
      rw [if_neg last]
      by_cases other : isRecord chunk = true
      · rw [if_pos other]
        exact ih later
      · have passed : findPngXmp none chunk = .ok (.onward none) := by
          rw [isRecord, Bool.and_eq_true, decide_eq_true_eq] at other
          rw [findPngXmp, if_neg other]
        rw [if_neg other]
        simp only [follow, passed]
        exact ih later

theorem extractPng_embedded (countable : Countable xmp) {chunks : List PngChunk}
    (reads : ∀ chunk ∈ chunks, pngReader.Reads chunk) (ends : HasEnd chunks) :
    extractPngXmp (pngFile (embeddedPng xmp chunks)) = (boundedXmp xmp).map some := by
  rw [extractPngXmp, pngFile, List.drop_left,
    Reader.walk_all (embeddedPng_reads countable reads), follow_findPng ends]
  cases boundedXmp xmp <;> rfl

/-! ## JPEG -/

/-- The segment of a record. -/
def jpegXmpSegment (xmp : Bytes) : JpegSegment where
  fill := [0xff]
  marker := 0xe1
  length := toBigEndian 2 (jpegXmpHeader.length + xmp.length + 2)
  data := jpegXmpHeader ++ xmp

/-- Bytes of a record that fit one segment. -/
def FitsSegment (xmp : Bytes) : Prop := jpegXmpHeader.length + xmp.length + 2 < 2 ^ 16

theorem jpegXmpSegment_reads (fits : FitsSegment xmp) : jpegReader.Reads (jpegXmpSegment xmp) := by
  have counted : bigEndian (jpegXmpSegment xmp).length = jpegXmpHeader.length + xmp.length + 2 :=
    bigEndian_toBigEndian fits
  have plain : ¬(endsHeaders 0xe1 || standsAlone 0xe1) = true := by decide
  have formed : (jpegXmpSegment xmp).Formed := by
    refine ⟨⟨by simp [jpegXmpSegment], by simp [jpegXmpSegment]⟩, by simp [jpegXmpSegment], ?_⟩
    rw [jpegXmpSegment, if_neg plain]
    refine ⟨length_toBigEndian .., ?_⟩
    change 2 ≤ bigEndian (jpegXmpSegment xmp).length ∧
      (jpegXmpHeader ++ xmp).length = bigEndian (jpegXmpSegment xmp).length - 2
    rw [counted, List.length_append]
    omega
  exact ⟨by simp [jpegReader, JpegSegment.raw], jpegSegment_raw formed⟩

def jpegSignature : Bytes := [0xff, 0xd8]

theorem embedJpeg_ok (embedded : embedJpeg bytes xmp = .ok out) :
    FitsSegment xmp ∧ ∃ tail, bytes = jpegSignature ++ tail ∧
      out = jpegSignature ++ (jpegReader.raw (jpegXmpSegment xmp) ++ tail) := by
  unfold embedJpeg at embedded
  obtain ⟨_, starts, embedded⟩ := bind_ok.mp embedded
  rw [failIf_ok, not_not] at starts
  obtain ⟨tail, rfl⟩ := starts
  obtain ⟨_, fits, embedded⟩ := bind_ok.mp embedded
  rw [failIf_ok, Nat.not_le] at fits
  cases embedded
  refine ⟨fits, tail, rfl, ?_⟩
  simp [jpegSignature, jpegReader, JpegSegment.raw, jpegXmpSegment]

theorem extractJpeg_embedded (fits : FitsSegment xmp) (tail : Bytes) :
    extractJpegXmp (jpegSignature ++ (jpegReader.raw (jpegXmpSegment xmp) ++ tail)) =
      (boundedXmp xmp).map some := by
  have found : findJpegXmp none (jpegXmpSegment xmp) = (boundedXmp xmp).map (.done <| some ·) := by
    have marker : endsHeaders 0xe1 = false ∧ standsAlone 0xe1 = false := by decide
    have data : (jpegXmpHeader ++ xmp).drop jpegXmpHeader.length = xmp := List.drop_left ..
    simp [findJpegXmp, jpegXmpSegment, marker, data]
  have dropped : (jpegSignature ++ (jpegReader.raw (jpegXmpSegment xmp) ++ tail)).drop 2 =
      jpegReader.raw (jpegXmpSegment xmp) ++ tail := rfl
  rw [extractJpegXmp, dropped, Reader.walk_read (jpegXmpSegment_reads fits)]
  simp only [found]
  cases boundedXmp xmp <;> rfl

end ImagegenBridge.Metadata
