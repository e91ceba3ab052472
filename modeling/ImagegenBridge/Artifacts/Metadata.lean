import ImagegenBridge.Artifacts.Inspect
import ImagegenBridge.Lib.Base64
import ImagegenBridge.Lib.Chunks

/-!
# Generation metadata in images, `crates/artifacts/src/metadata.rs`

A position in a file is the rest of the file from there on. Whether bytes are a JSON object is
decided by `serde_json` and is a parameter.
-/

namespace ImagegenBridge.Metadata

open Chunks Inspect Materialize Outcome

/-- The bytes of an ASCII literal. -/
def ascii (text : String) : Bytes := text.toList.map fun c => UInt8.ofNat c.toNat

theorem ascii_ofList (text : List Char) :
    ascii (String.ofList text) = text.map fun c => UInt8.ofNat c.toNat := by
  rw [ascii, String.toList_ofList]

theorem length_ascii (text : List Char) : (ascii (String.ofList text)).length = text.length := by
  rw [ascii_ofList, List.length_map]

theorem length_texts {a b : Bytes} {m n : Nat} (first : a.length = m) (second : b.length = n) :
    (a ++ b).length = m + n := by
  rw [List.length_append, first, second]

theorem ascii_ne {a b : List Char}
    (apart : (a.map fun c => UInt8.ofNat c.toNat) ≠ b.map fun c => UInt8.ofNat c.toNat) :
    ascii (String.ofList a) ≠ ascii (String.ofList b) := by
  rwa [ascii_ofList, ascii_ofList]

def maxXmpBytes : Nat := 56 * 1024

def pngSignature : Bytes := [0x89, 0x50, 0x4e, 0x47, 0x0d, 0x0a, 0x1a, 0x0a]

def pngXmpKeyword : Bytes := ascii "XML:com.adobe.xmp"

def jpegXmpHeader : Bytes := ascii "http://ns.adobe.com/xap/1.0/" ++ [0]

def xmpOpen : Bytes := ascii "<igb:Metadata>"

def xmpClose : Bytes := ascii "</igb:Metadata>"

def maxWebpChunks : Nat := 4096

def metadataError (message : String) : BridgeError := .new .artifact message

def asArtifactError (error : BridgeError) : BridgeError :=
  { error with
    code := .artifact
    message := "image failed verification while embedding metadata" }

def validateJson (isObject : Bytes → Bool) (encoded : Bytes) : Outcome Unit :=
  failIf (encoded.isEmpty = true ∨ encoded.length > maxEmbeddedMetadataBytes ∨ isObject encoded = false)
    (metadataError "embedded metadata must be a JSON object no larger than 40 KiB")

/-! ## The record -/

def xmpStart : Bytes :=
  ascii "<x:xmpmeta xmlns:x=\"adobe:ns:meta/\" x:xmptk=\"imagegen-bridge\">" ++
  ascii "<rdf:RDF xmlns:rdf=\"http://www.w3.org/1999/02/22-rdf-syntax-ns#\">" ++
  ascii "<rdf:Description rdf:about=\"\" " ++
  ascii "xmlns:igb=\"https://github.com/Crimsab/imagegen-bridge/ns/1.0/\">"

def xmpEnd : Bytes := ascii "</rdf:Description></rdf:RDF></x:xmpmeta>"

def xmpPacket (encodedJson : Bytes) : Bytes :=
  xmpStart ++ (xmpOpen ++ (Base64.encodePadded encodedJson ++ (xmpClose ++ xmpEnd)))

def boundedXmp (bytes : Bytes) : Outcome Bytes := do
  failIf (bytes.isEmpty = true ∨ bytes.length > maxXmpBytes)
    (metadataError "embedded XMP record exceeds the size limit")
  .ok bytes

/-- What stands between the first opening mark and the next closing one. -/
def between (bytes start close : Bytes) : Option Bytes := do
  let (_, inside) ← cut start bytes
  let (found, _) ← cut close inside
  some found

/-! ## PNG -/

structure PngChunk where
  /-- The length and the kind. -/
  header : Bytes
  data : Bytes
  checksum : Bytes
  deriving DecidableEq

namespace PngChunk

def kind (chunk : PngChunk) : Bytes := chunk.header.drop 4

def raw (chunk : PngChunk) : Bytes := chunk.header ++ (chunk.data ++ chunk.checksum)

end PngChunk

def pngChunk (stream : Bytes) : Outcome (PngChunk × Bytes) := do
  let (header, rest) ← slice 8 (metadataError "PNG chunk header is truncated") stream
  let (data, rest) ← slice (bigEndian (header.take 4))
    (metadataError "PNG chunk data is truncated") rest
  let (checksum, rest) ← slice 4 (metadataError "PNG chunk checksum is truncated") rest
  .ok ({ header, data, checksum }, rest)

theorem pngChunk_ok {stream rest : Bytes} {chunk : PngChunk}
    (taken : pngChunk stream = .ok (chunk, rest)) :
    stream = chunk.raw ++ rest ∧ chunk.header.length = 8 ∧
      chunk.data.length = bigEndian (chunk.header.take 4) ∧ chunk.checksum.length = 4 := by
  unfold pngChunk at taken
  obtain ⟨⟨header, afterHeader⟩, first, taken⟩ := bind_ok.mp taken
  obtain ⟨⟨data, afterData⟩, second, taken⟩ := bind_ok.mp taken
  obtain ⟨⟨checksum, last⟩, third, taken⟩ := bind_ok.mp taken
  cases taken
  obtain ⟨rfl, eight⟩ := slice_ok first
  obtain ⟨rfl, sized⟩ := slice_ok second
  obtain ⟨rfl, four⟩ := slice_ok third
  exact ⟨by simp [PngChunk.raw], eight, sized, four⟩

theorem pngChunk_raw {chunk : PngChunk} (eight : chunk.header.length = 8)
    (sized : chunk.data.length = bigEndian (chunk.header.take 4)) (four : chunk.checksum.length = 4)
    (rest : Bytes) : pngChunk (chunk.raw ++ rest) = .ok (chunk, rest) := by
  rw [PngChunk.raw, List.append_assoc, List.append_assoc]
  refine bind_ok.mpr ⟨_, slice_append eight _ _, bind_ok.mpr ⟨_, slice_append sized _ _, ?_⟩⟩
  exact bind_ok.mpr ⟨_, slice_append four _ _, rfl⟩

def pngReader : Reader BridgeError UInt8 PngChunk where
  read := pngChunk
  raw := PngChunk.raw
  splits taken := by
    obtain ⟨split, eight, _⟩ := pngChunk_ok taken
    refine ⟨split, fun empty => ?_⟩
    have nothing := congrArg List.length empty
    simp only [PngChunk.raw, List.length_append, eight, List.length_nil] at nothing
    omega
  keeps taken := by
    obtain ⟨_, eight, sized, four⟩ := pngChunk_ok taken
    exact pngChunk_raw eight sized four

/-- `crc32` with the polynomial of PNG, bit by bit. -/
def crc32 (bytes : Bytes) : UInt32 :=
  ~~~bytes.foldl (fun crc byte =>
    (List.range 8).foldl (fun crc _ => (crc >>> 1) ^^^ (0xedb88320 &&& (0 - (crc &&& 1))))
      (crc ^^^ byte.toUInt32)) 0xffffffff

example : crc32 (ascii "IEND") = 0xae426082 := by rfl

def appendPngChunk (output kind data : Bytes) : Outcome Bytes := do
  failIf (data.length ≥ 2 ^ 32) (metadataError "PNG metadata chunk is too large")
  .ok (output ++ toBigEndian 4 data.length ++ kind ++ data
    ++ toBigEndian 4 (crc32 (kind ++ data)).toNat)

def appendPngXmp (output xmp : Bytes) : Outcome Bytes :=
  appendPngChunk output (ascii "iTXt") (pngXmpKeyword ++ [0, 0, 0, 0, 0] ++ xmp)

def isPngXmp (data : Bytes) : Bool :=
  decide (pngXmpKeyword <+: data) && data[pngXmpKeyword.length]? == some 0

/-- The record goes before the first end. -/
def insertPngXmp (xmp : Bytes) (state : Bytes × Bool) (chunk : PngChunk) :
    Outcome (Bytes × Bool) :=
  if chunk.kind = ascii "IEND" ∧ state.2 = false then (appendPngXmp state.1 xmp).map (·, true)
  else .ok state

/-- One turn of the loop in `embed_png`, with the output and whether the record is in it. -/
def copyPngChunk (xmp : Bytes) (state : Bytes × Bool) (chunk : PngChunk) :
    Outcome (Verdict (Bytes × Bool)) := do
  let (output, inserted) ← insertPngXmp xmp state chunk
  .ok (.onward (if chunk.kind = ascii "iTXt" ∧ isPngXmp chunk.data = true then output
    else output ++ chunk.raw, inserted))

def embedPng (bytes xmp : Bytes) : Outcome Bytes := do
  failIf (¬pngSignature <+: bytes) (metadataError "PNG container is malformed")
  let (output, inserted) ← pngReader.walk .ok (copyPngChunk xmp) (pngSignature, false)
    (bytes.drop pngSignature.length)
  failIf (inserted = false) (metadataError "PNG container has no valid IEND chunk")
  .ok output

/-- The bytes after the next zero. -/
def nulTerminatedEnd (bytes : Bytes) : Outcome Bytes :=
  match bytes.dropWhile (· != 0) with
  | _ :: rest => .ok rest
  | [] => .error (metadataError "PNG XMP text field is malformed")

/-- The text of an XMP chunk, behind its language and its translated keyword. -/
def pngXmpText (data : Bytes) : Outcome Bytes := do
  let fields := data.drop pngXmpKeyword.length
  failIf (fields.head? ≠ some 0 ∨ (fields.drop 1).take 2 ≠ [0, 0])
    (metadataError "PNG XMP chunk is malformed")
  let translated ← nulTerminatedEnd (fields.drop 3)
  let text ← nulTerminatedEnd translated
  boundedXmp text

def findPngXmp (_ : Option Bytes) (chunk : PngChunk) : Outcome (Verdict (Option Bytes)) :=
  if chunk.kind = ascii "iTXt" ∧ isPngXmp chunk.data = true then
    (pngXmpText chunk.data).map (.done <| some ·)
  else .ok (.onward none)

def extractPngXmp (bytes : Bytes) : Outcome (Option Bytes) :=
  pngReader.walk .ok findPngXmp none (bytes.drop pngSignature.length)

/-! ## JPEG -/

structure JpegSegment where
  /-- The bytes `0xff` before the marker. -/
  fill : Bytes
  marker : UInt8
  /-- The two bytes of the length, where the marker has one. -/
  length : Bytes
  data : Bytes
  deriving DecidableEq

def JpegSegment.raw (segment : JpegSegment) : Bytes :=
  segment.fill ++ segment.marker :: (segment.length ++ segment.data)

/-- The image data or the end of the image follows. -/
def endsHeaders (marker : UInt8) : Bool := marker == 0xda || marker == 0xd9

/-- The marker has no length. -/
def standsAlone (marker : UInt8) : Bool :=
  marker == 0x01 || (decide (0xd0 ≤ marker) && decide (marker ≤ 0xd7))

def jpegSegment (stream : Bytes) : Outcome (JpegSegment × Bytes) := do
  failIf (stream.head? ≠ some 0xff) (metadataError "JPEG marker stream is malformed")
  let fill := stream.takeWhile (· == 0xff)
  match stream.dropWhile (· == 0xff) with
  | [] => .error (metadataError "JPEG marker stream is truncated")
  | marker :: rest =>
    if (endsHeaders marker || standsAlone marker) = true then
      .ok ({ fill, marker, length := [], data := [] }, rest)
    else do
      let (length, rest) ← slice 2 (metadataError "JPEG segment is truncated") rest
      failIf (bigEndian length < 2) (metadataError "JPEG segment length is malformed")
      let (data, rest) ← slice (bigEndian length - 2) (metadataError "JPEG segment is truncated") rest
      .ok ({ fill, marker, length, data }, rest)

/-- What the bytes of a segment are to be for it to be read back. -/
structure JpegSegment.Formed (segment : JpegSegment) : Prop where
  fill : segment.fill ≠ [] ∧ ∀ b ∈ segment.fill, b = 0xff
  marker : segment.marker ≠ 0xff
  body : if (endsHeaders segment.marker || standsAlone segment.marker) = true then
      segment.length = [] ∧ segment.data = []
    else segment.length.length = 2 ∧ 2 ≤ bigEndian segment.length ∧
      segment.data.length = bigEndian segment.length - 2

theorem jpegSegment_ok {stream rest : Bytes} {segment : JpegSegment}
    (taken : jpegSegment stream = .ok (segment, rest)) :
    stream = segment.raw ++ rest ∧ segment.Formed := by
  unfold jpegSegment at taken
  obtain ⟨_, starts, taken⟩ := bind_ok.mp taken
  rw [failIf_ok, not_not] at starts
  have filled : stream.takeWhile (· == 0xff) ≠ [] := by
    cases stream with
    | nil => cases starts
    | cons b stream =>
      cases starts
      simp
  have fills : ∀ b ∈ stream.takeWhile (· == 0xff), b = 0xff := fun b among =>
    beq_iff_eq.mp (List.all_eq_true.mp List.all_takeWhile b among)
  have whole := List.takeWhile_append_dropWhile (p := (· == 0xff)) (l := stream)
  dsimp only at taken
  split at taken
  · cases taken
  · rename_i marker after dropped
    rw [dropped] at whole
    have other : marker ≠ 0xff := by
      have first := List.head?_dropWhile_not (· == 0xff) stream
      rw [dropped] at first
      simpa using first
    split at taken
    · rename_i alone
      cases taken
      exact ⟨whole.symm.trans (by simp [JpegSegment.raw]), ⟨filled, fills⟩, other, by
        rw [if_pos alone]
        exact ⟨rfl, rfl⟩⟩
    · rename_i alone
      obtain ⟨⟨length, afterLength⟩, first, taken⟩ := bind_ok.mp taken
      obtain ⟨_, long, taken⟩ := bind_ok.mp taken
      obtain ⟨⟨data, last⟩, second, taken⟩ := bind_ok.mp taken
      cases taken
      obtain ⟨rfl, two⟩ := slice_ok first
      obtain ⟨rfl, sized⟩ := slice_ok second
      rw [failIf_ok, Nat.not_lt] at long
      refine ⟨whole.symm.trans (by simp [JpegSegment.raw]), ⟨filled, fills⟩, other, ?_⟩
      rw [if_neg alone]
      exact ⟨two, long, sized⟩

theorem jpegSegment_raw {segment : JpegSegment} (formed : segment.Formed) (rest : Bytes) :
    jpegSegment (segment.raw ++ rest) = .ok (segment, rest) := by
  obtain ⟨fill, marker, length, data⟩ := segment
  obtain ⟨⟨filled, fills⟩, other, body⟩ := formed
  dsimp only at filled fills other body
  have split : JpegSegment.raw ⟨fill, marker, length, data⟩ ++ rest =
      fill ++ (marker :: (length ++ (data ++ rest))) := by
    simp [JpegSegment.raw]
  have fills' : ∀ b ∈ fill, (b == 0xff) = true := fun b among => beq_iff_eq.mpr (fills b among)
  have other' : (marker == 0xff) = false := beq_eq_false_iff_ne.mpr other
  have taken : (fill ++ (marker :: (length ++ (data ++ rest)))).takeWhile (· == 0xff) = fill := by
    rw [List.takeWhile_append_of_pos fills', List.takeWhile_cons_of_neg (by simp [other']),
      List.append_nil]
  have dropped : (fill ++ (marker :: (length ++ (data ++ rest)))).dropWhile (· == 0xff) =
      marker :: (length ++ (data ++ rest)) := by
    rw [List.dropWhile_append_of_pos fills', List.dropWhile_cons_of_neg (by simp [other'])]
  have starts : (fill ++ (marker :: (length ++ (data ++ rest)))).head? = some 0xff := by
    obtain ⟨b, fill, rfl⟩ := List.exists_cons_of_ne_nil filled
    rw [fills b (List.mem_cons_self ..)]
    rfl
  rw [split]
  unfold jpegSegment
  refine bind_ok.mpr ⟨(), (failIf_ok ..).mpr (not_not.mpr starts), ?_⟩
  simp only [taken, dropped]
  split at body
  · rename_i alone
    obtain ⟨rfl, rfl⟩ := body
    rw [if_pos alone]
    rfl
  · rename_i alone
    obtain ⟨two, long, sized⟩ := body
    rw [if_neg alone]
    refine bind_ok.mpr ⟨_, slice_append two _ _, bind_ok.mpr ⟨(), ?_, ?_⟩⟩
    · exact (failIf_ok ..).mpr (Nat.not_lt.mpr long)
    · exact bind_ok.mpr ⟨_, slice_append sized _ _, rfl⟩

def jpegReader : Reader BridgeError UInt8 JpegSegment where
  read := jpegSegment
  raw := JpegSegment.raw
  splits taken := by
    obtain ⟨split, _⟩ := jpegSegment_ok taken
    exact ⟨split, by simp [JpegSegment.raw]⟩
  keeps taken := jpegSegment_raw (jpegSegment_ok taken).2

def embedJpeg (bytes xmp : Bytes) : Outcome Bytes := do
  failIf (¬[0xff, 0xd8] <+: bytes) (metadataError "JPEG container is malformed")
  let segmentLength := jpegXmpHeader.length + xmp.length + 2
  failIf (segmentLength ≥ 2 ^ 16) (metadataError "JPEG XMP record exceeds the APP1 limit")
  .ok (bytes.take 2 ++ [0xff, 0xe1] ++ toBigEndian 2 segmentLength ++ jpegXmpHeader ++ xmp
    ++ bytes.drop 2)

def findJpegXmp (_ : Option Bytes) (segment : JpegSegment) : Outcome (Verdict (Option Bytes)) :=
  if endsHeaders segment.marker = true then .ok (.done none)
  else if standsAlone segment.marker = true then .ok (.onward none)
  else if segment.marker = 0xe1 ∧ jpegXmpHeader <+: segment.data then
    (boundedXmp (segment.data.drop jpegXmpHeader.length)).map (.done <| some ·)
  else .ok (.onward none)

def extractJpegXmp (bytes : Bytes) : Outcome (Option Bytes) :=
  jpegReader.walk .ok findJpegXmp none (bytes.drop 2)

/-! ## WebP -/

structure WebpChunk where
  /-- The kind and the size. -/
  header : Bytes
  data : Bytes
  padding : Bytes
  deriving DecidableEq

namespace WebpChunk

def kind (chunk : WebpChunk) : Bytes := chunk.header.take 4

def size (chunk : WebpChunk) : Nat := littleEndian (chunk.header.drop 4)

def raw (chunk : WebpChunk) : Bytes := chunk.header ++ (chunk.data ++ chunk.padding)

end WebpChunk

def webpChunk (stream : Bytes) : Outcome (WebpChunk × Bytes) := do
  let (header, rest) ← slice 8 (metadataError "WebP chunk header is truncated") stream
  let size := littleEndian (header.drop 4)
  let (data, rest) ← slice size (metadataError "WebP chunk data is truncated") rest
  let (padding, rest) ← slice (size % 2) (metadataError "WebP chunk padding is truncated") rest
  .ok ({ header, data, padding }, rest)

theorem webpChunk_ok {stream rest : Bytes} {chunk : WebpChunk}
    (taken : webpChunk stream = .ok (chunk, rest)) :
    stream = chunk.raw ++ rest ∧ chunk.header.length = 8 ∧ chunk.data.length = chunk.size ∧
      chunk.padding.length = chunk.size % 2 := by
  unfold webpChunk at taken
  obtain ⟨⟨header, afterHeader⟩, first, taken⟩ := bind_ok.mp taken
  obtain ⟨⟨data, afterData⟩, second, taken⟩ := bind_ok.mp taken
  obtain ⟨⟨padding, last⟩, third, taken⟩ := bind_ok.mp taken
  cases taken
  obtain ⟨rfl, eight⟩ := slice_ok first
  obtain ⟨rfl, sized⟩ := slice_ok second
  obtain ⟨rfl, padded⟩ := slice_ok third
  exact ⟨by simp [WebpChunk.raw], eight, sized, padded⟩

theorem webpChunk_raw {chunk : WebpChunk} (eight : chunk.header.length = 8)
    (sized : chunk.data.length = chunk.size) (padded : chunk.padding.length = chunk.size % 2)
    (rest : Bytes) : webpChunk (chunk.raw ++ rest) = .ok (chunk, rest) := by
  rw [WebpChunk.raw, List.append_assoc, List.append_assoc]
  refine bind_ok.mpr ⟨_, slice_append eight _ _, bind_ok.mpr ⟨_, slice_append sized _ _, ?_⟩⟩
  exact bind_ok.mpr ⟨_, slice_append padded _ _, rfl⟩

def webpReader : Reader BridgeError UInt8 WebpChunk where
  read := webpChunk
  raw := WebpChunk.raw
  splits taken := by
    obtain ⟨split, eight, _⟩ := webpChunk_ok taken
    refine ⟨split, fun empty => ?_⟩
    have nothing := congrArg List.length empty
    simp only [WebpChunk.raw, List.length_append, eight, List.length_nil] at nothing
    omega
  keeps taken := by
    obtain ⟨_, eight, sized, padded⟩ := webpChunk_ok taken
    exact webpChunk_raw eight sized padded

section Visits

variable {σ : Type}

/-- The count of a visit goes up before a chunk is read. -/
def countWebpChunk (state : Nat × σ) : Outcome (Nat × σ) := do
  failIf (state.1 + 1 > maxWebpChunks) (metadataError "WebP chunk count exceeds the limit")
  .ok (state.1 + 1, state.2)

def visitCounted (visit : σ → WebpChunk → Outcome (Verdict σ)) (state : Nat × σ) (chunk : WebpChunk) :
    Outcome (Verdict (Nat × σ)) :=
  (visit state.2 chunk).map fun
    | .onward s => .onward (state.1, s)
    | .done s => .done (state.1, s)

def visitWebpChunks (bytes : Bytes) (visit : σ → WebpChunk → Outcome (Verdict σ)) (s : σ) :
    Outcome σ := do
  failIf (bytes.length < 12 ∨ bytes.take 4 ≠ ascii "RIFF" ∨ (bytes.drop 8).take 4 ≠ ascii "WEBP")
    (metadataError "WebP container is malformed")
  failIf (littleEndian ((bytes.drop 4).take 4) + 8 ≠ bytes.length)
    (metadataError "WebP RIFF size does not match the payload")
  let (_, s) ← webpReader.walk countWebpChunk (visitCounted visit) (0, s) (bytes.drop 12)
  .ok s

end Visits

def appendWebpChunk (output kind data : Bytes) : Outcome Bytes := do
  failIf (kind.length ≠ 4) (metadataError "WebP chunk type is malformed")
  failIf (data.length ≥ 2 ^ 32) (metadataError "WebP metadata chunk is too large")
  .ok (output ++ kind ++ toLittleEndian 4 data.length ++ data
    ++ if data.length % 2 = 1 then [0] else [])

def vp8lHasAlpha (data : Bytes) : Bool :=
  if data.length < 5 ∨ data.head? ≠ some 0x2f then false
  else (littleEndian ((data.drop 1).take 4)).testBit 28

def writeU24 (value : Nat) : Outcome Bytes := do
  failIf (value > 0x00ffffff) (metadataError "WebP canvas dimensions are too large")
  .ok (toLittleEndian 3 value)

/-- The flag that a chunk asks for in the header of an extended file. -/
def flagOf (chunk : WebpChunk) : UInt8 :=
  if chunk.kind = ascii "ICCP" then 0x20
  else if chunk.kind = ascii "ALPH" then 0x10
  else if chunk.kind = ascii "EXIF" then 0x08
  else if chunk.kind = ascii "ANIM" ∨ chunk.kind = ascii "ANMF" then 0x02
  else if chunk.kind = ascii "VP8L" ∧ vp8lHasAlpha chunk.data = true then 0x10
  else 0

/-- The first visit finds whether the file is extended already, and the flags. -/
def noteWebpChunk (state : Bool × UInt8) (chunk : WebpChunk) : Outcome (Verdict (Bool × UInt8)) :=
  .ok (.onward (state.1 || decide (chunk.kind = ascii "VP8X"), state.2 ||| flagOf chunk))

/-- `updated[0] |= 0x04`. -/
def setXmpFlag : Bytes → Bytes
  | first :: rest => (first ||| 0x04) :: rest
  | [] => []

/-- The second visit copies every chunk but the records. -/
def copyWebpChunk (output : Bytes) (chunk : WebpChunk) : Outcome (Verdict Bytes) :=
  if chunk.kind = ascii "XMP " then .ok (.onward output)
  else if chunk.kind = ascii "VP8X" then
    if chunk.data.length ≠ 10 then .error (metadataError "WebP VP8X chunk is malformed")
    else (appendWebpChunk output chunk.kind (setXmpFlag chunk.data)).map .onward
  else (appendWebpChunk output chunk.kind chunk.data).map .onward

/-- The header of an extended file. -/
def insertVp8x (output : Bytes) (flags : UInt8) (width height : Nat) : Outcome Bytes := do
  let right ← writeU24 (width - 1)
  let bottom ← writeU24 (height - 1)
  appendWebpChunk output (ascii "VP8X") ([flags, 0, 0, 0] ++ right ++ bottom)

def withVp8x (noted : Bool × UInt8) (output : Bytes) (width height : Nat) : Outcome Bytes :=
  if noted.1 = false then insertVp8x output noted.2 width height else .ok output

def riffHeader : Bytes := ascii "RIFF" ++ [0, 0, 0, 0] ++ ascii "WEBP"

def embedWebp (bytes xmp : Bytes) (width height : Nat) : Outcome Bytes := do
  let noted ← visitWebpChunks bytes noteWebpChunk (false, 0x04)
  let output ← withVp8x noted riffHeader width height
  let output ← visitWebpChunks bytes copyWebpChunk output
  let output ← appendWebpChunk output (ascii "XMP ") xmp
  failIf (output.length - 8 ≥ 2 ^ 32) (metadataError "WebP container is too large")
  .ok (output.take 4 ++ toLittleEndian 4 (output.length - 8) ++ output.drop 8)

def findWebpXmp (_ : Option Bytes) (chunk : WebpChunk) : Outcome (Verdict (Option Bytes)) :=
  if chunk.kind = ascii "XMP " then (boundedXmp chunk.data).map (.done <| some ·)
  else .ok (.onward none)

def extractWebpXmp (bytes : Bytes) : Outcome (Option Bytes) :=
  visitWebpChunks bytes findWebpXmp none

/-! ## Embedding and extraction -/

/-- What `image`, `imagesize`, `sha2` and `serde_json` find. -/
structure Libraries where
  decoders : Decoders
  isObject : Bytes → Bool

def inspectArtifact (libraries : Libraries) (limits : ImageLimits) (bytes : Bytes) :
    Outcome ImageMetadata :=
  (inspectImage libraries.decoders limits bytes).mapError asArtifactError

def embedXmp (source : ImageMetadata) (bytes xmp : Bytes) : Outcome Bytes :=
  match source.format with
  | .png => embedPng bytes xmp
  | .jpeg => embedJpeg bytes xmp
  | .webp => embedWebp bytes xmp source.width source.height

/-- Embeds one bounded JSON generation record without decoding or re-encoding pixels. -/
def embedImageMetadata (libraries : Libraries) (limits : ImageLimits) (bytes : Bytes)
    (expected : OutputFormat) (encodedJson : Bytes) : Outcome (Bytes × ImageMetadata) := do
  validateJson libraries.isObject encodedJson
  let source ← inspectArtifact libraries limits bytes
  failIf (source.format ≠ expected)
    (metadataError "embedded metadata target format does not match the image")
  let embedded ← embedXmp source bytes (xmpPacket encodedJson)
  let result ← inspectArtifact libraries limits embedded
  failIf (result.format ≠ source.format ∨ result.width ≠ source.width ∨
      result.height ≠ source.height)
    (metadataError "embedded metadata changed the verified image properties")
  .ok (embedded, result)

def extractXmp (format : OutputFormat) (bytes : Bytes) : Outcome (Option Bytes) :=
  match format with
  | .png => extractPngXmp bytes
  | .jpeg => extractJpegXmp bytes
  | .webp => extractWebpXmp bytes

def malformedXmp : BridgeError := metadataError "embedded XMP record is malformed"

/-- The generation record inside an XMP packet. -/
def decodeXmp (isObject : Bytes → Bool) (xmp : Bytes) : Outcome Bytes :=
  match between xmp xmpOpen xmpClose with
  | none => .error malformedXmp
  | some encoded =>
    match Base64.decodePadded encoded with
    | none => .error malformedXmp
    | some decoded => do
      validateJson isObject decoded
      .ok decoded

/-- Extracts the bridge JSON generation record from a PNG, JPEG, or WebP image. -/
def extractEmbeddedMetadata (libraries : Libraries) (limits : ImageLimits) (bytes : Bytes) :
    Outcome (Option Bytes) := do
  let inspected ← inspectArtifact libraries limits bytes
  let xmp ← extractXmp inspected.format bytes
  match xmp with
  | none => .ok none
  | some xmp => (decodeXmp libraries.isObject xmp).map some

end ImagegenBridge.Metadata
