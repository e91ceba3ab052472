import ImagegenBridge.Artifacts.Metadata

/-!
# What embedding makes of a WebP file

Both visits of the writer read one row of chunks, which is written anew chunk by chunk. The reader
stops at the limit of the visits, whatever the writer has left.
-/

namespace ImagegenBridge.Metadata

open Chunks Materialize Outcome
open Reader (follow)

variable {bytes xmp out : Bytes}

/-! ## Visits -/

/-- A file around its chunks. -/
def riffFile (body : Bytes) : Bytes :=
  ascii "RIFF" ++ (toLittleEndian 4 (body.length + 4) ++ (ascii "WEBP" ++ body))

/-- What the checks of a visit read in a file. -/
structure RiffParts (file body : Bytes) : Prop where
  riff : file.take 4 = ascii "RIFF"
  size : littleEndian ((file.drop 4).take 4) = body.length + 4
  webp : (file.drop 8).take 4 = ascii "WEBP"
  rest : file.drop 12 = body
  long : file.length = body.length + 12

theorem riffFile_parts {body : Bytes} (short : body.length + 4 < 2 ^ 32) :
    RiffParts (riffFile body) body := by
  have literals : (ascii "RIFF").length = 4 ∧ (ascii "WEBP").length = 4 :=
    ⟨length_ascii _, length_ascii _⟩
  have size : (toLittleEndian 4 (body.length + 4)).length = 4 := length_toLittleEndian ..
  have second : (riffFile body).drop 4 =
      toLittleEndian 4 (body.length + 4) ++ (ascii "WEBP" ++ body) := List.drop_left' literals.1
  have third : (riffFile body).drop 8 = ascii "WEBP" ++ body := by
    rw [← List.drop_drop (i := 4) (j := 4), second, List.drop_left' size]
  refine ⟨List.take_left' literals.1, ?_, ?_, ?_, ?_⟩
  · rw [second, List.take_left' size, littleEndian_toLittleEndian short]
  · rw [third, List.take_left' literals.2]
  · rw [← List.drop_drop (i := 4) (j := 8), third, List.drop_left' literals.2]
  · simp only [riffFile, List.length_append, literals, size]
    omega

section Visits

variable {σ : Type} {visit : σ → WebpChunk → Outcome (Verdict σ)} {s t : σ}

/-- A counted visit is the visit of no more chunks than the limit. -/
theorem follow_counted (goes : ∀ s chunk verdict, visit s chunk = .ok verdict →
      ∃ next, verdict = .onward next) {n m : Nat} (least : n ≤ maxWebpChunks)
    {chunks : List WebpChunk} :
    follow countWebpChunk (visitCounted visit) (n, s) chunks = .ok (.onward (m, t)) ↔
      n + chunks.length ≤ maxWebpChunks ∧ m = n + chunks.length ∧
        follow .ok visit s chunks = .ok (.onward t) := by
  induction chunks generalizing n s with
  | nil =>
    simp only [follow, Except.ok.injEq, Verdict.onward.injEq, Prod.mk.injEq, List.length_nil,
      Nat.add_zero]
    constructor
    · rintro ⟨count, same⟩
      exact ⟨least, count.symm, same⟩
    · rintro ⟨_, count, same⟩
      exact ⟨count.symm, same⟩
  | cons chunk rest ih =>
    rw [List.length_cons, follow, follow]
    by_cases beyond : n + 1 > maxWebpChunks
    · have refused : countWebpChunk (n, s) =
          .error (metadataError "WebP chunk count exceeds the limit") := by
        simp [countWebpChunk, failIf, beyond, bind, Except.bind]
      simp only [refused]
      constructor
      · intro impossible
        cases impossible
      · rintro ⟨few, _⟩
        omega
    · have counted : countWebpChunk (n, s) = .ok (n + 1, s) := by
        simp [countWebpChunk, failIf, beyond, bind, Except.bind]
      simp only [counted, visitCounted]
      cases visited : visit s chunk with
      | error e => simp [Except.map]
      | ok verdict =>
        obtain ⟨next, rfl⟩ := goes s chunk verdict visited
        simp only [Except.map]
        rw [ih (Nat.not_lt.mp beyond), Nat.add_right_comm, Nat.add_assoc]

theorem visitCounted_goes (goes : ∀ s chunk verdict, visit s chunk = .ok verdict →
      ∃ next, verdict = .onward next) (state : Nat × σ) (chunk : WebpChunk)
    (verdict : Verdict (Nat × σ)) (visited : visitCounted visit state chunk = .ok verdict) :
    ∃ next, verdict = .onward next := by
  unfold visitCounted at visited
  cases found : visit state.2 chunk with
  | error e =>
    rw [found] at visited
    cases visited
  | ok own =>
    obtain ⟨next, rfl⟩ := goes _ _ _ found
    rw [found] at visited
    cases visited
    exact ⟨_, rfl⟩

theorem visit_ok (goes : ∀ s chunk verdict, visit s chunk = .ok verdict →
      ∃ next, verdict = .onward next) (visited : visitWebpChunks bytes visit s = .ok t) :
    ∃ chunks, bytes.drop 12 = chunks.flatMap webpReader.raw ∧
      (∀ chunk ∈ chunks, webpReader.Reads chunk) ∧ chunks.length ≤ maxWebpChunks ∧
      follow .ok visit s chunks = .ok (.onward t) := by
  unfold visitWebpChunks at visited
  obtain ⟨_, _, visited⟩ := bind_ok.mp visited
  obtain ⟨_, _, visited⟩ := bind_ok.mp visited
  obtain ⟨⟨count, last⟩, walked, visited⟩ := bind_ok.mp visited
  cases visited
  obtain ⟨chunks, split, reads, followed⟩ := Reader.walk_ok (visitCounted_goes goes) walked
  obtain ⟨few, _, own⟩ := (follow_counted goes (Nat.zero_le _)).mp followed
  rw [Nat.zero_add] at few
  exact ⟨chunks, split, reads, few, own⟩

theorem visit_riffFile {chunks : List WebpChunk} (reads : ∀ chunk ∈ chunks, webpReader.Reads chunk)
    (short : (chunks.flatMap webpReader.raw).length + 4 < 2 ^ 32) :
    visitWebpChunks (riffFile (chunks.flatMap webpReader.raw)) visit s =
      (follow countWebpChunk (visitCounted visit) (0, s) chunks).map fun
        | .onward state => state.2
        | .done state => state.2 := by
  have parts := riffFile_parts short
  have whole : ¬((riffFile (chunks.flatMap webpReader.raw)).length < 12 ∨
      (riffFile (chunks.flatMap webpReader.raw)).take 4 ≠ ascii "RIFF" ∨
      ((riffFile (chunks.flatMap webpReader.raw)).drop 8).take 4 ≠ ascii "WEBP") := by
    rw [parts.long, parts.riff, parts.webp]
    simp
  have sized : ¬littleEndian (((riffFile (chunks.flatMap webpReader.raw)).drop 4).take 4) + 8 ≠
      (riffFile (chunks.flatMap webpReader.raw)).length := by
    rw [parts.size, parts.long]
    simp
  rw [visitWebpChunks, failIf, failIf, if_neg whole, if_neg sized, parts.rest, Reader.walk_all reads]
  cases follow countWebpChunk (visitCounted visit) (0, s) chunks with
  | error e => rfl
  | ok verdict => cases verdict <;> rfl

end Visits

/-! ## The new file -/

/-- The chunk that is written for a kind and its data. -/
def writtenChunk (kind data : Bytes) : WebpChunk where
  header := kind ++ toLittleEndian 4 data.length
  data := data
  padding := if data.length % 2 = 1 then [0] else []

def isXmp (chunk : WebpChunk) : Bool := decide (chunk.kind = ascii "XMP ")

def isVp8x (chunk : WebpChunk) : Bool := decide (chunk.kind = ascii "VP8X")

theorem writtenChunk_kind {kind data : Bytes} (four : kind.length = 4) :
    (writtenChunk kind data).kind = kind :=
  List.take_left' four

theorem writtenChunk_reads {kind data : Bytes} (four : kind.length = 4)
    (short : data.length < 2 ^ 32) : webpReader.Reads (writtenChunk kind data) := by
  have size : (writtenChunk kind data).size = data.length := by
    rw [WebpChunk.size, writtenChunk, List.drop_left' four, littleEndian_toLittleEndian short]
  have eight : (writtenChunk kind data).header.length = 8 := by
    rw [writtenChunk, List.length_append, length_toLittleEndian, four]
  refine ⟨fun empty => ?_, webpChunk_raw eight size.symm ?_⟩
  · have nothing := congrArg List.length empty
    simp only [webpReader, WebpChunk.raw, List.length_append, eight, List.length_nil] at nothing
    omega
  · rw [size, writtenChunk]
    dsimp only
    split <;> simp only [List.length_singleton, List.length_nil] <;> omega

theorem reads_formed {chunk : WebpChunk} (reads : webpReader.Reads chunk) :
    chunk.kind.length = 4 ∧ chunk.data.length < 2 ^ 32 := by
  have taken := reads.2 []
  obtain ⟨_, eight, sized, _⟩ := webpChunk_ok taken
  have size : (chunk.header.drop 4).length = 4 := by rw [List.length_drop, eight]
  have bound := littleEndian_lt (chunk.header.drop 4)
  rw [size] at bound
  refine ⟨by rw [WebpChunk.kind, List.length_take, eight]; rfl, ?_⟩
  rw [sized, WebpChunk.size]
  exact bound

theorem appendWebpChunk_ok {output kind data : Bytes} :
    appendWebpChunk output kind data = .ok out ↔
      kind.length = 4 ∧ data.length < 2 ^ 32 ∧
        out = output ++ webpReader.raw (writtenChunk kind data) := by
  have same : output ++ kind ++ toLittleEndian 4 data.length ++ data ++
      (if data.length % 2 = 1 then [0] else []) =
        output ++ webpReader.raw (writtenChunk kind data) := by
    simp [webpReader, WebpChunk.raw, writtenChunk]
  unfold appendWebpChunk
  simp only [bind_ok, failIf_ok, ge_iff_le, Nat.not_le, ne_eq, not_not, Except.ok.injEq, same]
  constructor
  · rintro ⟨_, four, _, short, rfl⟩
    exact ⟨four, short, rfl⟩
  · rintro ⟨four, short, rfl⟩
    exact ⟨(), four, (), short, rfl⟩

/-- The copy of a chunk. -/
def rewrite (chunk : WebpChunk) : WebpChunk :=
  writtenChunk chunk.kind (if isVp8x chunk = true then setXmpFlag chunk.data else chunk.data)

/-- The bytes a chunk leaves in the output. -/
def copied (chunk : WebpChunk) : Bytes :=
  if isXmp chunk = true then [] else webpReader.raw (rewrite chunk)

/-- The header of an extended file has ten bytes. -/
def TenBytes (chunk : WebpChunk) : Prop := isVp8x chunk = true → chunk.data.length = 10

theorem length_setXmpFlag (data : Bytes) : (setXmpFlag data).length = data.length := by
  cases data <;> rfl

theorem copyWebpChunk_ok {chunk : WebpChunk} (reads : webpReader.Reads chunk) {output : Bytes}
    {verdict : Verdict Bytes} :
    copyWebpChunk output chunk = .ok verdict ↔
      TenBytes chunk ∧ verdict = .onward (output ++ copied chunk) := by
  obtain ⟨four, short⟩ := reads_formed reads
  have written (data : Bytes) (fits : data.length < 2 ^ 32) :
      appendWebpChunk output chunk.kind data =
        .ok (output ++ webpReader.raw (writtenChunk chunk.kind data)) :=
    appendWebpChunk_ok.mpr ⟨four, fits, rfl⟩
  by_cases record : chunk.kind = ascii "XMP "
  · have other : ascii "XMP " ≠ ascii "VP8X" := ascii_ne (by decide)
    have plain : isVp8x chunk = false := by simp [isVp8x, record, other]
    have gone : copied chunk = [] := by simp [copied, isXmp, record]
    rw [copyWebpChunk, if_pos record, gone, List.append_nil, TenBytes, plain]
    simp [eq_comm]
  · have stays : copied chunk = webpReader.raw (rewrite chunk) := by simp [copied, isXmp, record]
    rw [copyWebpChunk, if_neg record, stays, TenBytes, rewrite]
    by_cases extended : chunk.kind = ascii "VP8X"
    · have own : isVp8x chunk = true := by simp [isVp8x, extended]
      rw [if_pos extended, if_pos own, own]
      by_cases ten : chunk.data.length = 10
      · rw [if_neg (not_not.mpr ten), written _ (by rw [length_setXmpFlag]; exact short)]
        simp [ten, Except.map, eq_comm]
      · rw [if_pos ten]
        simp [ten]
    · have own : isVp8x chunk = false := by simp [isVp8x, extended]
      rw [if_neg extended, own, written _ short]
      simp [Except.map, eq_comm]

/-- The second visit copies what it keeps, where every header has its ten bytes. -/
theorem follow_copy {chunks : List WebpChunk} (reads : ∀ chunk ∈ chunks, webpReader.Reads chunk)
    (output : Bytes) :
    follow .ok copyWebpChunk output chunks = .ok (.onward out) ↔
      (∀ chunk ∈ chunks, TenBytes chunk) ∧ out = output ++ chunks.flatMap copied := by
  induction chunks generalizing output with
  | nil => simp [follow, eq_comm]
  | cons chunk rest ih =>
    obtain ⟨own, later⟩ := List.forall_mem_cons.mp reads
    rw [follow, List.forall_mem_cons, List.flatMap_cons, ← List.append_assoc]
    dsimp only
    cases copying : copyWebpChunk output chunk with
    | error e =>
      have bad : ¬TenBytes chunk := by
        intro ten
        have goes : copyWebpChunk output chunk = .ok (.onward (output ++ copied chunk)) :=
          (copyWebpChunk_ok own).mpr ⟨ten, rfl⟩
        rw [copying] at goes
        cases goes
      simp [bad]
    | ok verdict =>
      obtain ⟨ten, rfl⟩ := (copyWebpChunk_ok own).mp copying
      simp only [ten, true_and]
      exact ih later _

theorem copyWebpChunk_goes (output : Bytes) (chunk : WebpChunk) (verdict : Verdict Bytes)
    (copying : copyWebpChunk output chunk = .ok verdict) : ∃ next, verdict = .onward next := by
  have mapped {x : Outcome Bytes} (ok : x.map Verdict.onward = .ok verdict) :
      ∃ next, verdict = .onward next := by
    cases x with
    | error e => cases ok
    | ok next =>
      cases ok
      exact ⟨next, rfl⟩
  unfold copyWebpChunk at copying
  split at copying
  · cases copying
    exact ⟨_, rfl⟩
  · split at copying
    · split at copying
      · cases copying
      · exact mapped copying
    · exact mapped copying

/-- The flags that the first visit collects. -/
def flagsOf (chunks : List WebpChunk) : UInt8 :=
  chunks.foldl (fun flags chunk => flags ||| flagOf chunk) 0x04

theorem follow_note (chunks : List WebpChunk) (found : Bool) (flags : UInt8) :
    follow .ok noteWebpChunk (found, flags) chunks =
      .ok (.onward (found || chunks.any isVp8x,
        chunks.foldl (fun flags chunk => flags ||| flagOf chunk) flags)) := by
  induction chunks generalizing found flags with
  | nil => simp [follow]
  | cons chunk rest ih =>
    simp only [follow, noteWebpChunk, ih, List.any_cons, List.foldl_cons, isVp8x, Bool.or_assoc]

theorem noteWebpChunk_goes (state : Bool × UInt8) (chunk : WebpChunk)
    (verdict : Verdict (Bool × UInt8)) (noted : noteWebpChunk state chunk = .ok verdict) :
    ∃ next, verdict = .onward next := by
  cases noted
  exact ⟨_, rfl⟩

/-- The chunk of an extended file that was a simple one. -/
def vp8xChunk (flags : UInt8) (width height : Nat) : WebpChunk :=
  writtenChunk (ascii "VP8X")
    ([flags, 0, 0, 0] ++ toLittleEndian 3 (width - 1) ++ toLittleEndian 3 (height - 1))

/-- What stands before the copies. -/
def insertedWebp (chunks : List WebpChunk) (width height : Nat) : List WebpChunk :=
  if chunks.any isVp8x = true then [] else [vp8xChunk (flagsOf chunks) width height]

/-- The chunks of the new file. -/
def embeddedWebp (xmp : Bytes) (width height : Nat) (chunks : List WebpChunk) : List WebpChunk :=
  insertedWebp chunks width height ++ ((chunks.filter (!isXmp ·)).map rewrite ++
    [writtenChunk (ascii "XMP ") xmp])

theorem copied_filter (chunks : List WebpChunk) :
    chunks.flatMap copied = ((chunks.filter (!isXmp ·)).map rewrite).flatMap webpReader.raw := by
  induction chunks with
  | nil => rfl
  | cons chunk rest ih =>
    rw [List.flatMap_cons, ih, copied]
    cases record : isXmp chunk <;> simp [record]

theorem rewrite_reads {chunk : WebpChunk} (reads : webpReader.Reads chunk) :
    webpReader.Reads (rewrite chunk) := by
  obtain ⟨four, short⟩ := reads_formed reads
  refine writtenChunk_reads four ?_
  split
  · rw [length_setXmpFlag]
    exact short
  · exact short

theorem embeddedWebp_reads {width height : Nat} (short : xmp.length < 2 ^ 32)
    {chunks : List WebpChunk} (reads : ∀ chunk ∈ chunks, webpReader.Reads chunk) :
    ∀ chunk ∈ embeddedWebp xmp width height chunks, webpReader.Reads chunk := by
  have kinds : (ascii "VP8X").length = 4 ∧ (ascii "XMP ").length = 4 :=
    ⟨length_ascii _, length_ascii _⟩
  intro chunk among
  obtain inserted | among := List.mem_append.mp among
  · unfold insertedWebp at inserted
    split at inserted
    · cases inserted
    · cases List.mem_singleton.mp inserted
      refine writtenChunk_reads kinds.1 ?_
      simp only [List.length_append, length_toLittleEndian, List.length_cons, List.length_nil]
      decide
  · obtain copy | record := List.mem_append.mp among
    · obtain ⟨old, inside, rfl⟩ := List.mem_map.mp copy
      exact rewrite_reads (reads old (List.mem_of_mem_filter inside))
    · cases List.mem_singleton.mp record
      exact writtenChunk_reads kinds.2 short

/-- The edges of a picture that the header of an extended file can hold. -/
def Canvas (width height : Nat) : Prop := width - 1 ≤ 0x00ffffff ∧ height - 1 ≤ 0x00ffffff

theorem writeU24_ok {value : Nat} {bytes : Bytes} :
    writeU24 value = .ok bytes ↔ value ≤ 0x00ffffff ∧ bytes = toLittleEndian 3 value := by
  unfold writeU24
  simp only [bind_ok, failIf_ok, gt_iff_lt, Nat.not_lt, Except.ok.injEq]
  exact ⟨fun ⟨_, fits, same⟩ => ⟨fits, same.symm⟩, fun ⟨fits, same⟩ => ⟨(), fits, same.symm⟩⟩

theorem withVp8x_ok {chunks : List WebpChunk} {output : Bytes} {width height : Nat} :
    withVp8x (chunks.any isVp8x, flagsOf chunks) output width height = .ok out ↔
      (chunks.any isVp8x = false → Canvas width height) ∧
        out = output ++ (insertedWebp chunks width height).flatMap webpReader.raw := by
  have kind : (ascii "VP8X").length = 4 := length_ascii _
  have short : ([flagsOf chunks, 0, 0, 0] ++ toLittleEndian 3 (width - 1) ++
      toLittleEndian 3 (height - 1)).length < 2 ^ 32 := by
    simp only [List.length_append, length_toLittleEndian, List.length_cons, List.length_nil]
    decide
  unfold withVp8x insertedWebp insertVp8x vp8xChunk Canvas
  cases extended : chunks.any isVp8x
  · simp only [if_true, Bool.false_eq_true, if_false, bind_ok, writeU24_ok, appendWebpChunk_ok,
      forall_const, List.flatMap_cons, List.flatMap_nil, List.append_nil]
    constructor
    · rintro ⟨_, ⟨right, rfl⟩, _, ⟨bottom, rfl⟩, _, _, rfl⟩
      exact ⟨⟨right, bottom⟩, rfl⟩
    · rintro ⟨⟨right, bottom⟩, rfl⟩
      exact ⟨_, ⟨right, rfl⟩, _, ⟨bottom, rfl⟩, kind, short, rfl⟩
  · simp [eq_comm]

theorem length_riffHeader : riffHeader.length = 12 :=
  length_texts (length_texts (length_ascii _) rfl) (length_ascii _)

/-- The RIFF size is set last. -/
theorem riffFile_sized (body : Bytes) :
    (riffHeader ++ body).take 4 ++ toLittleEndian 4 ((riffHeader ++ body).length - 8) ++
      (riffHeader ++ body).drop 8 = riffFile body := by
  have literals : (ascii "RIFF").length = 4 ∧ (ascii "WEBP").length = 4 :=
    ⟨length_ascii _, length_ascii _⟩
  have split : riffHeader ++ body = ascii "RIFF" ++ ([0, 0, 0, 0] ++ (ascii "WEBP" ++ body)) := by
    simp [riffHeader]
  have long : (riffHeader ++ body).length - 8 = body.length + 4 := by
    rw [split]
    simp only [List.length_append, literals, List.length_cons, List.length_nil]
    omega
  have last : (riffHeader ++ body).drop 8 = ascii "WEBP" ++ body := by
    rw [split, ← List.drop_drop (i := 4) (j := 4), List.drop_left' literals.1]
    rfl
  rw [long, last, split, List.take_left' literals.1, riffFile, List.append_assoc]

/-- What a source must be for a WebP file to be written. -/
structure Writable (xmp : Bytes) (width height : Nat) (chunks : List WebpChunk) : Prop where
  reads : ∀ chunk ∈ chunks, webpReader.Reads chunk
  few : chunks.length ≤ maxWebpChunks
  canvas : chunks.any isVp8x = false → Canvas width height
  ten : ∀ chunk ∈ chunks, TenBytes chunk
  short : xmp.length < 2 ^ 32
  small : ((embeddedWebp xmp width height chunks).flatMap webpReader.raw).length + 4 < 2 ^ 32

/-- One file has one row of chunks. -/
theorem same_chunks {chunks others : List WebpChunk}
    (same : chunks.flatMap webpReader.raw = others.flatMap webpReader.raw)
    (reads : ∀ chunk ∈ chunks, webpReader.Reads chunk)
    (reads' : ∀ chunk ∈ others, webpReader.Reads chunk) : chunks = others := by
  have first := Reader.records_all reads
  rw [same, Reader.records_all reads'] at first
  exact first.symm

theorem visit_chunks {σ : Type} {visit : σ → WebpChunk → Outcome (Verdict σ)} {s t : σ}
    (goes : ∀ s chunk verdict, visit s chunk = .ok verdict → ∃ next, verdict = .onward next)
    {chunks : List WebpChunk} (reads : ∀ chunk ∈ chunks, webpReader.Reads chunk)
    (few : chunks.length ≤ maxWebpChunks)
    (short : (chunks.flatMap webpReader.raw).length + 4 < 2 ^ 32)
    (followed : follow .ok visit s chunks = .ok (.onward t)) :
    visitWebpChunks (riffFile (chunks.flatMap webpReader.raw)) visit s = .ok t := by
  have counted := (follow_counted goes (Nat.zero_le _)).mpr
    ⟨by rw [Nat.zero_add]; exact few, rfl, followed⟩
  rw [visit_riffFile reads short, counted]
  rfl

theorem embeddedWebp_bytes (xmp : Bytes) (width height : Nat) (chunks : List WebpChunk) :
    (embeddedWebp xmp width height chunks).flatMap webpReader.raw =
      (insertedWebp chunks width height).flatMap webpReader.raw ++ chunks.flatMap copied ++
        webpReader.raw (writtenChunk (ascii "XMP ") xmp) := by
  rw [embeddedWebp, List.flatMap_append, List.flatMap_append, copied_filter, List.append_assoc]
  simp

/-- Whatever was embedded in is written anew, chunk by chunk. -/
theorem embedWebp_ok {width height : Nat} (embedded : embedWebp bytes xmp width height = .ok out) :
    ∃ chunks, bytes.drop 12 = chunks.flatMap webpReader.raw ∧ Writable xmp width height chunks ∧
      out = riffFile ((embeddedWebp xmp width height chunks).flatMap webpReader.raw) := by
  unfold embedWebp at embedded
  obtain ⟨noted, first, embedded⟩ := bind_ok.mp embedded
  obtain ⟨start, extended, embedded⟩ := bind_ok.mp embedded
  obtain ⟨copies, second, embedded⟩ := bind_ok.mp embedded
  obtain ⟨whole, appended, embedded⟩ := bind_ok.mp embedded
  obtain ⟨_, small, embedded⟩ := bind_ok.mp embedded
  obtain ⟨chunks, split, reads, few, followed⟩ := visit_ok noteWebpChunk_goes first
  obtain ⟨others, split', reads', _, followed'⟩ := visit_ok copyWebpChunk_goes second
  obtain rfl : chunks = others := same_chunks (split.symm.trans split') reads reads'
  rw [follow_note, Bool.false_or] at followed
  cases followed
  obtain ⟨canvas, rfl⟩ := withVp8x_ok.mp extended
  obtain ⟨ten, rfl⟩ := (follow_copy reads _).mp followed'
  obtain ⟨_, short, rfl⟩ := appendWebpChunk_ok.mp appended
  cases embedded
  have body : riffHeader ++ (insertedWebp chunks width height).flatMap webpReader.raw ++
      chunks.flatMap copied ++ webpReader.raw (writtenChunk (ascii "XMP ") xmp) =
      riffHeader ++ (embeddedWebp xmp width height chunks).flatMap webpReader.raw := by
    rw [embeddedWebp_bytes]
    simp only [List.append_assoc]
  rw [body] at small ⊢
  refine ⟨chunks, split, ⟨reads, few, canvas, ten, short, ?_⟩, riffFile_sized _⟩
  have twelve : riffHeader.length = 12 := length_riffHeader
  rw [failIf_ok, List.length_append, twelve] at small
  omega

/-- A file whose chunks can be written is written. -/
theorem embedWebp_file {width height : Nat} {chunks : List WebpChunk}
    (writable : Writable xmp width height chunks)
    (source : (chunks.flatMap webpReader.raw).length + 4 < 2 ^ 32) :
    embedWebp (riffFile (chunks.flatMap webpReader.raw)) xmp width height =
      .ok (riffFile ((embeddedWebp xmp width height chunks).flatMap webpReader.raw)) := by
  have noted := visit_chunks noteWebpChunk_goes writable.reads writable.few source
    (follow_note chunks false 0x04)
  have extended : withVp8x (chunks.any isVp8x, flagsOf chunks) riffHeader width height =
      .ok (riffHeader ++ (insertedWebp chunks width height).flatMap webpReader.raw) :=
    withVp8x_ok.mpr ⟨writable.canvas, rfl⟩
  have followed : follow .ok copyWebpChunk
      (riffHeader ++ (insertedWebp chunks width height).flatMap webpReader.raw) chunks =
      .ok (.onward (riffHeader ++ (insertedWebp chunks width height).flatMap webpReader.raw ++
        chunks.flatMap copied)) :=
    (follow_copy writable.reads _).mpr ⟨writable.ten, rfl⟩
  have copies := visit_chunks copyWebpChunk_goes writable.reads writable.few source followed
  have kind : (ascii "XMP ").length = 4 := length_ascii _
  have appended (output : Bytes) : appendWebpChunk output (ascii "XMP ") xmp =
      .ok (output ++ webpReader.raw (writtenChunk (ascii "XMP ") xmp)) :=
    appendWebpChunk_ok.mpr ⟨kind, writable.short, rfl⟩
  have twelve : riffHeader.length = 12 := length_riffHeader
  have body : riffHeader ++ (insertedWebp chunks width height).flatMap webpReader.raw ++
      chunks.flatMap copied ++ webpReader.raw (writtenChunk (ascii "XMP ") xmp) =
      riffHeader ++ (embeddedWebp xmp width height chunks).flatMap webpReader.raw := by
    rw [embeddedWebp_bytes]
    simp only [List.append_assoc]
  refine bind_ok.mpr ⟨_, noted, bind_ok.mpr ⟨_, extended, bind_ok.mpr ⟨_, copies, ?_⟩⟩⟩
  refine bind_ok.mpr ⟨_, appended _, bind_ok.mpr ⟨(), ?_, ?_⟩⟩
  · have small := writable.small
    rw [failIf_ok, body, List.length_append, twelve]
    omega
  · rw [body, riffFile_sized]

/-! ## The record -/

theorem follow_findWebp {before : List WebpChunk} {last : WebpChunk}
    (others : ∀ chunk ∈ before, isXmp chunk = false) (record : isXmp last = true) (n : Nat) :
    follow countWebpChunk (visitCounted findWebpXmp) (n, none) (before ++ [last]) =
      if n + before.length + 1 ≤ maxWebpChunks then
        (boundedXmp last.data).map fun xmp => .done (n + before.length + 1, some xmp)
      else .error (metadataError "WebP chunk count exceeds the limit") := by
  have count (n : Nat) : countWebpChunk (n, (none : Option Bytes)) =
      if n + 1 ≤ maxWebpChunks then .ok (n + 1, none)
      else .error (metadataError "WebP chunk count exceeds the limit") := by
    by_cases beyond : n + 1 ≤ maxWebpChunks
    · simp [countWebpChunk, failIf, beyond, Nat.not_lt.mpr beyond, bind, Except.bind]
    · simp [countWebpChunk, failIf, beyond, Nat.lt_of_not_le beyond, bind, Except.bind]
  induction before generalizing n with
  | nil =>
    have kind : last.kind = ascii "XMP " := of_decide_eq_true record
    rw [List.nil_append, follow, count, List.length_nil, Nat.add_zero]
    by_cases fits : n + 1 ≤ maxWebpChunks
    · rw [if_pos fits, if_pos fits]
      simp only [visitCounted, findWebpXmp, kind, if_true]
      cases boundedXmp last.data <;> rfl
    · rw [if_neg fits, if_neg fits]
  | cons chunk before ih =>
    obtain ⟨own, later⟩ := List.forall_mem_cons.mp others
    have kind : chunk.kind ≠ ascii "XMP " := of_decide_eq_false own
    rw [List.cons_append, follow, count, List.length_cons]
    by_cases fits : n + 1 ≤ maxWebpChunks
    · rw [if_pos fits]
      simp only [visitCounted, findWebpXmp, kind, if_false, Except.map]
      rw [ih later, Nat.add_right_comm n 1, Nat.add_assoc n before.length 1]
      rfl
    · rw [if_neg fits, if_neg (by omega)]

theorem record_isXmp (xmp : Bytes) : isXmp (writtenChunk (ascii "XMP ") xmp) = true := by
  have four : (ascii "XMP ").length = 4 := length_ascii _
  simp [isXmp, writtenChunk_kind four]

/-- No record is among the copies. -/
theorem copies_unrecorded {width height : Nat} {chunks : List WebpChunk}
    (reads : ∀ chunk ∈ chunks, webpReader.Reads chunk) :
    ∀ chunk ∈ insertedWebp chunks width height ++ (chunks.filter (!isXmp ·)).map rewrite,
      isXmp chunk = false := by
  have kind : (ascii "VP8X").length = 4 ∧ ascii "VP8X" ≠ ascii "XMP " :=
    ⟨length_ascii _, ascii_ne (by decide)⟩
  intro chunk among
  obtain inserted | copy := List.mem_append.mp among
  · unfold insertedWebp at inserted
    split at inserted
    · cases inserted
    · cases List.mem_singleton.mp inserted
      simp [isXmp, vp8xChunk, writtenChunk_kind kind.1, kind.2]
  · obtain ⟨old, inside, rfl⟩ := List.mem_map.mp copy
    obtain ⟨member, kept⟩ := List.mem_filter.mp inside
    have four := (reads_formed (reads old member)).1
    simpa [isXmp, rewrite, writtenChunk_kind four] using kept

theorem extractWebp_embedded {width height : Nat} {chunks : List WebpChunk}
    (writable : Writable xmp width height chunks) :
    extractWebpXmp (riffFile ((embeddedWebp xmp width height chunks).flatMap webpReader.raw)) =
      if (embeddedWebp xmp width height chunks).length ≤ maxWebpChunks then
        (boundedXmp xmp).map some
      else .error (metadataError "WebP chunk count exceeds the limit") := by
  have others : ∀ chunk ∈ insertedWebp chunks width height ++ (chunks.filter (!isXmp ·)).map rewrite,
      isXmp chunk = false := copies_unrecorded writable.reads
  have row : embeddedWebp xmp width height chunks =
      (insertedWebp chunks width height ++ (chunks.filter (!isXmp ·)).map rewrite) ++
        [writtenChunk (ascii "XMP ") xmp] := by
    rw [embeddedWebp, List.append_assoc]
  have reads : ∀ chunk ∈ embeddedWebp xmp width height chunks, webpReader.Reads chunk :=
    embeddedWebp_reads writable.short writable.reads
  rw [extractWebpXmp, visit_riffFile reads writable.small]
  rw [row, follow_findWebp others (record_isXmp xmp), Nat.zero_add]
  generalize insertedWebp chunks width height ++ (chunks.filter (!isXmp ·)).map rewrite = before
  rw [List.length_append, List.length_singleton]
  split
  · dsimp only [writtenChunk]
    cases boundedXmp xmp <;> rfl
  · rfl

end ImagegenBridge.Metadata
