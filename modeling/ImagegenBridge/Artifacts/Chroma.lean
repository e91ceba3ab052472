import ImagegenBridge.Runtime.Materialize

/-!
# Chroma-key removal, `crates/artifacts/src/chroma.rs`

Pixel values are bytes; the arithmetic on them is done in the integers. The image
codecs are outside the repository and are a parameter.
-/

namespace ImagegenBridge.Chroma

open Transparency Materialize

structure Rgba where
  color : ChromaKey
  alpha : UInt8
  deriving DecidableEq, Repr

/-- A decoded image, row by row. -/
structure Raster where
  width : Nat
  height : Nat
  pixels : List Rgba
  full : pixels.length = width * height

def Raster.pixel (raster : Raster) (x y : Nat) : Option Rgba := raster.pixels[y * raster.width + x]?

def Raster.map (f : Rgba → Rgba) (raster : Raster) : Raster where
  width := raster.width
  height := raster.height
  pixels := raster.pixels.map f
  full := by rw [List.length_map, raster.full]

/-- The code around the chroma key: `inspect_image`, the decoder and the encoder. -/
structure ImageCodec where
  inspect : Bytes → Outcome ImageMetadata
  decode : Bytes → OutputFormat → Option Raster
  encode : Raster → OutputFormat → Option Bytes

def keyDominanceThreshold : Int := 16

def alphaNoiseFloor : Nat := 8

def alphaScale : Nat := 65535

def channels (color : ChromaKey) : List Nat :=
  [color.red.toNat, color.green.toNat, color.blue.toNat]

/-- `u8::try_from(value).unwrap_or(u8::MAX)`. -/
def toByte (value : Nat) : Nat := if value ≤ 255 then value else 255

def absDiff (a b : Nat) : Nat := (a - b) + (b - a)

def channelDistance (rgb key : ChromaKey) : Nat :=
  ((channels rgb).zipWith absDiff (channels key)).max?.getD 0

/-- The channels in which the key is strong. -/
def spillChannels (key : ChromaKey) : List Bool :=
  let maximum := (channels key).max?.getD 0
  if maximum < 128 then [false, false, false]
  else (channels key).map fun value => decide (maximum - 16 ≤ value) && decide (128 ≤ value)

/-- The values of the channels that spill, or of those that do not. -/
def valuesWhere (spill : Bool) (rgb key : ChromaKey) : List Nat :=
  (((channels rgb).zip (spillChannels key)).filter fun value => value.2 == spill).map Prod.fst

def nonKeyStrength (rgb key : ChromaKey) : Nat := (valuesWhere false rgb key).max?.getD 0

def keyDominance (rgb key : ChromaKey) : Int :=
  if (spillChannels key).any (fun spills => spills) then
    ((valuesWhere true rgb key).min?.getD 0 : Int) - nonKeyStrength rgb key
  else 0

def looksKeyColored (rgb key : ChromaKey) (distance : Nat) : Bool :=
  decide (distance ≤ 32) || decide (keyDominance rgb key ≥ keyDominanceThreshold)

/-- A smooth step between the two thresholds. -/
def softAlpha (distance transparent solid : Nat) : Nat :=
  if distance ≤ transparent then 0
  else if distance ≥ solid then 255
  else
    let ratio := (distance - transparent) * alphaScale / (solid - transparent)
    let smooth := ratio * ratio * (3 * alphaScale - 2 * ratio) / (alphaScale * alphaScale)
    toByte ((smooth * 255 + alphaScale / 2) / alphaScale)

def dominanceAlpha (rgb key : ChromaKey) : Nat :=
  let dominance := keyDominance rgb key
  if dominance ≤ 0 then 255
  else
    let denominator := max (((channels key).max?.getD 0 : Int) - nonKeyStrength rgb key) 1
    let remaining := denominator - min dominance denominator
    toByte ((remaining * 255 + denominator / 2) / denominator).toNat

/-- A channel that spills is held below the others. -/
def cleanupSpill (rgb key : ChromaKey) (alpha : Nat) : ChromaKey :=
  if 252 ≤ alpha then rgb
  else
    let anchor := nonKeyStrength rgb key - 1
    let clean := fun (value : UInt8) (spills : Bool) =>
      if spills then UInt8.ofNat (min value.toNat anchor) else value
    match spillChannels key with
    | [red, green, blue] => ⟨clean rgb.red red, clean rgb.green green, clean rgb.blue blue⟩
    | _ => rgb

/-- One round of the pixel loop. -/
def keyPixel (options : ChromaKeyOptions) (pixel : Rgba) : Rgba :=
  let distance := channelDistance pixel.color options.key
  let keyLike := looksKeyColored pixel.color options.key distance
  let matte := if keyLike then
      min (softAlpha distance options.transparentThreshold options.opaqueThreshold)
        (dominanceAlpha pixel.color options.key)
    else 255
  let scaled := toByte ((matte * pixel.alpha.toNat + 127) / 255)
  let alpha := if scaled ≤ alphaNoiseFloor then 0 else scaled
  if alpha = 0 then ⟨⟨0, 0, 0⟩, 0⟩
  else
    let color := if options.despill && keyLike then cleanupSpill pixel.color options.key alpha
      else pixel.color
    ⟨color, UInt8.ofNat alpha⟩

def corners (raster : Raster) : List (Nat × Nat) :=
  [(0, 0), (raster.width - 1, 0), (0, raster.height - 1), (raster.width - 1, raster.height - 1)]

def summarizeAlpha (raster : Raster) : AlphaSummary where
  totalPixels := raster.width * raster.height
  transparentPixels := raster.pixels.countP fun pixel => pixel.alpha == 0
  partialPixels := raster.pixels.countP fun pixel => pixel.alpha != 0 && pixel.alpha != 255
  opaquePixels := raster.pixels.countP fun pixel => pixel.alpha == 255
  transparentCorners := (corners raster).countP fun (x, y) =>
    (raster.pixel x y).any fun pixel => pixel.alpha == 0

def validateAlpha (summary : AlphaSummary) (requireTransparentCorners : Bool) : Outcome Unit := do
  let minimumRegion := max (summary.totalPixels / 1000) 1
  Outcome.failIf (summary.transparentPixels < minimumRegion)
    (((chromaError "background removal produced no meaningful transparent region").withDetail
      "transparent_pixels" (.integer summary.transparentPixels)).withDetail "total_pixels"
      (.integer summary.totalPixels))
  Outcome.failIf (summary.opaquePixels + summary.partialPixels < minimumRegion)
    (chromaError "background removal erased the entire visible subject")
  Outcome.failIf (requireTransparentCorners = true ∧ summary.transparentCorners < 2)
    ((chromaError "background removal left an opaque border around the generated subject").withDetail
      "transparent_corners" (.integer summary.transparentCorners))

def validateOptions (options : ChromaKeyOptions) : Outcome Unit :=
  Outcome.failIf (options.transparentThreshold ≥ options.opaqueThreshold)
    (chromaError "transparent threshold must be lower than opaque threshold")

/-- The encodings a keyed image may have. -/
def checkEncoding (format : OutputFormat) : Outcome Unit :=
  Outcome.failIf (format ≠ .png ∧ format ≠ .webp)
    (chromaError "transparent output requires PNG or WebP encoding")

/-- `ok_or`: an absent value is an error. -/
def orError {α : Type} (value : Option α) (message : String) : Outcome α :=
  match value with
  | some value => .ok value
  | none => .error (chromaError message)

def removeChromaKey (codec : ImageCodec) (bytes : Bytes) (format : OutputFormat)
    (options : ChromaKeyOptions) : Outcome (Bytes × ImageMetadata × AlphaSummary) := do
  validateOptions options
  checkEncoding format
  let source ← codec.inspect bytes
  let raster ← orError (codec.decode bytes source.format)
    "image could not be decoded for background removal"
  let keyed := raster.map (keyPixel options)
  let alpha := summarizeAlpha keyed
  validateAlpha alpha true
  let encoded ← orError (codec.encode keyed format) "transparent image could not be encoded"
  let metadata ← codec.inspect encoded
  .ok (encoded, metadata, alpha)

def inspectTransparentAlpha (codec : ImageCodec) (bytes : Bytes) : Outcome AlphaSummary := do
  let source ← codec.inspect bytes
  let raster ← orError (codec.decode bytes source.format)
    "image could not be decoded for alpha validation"
  let summary := summarizeAlpha raster
  validateAlpha summary false
  .ok summary

theorem checkEncoding_ok {format : OutputFormat} :
    checkEncoding format = .ok () ↔ format = .png ∨ format = .webp := by
  unfold checkEncoding
  rw [Outcome.failIf_ok, ← not_or, not_not]

/-- An image without transparent pixels has no usable matte. -/
theorem solid_refused {raster : Raster} {corner : Bool}
    (solid : ∀ pixel ∈ raster.pixels, pixel.alpha = 255) :
    ∃ e, validateAlpha (summarizeAlpha raster) corner = .error e := by
  have none : (summarizeAlpha raster).transparentPixels = 0 := by
    apply List.countP_eq_zero.mpr
    intro pixel present
    rw [solid pixel present]
    decide
  have missing : (summarizeAlpha raster).transparentPixels <
      max ((summarizeAlpha raster).totalPixels / 1000) 1 := by
    omega
  unfold validateAlpha
  dsimp only
  rw [Outcome.failIf, if_pos missing]
  exact ⟨_, rfl⟩

/-- No image becomes a transparent jpeg. -/
theorem removeChromaKey_jpeg (codec : ImageCodec) (bytes : Bytes) (options : ChromaKeyOptions) :
    ∃ e, removeChromaKey codec bytes .jpeg options = .error e := by
  unfold removeChromaKey
  cases validateOptions options with
  | error e => exact ⟨e, rfl⟩
  | ok => exact ⟨chromaError "transparent output requires PNG or WebP encoding", rfl⟩

/-- A decoded jpeg has no transparent pixel. -/
def OpaqueJpegs (codec : ImageCodec) : Prop :=
  ∀ bytes raster, codec.decode bytes .jpeg = some raster →
    ∀ pixel ∈ raster.pixels, pixel.alpha = 255

theorem inspectTransparentAlpha_jpeg {codec : ImageCodec} {bytes : Bytes} {metadata : ImageMetadata}
    (solid : OpaqueJpegs codec) (inspected : codec.inspect bytes = .ok metadata)
    (jpeg : metadata.format = .jpeg) : ∃ e, inspectTransparentAlpha codec bytes = .error e := by
  unfold inspectTransparentAlpha
  rw [inspected]
  simp only [bind, Except.bind]
  rw [jpeg]
  cases decoded : codec.decode bytes .jpeg with
  | none => exact ⟨chromaError "image could not be decoded for alpha validation", rfl⟩
  | some raster =>
    have matte : ∃ e, validateAlpha (summarizeAlpha raster) false = .error e :=
      solid_refused (solid bytes raster decoded)
    obtain ⟨e, refused⟩ := matte
    simp only [orError, refused]
    exact ⟨e, rfl⟩

end ImagegenBridge.Chroma
