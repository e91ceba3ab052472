import ImagegenBridge.Artifacts.Chroma
import ImagegenBridge.Lib.MachineArithmetic

/-!
# The arithmetic of the chroma matte

The pixel loop of `crates/artifacts/src/chroma.rs` once more, with the operations of its types:
`u8` distances, `u16` and `u64` products, `i16` and `i32` differences. A conversion whose failure
the code answers with 255 counts as an operation that fails.
-/

namespace ImagegenBridge.Chroma

open Transparency Materialize Machine

/-! ## The loop with checked operations -/

/-- The smooth step of a ratio, as a byte. -/
def smoothChecked (ratio : Nat) : Option Nat := do
  let square ← product 64 ratio ratio
  let triple ← product 64 3 alphaScale
  let double ← product 64 2 ratio
  let rest ← difference triple double
  let cube ← product 64 square rest
  let unit ← product 64 alphaScale alphaScale
  let smooth ← quotient cube unit
  let weighted ← product 64 smooth 255
  let rounded ← Machine.sum 64 weighted (alphaScale / 2)
  let value ← quotient rounded alphaScale
  narrow 8 value

def softAlphaChecked (distance transparent solid : Nat) : Option Nat :=
  if distance ≤ transparent then some 0
  else if distance ≥ solid then some 255
  else do
    let offset ← difference distance transparent
    let scaled ← product 64 offset alphaScale
    let range ← difference solid transparent
    let ratio ← quotient scaled range
    smoothChecked ratio

def keyDominanceChecked (rgb key : ChromaKey) : Option Int :=
  if (spillChannels key).any (fun spills => spills) then
    result 16 (((valuesWhere true rgb key).min?.getD 0 : Int) - nonKeyStrength rgb key)
  else some 0

def looksKeyColoredChecked (rgb key : ChromaKey) (distance : Nat) : Option Bool :=
  if distance ≤ 32 then some true
  else do
    let dominance ← keyDominanceChecked rgb key
    some (decide (dominance ≥ keyDominanceThreshold))

def dominanceAlphaChecked (rgb key : ChromaKey) : Option Nat := do
  let dominance ← keyDominanceChecked rgb key
  if dominance ≤ 0 then some 255
  else
    let strength ← result 16 (((channels key).max?.getD 0 : Int) - nonKeyStrength rgb key)
    let denominator := max strength 1
    let remaining := denominator - min dominance denominator
    let weighted ← result 32 (remaining * 255)
    let rounded ← result 32 (weighted + denominator / 2)
    let value ← signedQuotient 32 rounded denominator
    toUnsigned 8 value

def matteChecked (options : ChromaKeyOptions) (rgb : ChromaKey) (distance : Nat) (keyLike : Bool) :
    Option Nat :=
  if keyLike then do
    let soft ← softAlphaChecked distance options.transparentThreshold options.opaqueThreshold
    let dominance ← dominanceAlphaChecked rgb options.key
    some (min soft dominance)
  else some 255

def keyPixelChecked (options : ChromaKeyOptions) (pixel : Rgba) : Option Rgba := do
  let distance := channelDistance pixel.color options.key
  let keyLike ← looksKeyColoredChecked pixel.color options.key distance
  let matte ← matteChecked options pixel.color distance keyLike
  let weighted ← product 16 matte pixel.alpha.toNat
  let rounded ← Machine.sum 16 weighted 127
  let value ← quotient rounded 255
  let scaled ← narrow 8 value
  let alpha := if scaled ≤ alphaNoiseFloor then 0 else scaled
  if alpha = 0 then some ⟨⟨0, 0, 0⟩, 0⟩
  else
    let color := if options.despill && keyLike then cleanupSpill pixel.color options.key alpha
      else pixel.color
    some ⟨color, UInt8.ofNat alpha⟩

/-- Counts the pixels of one kind in a `u64`. -/
def countChecked (kind : Rgba → Bool) (pixels : List Rgba) : Option Nat :=
  pixels.foldlM (fun count pixel => if kind pixel then Machine.sum 64 count 1 else some count) 0

/-! ## Bounds -/

theorem channels_le {color : ChromaKey} {value : Nat} (among : value ∈ channels color) :
    value ≤ 255 := by
  have red := color.red.toNat_lt
  have green := color.green.toNat_lt
  have blue := color.blue.toNat_lt
  simp only [channels, List.mem_cons, List.not_mem_nil, or_false] at among
  omega

theorem max_le {values : List Nat} (all : ∀ value ∈ values, value ≤ 255) :
    values.max?.getD 0 ≤ 255 := by
  cases found : values.max? with
  | none => exact Nat.zero_le _
  | some most => exact all most (List.max?_mem found)

theorem min_le {values : List Nat} (all : ∀ value ∈ values, value ≤ 255) :
    values.min?.getD 0 ≤ 255 := by
  cases found : values.min? with
  | none => exact Nat.zero_le _
  | some least => exact all least (List.min?_mem found)

theorem valuesWhere_le {spill : Bool} {rgb key : ChromaKey} {value : Nat}
    (among : value ∈ valuesWhere spill rgb key) : value ≤ 255 := by
  obtain ⟨pair, selected, rfl⟩ := List.mem_map.mp among
  exact channels_le (List.of_mem_zip (List.mem_of_mem_filter selected)).1

theorem nonKeyStrength_le (rgb key : ChromaKey) : nonKeyStrength rgb key ≤ 255 :=
  max_le fun _ => valuesWhere_le

theorem keyStrength_le (rgb key : ChromaKey) : (valuesWhere true rgb key).min?.getD 0 ≤ 255 :=
  min_le fun _ => valuesWhere_le

theorem maximum_le (key : ChromaKey) : (channels key).max?.getD 0 ≤ 255 :=
  max_le fun _ => channels_le

theorem channelDistance_le (rgb key : ChromaKey) : channelDistance rgb key ≤ 255 := by
  have red := rgb.red.toNat_lt
  have green := rgb.green.toNat_lt
  have blue := rgb.blue.toNat_lt
  have red' := key.red.toNat_lt
  have green' := key.green.toNat_lt
  have blue' := key.blue.toNat_lt
  refine max_le fun value among => ?_
  simp only [channels, absDiff, List.zipWith_cons_cons, List.zipWith_nil_right, List.mem_cons,
    List.not_mem_nil, or_false] at among
  omega

/-! ## The smooth step -/

/-- Twice a ratio leaves at least the scale of three. -/
theorem smooth_step (ratio scale : Nat) (le : ratio + 1 ≤ scale) :
    ratio * ratio * (3 * scale - 2 * ratio) ≤
      (ratio + 1) * (ratio + 1) * (3 * scale - 2 * (ratio + 1)) := by
  obtain ⟨more, rfl⟩ := Nat.exists_eq_add_of_le le
  have left : 3 * (ratio + 1 + more) - 2 * ratio = ratio + 3 + 3 * more := by omega
  have right : 3 * (ratio + 1 + more) - 2 * (ratio + 1) = ratio + 1 + 3 * more := by omega
  rw [left, right]
  grind

/-- The polynomial of the smooth step does not decrease. -/
theorem smooth_mono {ratio ratio' scale : Nat} (le : ratio ≤ ratio') (within : ratio' ≤ scale) :
    ratio * ratio * (3 * scale - 2 * ratio) ≤ ratio' * ratio' * (3 * scale - 2 * ratio') := by
  induction le with
  | refl => exact Nat.le_refl _
  | step _ ih => exact Nat.le_trans (ih (by omega)) (smooth_step _ _ within)

theorem smooth_le {ratio scale : Nat} (le : ratio ≤ scale) :
    ratio * ratio * (3 * scale - 2 * ratio) ≤ scale * scale * scale := by
  have most := smooth_mono le (Nat.le_refl scale)
  have last : 3 * scale - 2 * scale = scale := by omega
  rwa [last] at most

/-- The place between the thresholds, in parts of the scale. -/
def ratioOf (distance transparent solid : Nat) : Nat :=
  (distance - transparent) * alphaScale / (solid - transparent)

theorem ratioOf_le {distance transparent solid : Nat} (before : distance ≤ solid) :
    ratioOf distance transparent solid ≤ alphaScale := by
  apply Nat.div_le_of_le_mul
  exact Nat.mul_le_mul_right alphaScale (by omega)

def smoothOf (ratio : Nat) : Nat :=
  ratio * ratio * (3 * alphaScale - 2 * ratio) / (alphaScale * alphaScale)

theorem smoothOf_le {ratio : Nat} (le : ratio ≤ alphaScale) : smoothOf ratio ≤ alphaScale :=
  Nat.div_le_of_le_mul (smooth_le le)

/-- A part of the scale as a byte. -/
def byteOf (smooth : Nat) : Nat := (smooth * 255 + alphaScale / 2) / alphaScale

theorem byteOf_le {smooth : Nat} (le : smooth ≤ alphaScale) : byteOf smooth ≤ 255 := by
  unfold byteOf alphaScale at *
  omega

theorem toByte_small (value : Nat) : toByte value ≤ 255 := by
  unfold toByte
  split <;> omega

theorem toByte_le {value : Nat} (le : value ≤ 255) : toByte value = value := if_pos le

theorem softAlpha_between {distance transparent solid : Nat} (after : transparent < distance)
    (before : distance < solid) : softAlpha distance transparent solid =
      byteOf (smoothOf (ratioOf distance transparent solid)) := by
  have ratio : ratioOf distance transparent solid ≤ alphaScale := ratioOf_le (Nat.le_of_lt before)
  have small := byteOf_le (smoothOf_le ratio)
  unfold softAlpha
  rw [if_neg (by omega), if_neg (by omega)]
  exact toByte_le small

theorem smoothChecked_eq {ratio : Nat} (le : ratio ≤ alphaScale) :
    smoothChecked ratio = some (byteOf (smoothOf ratio)) := by
  have byte := byteOf_le (smoothOf_le le)
  have smooth := smoothOf_le le
  have cubed := smooth_le le
  have squared := Nat.mul_le_mul le le
  have unit : alphaScale * alphaScale < 2 ^ 64 := by decide
  have most : alphaScale * alphaScale * alphaScale < 2 ^ 64 := by decide
  have fixed : alphaScale = 65535 := rfl
  unfold smoothChecked
  unfold byteOf smoothOf at *
  -- the scale is a number that nothing below computes with
  generalize alphaScale = scale at *
  have double : 2 * ratio < 2 ^ 64 := by clear cubed squared unit most smooth byte; omega
  have within : 2 * ratio ≤ 3 * scale := by clear cubed squared unit most smooth byte; omega
  have positive : 0 < scale := by omega
  rw [step_eq (product_fits (Nat.lt_of_le_of_lt squared unit)), step_eq (product_fits (by omega)),
    step_eq (product_fits double), step_eq (difference_fits within),
    step_eq (product_fits (Nat.lt_of_le_of_lt cubed most)), step_eq (product_fits unit),
    step_eq (quotient_fits (Nat.mul_pos positive positive))]
  generalize ratio * ratio * (3 * scale - 2 * ratio) / (scale * scale) = value at *
  clear cubed squared unit most
  rw [step_eq (product_fits (by omega)), step_eq (sum_fits (by omega)),
    step_eq (quotient_fits positive)]
  exact narrow_fits (Nat.lt_succ_of_le byte)

theorem softAlphaChecked_eq {distance transparent solid : Nat} (far : distance ≤ 255) :
    softAlphaChecked distance transparent solid = some (softAlpha distance transparent solid) := by
  by_cases near : distance ≤ transparent
  · unfold softAlphaChecked softAlpha
    rw [if_pos near, if_pos near]
  by_cases beyond : distance ≥ solid
  · unfold softAlphaChecked softAlpha
    rw [if_neg near, if_pos beyond, if_neg near, if_pos beyond]
  have after := Nat.lt_of_not_le near
  have before := Nat.lt_of_not_le beyond
  have ratio : ratioOf distance transparent solid ≤ alphaScale := ratioOf_le (Nat.le_of_lt before)
  have scale : alphaScale = 65535 := rfl
  rw [softAlpha_between after before]
  unfold softAlphaChecked
  have scaled : (distance - transparent) * alphaScale < 2 ^ 64 := by
    rw [scale]
    omega
  have offset : transparent ≤ distance := Nat.le_of_lt after
  have range : transparent ≤ solid := by omega
  have some : 0 < solid - transparent := by omega
  rw [if_neg near, if_neg beyond, step_eq (difference_fits offset), step_eq (product_fits scaled),
    step_eq (difference_fits range), step_eq (quotient_fits some)]
  exact smoothChecked_eq ratio

/-! ## The other operations -/

theorem holds_bytes {a b : Nat} (left : a ≤ 255) (right : b ≤ 255) : Holds 16 ((a : Int) - b) := by
  unfold Holds
  omega

theorem keyDominanceChecked_eq (rgb key : ChromaKey) :
    keyDominanceChecked rgb key = some (keyDominance rgb key) := by
  have fits := holds_bytes (keyStrength_le rgb key) (nonKeyStrength_le rgb key)
  unfold keyDominanceChecked keyDominance
  split
  · exact result_fits fits
  · rfl

theorem keyDominance_le (rgb key : ChromaKey) : keyDominance rgb key ≤ 255 := by
  have strength := keyStrength_le rgb key
  unfold keyDominance
  split <;> omega

theorem looksKeyColoredChecked_eq (rgb key : ChromaKey) (distance : Nat) :
    looksKeyColoredChecked rgb key distance = some (looksKeyColored rgb key distance) := by
  unfold looksKeyColoredChecked looksKeyColored
  by_cases near : distance ≤ 32
  · rw [if_pos near, decide_eq_true near]
    rfl
  · rw [if_neg near, decide_eq_false near, keyDominanceChecked_eq]
    rfl

/-- The share that is left of a positive range is a byte. -/
theorem share_le {remaining denominator : Int} (nonneg : 0 ≤ remaining)
    (some : 0 < denominator) (le : remaining ≤ denominator) :
    0 ≤ (remaining * 255 + denominator / 2) / denominator ∧
      (remaining * 255 + denominator / 2) / denominator ≤ 255 := by
  constructor
  · apply Int.ediv_nonneg <;> omega
  · have most : remaining * 255 + denominator / 2 < 256 * denominator := by omega
    have below := Int.ediv_lt_of_lt_mul some most
    omega

theorem dominanceAlphaChecked_eq (rgb key : ChromaKey) :
    dominanceAlphaChecked rgb key = some (dominanceAlpha rgb key) := by
  have maximum := maximum_le key
  have other := nonKeyStrength_le rgb key
  unfold dominanceAlphaChecked dominanceAlpha
  rw [step_eq (keyDominanceChecked_eq rgb key)]
  by_cases faint : keyDominance rgb key ≤ 0
  · rw [if_pos faint, if_pos faint]
  rw [if_neg faint, if_neg faint, step_eq (result_fits (holds_bytes maximum other))]
  dsimp only
  generalize strength : (((channels key).max?.getD 0 : Nat) : Int) - nonKeyStrength rgb key = range
  generalize bound : max range 1 = denominator
  have positive : 0 < denominator := by omega
  have small : denominator ≤ 255 := by omega
  generalize left : denominator - min (keyDominance rgb key) denominator = remaining
  have nonneg : 0 ≤ remaining := by omega
  have part : remaining ≤ denominator := by omega
  obtain ⟨low, high⟩ := share_le nonneg positive part
  have weighted : Holds 32 (remaining * 255) := by
    unfold Holds
    omega
  have rounded : Holds 32 (remaining * 255 + denominator / 2) := by
    unfold Holds
    omega
  have value : Holds 32 ((remaining * 255 + denominator / 2) / denominator) := by
    unfold Holds
    omega
  rw [step_eq (result_fits weighted), step_eq (result_fits rounded),
    step_eq (signedQuotient_fits (by omega) positive value), toUnsigned_fits low (by omega),
    toByte_le (by omega)]

theorem dominanceAlpha_le (rgb key : ChromaKey) : dominanceAlpha rgb key ≤ 255 := by
  unfold dominanceAlpha
  dsimp only
  split
  · exact Nat.le_refl _
  · exact toByte_small _

/-- The opacity the matte leaves to a pixel. -/
def matteOf (options : ChromaKeyOptions) (color : ChromaKey) : Nat :=
  if looksKeyColored color options.key (channelDistance color options.key) then
    min (softAlpha (channelDistance color options.key) options.transparentThreshold
      options.opaqueThreshold) (dominanceAlpha color options.key)
  else 255

theorem matteOf_le (options : ChromaKeyOptions) (color : ChromaKey) : matteOf options color ≤ 255 := by
  have share := dominanceAlpha_le color options.key
  unfold matteOf
  split <;> omega

/-- The alpha of a pixel before the noise is cut off. -/
def scaledAlpha (options : ChromaKeyOptions) (pixel : Rgba) : Nat :=
  (matteOf options pixel.color * pixel.alpha.toNat + 127) / 255

/-- A matte never makes a pixel more opaque. -/
theorem scaledAlpha_le (options : ChromaKeyOptions) (pixel : Rgba) :
    scaledAlpha options pixel ≤ pixel.alpha.toNat := by
  have whole := Nat.mul_le_mul_right pixel.alpha.toNat (matteOf_le options pixel.color)
  unfold scaledAlpha
  omega

def cutAlpha (options : ChromaKeyOptions) (pixel : Rgba) : Nat :=
  if scaledAlpha options pixel ≤ alphaNoiseFloor then 0 else scaledAlpha options pixel

theorem keyPixel_eq (options : ChromaKeyOptions) (pixel : Rgba) :
    keyPixel options pixel =
      if cutAlpha options pixel = 0 then ⟨⟨0, 0, 0⟩, 0⟩
      else ⟨if options.despill && looksKeyColored pixel.color options.key
            (channelDistance pixel.color options.key) then
          cleanupSpill pixel.color options.key (cutAlpha options pixel)
        else pixel.color, UInt8.ofNat (cutAlpha options pixel)⟩ := by
  have small : scaledAlpha options pixel ≤ 255 :=
    Nat.le_trans (scaledAlpha_le options pixel) (Nat.le_of_lt_succ pixel.alpha.toNat_lt)
  have same : toByte ((matteOf options pixel.color * pixel.alpha.toNat + 127) / 255) =
      scaledAlpha options pixel := toByte_le small
  unfold keyPixel
  dsimp only
  unfold matteOf at same
  rw [same]
  rfl

theorem cutAlpha_le (options : ChromaKeyOptions) (pixel : Rgba) :
    cutAlpha options pixel ≤ pixel.alpha.toNat := by
  have scaled := scaledAlpha_le options pixel
  unfold cutAlpha
  split <;> omega

theorem matteChecked_eq (options : ChromaKeyOptions) (color : ChromaKey) :
    matteChecked options color (channelDistance color options.key)
        (looksKeyColored color options.key (channelDistance color options.key)) =
      some (matteOf options color) := by
  unfold matteChecked matteOf
  split
  · rw [step_eq (softAlphaChecked_eq (channelDistance_le _ _)), step_eq (dominanceAlphaChecked_eq color options.key)]
  · rfl

theorem keyPixelChecked_eq (options : ChromaKeyOptions) (pixel : Rgba) :
    keyPixelChecked options pixel = some (keyPixel options pixel) := by
  have matte := matteOf_le options pixel.color
  have source : pixel.alpha.toNat ≤ 255 := Nat.le_of_lt_succ pixel.alpha.toNat_lt
  have weighted : matteOf options pixel.color * pixel.alpha.toNat ≤ 255 * 255 :=
    Nat.mul_le_mul matte source
  have scaled : scaledAlpha options pixel ≤ 255 := Nat.le_trans (scaledAlpha_le options pixel) source
  have product : matteOf options pixel.color * pixel.alpha.toNat < 2 ^ 16 := by omega
  have rounded : matteOf options pixel.color * pixel.alpha.toNat + 127 < 2 ^ 16 := by omega
  have narrowed : narrow 8 ((matteOf options pixel.color * pixel.alpha.toNat + 127) / 255) =
      some (scaledAlpha options pixel) := narrow_fits (Nat.lt_succ_of_le scaled)
  unfold keyPixelChecked
  dsimp only
  rw [step_eq (looksKeyColoredChecked_eq _ _ _), step_eq (matteChecked_eq options pixel.color),
    step_eq (product_fits product), step_eq (sum_fits rounded),
    step_eq (quotient_fits (by decide)), step_eq narrowed, keyPixel_eq]
  change (if cutAlpha options pixel = 0 then _ else _) = _
  split <;> rfl

/-! ## What the loop leaves -/

theorem keyPixel_alpha (options : ChromaKeyOptions) (pixel : Rgba) :
    (keyPixel options pixel).alpha.toNat = cutAlpha options pixel := by
  have small : cutAlpha options pixel < UInt8.size :=
    Nat.lt_of_le_of_lt (cutAlpha_le options pixel) pixel.alpha.toNat_lt
  rw [keyPixel_eq]
  split
  case isTrue zero => exact zero.symm
  case isFalse => exact UInt8.toNat_ofNat_of_lt' small

theorem keyPixel_transparent {options : ChromaKeyOptions} {pixel : Rgba}
    (transparent : (keyPixel options pixel).alpha = 0) :
    keyPixel options pixel = ⟨⟨0, 0, 0⟩, 0⟩ := by
  have none : cutAlpha options pixel = 0 := by
    rw [← keyPixel_alpha, transparent]
    rfl
  rw [keyPixel_eq, if_pos none]

theorem channelDistance_self (key : ChromaKey) : channelDistance key key = 0 := by
  simp [channelDistance, channels, absDiff, List.max?]

theorem keyPixel_key (options : ChromaKeyOptions) (alpha : UInt8) :
    keyPixel options ⟨options.key, alpha⟩ = ⟨⟨0, 0, 0⟩, 0⟩ := by
  have like : looksKeyColored options.key options.key 0 = true := rfl
  have matte : matteOf options options.key = 0 := by
    unfold matteOf
    rw [channelDistance_self, if_pos like]
    exact Nat.zero_min _
  have none : cutAlpha options ⟨options.key, alpha⟩ = 0 := by
    unfold cutAlpha scaledAlpha
    rw [matte]
    simp
  rw [keyPixel_eq, if_pos none]

/-- No channel is above that of the other color. -/
structure Below (color bound : ChromaKey) : Prop where
  red : color.red ≤ bound.red
  green : color.green ≤ bound.green
  blue : color.blue ≤ bound.blue

theorem Below.refl (color : ChromaKey) : Below color color :=
  ⟨UInt8.le_refl _, UInt8.le_refl _, UInt8.le_refl _⟩

theorem clean_le (value : UInt8) (anchor : Nat) : UInt8.ofNat (min value.toNat anchor) ≤ value := by
  have small : min value.toNat anchor < UInt8.size :=
    Nat.lt_of_le_of_lt (Nat.min_le_left _ _) value.toNat_lt
  apply UInt8.le_iff_toNat_le.mpr
  rw [UInt8.toNat_ofNat_of_lt' small]
  exact Nat.min_le_left _ _

theorem cleanupSpill_below (rgb key : ChromaKey) (alpha : Nat) :
    Below (cleanupSpill rgb key alpha) rgb := by
  unfold cleanupSpill
  split
  · exact .refl rgb
  dsimp only
  split
  · constructor
    all_goals
      dsimp only
      split
      · exact clean_le _ _
      · exact UInt8.le_refl _
  · exact .refl rgb

theorem keyPixel_below (options : ChromaKeyOptions) (pixel : Rgba) :
    Below (keyPixel options pixel).color pixel.color := by
  have zero (value : UInt8) : 0 ≤ value := UInt8.le_iff_toNat_le.mpr (Nat.zero_le _)
  rw [keyPixel_eq]
  split
  · exact ⟨zero _, zero _, zero _⟩
  dsimp only
  split
  · exact cleanupSpill_below _ _ _
  · exact .refl _

/-! ## The summary -/

/-- A counter of a `u64` counts any list that short. -/
theorem countChecked_go (kind : Rgba → Bool) (pixels : List Rgba) (count : Nat)
    (fits : count + pixels.length < 2 ^ 64) :
    pixels.foldlM (fun count pixel => if kind pixel then Machine.sum 64 count 1 else some count)
      count = some (count + pixels.countP kind) := by
  induction pixels generalizing count with
  | nil => rfl
  | cons pixel rest ih =>
    rw [List.length_cons] at fits
    rw [List.foldlM_cons, List.countP_cons]
    by_cases counted : kind pixel
    · rw [if_pos counted, step_eq (sum_fits (by omega)), ih (count + 1) (by omega), if_pos counted,
        Nat.add_right_comm]
      rfl
    · rw [if_neg counted, step_eq rfl, ih count (by omega), if_neg counted]
      rfl

theorem countChecked_eq {kind : Rgba → Bool} {pixels : List Rgba}
    (fits : pixels.length < 2 ^ 64) : countChecked kind pixels = some (pixels.countP kind) := by
  unfold countChecked
  rw [countChecked_go kind pixels 0 (by omega), Nat.zero_add]

/-- Every pixel is of one of the three kinds. -/
theorem kinds_partition (pixels : List Rgba) :
    pixels.countP (fun pixel => pixel.alpha == 0) +
        pixels.countP (fun pixel => pixel.alpha != 0 && pixel.alpha != 255) +
        pixels.countP (fun pixel => pixel.alpha == 255) = pixels.length := by
  induction pixels with
  | nil => rfl
  | cons pixel rest ih =>
    simp only [List.countP_cons, List.length_cons]
    by_cases transparent : pixel.alpha = 0
    · simp [transparent]
      omega
    by_cases solid : pixel.alpha = 255
    · simp [solid]
      omega
    · simp [transparent, solid]
      omega

theorem summarizeAlpha_partition (raster : Raster) :
    (summarizeAlpha raster).transparentPixels + (summarizeAlpha raster).partialPixels +
      (summarizeAlpha raster).opaquePixels = (summarizeAlpha raster).totalPixels :=
  (kinds_partition raster.pixels).trans raster.full

theorem area_fits {raster : Raster} (wide : raster.width < 2 ^ 32) (high : raster.height < 2 ^ 32) :
    raster.width * raster.height < 2 ^ 64 := by
  have most : raster.width * raster.height < 2 ^ 32 * 2 ^ 32 := Nat.mul_lt_mul'' wide high
  exact most

theorem pixels_fit {raster : Raster} (wide : raster.width < 2 ^ 32) (high : raster.height < 2 ^ 32) :
    raster.pixels.length < 2 ^ 64 := by
  rw [raster.full]
  exact area_fits wide high

/-- A loop whose every step has a value. -/
theorem mapM_eq {α β : Type} {step : α → Option β} {f : α → β} (always : ∀ x, step x = some (f x))
    (values : List α) : values.mapM step = some (values.map f) := by
  induction values with
  | nil => rfl
  | cons value rest ih =>
    rw [List.mapM_cons, step_eq (always value), ih]
    rfl

/-! ## The whole image -/

/-- A matte that is computed without overflow and takes from the image only. -/
structure Conservative (options : ChromaKeyOptions) (raster : Raster) : Prop where
  computed : raster.pixels.mapM (keyPixelChecked options) =
    some (raster.map (keyPixel options)).pixels
  alpha : ∀ pixel ∈ raster.pixels, (keyPixel options pixel).alpha ≤ pixel.alpha
  key : ∀ pixel ∈ raster.pixels, pixel.color = options.key →
    keyPixel options pixel = ⟨⟨0, 0, 0⟩, 0⟩
  transparent : ∀ pixel ∈ (raster.map (keyPixel options)).pixels, pixel.alpha = 0 →
    pixel.color = ⟨0, 0, 0⟩
  cleanup : ∀ pixel ∈ raster.pixels, ∀ alpha,
    Below (cleanupSpill pixel.color options.key alpha) pixel.color
  colors : ∀ pixel ∈ raster.pixels, Below (keyPixel options pixel).color pixel.color

/-- Counters that fit their type and leave no pixel out. -/
structure Partitioned (raster : Raster) : Prop where
  transparent : countChecked (fun pixel => pixel.alpha == 0) raster.pixels =
    some (summarizeAlpha raster).transparentPixels
  partially : countChecked (fun pixel => pixel.alpha != 0 && pixel.alpha != 255) raster.pixels =
    some (summarizeAlpha raster).partialPixels
  solid : countChecked (fun pixel => pixel.alpha == 255) raster.pixels =
    some (summarizeAlpha raster).opaquePixels
  total : product 64 raster.width raster.height = some (summarizeAlpha raster).totalPixels
  whole : (summarizeAlpha raster).transparentPixels + (summarizeAlpha raster).partialPixels +
    (summarizeAlpha raster).opaquePixels = (summarizeAlpha raster).totalPixels

theorem keyed_conservative (options : ChromaKeyOptions) (raster : Raster) :
    Conservative options raster where
  computed := mapM_eq (keyPixelChecked_eq options) raster.pixels
  alpha pixel _ := by
    apply UInt8.le_iff_toNat_le.mpr
    rw [keyPixel_alpha]
    exact cutAlpha_le options pixel
  key pixel _ exact_key := by
    have same : pixel = ⟨options.key, pixel.alpha⟩ := by rw [← exact_key]
    rw [same]
    exact keyPixel_key options pixel.alpha
  transparent pixel keyed none := by
    obtain ⟨source, _, rfl⟩ := List.mem_map.mp keyed
    rw [keyPixel_transparent none]
  cleanup pixel _ alpha := cleanupSpill_below pixel.color options.key alpha
  colors pixel _ := keyPixel_below options pixel

theorem summary_partitioned {raster : Raster} (wide : raster.width < 2 ^ 32)
    (high : raster.height < 2 ^ 32) : Partitioned raster where
  transparent := countChecked_eq (pixels_fit wide high)
  partially := countChecked_eq (pixels_fit wide high)
  solid := countChecked_eq (pixels_fit wide high)
  total := product_fits (area_fits wide high)
  whole := summarizeAlpha_partition raster

theorem matte_safe (options : ChromaKeyOptions) (raster : Raster) (wide : raster.width < 2 ^ 32)
    (high : raster.height < 2 ^ 32) :
    Conservative options raster ∧ Partitioned (raster.map (keyPixel options)) :=
  ⟨keyed_conservative options raster, summary_partitioned wide high⟩

/-- A green pixel beside a red one, under the default options. -/
theorem matte_safe_green :
    Conservative ⟨⟨0, 255, 0⟩, 12, 96, true⟩ ⟨2, 1, [⟨⟨0, 255, 0⟩, 255⟩, ⟨⟨200, 0, 0⟩, 255⟩], rfl⟩ ∧
      Partitioned ((⟨2, 1, [⟨⟨0, 255, 0⟩, 255⟩, ⟨⟨200, 0, 0⟩, 255⟩], rfl⟩ : Raster).map
        (keyPixel ⟨⟨0, 255, 0⟩, 12, 96, true⟩)) :=
  matte_safe _ _ (by decide) (by decide)

end ImagegenBridge.Chroma
