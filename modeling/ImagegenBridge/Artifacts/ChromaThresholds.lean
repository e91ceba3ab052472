import ImagegenBridge.Artifacts.ChromaSafety

/-!
# What the chroma thresholds do

The matte is a ramp between the two thresholds, gated by `looks_key_colored` and held below
`dominance_alpha`. Both know nothing of the thresholds.
-/

namespace ImagegenBridge.Chroma

open Transparency Materialize

/-- The alpha the matte leaves to an opaque pixel. -/
def opaqueAlpha (options : ChromaKeyOptions) (color : ChromaKey) : Nat :=
  (keyPixel options ⟨color, 255⟩).alpha.toNat

def distance (options : ChromaKeyOptions) (color : ChromaKey) : Nat :=
  channelDistance color options.key

def Keyed (options : ChromaKeyOptions) (color : ChromaKey) : Prop :=
  looksKeyColored color options.key (distance options color) = true

/-- The ramp between the thresholds. -/
def ramp (options : ChromaKeyOptions) (color : ChromaKey) : Nat :=
  softAlpha (distance options color) options.transparentThreshold options.opaqueThreshold

inductive Channel where
  | red | green | blue

def value (color : ChromaKey) : Channel → Nat
  | .red => color.red.toNat
  | .green => color.green.toNat
  | .blue => color.blue.toNat

/-- Two colors on one ray from the key, the nearer one `a / b` of the way to the other. -/
def Ray (a b : Nat) (key near far : ChromaKey) : Prop :=
  ∀ c, (b : Int) * ((value near c : Int) - value key c) = a * ((value far c : Int) - value key c)

def SameDirection (key near far : ChromaKey) : Prop := ∃ a b, 0 < a ∧ 0 < b ∧ Ray a b key near far

/-- Both colors are between the thresholds, on one ray from the key. -/
structure Between (options : ChromaKeyOptions) (near far : ChromaKey) : Prop where
  direction : SameDirection options.key near far
  after : options.transparentThreshold < distance options near
  order : distance options near ≤ distance options far
  before : distance options far < options.opaqueThreshold

/-- What the comments of the two thresholds promise. -/
structure Meant (options : ChromaKeyOptions) (near far : ChromaKey) : Prop where
  below : distance options near ≤ options.transparentThreshold → opaqueAlpha options near = 0
  above : options.opaqueThreshold ≤ distance options near → opaqueAlpha options near = 255
  between : Between options near far → opaqueAlpha options near ≤ opaqueAlpha options far

/-! ## The alpha of an opaque pixel -/

/-- A matte this faint is cut off as noise. -/
def cutNoise (alpha : Nat) : Nat := if alpha ≤ alphaNoiseFloor then 0 else alpha

theorem opaqueAlpha_eq (options : ChromaKeyOptions) (color : ChromaKey) :
    opaqueAlpha options color = cutNoise (matteOf options color) := by
  have whole : scaledAlpha options ⟨color, 255⟩ = matteOf options color := by
    unfold scaledAlpha
    change (matteOf options color * 255 + 127) / 255 = _
    omega
  unfold opaqueAlpha
  rw [keyPixel_alpha, cutAlpha, whole]
  rfl

theorem opaqueAlpha_keyed {options : ChromaKeyOptions} {color : ChromaKey}
    (keyed : Keyed options color) :
    opaqueAlpha options color = cutNoise (min (ramp options color)
      (dominanceAlpha color options.key)) := by
  have matte : matteOf options color = min (ramp options color)
      (dominanceAlpha color options.key) := if_pos keyed
  rw [opaqueAlpha_eq, matte]

theorem opaqueAlpha_other {options : ChromaKeyOptions} {color : ChromaKey}
    (other : ¬Keyed options color) : opaqueAlpha options color = 255 := by
  have matte : matteOf options color = 255 := if_neg other
  rw [opaqueAlpha_eq, matte]
  rfl

theorem ramp_below {options : ChromaKeyOptions} {color : ChromaKey}
    (near : distance options color ≤ options.transparentThreshold) : ramp options color = 0 :=
  if_pos near

theorem ramp_above {options : ChromaKeyOptions} {color : ChromaKey}
    (valid : options.transparentThreshold < options.opaqueThreshold)
    (far : options.opaqueThreshold ≤ distance options color) : ramp options color = 255 := by
  unfold ramp softAlpha
  rw [if_neg (by omega), if_pos far]

/-- Only a color that the key does not dominate is left whole. -/
theorem dominanceAlpha_whole (color key : ChromaKey) :
    dominanceAlpha color key = 255 ↔ keyDominance color key ≤ 0 := by
  unfold dominanceAlpha
  dsimp only
  by_cases faint : keyDominance color key ≤ 0
  · rw [if_pos faint]
    exact ⟨fun _ => faint, fun _ => rfl⟩
  rw [if_neg faint]
  simp only [faint, iff_false]
  have maximum := maximum_le key
  have other := nonKeyStrength_le color key
  generalize bound : max ((((channels key).max?.getD 0 : Nat) : Int) - nonKeyStrength color key) 1 =
    denominator
  generalize left : denominator - min (keyDominance color key) denominator = remaining
  have positive : 0 < denominator := by omega
  have small : denominator ≤ 255 := by omega
  have nonneg : 0 ≤ remaining := by omega
  have less : remaining + 1 ≤ denominator := by omega
  have most : remaining * 255 + denominator / 2 < 255 * denominator := by omega
  have below := Int.ediv_lt_of_lt_mul positive most
  have low : 0 ≤ (remaining * 255 + denominator / 2) / denominator := by
    apply Int.ediv_nonneg <;> omega
  rw [toByte_le (by omega)]
  omega

/-! ## The ramp rises with the distance -/

theorem byteOf_mono {smooth smooth' : Nat} (le : smooth ≤ smooth') :
    byteOf smooth ≤ byteOf smooth' :=
  Nat.div_le_div_right (Nat.add_le_add_right (Nat.mul_le_mul_right 255 le) _)

theorem smoothOf_mono {ratio ratio' : Nat} (le : ratio ≤ ratio') (within : ratio' ≤ alphaScale) :
    smoothOf ratio ≤ smoothOf ratio' :=
  Nat.div_le_div_right (smooth_mono le within)

theorem ratioOf_mono {distance distance' transparent solid : Nat} (le : distance ≤ distance') :
    ratioOf distance transparent solid ≤ ratioOf distance' transparent solid :=
  Nat.div_le_div_right (Nat.mul_le_mul_right alphaScale (Nat.sub_le_sub_right le transparent))

theorem ramp_mono {options : ChromaKeyOptions} {near far : ChromaKey}
    (between : Between options near far) : ramp options near ≤ ramp options far := by
  have after := between.after
  have order := between.order
  have before := between.before
  have steps : byteOf (smoothOf (ratioOf (distance options near) options.transparentThreshold
      options.opaqueThreshold)) ≤ byteOf (smoothOf (ratioOf (distance options far)
      options.transparentThreshold options.opaqueThreshold)) :=
    byteOf_mono (smoothOf_mono (ratioOf_mono order) (ratioOf_le (Nat.le_of_lt before)))
  unfold ramp
  rw [softAlpha_between after (by omega), softAlpha_between (by omega) before]
  exact steps

/-! ## When the comments hold -/

theorem below_iff (options : ChromaKeyOptions) (color : ChromaKey) :
    (distance options color ≤ options.transparentThreshold → opaqueAlpha options color = 0) ↔
      (distance options color ≤ options.transparentThreshold → Keyed options color) := by
  constructor
  · intro promised near
    by_contra other
    have whole := opaqueAlpha_other other
    have none := promised near
    omega
  · intro keyed near
    rw [opaqueAlpha_keyed (keyed near), ramp_below near, Nat.zero_min]
    rfl

theorem above_iff {options : ChromaKeyOptions}
    (valid : options.transparentThreshold < options.opaqueThreshold) (color : ChromaKey) :
    (options.opaqueThreshold ≤ distance options color → opaqueAlpha options color = 255) ↔
      (options.opaqueThreshold ≤ distance options color → Keyed options color →
        keyDominance color options.key ≤ 0) := by
  have share := dominanceAlpha_le color options.key
  have floor : alphaNoiseFloor = 8 := rfl
  constructor
  · intro promised far keyed
    have whole := promised far
    rw [opaqueAlpha_keyed keyed, ramp_above valid far, Nat.min_eq_right share] at whole
    unfold cutNoise at whole
    apply (dominanceAlpha_whole color options.key).mp
    split at whole <;> omega
  · intro faint far
    by_cases keyed : Keyed options color
    · have whole := (dominanceAlpha_whole color options.key).mpr (faint far keyed)
      rw [opaqueAlpha_keyed keyed, ramp_above valid far, whole]
      rfl
    · exact opaqueAlpha_other keyed

theorem cutNoise_le {alpha alpha' : Nat} :
    cutNoise alpha ≤ cutNoise alpha' ↔ alpha ≤ max alphaNoiseFloor alpha' := by
  unfold cutNoise
  have floor : alphaNoiseFloor = 8 := rfl
  split <;> split <;> omega

/-- A color that `looks_key_colored` and is not near the key is dominated by it. -/
theorem keyed_dominates {options : ChromaKeyOptions} {color : ChromaKey}
    (keyed : Keyed options color) : distance options color ≤ 32 ∨
      keyDominanceThreshold ≤ keyDominance color options.key := by
  unfold Keyed looksKeyColored at keyed
  simpa only [Bool.or_eq_true, decide_eq_true_eq, ge_iff_le] using keyed

theorem keyed_of_near {options : ChromaKeyOptions} {color : ChromaKey}
    (near : distance options color ≤ 32) : Keyed options color := by
  unfold Keyed looksKeyColored
  rw [decide_eq_true near]
  rfl

theorem keyed_of_dominated {options : ChromaKeyOptions} {color : ChromaKey}
    (dominated : keyDominanceThreshold ≤ keyDominance color options.key) : Keyed options color := by
  unfold Keyed looksKeyColored
  rw [decide_eq_true dominated, Bool.or_true]

/-- Farther out the color is still told from the key, and its dominance does not undercut the
ramp. -/
def Kept (options : ChromaKeyOptions) (near far : ChromaKey) : Prop :=
  Keyed options far → Keyed options near ∧
    min (ramp options near) (dominanceAlpha near options.key) ≤
      max alphaNoiseFloor (dominanceAlpha far options.key)

theorem between_iff {options : ChromaKeyOptions} {near far : ChromaKey}
    (between : Between options near far) :
    opaqueAlpha options near ≤ opaqueAlpha options far ↔ Kept options near far := by
  have rises := ramp_mono between
  have order := between.order
  have floor : alphaNoiseFloor = 8 := rfl
  have strong : keyDominanceThreshold = 16 := rfl
  have most : opaqueAlpha options near ≤ 255 := Nat.le_of_lt_succ (UInt8.toNat_lt _)
  by_cases keyed : Keyed options far
  case neg =>
    rw [opaqueAlpha_other keyed]
    exact ⟨fun _ => fun present => absurd present keyed, fun _ => most⟩
  by_cases keyed' : Keyed options near
  case pos =>
    rw [opaqueAlpha_keyed keyed, opaqueAlpha_keyed keyed', cutNoise_le]
    constructor
    · intro le _
      exact ⟨keyed', by omega⟩
    · intro kept
      have held := (kept keyed).2
      omega
  -- the nearer color is whole, so the farther one would have to be
  have away : ¬distance options near ≤ 32 := fun close => keyed' (keyed_of_near close)
  have dominated := keyed_dominates keyed
  have partially : dominanceAlpha far options.key ≠ 255 := by
    intro whole
    have faint := (dominanceAlpha_whole far options.key).mp whole
    omega
  have share := dominanceAlpha_le far options.key
  rw [opaqueAlpha_other keyed', opaqueAlpha_keyed keyed]
  constructor
  · intro le
    unfold cutNoise at le
    split at le <;> omega
  · intro kept
    exact absurd (kept keyed).1 keyed'

/-! ## Channels -/

def spillAt (key : ChromaKey) (c : Channel) : Bool :=
  match spillChannels key, c with
  | [red, _, _], .red => red
  | [_, green, _], .green => green
  | [_, _, blue], .blue => blue
  | _, _ => false

theorem spillChannels_eq (key : ChromaKey) :
    spillChannels key = [spillAt key .red, spillAt key .green, spillAt key .blue] := by
  unfold spillAt spillChannels
  dsimp only [channels, List.map]
  split <;> rfl

theorem mem_valuesWhere {spill : Bool} {rgb key : ChromaKey} {v : Nat} :
    v ∈ valuesWhere spill rgb key ↔ ∃ c, spillAt key c = spill ∧ value rgb c = v := by
  unfold valuesWhere
  rw [spillChannels_eq]
  constructor
  · intro among
    obtain ⟨pair, selected, rfl⟩ := List.mem_map.mp among
    obtain ⟨present, matching⟩ := List.mem_filter.mp selected
    have spills := beq_iff_eq.mp matching
    simp only [channels, List.zip_cons_cons, List.zip_nil_right, List.mem_cons, List.not_mem_nil,
      or_false] at present
    obtain rfl | rfl | rfl := present
    · exact ⟨.red, spills, rfl⟩
    · exact ⟨.green, spills, rfl⟩
    · exact ⟨.blue, spills, rfl⟩
  · rintro ⟨c, spills, rfl⟩
    apply List.mem_map.mpr
    refine ⟨(value rgb c, spillAt key c), List.mem_filter.mpr ⟨?_, beq_iff_eq.mpr spills⟩, rfl⟩
    cases c <;> simp [channels, value]

theorem mem_channels {color : ChromaKey} {v : Nat} :
    v ∈ channels color ↔ ∃ c, value color c = v := by
  constructor
  · intro among
    simp only [channels, List.mem_cons, List.not_mem_nil, or_false] at among
    obtain rfl | rfl | rfl := among
    · exact ⟨.red, rfl⟩
    · exact ⟨.green, rfl⟩
    · exact ⟨.blue, rfl⟩
  · rintro ⟨c, rfl⟩
    cases c <;> simp [channels, value]

/-! ## Greatest and least values -/

theorem le_max {values : List Nat} {v : Nat} (among : v ∈ values) : v ≤ values.max?.getD 0 := by
  cases found : values.max? with
  | none =>
    rw [List.max?_eq_none_iff.mp found] at among
    cases among
  | some most => exact (List.max?_eq_some_iff.mp found).2 v among

theorem max_mem {values : List Nat} (some : values ≠ []) : values.max?.getD 0 ∈ values := by
  cases found : values.max? with
  | none => exact absurd (List.max?_eq_none_iff.mp found) some
  | some most => exact List.max?_mem found

theorem min_le_of {values : List Nat} {v : Nat} (among : v ∈ values) :
    values.min?.getD 0 ≤ v := by
  cases found : values.min? with
  | none =>
    rw [List.min?_eq_none_iff.mp found] at among
    cases among
  | some least => exact (List.min?_eq_some_iff.mp found).2 v among

theorem min_mem {values : List Nat} (some : values ≠ []) : values.min?.getD 0 ∈ values := by
  cases found : values.min? with
  | none => exact absurd (List.min?_eq_none_iff.mp found) some
  | some least => exact List.min?_mem found

/-! ## Strengths along a ray -/

def keyStrength (rgb key : ChromaKey) : Nat := (valuesWhere true rgb key).min?.getD 0

def maximum (key : ChromaKey) : Nat := (channels key).max?.getD 0

/-- Every channel that spills is at the maximum, and the key dominates itself. -/
structure PlainKey (key : ChromaKey) : Prop where
  even : ∀ c, spillAt key c = true → value key c = maximum key
  strong : (∃ c, spillAt key c = true) → keyDominanceThreshold ≤ keyDominance key key

section Ray

variable {a b : Nat} {key near far : ChromaKey}

theorem channelDistance_eq (rgb key : ChromaKey) :
    ∃ c, channelDistance rgb key = absDiff (value rgb c) (value key c) := by
  have among := max_mem (List.cons_ne_nil (absDiff rgb.red.toNat key.red.toNat)
    [absDiff rgb.green.toNat key.green.toNat, absDiff rgb.blue.toNat key.blue.toNat])
  simp only [List.mem_cons, List.not_mem_nil, or_false] at among
  obtain red | green | blue := among
  · exact ⟨.red, red⟩
  · exact ⟨.green, green⟩
  · exact ⟨.blue, blue⟩

theorem le_channelDistance (rgb key : ChromaKey) (c : Channel) :
    absDiff (value rgb c) (value key c) ≤ channelDistance rgb key := by
  apply le_max
  cases c <;> simp [channels, value]

/-- The nearer color is no farther from the key. -/
theorem Ray.part_le (ray : Ray a b key near far) (away : 0 < channelDistance far key)
    (order : channelDistance near key ≤ channelDistance far key) : a ≤ b := by
  obtain ⟨c, farthest⟩ := channelDistance_eq far key
  have nearer := le_channelDistance near key c
  have along := ray c
  have scaled : b * absDiff (value near c) (value key c) = a * absDiff (value far c) (value key c) := by
    have sizes := congrArg Int.natAbs along
    rw [Int.natAbs_mul, Int.natAbs_mul] at sizes
    unfold absDiff
    have same (x y : Nat) : ((x : Int) - y).natAbs = x - y + (y - x) := by omega
    rwa [same, same] at sizes
  have bound : a * channelDistance far key ≤ b * channelDistance far key := by
    rw [farthest, ← scaled, ← farthest]
    exact Nat.mul_le_mul_left b (Nat.le_trans nearer order)
  exact Nat.le_of_mul_le_mul_right bound away

/-- The strongest other channel rises no faster than along a straight line. -/
theorem Ray.other_le (ray : Ray a b key near far) (part : a ≤ b) :
    (b : Int) * nonKeyStrength near key ≤
      (b - a) * nonKeyStrength key key + a * nonKeyStrength far key := by
  have part' : (0 : Int) ≤ b - a := by omega
  have first : 0 ≤ ((b : Int) - a) * nonKeyStrength key key :=
    Int.mul_nonneg part' (Int.natCast_nonneg _)
  have second : 0 ≤ (a : Int) * nonKeyStrength far key :=
    Int.mul_nonneg (Int.natCast_nonneg _) (Int.natCast_nonneg _)
  by_cases none : valuesWhere false near key = []
  · have zero : nonKeyStrength near key = 0 := by
      unfold nonKeyStrength
      rw [none]
      rfl
    rw [zero, Int.natCast_zero, Int.mul_zero]
    omega
  obtain ⟨c, other, most⟩ := mem_valuesWhere.mp (max_mem none)
  have along := ray c
  have atKey : value key c ≤ nonKeyStrength key key := le_max (mem_valuesWhere.mpr ⟨c, other, rfl⟩)
  have atFar : value far c ≤ nonKeyStrength far key := le_max (mem_valuesWhere.mpr ⟨c, other, rfl⟩)
  have key_part : ((b : Int) - a) * value key c ≤ (b - a) * nonKeyStrength key key :=
    Int.mul_le_mul_of_nonneg_left (by omega) part'
  have far_part : (a : Int) * value far c ≤ a * nonKeyStrength far key :=
    Int.mul_le_mul_of_nonneg_left (by omega) (Int.natCast_nonneg _)
  have strongest : nonKeyStrength near key = value near c := most.symm
  rw [strongest]
  grind

/-- The weakest key channel moves straight when all of them start at the maximum. -/
theorem Ray.strength_eq (ray : Ray a b key near far) (plain : PlainKey key)
    (spills : ∃ c, spillAt key c = true) :
    (b : Int) * ((keyStrength near key : Int) - maximum key) =
      a * ((keyStrength far key : Int) - maximum key) := by
  have some (rgb : ChromaKey) : valuesWhere true rgb key ≠ [] := by
    obtain ⟨c, spill⟩ := spills
    exact List.ne_nil_of_mem (mem_valuesWhere.mpr ⟨c, spill, rfl⟩)
  obtain ⟨c, spill, least⟩ := mem_valuesWhere.mp (min_mem (some near))
  obtain ⟨c', spill', least'⟩ := mem_valuesWhere.mp (min_mem (some far))
  have above : keyStrength far key ≤ value far c := min_le_of (mem_valuesWhere.mpr ⟨c, spill, rfl⟩)
  have above' : keyStrength near key ≤ value near c' :=
    min_le_of (mem_valuesWhere.mpr ⟨c', spill', rfl⟩)
  have along := ray c
  have along' := ray c'
  rw [plain.even c spill] at along
  rw [plain.even c' spill'] at along'
  have reached : value near c = keyStrength near key := least
  have reached' : value far c' = keyStrength far key := least'
  rw [reached] at along
  rw [reached'] at along'
  apply Int.le_antisymm
  · rw [← along']
    exact Int.mul_le_mul_of_nonneg_left (by omega) (Int.natCast_nonneg _)
  · rw [along]
    exact Int.mul_le_mul_of_nonneg_left (by omega) (Int.natCast_nonneg _)


theorem any_spill {key : ChromaKey} :
    (spillChannels key).any (fun spills => spills) = true ↔ ∃ c, spillAt key c = true := by
  rw [spillChannels_eq]
  constructor
  · intro any
    obtain ⟨spills, among, true⟩ := List.any_eq_true.mp any
    simp only [List.mem_cons, List.not_mem_nil, or_false] at among
    obtain rfl | rfl | rfl := among
    · exact ⟨.red, true⟩
    · exact ⟨.green, true⟩
    · exact ⟨.blue, true⟩
  · rintro ⟨c, spill⟩
    apply List.any_eq_true.mpr
    refine ⟨spillAt key c, ?_, spill⟩
    cases c <;> simp

theorem keyDominance_spilling {key : ChromaKey} (rgb : ChromaKey)
    (spills : ∃ c, spillAt key c = true) :
    keyDominance rgb key = (keyStrength rgb key : Int) - nonKeyStrength rgb key :=
  if_pos (any_spill.mpr spills)

theorem keyDominance_calm {key : ChromaKey} (rgb : ChromaKey)
    (calm : ¬∃ c, spillAt key c = true) : keyDominance rgb key = 0 :=
  if_neg fun any => calm (any_spill.mp any)

theorem PlainKey.strength {key : ChromaKey} (plain : PlainKey key)
    (spills : ∃ c, spillAt key c = true) : keyStrength key key = maximum key := by
  obtain ⟨c, spill⟩ := spills
  have some : valuesWhere true key key ≠ [] :=
    List.ne_nil_of_mem (mem_valuesWhere.mpr ⟨c, spill, rfl⟩)
  obtain ⟨c', spill', least⟩ := mem_valuesWhere.mp (min_mem some)
  exact least.symm.trans (plain.even c' spill')

theorem other_le_maximum (key : ChromaKey) : nonKeyStrength key key ≤ maximum key := by
  by_cases none : valuesWhere false key key = []
  · unfold nonKeyStrength
    rw [none]
    exact Nat.zero_le _
  obtain ⟨c, _, most⟩ := mem_valuesWhere.mp (max_mem none)
  have strongest : nonKeyStrength key key = value key c := most.symm
  rw [strongest]
  exact le_max (mem_channels.mpr ⟨c, rfl⟩)

/-- On the way back to a plain key its dominance gains. -/
theorem Ray.dominance_le (ray : Ray a b key near far) (part : a ≤ b) (plain : PlainKey key)
    (spills : ∃ c, spillAt key c = true) :
    (b - a) * keyDominance key key + a * keyDominance far key ≤ b * keyDominance near key := by
  have other := ray.other_le part
  have strength := ray.strength_eq plain spills
  rw [keyDominance_spilling key spills, keyDominance_spilling far spills,
    keyDominance_spilling near spills, plain.strength spills]
  grind

/-- A share that is not larger is not rounded to a larger byte. -/
theorem rounded_mono {part whole part' whole' : Int} (some : 0 < whole) (some' : 0 < whole')
    (le : part * whole' ≤ part' * whole) :
    (part * 255 + whole / 2) / whole ≤ (part' * 255 + whole' / 2) / whole' := by
  apply (Int.le_ediv_iff_mul_le some').mpr
  have least : (part * 255 + whole / 2) / whole * whole ≤ part * 255 + whole / 2 :=
    Int.ediv_mul_le _ (by omega)
  generalize (part * 255 + whole / 2) / whole = n at least ⊢
  -- half a step below the rounded share, without divisions
  have half : (2 * n - 1) * whole ≤ 510 * part := by
    have double : 2 * (n * whole) ≤ 510 * part + whole := by omega
    grind
  have scaled : (2 * n - 1) * whole' * whole ≤ 510 * part' * whole := by
    have once : (2 * n - 1) * whole * whole' ≤ 510 * part * whole' :=
      Int.mul_le_mul_of_nonneg_right half (by omega)
    grind
  have cancelled : (2 * n - 1) * whole' ≤ 510 * part' := Int.le_of_mul_le_mul_right scaled some
  have double : 2 * (n * whole') ≤ 510 * part' + whole' := by grind
  omega

theorem toByte_mono {n n' : Nat} (le : n ≤ n') : toByte n ≤ toByte n' := by
  unfold toByte
  split <;> split <;> omega

/-- The share of a dominated color that is not of the key. -/
theorem dominanceAlpha_share {rgb key : ChromaKey} (spills : ∃ c, spillAt key c = true)
    (dominated : 0 < keyDominance rgb key) :
    dominanceAlpha rgb key =
      let whole := max ((maximum key : Int) - nonKeyStrength rgb key) 1
      let part := max ((maximum key : Int) - keyStrength rgb key) 0
      toByte ((part * 255 + whole / 2) / whole).toNat := by
  have strength := keyDominance_spilling rgb spills
  have part : max ((maximum key : Int) - nonKeyStrength rgb key) 1 -
      min (keyDominance rgb key) (max ((maximum key : Int) - nonKeyStrength rgb key) 1) =
      max ((maximum key : Int) - keyStrength rgb key) 0 := by
    omega
  unfold dominanceAlpha
  dsimp only
  rw [if_neg (by omega)]
  unfold maximum at part
  rw [part]
  rfl

theorem crossed_le {x y p q r a b : Int} (some : 0 < b) (nonneg : 0 ≤ y) (rest : 0 ≤ r)
    (part : a ≤ b) (left : b * x = a * y) (right : (b - a) * r + a * q ≤ b * p) :
    x * q ≤ y * p := by
  have slack : 0 ≤ y * ((b - a) * r) := Int.mul_nonneg nonneg (Int.mul_nonneg (by omega) rest)
  have lifted : y * ((b - a) * r + a * q) ≤ y * (b * p) := Int.mul_le_mul_of_nonneg_left right nonneg
  have crossed : b * (x * q) ≤ b * (y * p) := by grind
  exact Int.le_of_mul_le_mul_left crossed some

theorem Ray.share_le (ray : Ray a b key near far) (some : 0 < b) (part : a ≤ b)
    (plain : PlainKey key) (spills : ∃ c, spillAt key c = true)
    (near_dominated : 0 < keyDominance near key) (far_dominated : 0 < keyDominance far key) :
    dominanceAlpha near key ≤ dominanceAlpha far key := by
  have other := ray.other_le part
  have strength := ray.strength_eq plain spills
  have within := other_le_maximum key
  rw [keyDominance_spilling near spills] at near_dominated
  rw [keyDominance_spilling far spills] at far_dominated
  rw [dominanceAlpha_share spills (by rwa [keyDominance_spilling near spills]),
    dominanceAlpha_share spills (by rwa [keyDominance_spilling far spills])]
  apply toByte_mono
  apply Int.toNat_le_toNat
  apply rounded_mono (by omega) (by omega)
  have straight : (b : Int) * ((maximum key : Int) - keyStrength near key) =
      a * ((maximum key : Int) - keyStrength far key) := by grind
  by_cases full : maximum key ≤ keyStrength far key
  · have high : 0 ≤ (a : Int) * ((keyStrength far key : Int) - maximum key) :=
      Int.mul_nonneg (Int.natCast_nonneg _) (by omega)
    have full' : 0 ≤ (keyStrength near key : Int) - maximum key := by
      rw [← strength] at high
      exact Int.nonneg_of_mul_nonneg_right high (by omega)
    have left : max ((maximum key : Int) - keyStrength near key) 0 = 0 := by omega
    have right : max ((maximum key : Int) - keyStrength far key) 0 = 0 := by omega
    rw [left, right, Int.zero_mul, Int.zero_mul]
  have low : 0 ≤ (a : Int) * ((maximum key : Int) - keyStrength far key) :=
    Int.mul_nonneg (Int.natCast_nonneg _) (by omega)
  have low' : 0 ≤ (maximum key : Int) - keyStrength near key := by
    rw [← straight] at low
    exact Int.nonneg_of_mul_nonneg_right low (by omega)
  have left : max ((maximum key : Int) - keyStrength near key) 0 =
      (maximum key : Int) - keyStrength near key := by omega
  have right : max ((maximum key : Int) - keyStrength far key) 0 =
      (maximum key : Int) - keyStrength far key := by omega
  have whole : max ((maximum key : Int) - nonKeyStrength near key) 1 =
      (maximum key : Int) - nonKeyStrength near key := by omega
  have whole' : max ((maximum key : Int) - nonKeyStrength far key) 1 =
      (maximum key : Int) - nonKeyStrength far key := by omega
  rw [left, right, whole, whole']
  apply crossed_le (b := b) (a := a) (r := (maximum key : Int) - nonKeyStrength key key) (by omega)
    (by omega) (by omega) (by omega) straight
  grind

end Ray

/-- A plain key keeps the order of the colors on a ray. -/
theorem kept_of_plain {options : ChromaKeyOptions} {near far : ChromaKey}
    (plain : PlainKey options.key) (between : Between options near far) : Kept options near far := by
  intro keyed
  have order := between.order
  have after := between.after
  obtain ⟨a, b, forward, some, ray⟩ := between.direction
  have away : 0 < channelDistance far options.key := by
    have positive : 0 < distance options far := by omega
    exact positive
  have part : a ≤ b := ray.part_le away order
  have least := dominanceAlpha_le near options.key
  have strong : keyDominanceThreshold = 16 := rfl
  by_cases spills : ∃ c, spillAt options.key c = true
  case neg =>
    have close := keyed_dominates keyed
    have calm := keyDominance_calm far spills
    have whole := (dominanceAlpha_whole far options.key).mpr (by omega)
    exact ⟨keyed_of_near (by omega), by omega⟩
  have gains := ray.dominance_le part plain spills
  have strongest := plain.strong spills
  have from_key : ((b : Int) - a) * 16 ≤ (b - a) * keyDominance options.key options.key :=
    Int.mul_le_mul_of_nonneg_left (by omega) (by omega)
  constructor
  · obtain close | dominated := keyed_dominates keyed
    · exact keyed_of_near (by omega)
    · have from_far : (a : Int) * 16 ≤ a * keyDominance far options.key :=
        Int.mul_le_mul_of_nonneg_left (by omega) (by omega)
      have scaled : (b : Int) * 16 ≤ b * keyDominance near options.key := by grind
      have nearer := Int.le_of_mul_le_mul_left scaled (by omega)
      exact keyed_of_dominated (by omega)
  by_cases faint : keyDominance far options.key ≤ 0
  · have whole := (dominanceAlpha_whole far options.key).mpr faint
    omega
  have from_far : (a : Int) * 1 ≤ a * keyDominance far options.key :=
    Int.mul_le_mul_of_nonneg_left (by omega) (by omega)
  have scaled : (b : Int) * 1 ≤ b * keyDominance near options.key := by grind
  have nearer := Int.le_of_mul_le_mul_left scaled (by omega)
  have share := ray.share_le some part plain spills (by omega) (by omega)
  omega

/-! ## The thresholds -/

/-- No other estimate of the matte gets in the way of the ramp. -/
structure Undisturbed (options : ChromaKeyOptions) (near far : ChromaKey) : Prop where
  below : distance options near ≤ options.transparentThreshold → Keyed options near
  above : options.opaqueThreshold ≤ distance options near → Keyed options near →
    keyDominance near options.key ≤ 0
  between : ¬PlainKey options.key → Between options near far → Kept options near far

theorem meant_iff {options : ChromaKeyOptions} (valid : validateOptions options = .ok ())
    (near far : ChromaKey) : Meant options near far ↔ Undisturbed options near far := by
  have order : options.transparentThreshold < options.opaqueThreshold :=
    Nat.lt_of_not_le ((Outcome.failIf_ok _ _ _).mp valid)
  constructor
  · intro meant
    constructor
    · exact (below_iff options near).mp meant.below
    · exact (above_iff order near).mp meant.above
    · exact fun _ between => (between_iff between).mp (meant.between between)
  · intro undisturbed
    constructor
    · exact (below_iff options near).mpr undisturbed.below
    · exact (above_iff order near).mpr undisturbed.above
    · intro between
      apply (between_iff between).mpr
      by_cases plain : PlainKey options.key
      · exact kept_of_plain plain between
      · exact undisturbed.between plain between

/-- Half way to a red subject the default thresholds are met. -/
theorem meant_iff_red :
    Meant ⟨⟨0, 255, 0⟩, 12, 96, true⟩ ⟨20, 235, 0⟩ ⟨40, 215, 0⟩ ↔
      Undisturbed ⟨⟨0, 255, 0⟩, 12, 96, true⟩ ⟨20, 235, 0⟩ ⟨40, 215, 0⟩ :=
  meant_iff rfl _ _

/-- A dark green is far from the green key, and fades. -/
theorem green_fades :
    ¬∀ (options : ChromaKeyOptions) (near far : ChromaKey), validateOptions options = .ok () →
      Meant options near far := by
  intro promised
  have meant := promised ⟨⟨0, 255, 0⟩, 12, 96, true⟩ ⟨0, 150, 0⟩ ⟨0, 150, 0⟩ rfl
  have faded : opaqueAlpha ⟨⟨0, 255, 0⟩, 12, 96, true⟩ ⟨0, 150, 0⟩ = 105 := by decide
  have whole := meant.above (by decide)
  omega

/-- The keys that the plan chooses by itself are plain. -/
theorem selectKey_plain (prompt : String) : PlainKey (selectKey prompt) := by
  have chosen : selectKey prompt = ⟨0, 255, 0⟩ ∨ selectKey prompt = ⟨255, 0, 255⟩ ∨
      selectKey prompt = ⟨0, 0, 255⟩ := by
    unfold selectKey keyCandidates
    simp only [List.foldl_cons, List.foldl_nil]
    generalize Text.lowercase prompt.toList = text
    by_cases fewer : mentions text ["magenta", "pink", "rosa", "purple", "viola", "fuchsia"] <
        mentions text ["green", "verde", "lime", "emerald", "smeraldo", "forest"]
    all_goals
      simp only [fewer, if_true, if_false]
      split <;> simp
  obtain green | magenta | blue := chosen
  · rw [green]
    exact ⟨fun c => by cases c <;> decide, fun _ => by decide⟩
  · rw [magenta]
    exact ⟨fun c => by cases c <;> decide, fun _ => by decide⟩
  · rw [blue]
    exact ⟨fun c => by cases c <;> decide, fun _ => by decide⟩

end ImagegenBridge.Chroma
