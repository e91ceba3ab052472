import ImagegenBridge.Core.Parameters
import ImagegenBridge.Lib.Decimal
import Mathlib.Data.Nat.GCD.Basic

/-!
# Sizes and aspect ratios as texts, `crates/core/src/parameters.rs`

`ImageSize` and `AspectRatio` keep the text that they print, and read their numbers from it.
-/

namespace ImagegenBridge

open Decimal Outcome

/-! ## Numbers -/

def u32Bound : Nat := 2 ^ 32

/-- A sign is no digit; one plus may come before the first digit. -/
def unsigned : List Char → List Char
  | '+' :: rest => rest
  | text => text

/-- `text.parse::<u32>()`. -/
def parseU32 (text : List Char) : Option Nat :=
  if unsigned text = [] then none else accumulate u32Bound 0 (unsigned text)

def parsePart (message : String) (text : List Char) : Outcome Nat :=
  match parseU32 text with
  | some number => .ok number
  | none => .error (.new .invalidRequest message)

/-! ## Sizes -/

/-- `ImageSize(String)`. -/
structure ImageSizeText where
  text : String
  deriving DecidableEq

namespace ImageSizeText

def auto : ImageSizeText := ⟨"auto"⟩

def exact (width height : Nat) : Outcome ImageSizeText := do
  failIf (width = 0 ∨ height = 0)
    (.new .invalidRequest "image dimensions must be greater than zero")
  .ok ⟨toString width ++ "x" ++ toString height⟩

def dimensions (size : ImageSizeText) : Option (Nat × Nat) :=
  if size.text = "auto" then none
  else do
    let (width, height) ← splitOnce 'x' size.text.toList
    some (← parseU32 width, ← parseU32 height)

def shapeError : BridgeError := .new .invalidRequest "size must be `auto` or `WIDTHxHEIGHT`"

/-- What keeps one side of a size from being read. -/
def malformed (side : List Char) : Bool :=
  side.isEmpty || (decide (side.length > 1) && side.head? == some '0') || !side.all Char.isDigit

def fromStr (value : String) : Outcome ImageSizeText :=
  if value = "auto" then .ok auto
  else
    match splitOnce 'x' value.toList with
    | none => .error shapeError
    | some (width, height) => do
      failIf (malformed width = true ∨ malformed height = true) shapeError
      let width ← parsePart "image width is out of range" width
      let height ← parsePart "image height is out of range" height
      exact width height

end ImageSizeText

/-! ## Aspect ratios -/

def gcd (left right : Nat) : Nat :=
  if _ : right = 0 then left else gcd right (left % right)
termination_by right
decreasing_by exact Nat.mod_lt _ (Nat.pos_of_ne_zero ‹_›)

/-- `AspectRatio(String)`. -/
structure AspectRatioText where
  text : String
  deriving DecidableEq

namespace AspectRatioText

def new (width height : Nat) : Outcome AspectRatioText := do
  failIf (width = 0 ∨ height = 0)
    (.new .invalidRequest "aspect ratio terms must be greater than zero")
  let divisor := gcd width height
  .ok ⟨toString (width / divisor) ++ ":" ++ toString (height / divisor)⟩

def terms (ratio : AspectRatioText) : Nat × Nat :=
  let (width, height) := (splitOnce ':' ratio.text.toList).getD (['1'], ['1'])
  ((parseU32 width).getD 1, (parseU32 height).getD 1)

def fromStr (value : String) : Outcome AspectRatioText :=
  match splitOnce ':' value.toList with
  | none => .error (.new .invalidRequest "aspect_ratio must use `WIDTH:HEIGHT`")
  | some (width, height) => do
    let width ← parsePart "aspect ratio width is invalid" width
    let height ← parsePart "aspect ratio height is invalid" height
    new width height

end AspectRatioText

/-! ## What the parsers read -/

/-- Digits after at most one plus, and a 32-bit number. -/
structure PartReads (text : List Char) (number : Nat) : Prop where
  nonempty : unsigned text ≠ []
  digits : Digits (unsigned text)
  spells : value (unsigned text) = number
  fits : number < u32Bound

theorem parseU32_iff {text : List Char} {number : Nat} :
    parseU32 text = some number ↔ PartReads text number := by
  unfold parseU32
  by_cases empty : unsigned text = []
  · rw [if_pos empty]
    constructor
    · intro impossible
      cases impossible
    · exact fun reads => absurd empty reads.nonempty
  · rw [if_neg empty, accumulate_iff (by decide)]
    constructor
    · rintro ⟨digits, spells, fits⟩
      exact ⟨empty, digits, spells, fits⟩
    · exact fun reads => ⟨reads.digits, reads.spells, reads.fits⟩

theorem parsePart_ok {message : String} {text : List Char} {number : Nat} :
    parsePart message text = .ok number ↔ PartReads text number := by
  rw [← parseU32_iff, parsePart]
  cases parseU32 text with
  | none => simp
  | some read => simp

theorem unsigned_of_head {text : List Char} (head : text.head? ≠ some '+') :
    unsigned text = text := by
  match text with
  | [] => rfl
  | c :: rest =>
    unfold unsigned
    split
    · rename_i same
      cases same
      exact absurd rfl head
    · rfl

theorem numeral_unsigned {text : List Char} (numeral : Numeral text) : unsigned text = text := by
  apply unsigned_of_head
  intro plus
  have digit := numeral.digits '+' (List.mem_of_mem_head? plus)
  exact absurd digit (by decide)

theorem numeral_reads {text : List Char} (numeral : Numeral text) (fits : value text < u32Bound) :
    PartReads text (value text) := by
  have plain := numeral_unsigned numeral
  exact ⟨plain.symm ▸ numeral.nonempty, plain.symm ▸ numeral.digits, by rw [plain], fits⟩

theorem reads_print {number : Nat} (positive : 0 < number) (fits : number < u32Bound) :
    PartReads (Nat.toDigits 10 number) number := by
  have reads := numeral_reads (numeral_toDigits positive) (by rwa [value_toDigits])
  rwa [value_toDigits] at reads

/-- The grammar `[1-9][0-9]*`, separator, `[1-9][0-9]*`, with 32-bit numbers. -/
structure SizeMatches (separator : Char) (text : String) (width height : List Char) : Prop where
  whole : text.toList = width ++ separator :: height
  first : Numeral width
  second : Numeral height
  widthFits : value width < u32Bound
  heightFits : value height < u32Bound

theorem numeral_free {text : List Char} {separator : Char} (numeral : Numeral text)
    (mark : separator.isDigit = false) : separator ∉ text := by
  intro among
  have digit := numeral.digits separator among
  rw [mark] at digit
  cases digit

/-- The print of two numbers around a separator. -/
def printPair (separator : Char) (width height : Nat) : String :=
  String.ofList (Nat.toDigits 10 width ++ separator :: Nat.toDigits 10 height)

theorem printPair_append (width height : Nat) :
    toString width ++ "x" ++ toString height = printPair 'x' width height ∧
      toString width ++ ":" ++ toString height = printPair ':' width height := by
  constructor
  · apply String.toList_inj.mp
    simp [printPair]
  · apply String.toList_inj.mp
    simp [printPair]

theorem SizeMatches.print {separator : Char} {text : String} {width height : List Char}
    (found : SizeMatches separator text width height) :
    printPair separator (value width) (value height) = text := by
  rw [printPair, toDigits_value found.first, toDigits_value found.second, ← found.whole,
    String.ofList_toList]

theorem printPair_matches {separator : Char} {width height : Nat} (widthPos : 0 < width)
    (heightPos : 0 < height) (widthFits : width < u32Bound) (heightFits : height < u32Bound) :
    SizeMatches separator (printPair separator width height) (Nat.toDigits 10 width)
      (Nat.toDigits 10 height) :=
  ⟨String.toList_ofList, numeral_toDigits widthPos, numeral_toDigits heightPos,
    by rwa [value_toDigits], by rwa [value_toDigits]⟩

theorem SizeMatches.split {separator : Char} {text : String} {width height : List Char}
    (found : SizeMatches separator text width height) (mark : separator.isDigit = false) :
    splitOnce separator text.toList = some (width, height) :=
  splitOnce_iff.mpr ⟨found.whole, numeral_free found.first mark⟩

/-! ## Sizes -/

namespace ImageSizeText

theorem exact_ok {width height : Nat} {size : ImageSizeText} :
    exact width height = .ok size ↔
      0 < width ∧ 0 < height ∧ size = ⟨printPair 'x' width height⟩ := by
  unfold exact
  rw [(printPair_append width height).1, bind_ok]
  simp only [failIf_ok, exists_const, Except.ok.injEq]
  constructor
  · rintro ⟨positive, rfl⟩
    exact ⟨by omega, by omega, rfl⟩
  · rintro ⟨widthPos, heightPos, rfl⟩
    exact ⟨by omega, rfl⟩

/-- One side of a size is a numeral, or the number zero. -/
theorem side_numeral {side : List Char} {number : Nat} (formed : ¬ malformed side = true)
    (reads : PartReads side number) (positive : 0 < number) : Numeral side ∧ value side = number := by
  simp only [malformed, Bool.or_eq_true, Bool.and_eq_true, decide_eq_true_eq, Bool.not_eq_true',
    beq_iff_eq, not_or, not_and, List.isEmpty_iff, Bool.not_eq_false, List.all_eq_true] at formed
  obtain ⟨⟨nonempty, padding⟩, digits⟩ := formed
  have plain : unsigned side = side := by
    apply unsigned_of_head
    intro plus
    exact absurd (digits '+' (List.mem_of_mem_head? plus)) (by decide)
  have spells := reads.spells
  rw [plain] at spells
  refine ⟨⟨nonempty, digits, ?_⟩, spells⟩
  intro zero
  match side with
  | [] => cases zero
  | [c] =>
    cases zero
    have nothing : value ['0'] = 0 := rfl
    omega
  | c :: d :: rest => exact padding (by simp) zero

theorem numeral_formed {side : List Char} (numeral : Numeral side) : ¬ malformed side = true := by
  simp only [malformed, Bool.or_eq_true, Bool.and_eq_true, decide_eq_true_eq, Bool.not_eq_true',
    beq_iff_eq, not_or, not_and, List.isEmpty_iff, Bool.not_eq_false, List.all_eq_true]
  exact ⟨⟨numeral.nonempty, fun _ => numeral.positive⟩, numeral.digits⟩

/-- A size is read as it is written. -/
theorem fromStr_iff {text : String} {size : ImageSizeText} :
    fromStr text = .ok size ↔
      text = size.text ∧ (text = "auto" ∨ ∃ width height, SizeMatches 'x' text width height) := by
  unfold fromStr
  by_cases isAuto : text = "auto"
  · rw [if_pos isAuto, isAuto, Except.ok.injEq]
    constructor
    · rintro rfl
      exact ⟨rfl, .inl rfl⟩
    · rintro ⟨same, -⟩
      cases size
      cases same
      rfl
  · rw [if_neg isAuto]
    constructor
    · intro read
      split at read
      · cases read
      · rename_i width height split
        obtain ⟨_, formed, read⟩ := bind_ok.mp read
        obtain ⟨first, firstRead, read⟩ := bind_ok.mp read
        obtain ⟨second, secondRead, made⟩ := bind_ok.mp read
        rw [failIf_ok, not_or] at formed
        obtain ⟨widthPos, heightPos, rfl⟩ := exact_ok.mp made
        have firstReads := parsePart_ok.mp firstRead
        have secondReads := parsePart_ok.mp secondRead
        obtain ⟨widthNumeral, rfl⟩ := side_numeral formed.1 firstReads widthPos
        obtain ⟨heightNumeral, rfl⟩ := side_numeral formed.2 secondReads heightPos
        have found : SizeMatches 'x' text width height := ⟨(splitOnce_iff.mp split).1, widthNumeral,
          heightNumeral, firstReads.fits, secondReads.fits⟩
        exact ⟨found.print.symm, .inr ⟨width, height, found⟩⟩
    · rintro ⟨same, impossible | ⟨width, height, found⟩⟩
      · exact absurd impossible isAuto
      · rw [found.split (by decide)]
        refine bind_ok.mpr ⟨(), ?_, bind_ok.mpr ⟨value width, ?_, bind_ok.mpr ⟨value height, ?_, ?_⟩⟩⟩
        · rw [failIf_ok, not_or]
          exact ⟨numeral_formed found.first, numeral_formed found.second⟩
        · exact parsePart_ok.mpr (numeral_reads found.first found.widthFits)
        · exact parsePart_ok.mpr (numeral_reads found.second found.heightFits)
        · rw [exact_ok, found.print, same]
          exact ⟨numeral_positive found.first, numeral_positive found.second, rfl⟩

theorem dimensions_auto : auto.dimensions = none := rfl

theorem SizeMatches.not_auto {text : String} {width height : List Char}
    (found : SizeMatches 'x' text width height) : text ≠ "auto" := by
  rintro rfl
  have among : 'x' ∈ "auto".toList := by
    rw [found.whole]
    simp
  exact absurd among (by decide)

theorem dimensions_matches {text : String} {width height : List Char}
    (found : SizeMatches 'x' text width height) :
    dimensions ⟨text⟩ = some (value width, value height) := by
  have first := parseU32_iff.mpr (numeral_reads found.first found.widthFits)
  have second := parseU32_iff.mpr (numeral_reads found.second found.heightFits)
  rw [dimensions, if_neg (SizeMatches.not_auto found), found.split (by decide)]
  simp [first, second]

end ImageSizeText

/-! ## Aspect ratios -/

/-- The loop is Euclid's. -/
theorem gcd_eq (left right : Nat) : gcd left right = Nat.gcd left right := by
  induction left, right using gcd.induct with
  | case1 left => rw [gcd, dif_pos rfl, Nat.gcd_zero_right]
  | case2 left right nonzero ih =>
    rw [gcd, dif_neg nonzero, ih, Nat.gcd_comm left right, Nat.gcd_rec right left, Nat.gcd_comm]

namespace AspectRatioText

/-- The reduced terms of two positive numbers. -/
structure Reduced (width height a b : Nat) : Prop where
  widthPos : 0 < a
  heightPos : 0 < b
  coprime : Nat.gcd a b = 1
  same : a * height = b * width
  widthLe : a ≤ width
  heightLe : b ≤ height

theorem reduced (width height : Nat) (widthPos : 0 < width) (heightPos : 0 < height) :
    Reduced width height (width / gcd width height) (height / gcd width height) := by
  rw [gcd_eq]
  have positive : 0 < Nat.gcd width height := Nat.gcd_pos_of_pos_left _ widthPos
  obtain ⟨a, first⟩ := Nat.gcd_dvd_left width height
  obtain ⟨b, second⟩ := Nat.gcd_dvd_right width height
  exact {
    widthPos := Nat.div_pos (Nat.gcd_le_left _ widthPos) positive
    heightPos := Nat.div_pos (Nat.gcd_le_right _ heightPos) positive
    coprime := Nat.coprime_div_gcd_div_gcd positive
    same := by
      generalize Nat.gcd width height = g at first second positive
      rw [first, second, Nat.mul_div_cancel_left _ positive, Nat.mul_div_cancel_left _ positive,
        Nat.mul_left_comm, Nat.mul_left_comm b, Nat.mul_comm a b]
    widthLe := Nat.div_le_self ..
    heightLe := Nat.div_le_self .. }

theorem new_ok {width height : Nat} {ratio : AspectRatioText} :
    new width height = .ok ratio ↔ 0 < width ∧ 0 < height ∧
      ratio = ⟨printPair ':' (width / gcd width height) (height / gcd width height)⟩ := by
  unfold new
  rw [bind_ok]
  simp only [failIf_ok, exists_const, Except.ok.injEq, (printPair_append _ _).2]
  constructor
  · rintro ⟨positive, rfl⟩
    exact ⟨by omega, by omega, rfl⟩
  · rintro ⟨widthPos, heightPos, rfl⟩
    exact ⟨by omega, rfl⟩

/-- A term that the parser takes: a positive number as Rust reads it. -/
def Term (text : List Char) (number : Nat) : Prop := PartReads text number ∧ 0 < number

theorem term_free {text : List Char} {number : Nat} (term : Term text number) : ':' ∉ text := by
  intro among
  have digits := term.1.digits
  have digit : ':' ∈ unsigned text := by
    match text with
    | [] => cases among
    | c :: rest =>
      unfold unsigned
      split
      · rename_i same
        cases same
        rcases List.mem_cons.mp among with impossible | later
        · exact absurd impossible (by decide)
        · exact later
      · exact among
  exact absurd (digits ':' digit) (by decide)

/-- Two terms around the first colon. -/
theorem fromStr_iff {text : String} {ratio : AspectRatioText} :
    fromStr text = .ok ratio ↔ ∃ width height a b,
      text.toList = width ++ ':' :: height ∧ Term width a ∧ Term height b ∧
        ratio = ⟨printPair ':' (a / gcd a b) (b / gcd a b)⟩ := by
  unfold fromStr
  constructor
  · intro read
    split at read
    · cases read
    · rename_i width height split
      obtain ⟨a, first, read⟩ := bind_ok.mp read
      obtain ⟨b, second, made⟩ := bind_ok.mp read
      obtain ⟨widthPos, heightPos, made⟩ := new_ok.mp made
      exact ⟨width, height, a, b, (splitOnce_iff.mp split).1,
        ⟨parsePart_ok.mp first, widthPos⟩, ⟨parsePart_ok.mp second, heightPos⟩, made⟩
  · rintro ⟨width, height, a, b, whole, first, second, made⟩
    rw [splitOnce_iff.mpr ⟨whole, term_free first⟩]
    exact bind_ok.mpr ⟨a, parsePart_ok.mpr first.1, bind_ok.mpr ⟨b, parsePart_ok.mpr second.1,
      new_ok.mpr ⟨first.2, second.2, made⟩⟩⟩

theorem term_print {number : Nat} (positive : 0 < number) (fits : number < u32Bound) :
    Term (Nat.toDigits 10 number) number :=
  ⟨reads_print positive fits, positive⟩

theorem terms_print {a b : Nat} (widthPos : 0 < a) (heightPos : 0 < b) (widthFits : a < u32Bound)
    (heightFits : b < u32Bound) : terms ⟨printPair ':' a b⟩ = (a, b) := by
  have found : SizeMatches ':' (printPair ':' a b) _ _ :=
    printPair_matches widthPos heightPos widthFits heightFits
  have first := parseU32_iff.mpr (reads_print widthPos widthFits)
  have second := parseU32_iff.mpr (reads_print heightPos heightFits)
  rw [terms, found.split (by decide)]
  simp [first, second]

/-- What a text of two terms becomes: the reduced ratio, that reads as itself. -/
theorem fromStr_reduced {text : String} {ratio : AspectRatioText}
    (read : fromStr text = .ok ratio) :
    ∃ width height a b c d, text.toList = width ++ ':' :: height ∧ Term width a ∧ Term height b ∧
      Reduced a b c d ∧ ratio.terms = (c, d) ∧ fromStr ratio.text = .ok ratio := by
  obtain ⟨width, height, a, b, whole, first, second, rfl⟩ := fromStr_iff.mp read
  have least := reduced a b first.2 second.2
  have widthFits := Nat.lt_of_le_of_lt least.widthLe first.1.fits
  have heightFits := Nat.lt_of_le_of_lt least.heightLe second.1.fits
  refine ⟨width, height, a, b, _, _, whole, first, second, least,
    terms_print least.widthPos least.heightPos widthFits heightFits, ?_⟩
  refine fromStr_iff.mpr ⟨_, _, _, _, String.toList_ofList,
    term_print least.widthPos widthFits, term_print least.heightPos heightFits, ?_⟩
  rw [gcd_eq (a / gcd a b), least.coprime, Nat.div_one, Nat.div_one]

end AspectRatioText

/-! ## The published grammars -/

/-- `ImageSize::from_str` on one text. -/
structure SizeExact (text : String) : Prop where
  accepts : (∃ size, ImageSizeText.fromStr text = .ok size) ↔
    text = "auto" ∨ ∃ width height, SizeMatches 'x' text width height
  automatic : text = "auto" → ∀ size, ImageSizeText.fromStr text = .ok size → size.dimensions = none
  dimensions : ∀ width height, SizeMatches 'x' text width height → ∀ size,
    ImageSizeText.fromStr text = .ok size → size.dimensions = some (value width, value height)
  roundTrip : ∀ size, ImageSizeText.fromStr text = .ok size →
    ImageSizeText.fromStr size.text = .ok size
  canonical : ∀ size text' size', ImageSizeText.fromStr text = .ok size →
    ImageSizeText.fromStr text' = .ok size' → size.dimensions = size'.dimensions → size = size'

/-- `AspectRatio::from_str` on one text. -/
structure RatioExact (text : String) : Prop where
  accepts : (∃ ratio, AspectRatioText.fromStr text = .ok ratio) ↔
    ∃ width height, SizeMatches ':' text width height
  reduced : ∀ width height, SizeMatches ':' text width height → ∀ ratio,
    AspectRatioText.fromStr text = .ok ratio →
      Nat.gcd ratio.terms.1 ratio.terms.2 = 1 ∧
        ratio.terms.1 * value height = ratio.terms.2 * value width
  roundTrip : ∀ ratio, AspectRatioText.fromStr text = .ok ratio →
    AspectRatioText.fromStr ratio.text = .ok ratio

/-- Two terms of which one begins with a plus or with a zero. -/
def Padded (text : String) : Prop :=
  ∃ width height a b, text.toList = width ++ ':' :: height ∧ AspectRatioText.Term width a ∧
    AspectRatioText.Term height b ∧
    (width.head? = some '+' ∨ width.head? = some '0' ∨ height.head? = some '+' ∨
      height.head? = some '0')

theorem size_exact (text : String) : SizeExact text where
  accepts := by
    constructor
    · rintro ⟨size, read⟩
      exact (ImageSizeText.fromStr_iff.mp read).2
    · intro shape
      exact ⟨⟨text⟩, ImageSizeText.fromStr_iff.mpr ⟨rfl, shape⟩⟩
  automatic := by
    rintro rfl size read
    obtain ⟨same, -⟩ := ImageSizeText.fromStr_iff.mp read
    cases size
    cases same
    exact ImageSizeText.dimensions_auto
  dimensions := by
    intro width height found size read
    obtain ⟨same, -⟩ := ImageSizeText.fromStr_iff.mp read
    cases size
    cases same
    exact ImageSizeText.dimensions_matches found
  roundTrip := by
    intro size read
    obtain ⟨same, shape⟩ := ImageSizeText.fromStr_iff.mp read
    exact ImageSizeText.fromStr_iff.mpr ⟨rfl, same ▸ shape⟩
  canonical := by
    intro size text' size' read read' same
    obtain ⟨rfl, shape⟩ := ImageSizeText.fromStr_iff.mp read
    obtain ⟨rfl, shape'⟩ := ImageSizeText.fromStr_iff.mp read'
    obtain ⟨first⟩ := size
    obtain ⟨second⟩ := size'
    rcases shape with rfl | ⟨width, height, found⟩
    · rcases shape' with rfl | ⟨width', height', found'⟩
      · rfl
      · rw [ImageSizeText.dimensions_matches found'] at same
        cases same
    · rw [ImageSizeText.dimensions_matches found] at same
      rcases shape' with rfl | ⟨width', height', found'⟩
      · cases same
      · rw [ImageSizeText.dimensions_matches found'] at same
        obtain ⟨widths, heights⟩ := Prod.mk.inj (Option.some.inj same)
        have texts : first = second := calc
          first = printPair 'x' (value width) (value height) := (SizeMatches.print found).symm
          _ = printPair 'x' (value width') (value height') := by rw [widths, heights]
          _ = second := SizeMatches.print found'
        rw [texts]

theorem term_numeral {text : List Char} {number : Nat} (term : AspectRatioText.Term text number)
    (noPlus : text.head? ≠ some '+') (noZero : text.head? ≠ some '0') :
    Numeral text ∧ value text = number := by
  have plain := unsigned_of_head noPlus
  have nonempty := term.1.nonempty
  have digits := term.1.digits
  have spells := term.1.spells
  rw [plain] at nonempty digits spells
  exact ⟨⟨nonempty, digits, noZero⟩, spells⟩

theorem numeral_term {text : List Char} (numeral : Numeral text) (fits : value text < u32Bound) :
    AspectRatioText.Term text (value text) :=
  ⟨numeral_reads numeral fits, numeral_positive numeral⟩

theorem numeral_plain {text : List Char} (numeral : Numeral text) :
    text.head? ≠ some '+' ∧ text.head? ≠ some '0' := by
  refine ⟨fun plus => ?_, numeral.positive⟩
  exact absurd (numeral.digits '+' (List.mem_of_mem_head? plus)) (by decide)

/-- Two ways to split one text at its first colon. -/
theorem split_unique {text : String} {width height width' height' : List Char} {a : Nat}
    (whole : text.toList = width ++ ':' :: height) (term : AspectRatioText.Term width a)
    (found : SizeMatches ':' text width' height') : width = width' ∧ height = height' := by
  have first := splitOnce_iff.mpr ⟨whole, AspectRatioText.term_free term⟩
  have same := Option.some.inj (first.symm.trans (found.split (by decide)))
  exact ⟨congrArg Prod.fst same, congrArg Prod.snd same⟩

theorem matches_accepted {text : String} {width height : List Char}
    (found : SizeMatches ':' text width height) :
    ∃ ratio, AspectRatioText.fromStr text = .ok ratio :=
  ⟨_, AspectRatioText.fromStr_iff.mpr ⟨width, height, _, _, found.whole,
    numeral_term found.first found.widthFits, numeral_term found.second found.heightFits, rfl⟩⟩

theorem accepted_matches {text : String} {ratio : AspectRatioText} (clear : ¬ Padded text)
    (read : AspectRatioText.fromStr text = .ok ratio) :
    ∃ width height, SizeMatches ':' text width height := by
  obtain ⟨width, height, a, b, whole, first, second, -⟩ := AspectRatioText.fromStr_iff.mp read
  have plain : ¬ (width.head? = some '+' ∨ width.head? = some '0' ∨ height.head? = some '+' ∨
      height.head? = some '0') :=
    fun padding => clear ⟨width, height, a, b, whole, first, second, padding⟩
  simp only [not_or] at plain
  obtain ⟨widthNumeral, widthSpells⟩ := term_numeral first plain.1 plain.2.1
  obtain ⟨heightNumeral, heightSpells⟩ := term_numeral second plain.2.2.1 plain.2.2.2
  exact ⟨width, height, whole, widthNumeral, heightNumeral, widthSpells.symm ▸ first.1.fits,
    heightSpells.symm ▸ second.1.fits⟩

theorem ratio_exact_iff (text : String) : RatioExact text ↔ ¬ Padded text := by
  constructor
  · rintro exact ⟨width, height, a, b, whole, first, second, padding⟩
    have accepted : ∃ ratio, AspectRatioText.fromStr text = .ok ratio :=
      ⟨_, AspectRatioText.fromStr_iff.mpr ⟨width, height, a, b, whole, first, second, rfl⟩⟩
    obtain ⟨width', height', found⟩ := exact.accepts.mp accepted
    obtain ⟨rfl, rfl⟩ := split_unique whole first found
    have widthPlain := numeral_plain found.first
    have heightPlain := numeral_plain found.second
    rcases padding with plus | zero | plus | zero
    · exact widthPlain.1 plus
    · exact widthPlain.2 zero
    · exact heightPlain.1 plus
    · exact heightPlain.2 zero
  · intro clear
    constructor
    · constructor
      · rintro ⟨ratio, read⟩
        exact accepted_matches clear read
      · rintro ⟨width, height, found⟩
        exact matches_accepted found
    · intro width height found ratio read
      obtain ⟨width', height', a, b, c, d, whole, first, second, least, terms, -⟩ :=
        AspectRatioText.fromStr_reduced read
      obtain ⟨rfl, rfl⟩ := split_unique whole first found
      have widthSpells := (term_numeral first (numeral_plain found.first).1 found.first.positive).2
      have heightSpells :=
        (term_numeral second (numeral_plain found.second).1 found.second.positive).2
      rw [terms, widthSpells, heightSpells]
      exact ⟨least.coprime, least.same⟩
    · intro ratio read
      obtain ⟨-, -, -, -, -, -, -, -, -, -, -, again⟩ := AspectRatioText.fromStr_reduced read
      exact again

/-! ## The values behind the texts -/

/-- A size that was read prints as a size of the model does, and has its dimensions. -/
theorem ImageSizeText.refines {text : String} {size : ImageSizeText}
    (read : fromStr text = .ok size) :
    ∃ value : ImageSize, size.text = value.asStr ∧ size.dimensions = value.dimensions := by
  obtain ⟨same, shape⟩ := fromStr_iff.mp read
  cases size
  cases same
  rcases shape with rfl | ⟨width, height, found⟩
  · exact ⟨.auto, rfl, dimensions_auto⟩
  · refine ⟨.exact (value width) (value height) (numeral_positive found.first)
      (numeral_positive found.second), ?_, dimensions_matches found⟩
    exact (SizeMatches.print found).symm.trans (printPair_append _ _).1.symm

/-- So does an aspect ratio. -/
theorem AspectRatioText.refines {text : String} {ratio : AspectRatioText}
    (read : fromStr text = .ok ratio) :
    ∃ value : AspectRatio, ratio.text = value.asStr ∧ ratio.terms = (value.width, value.height) := by
  obtain ⟨width, height, a, b, whole, first, second, rfl⟩ := fromStr_iff.mp read
  have least := reduced a b first.2 second.2
  refine ⟨⟨a / gcd a b, b / gcd a b, least.widthPos, least.heightPos, least.coprime⟩,
    (printPair_append _ _).2.symm, ?_⟩
  exact terms_print least.widthPos least.heightPos
    (Nat.lt_of_le_of_lt least.widthLe first.1.fits) (Nat.lt_of_le_of_lt least.heightLe second.1.fits)

/-! ## Both parsers -/

/-- Both parsers accept exactly what their schemas publish where no term is padded. -/
theorem parsers_exact_iff (text : String) : SizeExact text ∧ RatioExact text ↔ ¬ Padded text := by
  rw [ratio_exact_iff]
  exact and_iff_right (size_exact text)

/-- A plus and a zero before the terms are taken for `16:9`. -/
theorem padded_ratio_accepted :
    (∃ ratio, AspectRatioText.fromStr "+16:09" = .ok ratio) ∧
      ¬ ∃ width height, SizeMatches ':' "+16:09" width height := by
  have padded : Padded "+16:09" := by
    refine ⟨"+16".toList, "09".toList, 16, 9, by decide, ?_, ?_, Or.inl (by decide)⟩
    · exact ⟨parseU32_iff.mp (by decide), by decide⟩
    · exact ⟨parseU32_iff.mp (by decide), by decide⟩
  obtain ⟨width, height, a, b, whole, first, second, padding⟩ := padded
  refine ⟨⟨_, AspectRatioText.fromStr_iff.mpr ⟨width, height, a, b, whole, first, second, rfl⟩⟩, ?_⟩
  rintro ⟨width', height', found⟩
  have head : ("+16:09".toList).head? = some '+' := by decide
  rw [found.whole] at head
  have plain := (numeral_plain found.first).1
  cases width' with
  | nil => exact found.first.nonempty rfl
  | cons c rest => exact plain head

end ImagegenBridge
