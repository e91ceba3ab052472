import ImagegenBridge.Core.Validation
import ImagegenBridge.Lib.Files
import Mathlib.Tactic.SplitIfs

/-!
# Artifact names, `crates/artifacts/src/store.rs`

What the store accepts as a name below its root, and the names it derives from it.
-/

namespace ImagegenBridge.ArtifactStore

open Text Validation

/-- `text.rsplit_once(separator)`. -/
def rsplitOnce (separator : Char) : List Char → Option (List Char × List Char)
  | [] => none
  | c :: rest =>
    match rsplitOnce separator rest with
    | some (before, after) => some (c :: before, after)
    | none => if c = separator then some ([], rest) else none

/-- One component of a safe relative path. Its characters are ASCII ones, so that their
number is its length. -/
def safeComponent (component : List Char) : Bool :=
  !component.isEmpty && component != ['.'] && component != ['.', '.']
    && decide (component.length ≤ 160) && component.head? != some '.'
    && component.all isPortable

def safeRelative (value : String) : Bool :=
  !value.isEmpty && decide (len value ≤ 512) && (splitOn '/' value.toList).all safeComponent

/-- `safe_filename` is `valid_output_filename` again. -/
def safeFilename (value : String) (format : OutputFormat) : Bool := validOutputFilename value format

/-- The extension the store gives to an image. -/
def extension : OutputFormat → String
  | .png => "png"
  | .jpeg => "jpg"
  | .webp => "webp"

/-- The file name has one component and no leading dot. -/
def filenameWithExtension (filename : String) (format : OutputFormat) : String :=
  if (extension? filename.toList).isSome then filename else filename ++ "." ++ extension format

def suffixedFilename (filename : String) (suffix : Nat) : String :=
  match rsplitOnce '.' filename.toList with
  | none => filename ++ "-" ++ toString suffix
  | some (stem, ending) =>
    String.ofList stem ++ "-" ++ toString suffix ++ "." ++ String.ofList ending

def sanitizeCharacter (c : Char) : Option Char :=
  if isAsciiAlphanumeric c || c == '-' || c == '_' then some (toAsciiLowercase c)
  else if isWhitespace c then some '-'
  else none

/-- `text.trim_matches('-')`. -/
def trimDashes (text : List Char) : List Char :=
  ((text.dropWhile (· == '-')).reverse.dropWhile (· == '-')).reverse

def sanitizePrefix (value : String) : String :=
  let sanitized := trimDashes ((value.toList.filterMap sanitizeCharacter).take 64)
  if sanitized.isEmpty then "image" else String.ofList sanitized

/-- `Path::new(name).parent()`, unless it is empty. -/
def parentName (name : String) : Option String :=
  (rsplitOnce '/' name.toList).map fun split => String.ofList split.1

/-- The name of a file in a directory, or in the root. -/
def placedName (directory : Option String) (filename : String) : String :=
  match directory with
  | none => filename
  | some directory => directory ++ "/" ++ filename

def relativePath (name : String) : Files.Path := (splitOn '/' name.toList).map String.ofList

/-! ## Identifiers -/

def isHyphenated (text : List Char) : Bool :=
  text.length == 36 && text.zipIdx.all fun (c, index) =>
    if index ∈ [8, 13, 18, 23] then c == '-' else isAsciiHexdigit c

/-- `Uuid::parse_str(text).is_ok()`: a simple, hyphenated, URN or braced UUID. -/
def parsesAsUuid (text : String) : Bool :=
  let chars := text.toList
  (chars.length == 32 && chars.all isAsciiHexdigit)
    || isHyphenated chars
    || (chars.head? == some '{' && chars.getLast? == some '}' && isHyphenated chars.tail.dropLast)
    || (startsWith chars "urn:uuid:".toList && isHyphenated (chars.drop 9))

/-- `Uuid::now_v7().to_string()`. -/
structure Uuid where
  text : String
  hyphenated : isHyphenated text.toList = true

/-! ## Splitting -/

theorem splitOn_ne_nil (separator : Char) (text : List Char) : splitOn separator text ≠ [] := by
  cases text with
  | nil => simp [splitOn]
  | cons c rest =>
    unfold splitOn
    split_ifs
    · simp
    · split <;> simp

theorem splitOn_free {separator : Char} {text : List Char} (free : separator ∉ text) :
    splitOn separator text = [text] := by
  induction text with
  | nil => rfl
  | cons c rest ih =>
    rw [List.mem_cons, not_or] at free
    rw [splitOn, if_neg (Ne.symm free.1), ih free.2]

theorem splitOn_append (separator : Char) (before after : List Char) :
    splitOn separator (before ++ separator :: after) =
      splitOn separator before ++ splitOn separator after := by
  induction before with
  | nil => simp [splitOn]
  | cons c rest ih =>
    rw [List.cons_append]
    by_cases same : c = separator
    · rw [splitOn, if_pos same, ih, splitOn, if_pos same, List.cons_append]
    · rw [splitOn, if_neg same, ih, splitOn, if_neg same]
      cases first : splitOn separator rest with
      | nil => exact absurd first (splitOn_ne_nil separator rest)
      | cons head others => rfl

theorem rsplitOnce_none {separator : Char} {text : List Char} :
    rsplitOnce separator text = none ↔ separator ∉ text := by
  induction text with
  | nil => simp [rsplitOnce]
  | cons c rest ih =>
    unfold rsplitOnce
    cases later : rsplitOnce separator rest with
    | some split =>
      have present : separator ∈ rest := by
        by_contra absent
        rw [ih.mpr absent] at later
        cases later
      simp [present]
    | none =>
      have absent := ih.mp later
      by_cases same : c = separator
      · simp [same]
      · simp [same, absent, Ne.symm same]

theorem rsplitOnce_append {separator : Char} (before : List Char) {after : List Char}
    (free : separator ∉ after) :
    rsplitOnce separator (before ++ separator :: after) = some (before, after) := by
  induction before with
  | nil =>
    rw [List.nil_append, rsplitOnce, rsplitOnce_none.mpr free]
    exact if_pos rfl
  | cons c rest ih => rw [List.cons_append, rsplitOnce, ih]

theorem rsplitOnce_some {separator : Char} {text before after : List Char}
    (split : rsplitOnce separator text = some (before, after)) :
    text = before ++ separator :: after ∧ separator ∉ after := by
  induction text generalizing before with
  | nil => cases split
  | cons c rest ih =>
    unfold rsplitOnce at split
    cases later : rsplitOnce separator rest with
    | some found =>
      rw [later] at split
      cases split
      obtain ⟨same, free⟩ := ih later
      exact ⟨by rw [same, List.cons_append], free⟩
    | none =>
      rw [later] at split
      by_cases same : c = separator
      · rw [if_pos same] at split
        cases split
        exact ⟨by rw [same, List.nil_append], rsplitOnce_none.mp later⟩
      · rw [if_neg same] at split
        cases split

/-! ## Plain names -/

/-- A name of one portable component, of any length. -/
structure PlainName (name : List Char) : Prop where
  occupied : name ≠ []
  undotted : name.head? ≠ some '.'
  portable : ∀ c ∈ name, isPortable c = true

theorem PlainName.free {name : List Char} (plain : PlainName name) : '/' ∉ name := by
  intro present
  have impossible := plain.portable '/' present
  revert impossible
  decide

theorem safeComponent_iff {component : List Char} :
    safeComponent component = true ↔ PlainName component ∧ component.length ≤ 160 := by
  simp only [safeComponent, Bool.and_eq_true, Bool.not_eq_true', List.isEmpty_eq_false_iff,
    bne_iff_ne, decide_eq_true_eq, List.all_eq_true]
  constructor
  · rintro ⟨⟨⟨⟨⟨occupied, _⟩, _⟩, short⟩, undotted⟩, portable⟩
    exact ⟨⟨occupied, undotted, portable⟩, short⟩
  · rintro ⟨⟨occupied, undotted, portable⟩, short⟩
    refine ⟨⟨⟨⟨⟨occupied, ?_⟩, ?_⟩, short⟩, undotted⟩, portable⟩
    · rintro rfl
      exact undotted rfl
    · rintro rfl
      exact undotted rfl

theorem safeRelative_iff {value : String} : safeRelative value = true ↔
    len value ≤ 512 ∧
      ∀ component ∈ splitOn '/' value.toList, PlainName component ∧ component.length ≤ 160 := by
  simp only [safeRelative, Bool.and_eq_true, Bool.not_eq_true', decide_eq_true_eq,
    List.all_eq_true, safeComponent_iff]
  constructor
  · rintro ⟨⟨_, short⟩, safe⟩
    exact ⟨short, safe⟩
  · rintro ⟨short, safe⟩
    refine ⟨⟨?_, short⟩, safe⟩
    rw [← Bool.not_eq_true, String.isEmpty_iff]
    rintro rfl
    exact (safe [] (by simp [splitOn])).1.occupied rfl

/-- The path of a directory, which is the root if there is no name. -/
def directoryPath (directory : Option String) : Files.Path := directory.elim [] relativePath

/-- A directory the store accepts. -/
def SafeDirectory (directory : Option String) : Prop :=
  ∀ name, directory = some name → safeRelative name = true

theorem placedName_safe {directory : Option String} {filename : String}
    (safe : SafeDirectory directory) (plain : PlainName filename.toList) :
    safeRelative (placedName directory filename) = true ↔
      filename.toList.length ≤ 160 ∧ len (placedName directory filename) ≤ 512 := by
  rw [safeRelative_iff, and_comm]
  apply and_congr_left'
  cases directory with
  | none =>
    rw [placedName, splitOn_free plain.free]
    simp [plain]
  | some name =>
    have parts := (safeRelative_iff.mp (safe name rfl)).2
    have whole : (placedName (some name) filename).toList =
        name.toList ++ '/' :: filename.toList := by
      simp [placedName]
    rw [whole, splitOn_append, splitOn_free plain.free]
    constructor
    · intro every
      exact (every filename.toList (by simp)).2
    · intro short component among
      rcases List.mem_append.mp among with before | last
      · exact parts component before
      · rw [List.mem_singleton.mp last]
        exact ⟨plain, short⟩

theorem relativePath_joined (directory : Option String) {filename : String}
    (free : '/' ∉ filename.toList) :
    relativePath (placedName directory filename) = directoryPath directory ++ [filename] := by
  unfold relativePath
  cases directory with
  | none =>
    rw [placedName, splitOn_free free]
    simp [directoryPath]
  | some name =>
    have whole : (placedName (some name) filename).toList =
        name.toList ++ '/' :: filename.toList := by
      simp [placedName]
    rw [whole, splitOn_append, splitOn_free free]
    simp [directoryPath, relativePath]

theorem relativePath_placed (directory : Option String) {filename : String}
    (plain : PlainName filename.toList) :
    relativePath (placedName directory filename) = directoryPath directory ++ [filename] :=
  relativePath_joined directory plain.free

theorem parentName_placed (directory : Option String) {filename : String}
    (plain : PlainName filename.toList) :
    parentName (placedName directory filename) = directory := by
  unfold parentName
  cases directory with
  | none => rw [placedName, rsplitOnce_none.mpr plain.free, Option.map_none]
  | some name =>
    have whole : (placedName (some name) filename).toList =
        name.toList ++ '/' :: filename.toList := by
      simp [placedName]
    rw [whole, rsplitOnce_append _ plain.free]
    simp

/-! ## The names the store derives -/

theorem isPortable_digit {c : Char} (digit : c.isDigit = true) : isPortable c = true := by
  simp only [Char.isDigit, Bool.and_eq_true, decide_eq_true_eq, ge_iff_le,
    UInt32.le_iff_toNat_le] at digit
  have low : 48 ≤ c.toNat := digit.1
  have high : c.toNat ≤ 57 := digit.2
  simp only [isPortable, isAsciiAlphanumeric, Bool.or_eq_true, Bool.and_eq_true,
    decide_eq_true_eq]
  omega

theorem portable_number (number : Nat) : ∀ c ∈ (toString number).toList, isPortable c = true := by
  intro c among
  rw [Nat.toString_eq_ofList_toDigits, String.toList_ofList] at among
  exact isPortable_digit (Nat.isDigit_of_mem_toDigits (by decide) (by decide) among)

/-- A plain name stays plain when portable characters follow it. -/
theorem PlainName.append {name rest : List Char} (plain : PlainName name)
    (portable : ∀ c ∈ rest, isPortable c = true) : PlainName (name ++ rest) := by
  refine ⟨by simp [plain.occupied], ?_, ?_⟩
  · rw [List.head?_append_of_ne_nil _ plain.occupied]
    exact plain.undotted
  · intro c among
    rcases List.mem_append.mp among with first | later
    · exact plain.portable c first
    · exact portable c later

theorem portable_extension (format : OutputFormat) :
    ∀ c ∈ ('.' :: (extension format).toList), isPortable c = true := by
  cases format <;> exact List.all_eq_true.mp (by decide)

theorem plain_extended {filename : String} (plain : PlainName filename.toList)
    (format : OutputFormat) : PlainName (filenameWithExtension filename format).toList := by
  unfold filenameWithExtension
  split_ifs
  · exact plain
  · have ending := plain.append (portable_extension format)
    simpa using ending

theorem plain_suffixed {filename : String} (plain : PlainName filename.toList) (suffix : Nat) :
    PlainName (suffixedFilename filename suffix).toList := by
  have dash : isPortable '-' = true := by decide
  have dot : isPortable '.' = true := by decide
  unfold suffixedFilename
  cases split : rsplitOnce '.' filename.toList with
  | none =>
    have suffixed : PlainName (filename.toList ++ '-' :: (toString suffix).toList) := by
      apply plain.append
      simpa [dash] using portable_number suffix
    simpa using suffixed
  | some parts =>
    obtain ⟨stem, ending⟩ := parts
    obtain ⟨whole, _⟩ := rsplitOnce_some split
    rw [whole] at plain
    have stemmed : PlainName stem := by
      refine ⟨?_, ?_, fun c among => plain.portable c (by simp [among])⟩
      · rintro rfl
        exact plain.undotted rfl
      · intro dotted
        apply plain.undotted
        rw [List.head?_append, dotted]
        rfl
    have suffixed : PlainName (stem ++ ('-' :: (toString suffix).toList ++ '.' :: ending)) := by
      apply stemmed.append
      intro c among
      simp only [List.cons_append, List.mem_cons, List.mem_append] at among
      rcases among with rfl | digit | rfl | last
      · exact dash
      · exact portable_number suffix c digit
      · exact dot
      · exact plain.portable c (by simp [last])
    simpa using suffixed

theorem plain_safe {filename : String} {format : OutputFormat}
    (safe : safeFilename filename format = true) : PlainName filename.toList := by
  unfold safeFilename validOutputFilename at safe
  split at safe
  · cases safe
  · rename_i fine
    simp only [Bool.or_eq_true, not_or, Bool.not_eq_true, Bool.not_eq_false', beq_iff_eq,
      List.all_eq_true] at fine
    obtain ⟨⟨⟨⟨occupied, _⟩, undotted⟩, _⟩, portable⟩ := fine
    refine ⟨?_, undotted, portable⟩
    intro none
    rw [String.toList_eq_nil_iff] at none
    rw [none] at occupied
    cases occupied

/-- A portable character that is no dot. -/
def Inner (c : Char) : Prop := isPortable c = true ∧ c ≠ '.'

theorem inner_lowercase {c : Char} (alphanumeric : isAsciiAlphanumeric c = true) :
    Inner (toAsciiLowercase c) := by
  have known : isAsciiAlphanumeric (toAsciiLowercase c) = true := by
    unfold toAsciiLowercase
    split_ifs with upper
    · have letters : ∀ k < 26, isAsciiAlphanumeric (Char.ofNat (0x41 + k + 0x20)) = true := by
        decide
      have letter := letters (c.toNat - 0x41) (by omega)
      rwa [Nat.add_sub_cancel' upper.1] at letter
    · exact alphanumeric
  refine ⟨by simp [isPortable, known], ?_⟩
  intro dot
  rw [dot] at known
  revert known
  decide

theorem inner_hex {c : Char} (hex : isAsciiHexdigit c = true) : Inner c := by
  constructor
  · simp only [isAsciiHexdigit, Bool.or_eq_true, Bool.and_eq_true, decide_eq_true_eq] at hex
    simp only [isPortable, isAsciiAlphanumeric, Bool.or_eq_true, Bool.and_eq_true,
      decide_eq_true_eq]
    omega
  · rintro rfl
    revert hex
    decide

theorem inner_dash : Inner '-' := by
  constructor <;> decide

theorem sanitizeCharacter_inner {c d : Char} (kept : sanitizeCharacter c = some d) : Inner d := by
  unfold sanitizeCharacter at kept
  split_ifs at kept with named blank
  · cases kept
    by_cases alphanumeric : isAsciiAlphanumeric c = true
    · exact inner_lowercase alphanumeric
    · simp only [alphanumeric, Bool.false_or, Bool.or_eq_true, beq_iff_eq] at named
      rcases named with rfl | rfl
      · exact inner_dash
      · constructor <;> decide
  · cases kept
    exact inner_dash

theorem trimDashes_sublist (text : List Char) : (trimDashes text).Sublist text := by
  unfold trimDashes
  rw [← List.reverse_sublist, List.reverse_reverse]
  apply (List.dropWhile_sublist _).trans
  rw [List.reverse_sublist]
  exact List.dropWhile_sublist _

theorem sanitizePrefix_inner (value : String) : (sanitizePrefix value).toList ≠ [] ∧
    (sanitizePrefix value).toList.length ≤ 64 ∧ ∀ c ∈ (sanitizePrefix value).toList, Inner c := by
  unfold sanitizePrefix
  dsimp only
  split_ifs with blank
  · refine ⟨by decide, by decide, ?_⟩
    intro c among
    have letter : c ∈ ['i', 'm', 'a', 'g', 'e'] := among
    simp only [List.mem_cons, List.not_mem_nil, or_false] at letter
    rcases letter with rfl | rfl | rfl | rfl | rfl <;> constructor <;> decide
  · rw [String.toList_ofList]
    have part := trimDashes_sublist ((value.toList.filterMap sanitizeCharacter).take 64)
    refine ⟨by simpa using blank, ?_, ?_⟩
    · apply part.length_le.trans
      rw [List.length_take]
      omega
    · intro c among
      have kept := List.mem_of_mem_take (part.subset among)
      obtain ⟨source, _, kept⟩ := List.mem_filterMap.mp kept
      exact sanitizeCharacter_inner kept

theorem hyphenated_inner {text : List Char} (hyphenated : isHyphenated text = true) :
    text.length = 36 ∧ ∀ c ∈ text, Inner c := by
  simp only [isHyphenated, Bool.and_eq_true, beq_iff_eq, List.all_eq_true] at hyphenated
  obtain ⟨long, each⟩ := hyphenated
  refine ⟨long, ?_⟩
  intro c among
  obtain ⟨index, here, same⟩ := List.getElem_of_mem among
  have found := each (c, index) (by
    rw [List.mem_zipIdx_iff_getElem?, List.getElem?_eq_getElem here, same])
  simp only at found
  split_ifs at found
  · rw [beq_iff_eq.mp found]
    exact inner_dash
  · exact inner_hex found

theorem Uuid.inner (id : Uuid) : id.text.toList.length = 36 ∧ ∀ c ∈ id.text.toList, Inner c :=
  hyphenated_inner id.hyphenated

theorem plain_inner {name : List Char} (occupied : name ≠ []) (inner : ∀ c ∈ name, Inner c) :
    PlainName name := by
  refine ⟨occupied, ?_, fun c among => (inner c among).1⟩
  intro dotted
  exact (inner '.' (List.mem_of_mem_head? dotted)).2 rfl

/-- The name of an image that has none. -/
def generatedName (namePrefix : Option String) (id : Uuid) (format : OutputFormat) : String :=
  sanitizePrefix (namePrefix.getD "image") ++ "-" ++ id.text ++ "." ++ extension format

theorem generatedName_toList (namePrefix : Option String) (id : Uuid) (format : OutputFormat) :
    (generatedName namePrefix id format).toList =
      (sanitizePrefix (namePrefix.getD "image")).toList ++
        ('-' :: id.text.toList ++ '.' :: (extension format).toList) := by
  simp [generatedName]

theorem plain_generated (namePrefix : Option String) (id : Uuid) (format : OutputFormat) :
    PlainName (generatedName namePrefix id format).toList := by
  obtain ⟨occupied, _, inner⟩ := sanitizePrefix_inner (namePrefix.getD "image")
  rw [generatedName_toList]
  apply (plain_inner occupied inner).append
  intro c among
  simp only [List.cons_append, List.mem_cons, List.mem_append] at among
  rcases among with rfl | identifier | ending
  · exact inner_dash.1
  · exact (id.inner.2 c identifier).1
  · exact portable_extension format c (by simpa using ending)

/-- A generated name is never too long. -/
theorem generatedName_short (namePrefix : Option String) (id : Uuid) (format : OutputFormat) :
    (generatedName namePrefix id format).toList.length ≤ 160 := by
  obtain ⟨_, short, _⟩ := sanitizePrefix_inner (namePrefix.getD "image")
  have ending : (extension format).toList.length ≤ 4 := by cases format <;> decide
  rw [generatedName_toList]
  simp only [List.length_append, List.length_cons, id.inner.1]
  omega

/-! ## Image names -/

/-- A name with an extension that is not that of a sidecar. -/
def ImageName (name : List Char) : Prop :=
  ∃ stem ending, name = stem ++ '.' :: ending ∧ '.' ∉ ending ∧ ending ≠ "json".toList

theorem extension_plain (format : OutputFormat) :
    '.' ∉ (extension format).toList ∧ (extension format).toList ≠ "json".toList := by
  cases format <;> decide

theorem extension?_some {name stem ending : List Char} (split : name = stem ++ '.' :: ending)
    (free : '.' ∉ ending) : extension? name = some ending := by
  have dotted : name.contains '.' = true := by
    rw [split]
    simp
  rw [extension?, if_pos dotted, split, splitOn_append, splitOn_free free]
  simp

theorem extension?_none {name : List Char} : extension? name = none ↔ '.' ∉ name := by
  unfold extension?
  split_ifs with dotted
  · have last := List.getLast?_eq_none_iff.not.mpr (splitOn_ne_nil '.' name)
    simp_all
  · simpa using dotted

theorem safeFilename_image {filename : String} {format : OutputFormat} {ending : List Char}
    (safe : safeFilename filename format = true)
    (found : extension? filename.toList = some ending) : ending ≠ "json".toList := by
  rintro rfl
  unfold safeFilename validOutputFilename at safe
  rw [found] at safe
  split at safe
  · cases safe
  · cases format <;> exact absurd safe (by decide)

theorem image_extended {filename : String} {format : OutputFormat}
    (safe : safeFilename filename format = true) :
    ImageName (filenameWithExtension filename format).toList := by
  unfold filenameWithExtension
  cases split : rsplitOnce '.' filename.toList with
  | none =>
    have absent := extension?_none.mpr (rsplitOnce_none.mp split)
    rw [absent]
    refine ⟨filename.toList, (extension format).toList, by simp, extension_plain format⟩
  | some parts =>
    obtain ⟨stem, ending⟩ := parts
    obtain ⟨whole, free⟩ := rsplitOnce_some split
    have found := extension?_some whole free
    rw [found]
    exact ⟨stem, ending, whole, free, safeFilename_image safe found⟩

theorem image_suffixed {filename : String} (image : ImageName filename.toList) (suffix : Nat) :
    ImageName (suffixedFilename filename suffix).toList := by
  obtain ⟨stem, ending, whole, free, other⟩ := image
  unfold suffixedFilename
  rw [whole, rsplitOnce_append stem free]
  refine ⟨stem ++ '-' :: (toString suffix).toList, ending, by simp, free, other⟩

theorem image_generated (namePrefix : Option String) (id : Uuid) (format : OutputFormat) :
    ImageName (generatedName namePrefix id format).toList := by
  refine ⟨(sanitizePrefix (namePrefix.getD "image")).toList ++ '-' :: id.text.toList,
    (extension format).toList, ?_, extension_plain format⟩
  rw [generatedName_toList]
  simp

/-- An image stays one wherever it is placed. -/
theorem image_placed (directory : Option String) {filename : String}
    (image : ImageName filename.toList) (stem : List Char) :
    rsplitOnce '.' (placedName directory filename).toList ≠ some (stem, "json".toList) := by
  obtain ⟨start, ending, whole, free, other⟩ := image
  have placed : ∃ before, (placedName directory filename).toList = before ++ '.' :: ending := by
    cases directory with
    | none => exact ⟨start, whole⟩
    | some name => exact ⟨name.toList ++ '/' :: start, by simp [placedName, whole]⟩
  obtain ⟨before, placed⟩ := placed
  rw [placed, rsplitOnce_append before free]
  rintro ⟨⟩
  exact other rfl

/-! ## Lengths -/

theorem suffixedFilename_length (filename : String) {suffix : Nat} (few : suffix < 10 ^ 5) :
    (suffixedFilename filename suffix).toList.length ≤ filename.toList.length + 6 := by
  have digits : (toString suffix).toList.length ≤ 5 := by
    rw [Nat.toString_eq_ofList_toDigits, String.toList_ofList]
    exact (Nat.length_toDigits_le_iff (by decide) (by decide)).mpr few
  unfold suffixedFilename
  cases split : rsplitOnce '.' filename.toList with
  | none =>
    simp only [String.toList_append, List.length_append]
    have dash : "-".toList.length = 1 := by decide
    omega
  | some parts =>
    obtain ⟨stem, ending⟩ := parts
    obtain ⟨whole, _⟩ := rsplitOnce_some split
    have dash : "-".toList.length = 1 := by decide
    have dot : ".".toList.length = 1 := by decide
    rw [whole]
    simp only [String.toList_append, String.toList_ofList, List.length_append, List.length_cons]
    omega

theorem filenameWithExtension_length (filename : String) (format : OutputFormat) :
    (filenameWithExtension filename format).toList.length ≤ filename.toList.length + 5 := by
  have ending : ("." ++ extension format).toList.length ≤ 5 := by cases format <;> decide
  unfold filenameWithExtension
  split_ifs
  · omega
  · rw [String.append_assoc, String.toList_append, List.length_append]
    omega

/-- Every character is in some component, or separates two. -/
theorem mem_splitOn (separator : Char) {c : Char} {text : List Char} (among : c ∈ text) :
    c = separator ∨ ∃ component ∈ splitOn separator text, c ∈ component := by
  induction text with
  | nil => cases among
  | cons first rest ih =>
    unfold splitOn
    by_cases same : first = separator
    · rw [if_pos same]
      rcases List.mem_cons.mp among with rfl | later
      · exact .inl same
      · rcases ih later with here | ⟨component, part, inside⟩
        · exact .inl here
        · exact .inr ⟨component, List.mem_cons_of_mem _ part, inside⟩
    · rw [if_neg same]
      cases parts : splitOn separator rest with
      | nil => exact absurd parts (splitOn_ne_nil separator rest)
      | cons head others =>
        rcases List.mem_cons.mp among with rfl | later
        · exact .inr ⟨c :: head, List.mem_cons_self, List.mem_cons_self⟩
        · rcases ih later with here | ⟨component, part, inside⟩
          · exact .inl here
          · right
            rw [parts] at part
            rcases List.mem_cons.mp part with rfl | other
            · exact ⟨first :: component, List.mem_cons_self, List.mem_cons_of_mem _ inside⟩
            · exact ⟨component, List.mem_cons_of_mem _ other, inside⟩

theorem utf8Size_portable {c : Char} (portable : isPortable c = true) : c.utf8Size = 1 := by
  have small : c.toNat ≤ 0x7F := by
    simp only [isPortable, isAsciiAlphanumeric, Bool.or_eq_true, Bool.and_eq_true,
      decide_eq_true_eq, beq_iff_eq] at portable
    rcases portable with ((letters | rfl) | rfl) | rfl
    · omega
    · decide
    · decide
    · decide
  simp only [Char.utf8Size, UInt32.le_iff_toNat_le]
  exact if_pos small

end ImagegenBridge.ArtifactStore
