import Mathlib.Tactic.IntervalCases
import ImagegenBridge.Artifacts.Store

/-!
# Ownership records as bytes

A record the store writes always fits into a marker, and no two records have the same
bytes.
-/

namespace ImagegenBridge.ArtifactStore

open Text
open Jobs (escape quote bracket objectText encodeFields encodeJson)
open EmbeddedRecord (utf8 textBytes charBytes jsonBytes memberBytes membersBytes jsonBytes_object
  len_ofList len_objectText len_encodeFields length_encodeFields length_utf8)

/-! ## Sizes -/

/-- A character that takes one byte, also inside quotes. -/
def Narrow (c : Char) : Prop := charBytes c = 1 ∧ c.utf8Size = 1

theorem narrow_portable {c : Char} (portable : isPortable c = true) : Narrow c := by
  have one := utf8Size_portable portable
  have bounds : 0x2D ≤ c.toNat ∧ c.toNat ≠ 0x5C := by
    simp only [isPortable, isAsciiAlphanumeric, Bool.or_eq_true, Bool.and_eq_true,
      decide_eq_true_eq, beq_iff_eq] at portable
    rcases portable with ((letters | rfl) | rfl) | rfl
    · omega
    · decide
    · decide
    · decide
  refine ⟨?_, one⟩
  unfold charBytes
  rw [if_neg (by omega), if_neg (by omega), one]

theorem narrow_slash : Narrow '/' := by
  constructor <;> decide

theorem textBytes_narrow {text : String} (narrow : ∀ c ∈ text.toList, Narrow c) :
    textBytes text = 2 + text.toList.length := by
  have each : text.toList.map charBytes = text.toList.map fun _ => 1 :=
    List.map_congr_left fun c among => (narrow c among).1
  rw [textBytes, each]
  simp

theorem len_narrow {text : String} (narrow : ∀ c ∈ text.toList, Narrow c) :
    len text = text.toList.length := by
  have whole := len_ofList text.toList
  rw [String.ofList_toList] at whole
  have each : text.toList.map Char.utf8Size = text.toList.map fun _ => 1 :=
    List.map_congr_left fun c among => (narrow c among).2
  rw [whole, each]
  simp

theorem len_number {number digits : Nat} (bound : number < 10 ^ digits) (some : 0 < digits) :
    len (toString (number : Int)) ≤ digits := by
  have same : toString (number : Int) = String.ofList (Nat.toDigits 10 number) :=
    Nat.toString_eq_ofList_toDigits
  have narrow : ∀ c ∈ (String.ofList (Nat.toDigits 10 number)).toList, Narrow c := by
    intro c among
    rw [String.toList_ofList] at among
    exact narrow_portable (isPortable_digit
      (Nat.isDigit_of_mem_toDigits (by decide) (by decide) among))
  rw [same, len_narrow narrow, String.toList_ofList]
  exact (Nat.length_toDigits_le_iff (by decide) some).mpr bound

/-- A text of at most so many characters, all of them narrow. -/
def NarrowText (bound : Nat) (text : String) : Prop :=
  text.toList.length ≤ bound ∧ ∀ c ∈ text.toList, Narrow c

theorem NarrowText.bytes {bound : Nat} {text : String} (narrow : NarrowText bound text) :
    textBytes text ≤ 2 + bound := by
  have fits := narrow.1
  rw [textBytes_narrow narrow.2]
  omega

theorem digest_narrow {text : String} (digest : isDigest text = true) : NarrowText 64 text := by
  simp only [isDigest, Bool.and_eq_true, beq_iff_eq, List.all_eq_true] at digest
  have narrow : ∀ c ∈ text.toList, Narrow c :=
    fun c among => narrow_portable (inner_hex (digest.2 c among)).1
  refine ⟨?_, narrow⟩
  rw [← len_narrow narrow, digest.1]

theorem NarrowText.append {first later : Nat} {text rest : String} (narrow : NarrowText first text)
    (onward : NarrowText later rest) : NarrowText (first + later) (text ++ rest) := by
  rw [NarrowText, String.toList_append, List.length_append]
  refine ⟨Nat.add_le_add narrow.1 onward.1, ?_⟩
  intro c among
  rcases List.mem_append.mp among with before | after
  · exact narrow.2 c before
  · exact onward.2 c after

theorem NarrowText.weaken {bound larger : Nat} {text : String} (narrow : NarrowText bound text)
    (fits : bound ≤ larger) : NarrowText larger text := ⟨narrow.1.trans fits, narrow.2⟩

theorem safeRelative_narrow {value : String} (safe : safeRelative value = true) :
    NarrowText 512 value := by
  obtain ⟨fits, components⟩ := safeRelative_iff.mp safe
  have narrow : ∀ c ∈ value.toList, Narrow c := by
    intro c among
    rcases mem_splitOn '/' among with rfl | ⟨component, part, inside⟩
    · exact narrow_slash
    · exact narrow_portable ((components component part).1.portable c inside)
  rw [len_narrow narrow] at fits
  exact ⟨fits, narrow⟩

theorem slash_narrow : NarrowText 1 "/" := by
  refine ⟨by decide, ?_⟩
  intro c among
  have slash : c ∈ ['/'] := among
  rw [List.mem_singleton.mp slash]
  exact narrow_slash

theorem portable_narrow {text : String} (portable : ∀ c ∈ text.toList, isPortable c = true) :
    NarrowText text.toList.length text :=
  ⟨le_rfl, fun c among => narrow_portable (portable c among)⟩

/-- What an identifier is written with. -/
theorem parsesAsUuid_characters {id : String} (parses : parsesAsUuid id = true) :
    id.toList.length ≤ 45 ∧ ∀ c ∈ id.toList, Inner c ∨ c ∈ ['{', '}', ':'] := by
  simp only [parsesAsUuid, Bool.or_eq_true, Bool.and_eq_true, beq_iff_eq, List.all_eq_true] at parses
  rcases parses with ((⟨long, hex⟩ | hyphenated) | ⟨⟨opened, closed⟩, hyphenated⟩) | ⟨urn, hyphenated⟩
  · exact ⟨by omega, fun c among => .inl (inner_hex (hex c among))⟩
  · obtain ⟨long, inner⟩ := hyphenated_inner hyphenated
    exact ⟨by omega, fun c among => .inl (inner c among)⟩
  · obtain ⟨long, inner⟩ := hyphenated_inner hyphenated
    cases chars : id.toList with
    | nil =>
      rw [chars] at opened
      cases opened
    | cons first rest =>
      rw [chars] at opened closed long inner
      cases opened
      rw [List.tail_cons, List.length_dropLast] at long
      refine ⟨by rw [List.length_cons]; omega, ?_⟩
      intro c among
      rcases List.mem_cons.mp among with rfl | later
      · exact .inr (by simp)
      · have more : rest ≠ [] := by
          rintro rfl
          cases long
        rw [List.getLast?_cons_of_ne_nil more] at closed
        rw [← List.dropLast_append_getLast? _ closed] at later
        rcases List.mem_append.mp later with inside | last
        · exact .inl (inner c inside)
        · rw [List.mem_singleton.mp last]
          exact .inr (by simp)
  · obtain ⟨long, inner⟩ := hyphenated_inner hyphenated
    obtain ⟨rest, same⟩ := List.isPrefixOf_iff_prefix.mp urn
    rw [← same] at long inner
    have opening : "urn:uuid:".toList.length = 9 := by decide
    rw [List.drop_append_of_le_length (by decide)] at long inner
    have none : List.drop 9 "urn:uuid:".toList = [] := by decide
    rw [none, List.nil_append] at long inner
    refine ⟨by rw [← same, List.length_append, opening]; omega, ?_⟩
    rw [← same]
    intro c among
    rcases List.mem_append.mp among with start | inside
    · have each : ∀ c ∈ "urn:uuid:".toList,
          (isPortable c && c != '.' || ['{', '}', ':'].contains c) = true :=
        List.all_eq_true.mp (by decide)
      have here := each c start
      rw [Bool.or_eq_true, Bool.and_eq_true, bne_iff_ne, List.contains_iff_mem] at here
      exact here
    · exact .inl (inner c inside)

theorem parsesAsUuid_narrow {id : String} (parses : parsesAsUuid id = true) : NarrowText 45 id := by
  obtain ⟨short, written⟩ := parsesAsUuid_characters parses
  refine ⟨short, ?_⟩
  intro c among
  rcases written c among with inner | other
  · exact narrow_portable inner.1
  · simp only [List.mem_cons, List.not_mem_nil, or_false] at other
    rcases other with rfl | rfl | rfl <;> exact ⟨by decide, by decide⟩

theorem parsesAsUuid_free {id : String} (parses : parsesAsUuid id = true) : '/' ∉ id.toList := by
  intro among
  rcases (parsesAsUuid_characters parses).2 '/' among with inner | other
  · have portable := inner.1
    revert portable
    decide
  · revert other
    decide

/-- Texts of a size that fits. -/
structure Small (record : OwnershipRecord) : Prop where
  id : NarrowText 64 record.id
  name : NarrowText 700 record.name
  sha256 : NarrowText 64 record.sha256
  sidecarName : ∀ name, record.sidecarName = some name → NarrowText 700 name
  sidecarSha256 : ∀ sha256, record.sidecarSha256 = some sha256 → NarrowText 64 sha256

theorem optional_bytes (name : String) {value : Option String} {bound : Nat}
    (narrow : ∀ text, value = some text → NarrowText bound text) :
    ((EmbeddedRecord.optionalString name value).map memberBytes).sum ≤ textBytes name + 4 + bound := by
  cases value with
  | none => simp [EmbeddedRecord.optionalString, EmbeddedRecord.optionalField]
  | some text =>
    have fits := (narrow text rfl).bytes
    simp only [EmbeddedRecord.optionalString, EmbeddedRecord.optionalField, Option.map_some,
      Option.toList_some, List.map_cons, List.map_nil, List.sum_cons, List.sum_nil, memberBytes,
      jsonBytes]
    omega

/-- The records the store writes fit into a marker. -/
theorem encodeOwnership_short {record : OwnershipRecord} (small : Small record) :
    (encodeOwnership record).length ≤ maxMarkerBytes := by
  have version : len (toString (record.version.toNat : Int)) ≤ 3 :=
    len_number (by have := record.version.toNat_lt; omega) (by decide)
  have created : len (toString (record.createdAt.toNat : Int)) ≤ 20 :=
    len_number (by have := record.createdAt.toNat_lt; omega) (by decide)
  have id := small.id.bytes
  have name := small.name.bytes
  have sha256 := small.sha256.bytes
  have sidecar := optional_bytes "sidecar_name" small.sidecarName
  have checksum := optional_bytes "sidecar_sha256" small.sidecarSha256
  have keys : textBytes "version" = 9 ∧ textBytes "id" = 4 ∧ textBytes "name" = 6 ∧
      textBytes "created_at" = 12 ∧ textBytes "sha256" = 8 ∧ textBytes "sidecar_name" = 14 ∧
      textBytes "sidecar_sha256" = 16 := by decide
  unfold encodeOwnership
  rw [length_utf8, len_objectText, len_encodeFields, length_encodeFields, ← jsonBytes,
    jsonBytes_object (by simp [ownershipFields])]
  simp only [membersBytes, ownershipFields, List.map_append, List.sum_append, List.map_cons,
    List.map_nil, List.sum_cons, List.sum_nil, memberBytes, jsonBytes, maxMarkerBytes]
  omega

/-! ## Reading back -/

theorem utf8_injective : Function.Injective utf8 := by
  intro text other same
  have bytes : text.toList.utf8Encode = other.toList.utf8Encode := congrArg List.toByteArray same
  rw [String.utf8Encode_toList, String.utf8Encode_toList] at bytes
  exact String.toByteArray_inj.mp bytes

def hexValue (c : Char) : Nat := if c.isDigit then c.toNat - 0x30 else c.toNat - 0x57

/-- The character an escape stands for, and what follows it. -/
def unescape : List Char → Option (Char × List Char)
  | [] => none
  | '\\' :: 'u' :: _ :: _ :: high :: low :: rest =>
    some (Char.ofNat (16 * hexValue high + hexValue low), rest)
  | '\\' :: 'b' :: rest => some (Char.ofNat 0x08, rest)
  | '\\' :: 't' :: rest => some ('\t', rest)
  | '\\' :: 'n' :: rest => some ('\n', rest)
  | '\\' :: 'f' :: rest => some (Char.ofNat 0x0C, rest)
  | '\\' :: 'r' :: rest => some ('\r', rest)
  | '\\' :: c :: rest => some (c, rest)
  | c :: rest => some (c, rest)

theorem unescape_plain {c : Char} (plain : c ≠ '\\') (rest : List Char) :
    unescape (c :: rest) = some (c, rest) := by
  unfold unescape
  split <;> simp_all

theorem unescape_control : ∀ n < 0x20, ∀ rest : List Char,
    unescape ((escape (Char.ofNat n)).toList ++ rest) = some (Char.ofNat n, rest) := by
  intro n small rest
  interval_cases n <;> rfl

theorem unescape_escape (c : Char) (rest : List Char) :
    unescape ((escape c).toList ++ rest) = some (c, rest) := by
  have known {n : Nat} (code : c.toNat = n) : c = Char.ofNat n := by
    rw [← code, Char.ofNat_toNat]
  by_cases control : c.toNat < 0x20
  · have same := unescape_control c.toNat control rest
    rwa [Char.ofNat_toNat] at same
  · by_cases quoted : c.toNat = 0x22
    · rw [known quoted]
      rfl
    · by_cases slashed : c.toNat = 0x5C
      · rw [known slashed]
        rfl
      · have itself : escape c = String.ofList [c] := by
          unfold escape
          split <;> first | omega | exact if_neg control
        rw [itself, String.toList_ofList]
        apply unescape_plain
        rintro rfl
        exact slashed rfl

theorem escape_cancel {c d : Char} {rest other : List Char}
    (same : (escape c).toList ++ rest = (escape d).toList ++ other) : c = d ∧ rest = other := by
  have read := unescape_escape c rest
  rw [same, unescape_escape] at read
  cases read
  exact ⟨rfl, rfl⟩

/-- An escape does not look like the end of a quoted text. -/
theorem escape_open {c : Char} {rest other : List Char} : (escape c).toList ++ rest ≠ '"' :: other := by
  intro same
  have read := unescape_escape c rest
  rw [same, unescape_plain (by decide)] at read
  cases read
  cases same

theorem quote_toList (text : String) :
    (quote text).toList = '"' :: (text.toList.flatMap fun c => (escape c).toList) ++ ['"'] := by
  have joined (parts : List Char) :
      (String.join (parts.map escape)).toList = parts.flatMap fun c => (escape c).toList := by
    induction parts with
    | nil => rfl
    | cons c rest ih => rw [List.map_cons, String.join_cons, String.toList_append, ih, List.flatMap_cons]
  rw [quote, String.toList_append, String.toList_append, joined]
  rfl

/-- A quoted text shows where it ends. -/
theorem quote_cancel {text other : String} {rest more : List Char}
    (same : (quote text).toList ++ rest = (quote other).toList ++ more) :
    text = other ∧ rest = more := by
  have inner (chars others : List Char)
      (same : (chars.flatMap fun c => (escape c).toList) ++ '"' :: rest =
        (others.flatMap fun c => (escape c).toList) ++ '"' :: more) :
      chars = others ∧ rest = more := by
    induction chars generalizing others with
    | nil =>
      cases others with
      | nil =>
        cases same
        exact ⟨rfl, rfl⟩
      | cons d others =>
        rw [List.flatMap_cons, List.append_assoc] at same
        exact absurd same.symm escape_open
    | cons c chars ih =>
      cases others with
      | nil =>
        rw [List.flatMap_cons, List.append_assoc] at same
        exact absurd same escape_open
      | cons d others =>
        rw [List.flatMap_cons, List.flatMap_cons, List.append_assoc, List.append_assoc] at same
        obtain ⟨rfl, onward⟩ := escape_cancel same
        obtain ⟨rfl, ending⟩ := ih others onward
        exact ⟨rfl, ending⟩
  rw [quote_toList, quote_toList] at same
  simp only [List.cons_append, List.append_assoc, List.cons.injEq, List.nil_append, true_and] at same
  obtain ⟨chars, ending⟩ := inner _ _ same
  exact ⟨String.toList_inj.mp chars, ending⟩

theorem number_toList (number : Nat) :
    (toString (number : Int)).toList = Nat.toDigits 10 number := by
  have same : toString (number : Int) = String.ofList (Nat.toDigits 10 number) :=
    Nat.toString_eq_ofList_toDigits
  rw [same, String.toList_ofList]

/-- A number ends where a comma stands. -/
theorem number_cancel {number other : Nat} {rest more : List Char}
    (same : (toString (number : Int)).toList ++ ',' :: rest =
      (toString (other : Int)).toList ++ ',' :: more) : number = other ∧ rest = more := by
  have digits (number : Nat) : ∀ c ∈ Nat.toDigits 10 number, (c != ',') = true := by
    intro c among
    have digit := Nat.isDigit_of_mem_toDigits (by decide) (by decide) among
    rw [bne_iff_ne]
    rintro rfl
    cases digit
  have start (number : Nat) (rest : List Char) :
      (Nat.toDigits 10 number ++ ',' :: rest).takeWhile (· != ',') = Nat.toDigits 10 number := by
    rw [List.takeWhile_append_of_pos (digits number)]
    simp
  rw [number_toList, number_toList] at same
  have first := start number rest
  rw [same, start] at first
  refine ⟨?_, ?_⟩
  · rw [← Nat.ofDigitChars_ten_toDigits (n := number), ← first, Nat.ofDigitChars_ten_toDigits]
  · rw [first] at same
    injection List.append_cancel_left same

/-- A member as it follows other ones. -/
def memberText (field : String × String) : List Char :=
  ',' :: ((quote field.1).toList ++ ':' :: field.2.toList)

theorem objectText_toList (first : String × String) (rest : List (String × String)) :
    (objectText (first :: rest)).toList =
      '\x7b' :: ((quote first.1).toList ++ ':' :: first.2.toList) ++
        rest.flatMap memberText ++
        ['\x7d'] := by
  have members : (",".intercalate ((first :: rest).map fun field => quote field.1 ++ ":" ++ field.2)).toList =
      ((quote first.1).toList ++ ':' :: first.2.toList) ++
        rest.flatMap memberText := by
    induction rest generalizing first with
    | nil => simp
    | cons second rest ih =>
      rw [List.map_cons, String.intercalate_cons_of_ne_nil (by simp), String.toList_append,
        String.toList_append, ih, List.flatMap_cons]
      simp [memberText]
  rw [objectText, bracket, String.toList_append, String.toList_append, members]
  simp

theorem encodeFields_append (first later : List (String × Json)) :
    encodeFields (first ++ later) = encodeFields first ++ encodeFields later := by
  induction first with
  | nil => rfl
  | cons field rest ih =>
    obtain ⟨key, value⟩ := field
    rw [List.cons_append, encodeFields, encodeFields, ih, List.cons_append]

/-- A member that may be absent. -/
def optionalText (name : String) (value : Option String) : List Char :=
  value.elim [] fun text => memberText (name, quote text)

theorem optionalText_eq (name : String) (value : Option String) :
    (encodeFields (EmbeddedRecord.optionalString name value)).flatMap memberText =
      optionalText name value := by
  cases value with
  | none => rfl
  | some text =>
    simp [EmbeddedRecord.optionalString, EmbeddedRecord.optionalField, encodeFields, encodeJson,
      optionalText]

theorem recordText (record : OwnershipRecord) :
    (objectText (encodeFields (ownershipFields record))).toList =
      ('\x7b' :: ((quote "version").toList ++ ':' :: (toString (record.version.toNat : Int)).toList) ++
        (memberText ("id", quote record.id) ++ (memberText ("name", quote record.name) ++
        (memberText ("created_at", toString (record.createdAt.toNat : Int)) ++
        memberText ("sha256", quote record.sha256)))) ++
        (optionalText "sidecar_name" record.sidecarName ++
        optionalText "sidecar_sha256" record.sidecarSha256)) ++ ['\x7d'] := by
  unfold ownershipFields
  rw [encodeFields_append, encodeFields_append]
  simp only [encodeFields, encodeJson, List.cons_append, List.nil_append]
  rw [objectText_toList]
  simp only [List.flatMap_cons, List.flatMap_append, optionalText_eq, List.append_assoc,
    List.cons_append]

theorem member_cancel {key other : String} {value more : String} {rest last : List Char}
    (same : memberText (key, value) ++ rest = memberText (other, more) ++ last) :
    key = other ∧ value.toList ++ rest = more.toList ++ last := by
  simp only [memberText, List.cons_append, List.append_assoc, List.cons.injEq, true_and] at same
  obtain ⟨rfl, onward⟩ := quote_cancel same
  injection onward with _ onward
  exact ⟨rfl, onward⟩

/-- Text that does not go on with a member of that name. -/
def Foreign (key : String) (text : List Char) : Prop :=
  ∀ value rest, text ≠ memberText (key, value) ++ rest

theorem foreign_closing (key : String) : Foreign key ['\x7d'] := by
  intro value rest same
  cases same

theorem foreign_optional {key name : String} (other : name ≠ key) {value : Option String}
    {rest : List Char} (foreign : Foreign key rest) : Foreign key (optionalText name value ++ rest) := by
  cases value with
  | none => exact foreign
  | some text =>
    intro value more same
    exact other (member_cancel same).1

theorem optional_cancel {key : String} {value other : Option String} {rest more : List Char}
    (foreign : Foreign key rest) (also : Foreign key more)
    (same : optionalText key value ++ rest = optionalText key other ++ more) :
    value = other ∧ rest = more := by
  cases value with
  | none =>
    cases other with
    | none => exact ⟨rfl, same⟩
    | some text => exact absurd same (foreign _ _)
  | some text =>
    cases other with
    | none => exact absurd same.symm (also _ _)
    | some last =>
      obtain ⟨rfl, onward⟩ := quote_cancel (member_cancel same).2
      exact ⟨rfl, onward⟩

/-- No two records have the same bytes. -/
theorem encodeOwnership_injective : Function.Injective encodeOwnership := by
  intro record other same
  unfold encodeOwnership at same
  have texts := congrArg String.toList (utf8_injective same)
  rw [recordText, recordText] at texts
  simp only [List.cons_append, List.append_assoc, List.cons.injEq, true_and] at texts
  obtain ⟨_, onward⟩ := quote_cancel texts
  injection onward with _ onward
  obtain ⟨version, onward⟩ := number_cancel onward
  obtain ⟨id, onward⟩ := quote_cancel (member_cancel (congrArg (List.cons ',') onward)).2
  obtain ⟨name, onward⟩ := quote_cancel (member_cancel onward).2
  obtain ⟨createdAt, onward⟩ := number_cancel (member_cancel onward).2
  obtain ⟨sha256, onward⟩ := quote_cancel (member_cancel (congrArg (List.cons ',') onward)).2
  have checksum : Foreign "sidecar_sha256" ['\x7d'] := foreign_closing _
  have named (value : Option String) :
      Foreign "sidecar_name" (optionalText "sidecar_sha256" value ++ ['\x7d']) :=
    foreign_optional (by decide) (foreign_closing _)
  obtain ⟨sidecarName, onward⟩ := optional_cancel (named _) (named _) onward
  obtain ⟨sidecarSha256, _⟩ := optional_cancel checksum checksum onward
  cases record
  cases other
  simp only [OwnershipRecord.mk.injEq]
  exact ⟨UInt8.toNat_inj.mp version, id, name, UInt64.toNat_inj.mp createdAt, sha256, sidecarName,
    sidecarSha256⟩

end ImagegenBridge.ArtifactStore
