import ImagegenBridge.Core.Error
import ImagegenBridge.Lib.Records

/-!
# JSON codecs

What serde's derived implementations do with a `serde_json::Value`: structs with
`deny_unknown_fields`, enums of unit variants, options, lists and numbers. An object is a map, read
by `List.lookup`.
-/

namespace ImagegenBridge

/-- What `serde_json::from_value` reports. -/
inductive DecodeError where
  | unknownField (name : String) (expected : List String)
  | missingField (name : String)
  | unknownVariant (name : String) (expected : List String)
  | invalidType (found : Json) (expected : String)
  | invalidValue (found : Json) (expected : String)
  | invalidLength (length : Nat) (expected : String)
  | custom (message : String)
  | parse (error : BridgeError)

/-- The keys of a contract, level by level. -/
inductive Shape where
  | flat
  | variants (names : List String)
  | list (item : Shape)
  | record (fields : List (String × Shape))
  | tagged (tag : String) (cases : List (String × List (String × Shape)))

/-- Values without keys and without parts. -/
def Json.isAtom : Json → Bool
  | .array _ | .object _ => false
  | _ => true

/-- Every key of a value, at every level, is one that the shape has there. `spelled` also admits
the object with one key that serde reads as a unit variant. -/
inductive KeysWithin (spelled : Bool) : Shape → Json → Prop
  | atom {shape : Shape} {json : Json} (plain : json.isAtom = true) : KeysWithin spelled shape json
  | variant {names : List String} {name : String} (admitted : spelled = true) (known : name ∈ names) :
      KeysWithin spelled (.variants names) (.object [(name, .null)])
  | list {item : Shape} {items : List Json} (each : ∀ json ∈ items, KeysWithin spelled item json) :
      KeysWithin spelled (.list item) (.array items)
  | positional {fields : List (String × Shape)} {items : List Json}
      (few : items.length ≤ fields.length)
      (each : ∀ pair ∈ fields.zip items, KeysWithin spelled pair.1.2 pair.2) :
      KeysWithin spelled (.record fields) (.array items)
  | record {fields : List (String × Shape)} {entries : List (String × Json)}
      (known : ∀ key value, entries.lookup key = some value → (fields.lookup key).isSome = true)
      (each : ∀ key value shape, entries.lookup key = some value → fields.lookup key = some shape →
        KeysWithin spelled shape value) :
      KeysWithin spelled (.record fields) (.object entries)
  | tagged {tag name : String} {cases : List (String × List (String × Shape))}
      {fields : List (String × Shape)} {entries : List (String × Json)}
      (tells : entries.lookup tag = some (.string name)) (chosen : (name, fields) ∈ cases)
      (known : ∀ key value, entries.lookup key = some value → key ≠ tag →
        (fields.lookup key).isSome = true)
      (each : ∀ key value shape, entries.lookup key = some value → key ≠ tag →
        fields.lookup key = some shape → KeysWithin spelled shape value) :
      KeysWithin spelled (.tagged tag cases) (.object entries)

/-- One fact about each entry gives both conditions on a record. -/
theorem KeysWithin.ofEntries {spelled : Bool} {fields : List (String × Shape)}
    {entries : List (String × Json)}
    (each : ∀ key value, entries.lookup key = some value →
      ∃ shape, fields.lookup key = some shape ∧ KeysWithin spelled shape value) :
    KeysWithin spelled (.record fields) (.object entries) := by
  refine .record ?_ ?_
  · intro key value found
    obtain ⟨shape, named, _⟩ := each key value found
    rw [named, Option.isSome_some]
  · intro key value shape found named
    obtain ⟨shape', named', inside⟩ := each key value found
    obtain rfl := Option.some.inj (named.symm.trans named')
    exact inside

theorem KeysWithin.ofTagged {spelled : Bool} {tag name : String}
    {cases : List (String × List (String × Shape))} {fields : List (String × Shape)}
    {entries : List (String × Json)} (tells : entries.lookup tag = some (.string name))
    (chosen : (name, fields) ∈ cases)
    (each : ∀ key value, entries.lookup key = some value → key ≠ tag →
      ∃ shape, fields.lookup key = some shape ∧ KeysWithin spelled shape value) :
    KeysWithin spelled (.tagged tag cases) (.object entries) := by
  refine .tagged tells chosen ?_ ?_
  · intro key value found other
    obtain ⟨shape, named, _⟩ := each key value found other
    rw [named, Option.isSome_some]
  · intro key value shape found other named
    obtain ⟨shape', named', inside⟩ := each key value found other
    obtain rfl := Option.some.inj (named.symm.trans named')
    exact inside

abbrev JsonCodec (τ : Type) : Type := Records.Codec Json DecodeError Shape (KeysWithin true) τ
abbrev JsonFields (ρ α : Type) : Type := Records.Fields Json DecodeError Shape (KeysWithin true) ρ α

namespace JsonCodec

open Records

variable {ρ τ : Type}

/-! ## Values -/

/-- `String`. -/
def text : JsonCodec String where
  shape := .flat
  Fits _ := True
  encode := .string
  decode
    | .string value => .ok value
    | other => .error (.invalidType other "a string")
  restores _ _ := rfl
  strict := by
    intro json value decoded
    split at decoded
    · exact .atom rfl
    · cases decoded

/-- `bool`. -/
def boolean : JsonCodec Bool where
  shape := .flat
  Fits _ := True
  encode := .bool
  decode
    | .bool value => .ok value
    | other => .error (.invalidType other "a boolean")
  restores _ _ := rfl
  strict := by
    intro json value decoded
    split at decoded
    · exact .atom rfl
    · cases decoded

def decodeUnsigned (name : String) (bound : Nat) : Json → Except DecodeError Nat
  | .integer value =>
    if 0 ≤ value ∧ value < bound then .ok value.toNat
    else .error (.invalidValue (.integer value) name)
  | other => .error (.invalidType other name)

theorem decodeUnsigned_restores (name : String) {bound value : Nat} (fits : value < bound) :
    decodeUnsigned name bound (.integer value) = .ok value := by
  have inside : (0 : Int) ≤ value ∧ (value : Int) < bound := by omega
  simp only [decodeUnsigned, if_pos inside, Int.toNat_natCast]

/-- An unsigned type with values below `bound`. -/
def unsigned (name : String) (bound : Nat) : JsonCodec Nat where
  shape := .flat
  Fits value := value < bound
  encode value := .integer value
  decode := decodeUnsigned name bound
  restores _ fits := decodeUnsigned_restores name fits
  strict := by
    intro json value decoded
    unfold decodeUnsigned at decoded
    split at decoded
    · exact .atom rfl
    · cases decoded

def u8 : JsonCodec Nat := unsigned "u8" (2 ^ 8)
def u64 : JsonCodec Nat := unsigned "u64" (2 ^ 64)

/-- A type that is written as a text and read by its `FromStr`. -/
def parsed (wire : τ → String) (fromStr : String → Outcome τ) (Fits : τ → Prop)
    (reads : ∀ value, Fits value → fromStr (wire value) = .ok value) : JsonCodec τ where
  shape := .flat
  Fits := Fits
  encode value := .string (wire value)
  decode
    | .string value => (fromStr value).mapError .parse
    | other => .error (.invalidType other "a string")
  restores := by
    intro value fits
    simp only [reads value fits]
    rfl
  strict := by
    intro json value decoded
    split at decoded
    · exact .atom rfl
    · cases decoded

/-- `Option`. -/
def option (codec : JsonCodec τ) (solid : ∀ value, codec.encode value ≠ .null) :
    JsonCodec (Option τ) where
  shape := codec.shape
  Fits value := ∀ inner, value = some inner → codec.Fits inner
  encode
    | none => .null
    | some value => codec.encode value
  decode
    | .null => .ok none
    | json => (codec.decode json).map some
  restores := by
    intro value fits
    cases value with
    | none => rfl
    | some value =>
      have reads := codec.restores value (fits value rfl)
      split
      · rename_i null
        exact absurd null (solid value)
      · exact map_ok.mpr ⟨value, reads, rfl⟩
  strict := by
    intro json value decoded
    split at decoded
    · exact .atom rfl
    · obtain ⟨inner, reads, _⟩ := map_ok.mp decoded
      exact codec.strict _ inner reads

def decodeAll (codec : JsonCodec τ) : List Json → Except DecodeError (List τ)
  | [] => .ok []
  | json :: rest => do
    let value ← codec.decode json
    let values ← decodeAll codec rest
    .ok (value :: values)

theorem decodeAll_restores (codec : JsonCodec τ) {values : List τ}
    (fits : ∀ value ∈ values, codec.Fits value) :
    decodeAll codec (values.map codec.encode) = .ok values := by
  induction values with
  | nil => rfl
  | cons value values ih =>
    obtain ⟨first, later⟩ := List.forall_mem_cons.mp fits
    exact bind_ok.mpr ⟨value, codec.restores value first, bind_ok.mpr ⟨values, ih later, rfl⟩⟩

theorem decodeAll_strict (codec : JsonCodec τ) {items : List Json} {values : List τ}
    (decoded : decodeAll codec items = .ok values) :
    ∀ json ∈ items, KeysWithin true codec.shape json := by
  induction items generalizing values with
  | nil => simp
  | cons json rest ih =>
    obtain ⟨value, first, next⟩ := bind_ok.mp decoded
    obtain ⟨values', later, _⟩ := bind_ok.mp next
    exact List.forall_mem_cons.mpr ⟨codec.strict json value first, ih later⟩

/-- `Vec`. -/
def listOf (codec : JsonCodec τ) : JsonCodec (List τ) where
  shape := .list codec.shape
  Fits values := ∀ value ∈ values, codec.Fits value
  encode values := .array (values.map codec.encode)
  decode
    | .array items => decodeAll codec items
    | other => .error (.invalidType other "a sequence")
  restores _ fits := decodeAll_restores codec fits
  strict := by
    intro json values decoded
    split at decoded
    · exact .list (decodeAll_strict codec decoded)
    · cases decoded

/-! ## Enums of unit variants -/

def variantOf (variants : List (String × τ)) (name : String) : Except DecodeError τ :=
  match variants.lookup name with
  | some value => .ok value
  | none => .error (.unknownVariant name (variants.map Prod.fst))

/-- A unit variant is its name, or an object from the name to null. -/
def enumeration (variants : List (String × τ)) (wire : τ → String)
    (spells : ∀ value, variants.lookup (wire value) = some value) : JsonCodec τ where
  shape := .variants (variants.map Prod.fst)
  Fits _ := True
  encode value := .string (wire value)
  decode
    | .string name => variantOf variants name
    | .object [(name, json)] => do
      let value ← variantOf variants name
      match json with
      | .null => .ok value
      | other => .error (.invalidType other "unit")
    | .object entries => .error (.invalidValue (.object entries) "map with a single key")
    | other => .error (.invalidType other "string or map")
  restores := by
    intro value _
    simp only [variantOf, spells]
  strict := by
    intro json value decoded
    split at decoded
    · exact .atom rfl
    · rename_i name inner
      obtain ⟨found, named, done⟩ := bind_ok.mp decoded
      have known : name ∈ variants.map Prod.fst := by
        unfold variantOf at named
        split at named
        · rename_i there
          exact List.mem_map_of_mem (lookup_mem there)
        · cases named
      split at done
      · exact .variant rfl known
      · cases done
    · cases decoded
    · cases decoded

/-! ## Structs -/

/-- A derived struct: an object of its fields, or an array of them in their order. -/
def struct (name : String) (fields : JsonFields ρ ρ) (whole : ∀ r, fields.value r = r) :
    JsonCodec ρ where
  shape := .record fields.shapes
  Fits := fields.Fits
  encode r := .object (fields.write r)
  decode
    | .object entries => fields.ofEntries .unknownField entries
    | .array items => fields.ofItems (fun n => .invalidLength n "fewer elements in array") items
    | other => .error (.invalidType other ("struct " ++ name))
  restores := by
    intro r fits
    exact (fields.ofEntries_write _ fits).trans (congrArg Except.ok (whole r))
  strict := by
    intro json r decoded
    split at decoded
    · exact .ofEntries fun key value found =>
        fields.ofEntries_strict _ decoded (lookup_mem found)
    · obtain ⟨few, each⟩ := fields.ofItems_strict decoded
      exact .positional few each
    · cases decoded

end JsonCodec

namespace JsonFields

open Records

variable {ρ τ : Type}

/-- A field that must be there; `short` is what an array that ends before it is refused for. -/
def required (name : String) (codec : JsonCodec τ) (get : ρ → τ) (short : DecodeError) :
    JsonFields ρ τ :=
  .single name codec get (fun _ => false) (.error (.missingField name)) (.error short)
    (by simp)

/-- A field with a default, always written. -/
def defaulted (name : String) (codec : JsonCodec τ) (get : ρ → τ) (default : τ) : JsonFields ρ τ :=
  .single name codec get (fun _ => false) (.ok default) (.ok default) (by simp)

/-- A field left out when it is none. -/
def optional (name : String) (codec : JsonCodec (Option τ)) (get : ρ → Option τ)
    (short : Except DecodeError (Option τ)) : JsonFields ρ (Option τ) :=
  .single name codec get Option.isNone (.ok none) short
    fun _ none => by rw [Option.isNone_iff_eq_none.mp none]

/-- A list with the empty default, left out when it is empty. -/
def listed (name : String) (codec : JsonCodec (List τ)) (get : ρ → List τ) : JsonFields ρ (List τ) :=
  .single name codec get List.isEmpty (.ok []) (.ok [])
    fun _ empty => by rw [List.isEmpty_iff.mp empty]

end JsonFields

end ImagegenBridge
