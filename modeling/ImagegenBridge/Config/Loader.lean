import ImagegenBridge.Artifacts.Names
import ImagegenBridge.Core.Error
import Mathlib.Data.String.Basic

/-!
# Configuration layers, `crates/config/src/loader.rs`

The defaults, what the file system and the TOML parser answer, and the deserialization of the
merged value are parameters. A map lists its entries and has no key twice.
-/

namespace ImagegenBridge.Config

inductive ConfigSource where
  | default
  | file
  | environment
  | override
  deriving DecidableEq

structure ConfigOrigin where
  source : ConfigSource
  key : String
  deriving DecidableEq

structure ConfigOverride where
  key : String
  value : Option String

/-- The origins by field path. -/
abbrev Provenance := List (String × ConfigOrigin)

structure ConfigLoader where
  envPrefix : String := "IMAGEGEN_BRIDGE__"
  maxFileBytes : Nat := 1024 * 1024

def maxOverrideBytes : Nat := 1024 * 1024

def configError (message : String) : BridgeError := BridgeError.new .configuration message

/-! ## Values -/

/-- `as_object_mut`. -/
def fieldsOf : Json → Option (List (String × Json))
  | .object fields => some fields
  | _ => none

def isObject (value : Json) : Bool := (fieldsOf value).isSome

mutual

/-- No map of the value has a key twice. -/
def Distinct : Json → Prop
  | .object fields => (fields.map Prod.fst).Nodup ∧ DistinctFields fields
  | _ => True

def DistinctFields : List (String × Json) → Prop
  | [] => True
  | (_, value) :: rest => Distinct value ∧ DistinctFields rest

end

/-- A value that a parser or an encoder has made. -/
structure Document where
  value : Json
  distinct : Distinct value

def joinPath (parent child : String) : String :=
  if parent = "" then child else parent ++ "." ++ child

mutual

def recordLeaves (source : ConfigSource) (sourceKey : Option String) :
    Json → String → Provenance → Provenance
  | .object fields, path, provenance => recordFields source sourceKey fields path provenance
  | _, path, provenance =>
    if path = "" then provenance
    else insertField path ⟨source, sourceKey.getD path⟩ provenance

def recordFields (source : ConfigSource) (sourceKey : Option String) :
    List (String × Json) → String → Provenance → Provenance
  | [], _, provenance => provenance
  | (key, child) :: rest, path, provenance =>
    recordFields source sourceKey rest path
      (recordLeaves source sourceKey child (joinPath path key) provenance)

end

/-- `set_path`, but for the record of the leaves. -/
def assignPath : List String → Json → Json → Outcome Json
  | [], _, _ => .error (configError "configuration field path is empty")
  | [last], value, .object fields => .ok (.object (insertField last value fields))
  | [_], _, _ => .error (configError "configuration field parent is not an object")
  | segment :: rest, value, .object fields => do
    let child ← assignPath rest value ((fields.lookup segment).getD (.object []))
    .ok (.object (insertField segment child fields))
  | _, _, _ => .error (configError "configuration field path crosses a scalar value")

def setPath (segments : List String) (value : Json) (source : ConfigSource) (sourceKey : String)
    (root : Json) (provenance : Provenance) : Outcome (Json × Provenance) := do
  let root ← assignPath segments value root
  .ok (root, recordLeaves source (some sourceKey) value (String.intercalate "." segments)
    provenance)

mutual

def mergeValues (source : ConfigSource) (sourceKey : Option String) :
    Json → Json → String → Provenance → Json × Provenance
  | .object sourceFields, .object fields, path, provenance =>
    let merged := mergeFields source sourceKey sourceFields fields path provenance
    (.object merged.1, merged.2)
  | value, _, path, provenance => (value, recordLeaves source sourceKey value path provenance)

def mergeFields (source : ConfigSource) (sourceKey : Option String) :
    List (String × Json) → List (String × Json) → String → Provenance →
      List (String × Json) × Provenance
  | [], fields, _, provenance => (fields, provenance)
  | (key, value) :: rest, fields, path, provenance =>
    match fields.lookup key with
    | some existing =>
      if isObject existing = true ∧ isObject value = true then
        let merged := mergeValues source sourceKey value existing (joinPath path key) provenance
        mergeFields source sourceKey rest (insertField key merged.1 fields) path merged.2
      else
        mergeFields source sourceKey rest (insertField key value fields) path
          (recordLeaves source sourceKey value (joinPath path key) provenance)
    | none =>
      mergeFields source sourceKey rest (insertField key value fields) path
        (recordLeaves source sourceKey value (joinPath path key) provenance)

end

/-! ## Keys and values of layers -/

/-- `split("__")`. -/
def splitDouble : List Char → List (List Char)
  | '_' :: '_' :: rest => [] :: splitDouble rest
  | [] => [[]]
  | c :: rest =>
    match splitDouble rest with
    | [] => [[c]]
    | first :: more => (c :: first) :: more

def upperKeyChar (c : Char) : Bool := c.isUpper || c.isDigit || c == '_'

def fieldKeyChar (c : Char) : Bool := c.isAlphanum || c == '_'

def environmentSegments (key : String) : Outcome (List String) := do
  Outcome.failIf (key.isEmpty = true) (configError "configuration environment key is empty")
  (splitDouble key.toList).mapM fun segment => do
    Outcome.failIf (segment = [] ∨ segment.all upperKeyChar = false)
      (configError "configuration environment key is invalid")
    .ok (String.ofList (segment.map Char.toLower))

def dottedSegments (key : String) : Outcome (List String) := do
  Outcome.failIf (key.isEmpty = true) (configError "configuration override key is empty")
  (List.splitOn '.' key.toList).mapM fun segment => do
    Outcome.failIf (segment = [] ∨ segment.all fieldKeyChar = false)
      (configError "configuration override key is invalid")
    .ok (String.ofList segment)

/-- `toml::from_str`, with its result as JSON. -/
abbrev TomlParser := String → Option Document

theorem distinct_lookup {fields : List (String × Json)} {key : String} {value : Json}
    (distinct : DistinctFields fields) (found : fields.lookup key = some value) :
    Distinct value := by
  induction fields with
  | nil => cases found
  | cons field rest ih =>
    obtain ⟨name, child⟩ := field
    rw [List.lookup_cons] at found
    split at found
    · cases found
      exact distinct.1
    · exact ih distinct.2 found

/-- A member of a parsed table. -/
def Document.get (document : Document) (key : String) : Option Document :=
  match document with
  | ⟨.object fields, distinct⟩ =>
    match found : fields.lookup key with
    | some value => some ⟨value, distinct_lookup distinct.2 found⟩
    | none => none
  | _ => none

def parseOverrideValue (toml : TomlParser) (raw : String) : Outcome Document := do
  Outcome.failIf (raw.utf8ByteSize > maxOverrideBytes)
    (configError "configuration override exceeds the size limit")
  let text : Document := ⟨.string raw, trivial⟩
  if raw = "" then .ok text
  else .ok (((toml ("value = " ++ raw)).bind (·.get "value")).getD text)

/-! ## The loader -/

/-- What the file system answers: the kind and the length of the entry, and its bytes as text
unless they are not UTF-8. -/
structure ConfigFile where
  metadata : Option (Bool × Nat)
  contents : Option (Option String)

def ConfigLoader.readFile (loader : ConfigLoader) (toml : TomlParser) (file : ConfigFile) :
    Outcome Document := do
  match file.metadata with
  | none => .error (configError "could not inspect configuration file")
  | some (regular, length) => do
    Outcome.failIf (regular = false ∨ length > loader.maxFileBytes)
      (configError "configuration file must be a bounded regular file")
    match file.contents with
    | none => .error (configError "could not read configuration file")
    | some none => .error (configError "configuration file is not valid UTF-8")
    | some (some text) =>
      match toml text with
      | none => .error (configError "configuration file is not valid TOML")
      | some document => .ok document

/-- The merged value and its provenance. -/
abbrev Merged := Json × Provenance

def mergeDefaults (defaults : Document) : Merged :=
  (defaults.value, recordLeaves .default none defaults.value "" [])

def ConfigLoader.mergeFile (loader : ConfigLoader) (toml : TomlParser) (file : Option ConfigFile)
    (merged : Merged) : Outcome Merged :=
  match file with
  | none => .ok merged
  | some file => do
    let layer ← loader.readFile toml file
    .ok (mergeValues .file none layer.value merged.1 "" merged.2)

/-- The variables with the prefix, in the order of their names. -/
def ConfigLoader.variables (loader : ConfigLoader) (environment : List (String × String)) :
    List (String × String) :=
  (environment.filter fun entry =>
    loader.envPrefix.toList.isPrefixOf entry.1.toList).mergeSort
      fun left right => decide (left.1 ≤ right.1)

def ConfigLoader.variableKey (loader : ConfigLoader) (name : String) : String :=
  String.ofList (name.toList.drop loader.envPrefix.length)

def ConfigLoader.mergeVariable (loader : ConfigLoader) (toml : TomlParser) (merged : Merged)
    (entry : String × String) : Outcome Merged := do
  let segments ← environmentSegments (loader.variableKey entry.1)
  let document ← parseOverrideValue toml entry.2
  setPath segments document.value .environment entry.1 merged.1 merged.2

def overrideValue (toml : TomlParser) : Option String → Outcome Document
  | some raw => parseOverrideValue toml raw
  | none => .ok ⟨.null, trivial⟩

def mergeOverride (toml : TomlParser) (merged : Merged) (operation : ConfigOverride) :
    Outcome Merged := do
  let segments ← dottedSegments operation.key
  let document ← overrideValue toml operation.value
  setPath segments document.value .override operation.key merged.1 merged.2

def ConfigLoader.mergeLayers (loader : ConfigLoader) (toml : TomlParser) (defaults : Document)
    (file : Option ConfigFile) (environment : List (String × String))
    (overrides : List ConfigOverride) : Outcome Merged := do
  let merged ← loader.mergeFile toml file (mergeDefaults defaults)
  let merged ← (loader.variables environment).foldlM (loader.mergeVariable toml) merged
  overrides.foldlM (mergeOverride toml) merged

structure ResolvedConfig (Config : Type) where
  config : Config
  provenance : Provenance

/-- `resolve_with_environment`. -/
def ConfigLoader.resolveWithEnvironment {Config : Type} (loader : ConfigLoader)
    (toml : TomlParser) (defaults : Document) (deserialize : Json → Except String Config)
    (file : Option ConfigFile) (environment : List (String × String))
    (overrides : List ConfigOverride) : Outcome (ResolvedConfig Config) := do
  let merged ← loader.mergeLayers toml defaults file environment overrides
  match deserialize merged.1 with
  | .ok config => .ok ⟨config, merged.2⟩
  | .error field =>
    .error ((configError "effective configuration does not match the schema").withDetail "field"
      (.string field))

end ImagegenBridge.Config
