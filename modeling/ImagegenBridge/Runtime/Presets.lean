import ImagegenBridge.Core.Preset
import ImagegenBridge.Core.RequestContract
import ImagegenBridge.Lib.Table
import ImagegenBridge.Lib.Transition
import Mathlib.Data.List.Sort

/-!
# The preset store, `crates/runtime/src/sqlite_presets.rs`

A table with a row for each preset, whose template is stored as JSON text. Every operation is one
SQL statement, but for a replacement, which updates a row and then reads it. `presets_refine` says
that the table is a map from names to presets, `replace_answers` what a replacement returns.
-/

namespace ImagegenBridge.PresetStore

open Outcome Table Text JsonCodec JsonFields

/-! ## Records -/

def operationCodec : JsonCodec PresetOperation :=
  enumeration [("generate", .generate), ("edit", .edit)]
    (fun | .generate => "generate" | .edit => "edit") fun value => by cases value <;> decide

theorem u64_solid (number : Nat) : u64.encode number ≠ .null := by
  intro null
  cases null

/-- `#[serde(default, deny_unknown_fields)]`. -/
def templateFields : JsonFields ImagePresetTemplate ImagePresetTemplate :=
  Records.Fields.start ImagePresetTemplate.mk
    |>.ap (optional "prompt" optionText ImagePresetTemplate.prompt (.ok none)) (by decide)
    |>.ap (optional "negative_prompt" optionText ImagePresetTemplate.negativePrompt (.ok none))
      (by decide)
    |>.ap (defaulted "operation" operationCodec ImagePresetTemplate.operation .generate) (by decide)
    |>.ap (defaulted "parameters" parametersCodec ImagePresetTemplate.parameters {}) (by decide)
    |>.ap (defaulted "routing" routingCodec ImagePresetTemplate.routing {}) (by decide)
    |>.ap (defaulted "session" sessionCodec ImagePresetTemplate.session {}) (by decide)
    |>.ap (defaulted "output" outputCodec ImagePresetTemplate.output {}) (by decide)
    |>.ap (defaulted "policies" policiesCodec ImagePresetTemplate.policies {}) (by decide)
    |>.ap (optional "timeout_ms" (option u64 u64_solid) ImagePresetTemplate.timeoutMs
      (.ok none)) (by decide)
    |>.ap (optional "user" optionText ImagePresetTemplate.user (.ok none)) (by decide)

def templateCodec : JsonCodec ImagePresetTemplate :=
  struct "ImagePresetTemplate" templateFields fun _ => rfl

/-- `serde_json::to_string` and `serde_json::from_str`: a printed template is read as it was. -/
structure JsonText where
  print : Json → Option String
  parse : String → Option Json
  restores : ∀ template text, templateCodec.Fits template →
    print (templateCodec.encode template) = some text →
      parse text = some (templateCodec.encode template)

structure ImagePresetCreate where
  name : String
  description : Option String := none
  template : ImagePresetTemplate

structure ImagePreset where
  name : String
  description : Option String
  template : ImagePresetTemplate
  created : Nat
  updated : Nat

/-- A preset as a replacement leaves it. -/
def ImagePreset.rewrite (write : ImagePresetWrite) (now : Nat) (preset : ImagePreset) : ImagePreset :=
  { preset with description := write.description, template := write.template, updated := now }

/-- A row of `image_presets`. -/
structure PresetRow where
  name : String
  description : Option String
  templateJson : String
  created : Nat
  updated : Nat

abbrev Rows := List PresetRow

/-! ## Checks -/

def storageError (message : String) : BridgeError :=
  (BridgeError.new .internal message).withDetail "stage" (.string "preset_storage")

def presetNotFound : BridgeError :=
  (BridgeError.new .invalidRequest "preset was not found").withDetail "resource" (.string "preset")

def nameTaken : BridgeError :=
  ((BridgeError.new .idempotencyConflict "a preset with this name already exists").withDetail
    "field" (.string "name")).withDetail "resource" (.string "preset")

def nameInvalid : BridgeError :=
  (BridgeError.new .invalidRequest
    "preset name must be 1-64 characters using letters, numbers, dot, underscore, or hyphen").withDetail
    "field" (.string "name")

/-- The characters of a name; dots, underscores and hyphens do not come first. -/
def nameChars : List Char → Bool
  | [] => true
  | first :: rest => isAsciiAlphanumeric first && rest.all isPortable

def validatePresetName (name : String) : Outcome Unit :=
  failIf (¬((1 ≤ len name ∧ len name ≤ 64) ∧ nameChars name.toList = true)) nameInvalid

/-- What `u64` values SQLite takes. -/
def i64Max : Nat := 2 ^ 63 - 1

/-! ## Operations -/

variable (text : JsonText)

def encodeTemplate (template : ImagePresetTemplate) : Outcome String :=
  match text.print (templateCodec.encode template) with
  | some printed => .ok printed
  | none => .error (storageError "could not encode preset")

def decodeRow (row : PresetRow) : Outcome ImagePreset :=
  match (text.parse row.templateJson).map templateCodec.decode with
  | some (.ok template) => .ok ⟨row.name, row.description, template, row.created, row.updated⟩
  | _ => .error (storageError "stored preset is invalid")

/-- A statement that the database carries out, or that fails with an error of its operation. -/
def statement {α : Type} (up : Bool) (failure : String) (result : α) : Outcome α :=
  if up then .ok result else .error (storageError failure)

def checkedWrite (name : String) (write : ImagePresetWrite) : Outcome String := do
  validatePresetName name
  validatePresetWrite write
  encodeTemplate text write.template

/-- `INSERT OR IGNORE`. -/
def create (up : Bool) (create : ImagePresetCreate) (now : Nat) (rows : Rows) :
    Outcome ImagePreset × Rows :=
  let write : ImagePresetWrite := ⟨create.description, create.template⟩
  match checkedWrite text create.name write with
  | .error e => (.error e, rows)
  | .ok template =>
    match statement (up && decide (now ≤ i64Max)) "could not create preset" () with
    | .error e => (.error e, rows)
    | .ok () =>
      if rows.any (·.name = create.name) then (.error nameTaken, rows)
      else (.ok ⟨create.name, write.description, write.template, now, now⟩,
        rows ++ [⟨create.name, write.description, template, now, now⟩])

def get (up : Bool) (name : String) (rows : Rows) : Outcome ImagePreset := do
  validatePresetName name
  let row ← statement up "could not read preset" (rows.find? (·.name = name))
  match row with
  | none => .error presetNotFound
  | some row => decodeRow text row

/-- `ORDER BY name ASC`. -/
def byName (a b : PresetRow) : Prop := a.name ≤ b.name

instance : DecidableRel byName := fun a b => inferInstanceAs (Decidable (a.name ≤ b.name))

instance : Std.Total byName := ⟨fun a b => String.le_total a.name b.name⟩

instance : IsTrans PresetRow byName := ⟨fun _ _ _ => String.le_trans⟩

/-- The rows after a cursor in the order of their names. -/
def listed (after : Option String) (limit : Nat) (rows : Rows) : Rows :=
  ((rows.filter fun row => after.all (· < row.name)).insertionSort byName).take limit

def list (up : Bool) (after : Option String) (limit : Nat) (rows : Rows) :
    Outcome (List ImagePreset) := do
  let found ← statement (up && decide (limit ≤ i64Max)) "could not list presets"
    (listed after limit rows)
  found.mapM (decodeRow text)

/-- What a replacement makes of a row. -/
def PresetRow.rewrite (write : ImagePresetWrite) (template : String) (now : Nat) (row : PresetRow) :
    PresetRow :=
  { row with description := write.description, templateJson := template, updated := now }

/-- The statement that a replacement begins with. -/
def update (up : Bool) (name : String) (write : ImagePresetWrite) (now : Nat) (rows : Rows) :
    Outcome Unit × Rows :=
  match checkedWrite text name write with
  | .error e => (.error e, rows)
  | .ok template =>
    match statement (up && decide (now ≤ i64Max)) "could not update preset" () with
    | .error e => (.error e, rows)
    | .ok () =>
      if changed (·.name = name) rows = 0 then (.error presetNotFound, rows)
      else (.ok (), Table.update (·.name = name) (PresetRow.rewrite write template now) rows)

/-- A replacement; `meanwhile` is what other calls make of the table before it is read again. -/
def replace (up : Bool) (name : String) (write : ImagePresetWrite) (now : Nat)
    (meanwhile : Rows → Rows) (upAgain : Bool) (rows : Rows) : Outcome ImagePreset × Rows :=
  match update text up name write now rows with
  | (.error e, rows) => (.error e, meanwhile rows)
  | (.ok (), rows) => (get text upAgain name (meanwhile rows), meanwhile rows)

def delete (up : Bool) (name : String) (rows : Rows) : Outcome Unit × Rows :=
  match validatePresetName name with
  | .error e => (.error e, rows)
  | .ok () =>
    match statement up "could not delete preset" () with
    | .error e => (.error e, rows)
    | .ok () =>
      if changed (·.name = name) rows = 0 then (.error presetNotFound, rows)
      else (.ok (), rows.filter (·.name ≠ name))

/-! ## Runs -/

/-- An operation on the table, whether the database carries it out, and what it returns. -/
inductive PresetEvent where
  | create (up : Bool) (create : ImagePresetCreate) (now : Nat) (result : Outcome ImagePreset)
  | get (up : Bool) (name : String) (result : Outcome ImagePreset)
  | list (up : Bool) (after : Option String) (limit : Nat) (result : Outcome (List ImagePreset))
  | update (up : Bool) (name : String) (write : ImagePresetWrite) (now : Nat) (result : Outcome Unit)
  | delete (up : Bool) (name : String) (result : Outcome Unit)

/-- The operations of any callers, one statement at a time. -/
inductive Step (rows : Rows) : PresetEvent → Rows → Prop
  | create (up : Bool) (c : ImagePresetCreate) (now : Nat) (fits : templateCodec.Fits c.template) :
      Step rows (.create up c now (create text up c now rows).1) (create text up c now rows).2
  | get (up : Bool) (name : String) : Step rows (.get up name (get text up name rows)) rows
  | list (up : Bool) (after : Option String) (limit : Nat) :
      Step rows (.list up after limit (list text up after limit rows)) rows
  | update (up : Bool) (name : String) (write : ImagePresetWrite) (now : Nat)
      (fits : templateCodec.Fits write.template) :
      Step rows (.update up name write now (update text up name write now rows).1)
        (update text up name write now rows).2
  | delete (up : Bool) (name : String) :
      Step rows (.delete up name (delete up name rows).1) (delete up name rows).2

/-- The database is up and takes what the operation gives it. -/
def Served : PresetEvent → Prop
  | .create up c now _ =>
    up = true ∧ now ≤ i64Max ∧ text.print (templateCodec.encode c.template) ≠ none
  | .update up _ write now _ =>
    up = true ∧ now ≤ i64Max ∧ text.print (templateCodec.encode write.template) ≠ none
  | .list up _ limit _ => up = true ∧ limit ≤ i64Max
  | .get up _ _ | .delete up _ _ => up = true

namespace PresetEvent

/-- The name that an operation checks. -/
def name? : PresetEvent → Option String
  | .create _ c _ _ => some c.name
  | .get _ name _ | .update _ name _ _ _ | .delete _ name _ => some name
  | .list .. => none

def write? : PresetEvent → Option ImagePresetWrite
  | .create _ c _ _ => some ⟨c.description, c.template⟩
  | .update _ _ write _ _ => some write
  | _ => none

def error? : PresetEvent → Option BridgeError
  | .create _ _ _ (.error e) | .get _ _ (.error e) | .list _ _ _ (.error e)
  | .update _ _ _ _ (.error e) | .delete _ _ (.error e) => some e
  | _ => none

/-- What an operation reports when it is not served. -/
def failures : PresetEvent → List String
  | .create .. => ["could not encode preset", "could not create preset"]
  | .get .. => ["could not read preset"]
  | .list .. => ["could not list presets"]
  | .update .. => ["could not encode preset", "could not update preset"]
  | .delete .. => ["could not delete preset"]

end PresetEvent

/-! ## The map -/

abbrev Presets := String → Option ImagePreset

/-- What passes the checks of a write. -/
structure Writable (name : String) (write : ImagePresetWrite) : Prop where
  name : validatePresetName name = .ok ()
  write : validatePresetWrite write = .ok ()

/-- A page of a map: presets after the cursor in the order of their names, with nothing between
them, and as many as fit. -/
structure PageOf (presets : Presets) (after : Option String) (limit : Nat)
    (items : List ImagePreset) : Prop where
  few : items.length ≤ limit
  sorted : items.Pairwise (·.name < ·.name)
  found : ∀ preset ∈ items, presets preset.name = some preset ∧ after.all (· < preset.name) = true
  full : ∀ name preset, presets name = some preset → after.all (· < name) = true →
    preset ∈ items ∨ items.length = limit ∧ ∀ item ∈ items, item.name < name

section

variable (served : PresetEvent → Prop)

/-- What the checks of an operation refuse it for, and what it reports when it is not served. -/
inductive Refusal (event : PresetEvent) : BridgeError → Prop
  | name {name : String} {e : BridgeError} (asked : event.name? = some name)
      (invalid : validatePresetName name = .error e) : Refusal event e
  | write {write : ImagePresetWrite} {e : BridgeError} (asked : event.write? = some write)
      (invalid : validatePresetWrite write = .error e) : Refusal event e
  | storage {message : String} (down : ¬served event) (own : message ∈ event.failures) :
      Refusal event (storageError message)

/-- The store as a map from names to presets. -/
inductive MapStep (presets : Presets) : PresetEvent → Presets → Prop
  | created {up : Bool} {c : ImagePresetCreate} {now : Nat}
      (writable : Writable c.name ⟨c.description, c.template⟩) (free : presets c.name = none) :
      MapStep presets (.create up c now (.ok ⟨c.name, c.description, c.template, now, now⟩))
        (Function.update presets c.name (some ⟨c.name, c.description, c.template, now, now⟩))
  | taken {up : Bool} {c : ImagePresetCreate} {now : Nat}
      (writable : Writable c.name ⟨c.description, c.template⟩) (taken : presets c.name ≠ none) :
      MapStep presets (.create up c now (.error nameTaken)) presets
  | read {up : Bool} {name : String} {preset : ImagePreset} (found : presets name = some preset) :
      MapStep presets (.get up name (.ok preset)) presets
  | missing {up : Bool} {name : String} (absent : presets name = none) :
      MapStep presets (.get up name (.error presetNotFound)) presets
  | listed {up : Bool} {after : Option String} {limit : Nat} {items : List ImagePreset}
      (page : PageOf presets after limit items) :
      MapStep presets (.list up after limit (.ok items)) presets
  | updated {up : Bool} {name : String} {write : ImagePresetWrite} {now : Nat} {old : ImagePreset}
      (writable : Writable name write) (found : presets name = some old) :
      MapStep presets (.update up name write now (.ok ()))
        (Function.update presets name (some (old.rewrite write now)))
  | unknownUpdate {up : Bool} {name : String} {write : ImagePresetWrite} {now : Nat}
      (writable : Writable name write) (absent : presets name = none) :
      MapStep presets (.update up name write now (.error presetNotFound)) presets
  | deleted {up : Bool} {name : String} {old : ImagePreset} (found : presets name = some old) :
      MapStep presets (.delete up name (.ok ())) (Function.update presets name none)
  | unknownDelete {up : Bool} {name : String} (absent : presets name = none) :
      MapStep presets (.delete up name (.error presetNotFound)) presets
  | refused {event : PresetEvent} {e : BridgeError} (fails : event.error? = some e)
      (refusal : Refusal served event e) : MapStep presets event presets

end

/-! ## Sound tables -/

/-- A row that is read as a preset which passes the checks of a write. -/
structure RowSound (row : PresetRow) : Prop where
  name : validatePresetName row.name = .ok ()
  decodes : ∃ template, decodeRow text row =
      .ok ⟨row.name, row.description, template, row.created, row.updated⟩ ∧
    templateCodec.Fits template ∧ validatePresetWrite ⟨row.description, template⟩ = .ok ()

structure Sound (rows : Rows) : Prop where
  keyed : Keyed PresetRow.name rows
  rows : ∀ row ∈ rows, RowSound text row

/-- The map that a table stands for. -/
def presetsOf (rows : Rows) : Presets := fun name =>
  (rows.find? (·.name = name)).bind fun row => (decodeRow text row).toOption

variable {text : JsonText} {rows : Rows} {name : String}

theorem decodeRow_ok {row : PresetRow} {preset : ImagePreset}
    (decoded : decodeRow text row = .ok preset) :
    preset.name = row.name ∧ preset.description = row.description ∧ preset.created = row.created ∧
      preset.updated = row.updated := by
  unfold decodeRow at decoded
  split at decoded
  · cases decoded
    exact ⟨rfl, rfl, rfl, rfl⟩
  · cases decoded

/-- A stored template is read as it was. -/
theorem decodeRow_encoded {template : ImagePresetTemplate} {json : String}
    (fits : templateCodec.Fits template) (encoded : encodeTemplate text template = .ok json)
    (name : String) (description : Option String) (created updated : Nat) :
    decodeRow text ⟨name, description, json, created, updated⟩ =
      .ok ⟨name, description, template, created, updated⟩ := by
  have printed : text.print (templateCodec.encode template) = some json := by
    unfold encodeTemplate at encoded
    split at encoded
    · rename_i printed
      cases encoded
      exact printed
    · cases encoded
  unfold decodeRow
  rw [text.restores template json fits printed, Option.map_some, templateCodec.restores template fits]

theorem toOption_some {outcome : Outcome ImagePreset} {preset : ImagePreset} :
    outcome.toOption = some preset ↔ outcome = .ok preset := by
  cases outcome with
  | error e => simp [Except.toOption]
  | ok found => simp [Except.toOption]

theorem find_iff (sound : Sound text rows) {row : PresetRow} :
    rows.find? (·.name = name) = some row ↔ row ∈ rows ∧ row.name = name := by
  rw [sound.keyed.find_iff (k := name) fun row chosen => of_decide_eq_true chosen, decide_eq_true_eq]

theorem presetsOf_some (sound : Sound text rows) {preset : ImagePreset} :
    presetsOf text rows name = some preset ↔
      ∃ row ∈ rows, row.name = name ∧ decodeRow text row = .ok preset := by
  unfold presetsOf
  rw [Option.bind_eq_some_iff]
  constructor
  · rintro ⟨row, found, decoded⟩
    obtain ⟨member, own⟩ := (find_iff sound).mp found
    exact ⟨row, member, own, toOption_some.mp decoded⟩
  · rintro ⟨row, member, own, decoded⟩
    exact ⟨row, (find_iff sound).mpr ⟨member, own⟩, toOption_some.mpr decoded⟩

theorem presetsOf_name (sound : Sound text rows) {preset : ImagePreset}
    (found : presetsOf text rows name = some preset) : preset.name = name := by
  obtain ⟨row, _, named, decoded⟩ := (presetsOf_some sound).mp found
  exact (decodeRow_ok decoded).1.trans named

theorem presetsOf_none (sound : Sound text rows) :
    presetsOf text rows name = none ↔ ∀ row ∈ rows, row.name ≠ name := by
  rw [Option.eq_none_iff_forall_ne_some]
  constructor
  · intro absent row member own
    obtain ⟨template, decoded, _⟩ := (sound.rows row member).decodes
    exact absent _ ((presetsOf_some sound).mpr ⟨row, member, own, decoded⟩)
  · intro absent preset found
    obtain ⟨row, member, own, _⟩ := (presetsOf_some sound).mp found
    exact absent row member own

/-- What a sound table's map is. -/
theorem presetsOf_eq (sound : Sound text rows) {presets : Presets}
    (same : ∀ name preset, presets name = some preset ↔
      ∃ row ∈ rows, row.name = name ∧ decodeRow text row = .ok preset) :
    presetsOf text rows = presets := by
  funext name
  apply Option.ext
  intro preset
  rw [presetsOf_some sound, same]

theorem found_row (sound : Sound text rows) {row : PresetRow} (member : row ∈ rows) :
    ∃ preset, presetsOf text rows row.name = some preset ∧ decodeRow text row = .ok preset := by
  obtain ⟨template, decoded, _⟩ := (sound.rows row member).decodes
  exact ⟨_, (presetsOf_some sound).mpr ⟨row, member, rfl, decoded⟩, decoded⟩

theorem any_iff (sound : Sound text rows) :
    (rows.any fun row => row.name = name) = true ↔ presetsOf text rows name ≠ none := by
  rw [ne_eq, presetsOf_none sound, List.any_eq_true]
  simp

theorem changed_zero (sound : Sound text rows) :
    changed (fun row : PresetRow => decide (row.name = name)) rows = 0 ↔
      presetsOf text rows name = none := by
  unfold changed
  rw [List.countP_eq_zero, presetsOf_none sound]
  simp

/-! ## Checks of a write -/

theorem statement_error {α : Type} {up : Bool} {failure : String} {result : α} {e : BridgeError}
    (failed : statement up failure result = .error e) : e = storageError failure ∧ up = false := by
  cases up with
  | true => cases failed
  | false =>
    cases failed
    exact ⟨rfl, rfl⟩

theorem statement_ok {α : Type} {up : Bool} {failure : String} {result a : α}
    (carried : statement up failure result = .ok a) : a = result := by
  cases up with
  | true =>
    cases carried
    rfl
  | false => cases carried

theorem checkedWrite_ok {write : ImagePresetWrite} {json : String}
    (checked : checkedWrite text name write = .ok json) :
    Writable name write ∧ encodeTemplate text write.template = .ok json := by
  obtain ⟨_, named, rest⟩ := bind_ok.mp checked
  obtain ⟨_, valid, encoded⟩ := bind_ok.mp rest
  exact ⟨⟨named, valid⟩, encoded⟩

theorem checkedWrite_error {write : ImagePresetWrite} {e : BridgeError}
    (failed : checkedWrite text name write = .error e) :
    validatePresetName name = .error e ∨ validatePresetWrite write = .error e ∨
      e = storageError "could not encode preset" ∧
        text.print (templateCodec.encode write.template) = none := by
  obtain invalid | ⟨_, _, rest⟩ := bind_error.mp failed
  · exact Or.inl invalid
  · obtain invalid | ⟨_, _, unprinted⟩ := bind_error.mp rest
    · exact Or.inr (Or.inl invalid)
    · unfold encodeTemplate at unprinted
      split at unprinted
      · cases unprinted
      · rename_i unprinted'
        cases unprinted
        exact Or.inr (Or.inr ⟨rfl, unprinted'⟩)

/-- A row that a checked write makes. -/
theorem RowSound.written {description : Option String} {template : ImagePresetTemplate}
    {json : String} (writable : Writable name ⟨description, template⟩)
    (fits : templateCodec.Fits template) (encoded : encodeTemplate text template = .ok json)
    (created updated : Nat) : RowSound text ⟨name, description, json, created, updated⟩ where
  name := writable.name
  decodes := ⟨template, decodeRow_encoded fits encoded .., fits, writable.write⟩

/-! ## Operations on sound tables -/

/-- A table stays sound, and its map changes as a map does. -/
structure Refines (text : JsonText) (rows : Rows) (event : PresetEvent) (rows' : Rows) : Prop where
  sound : Sound text rows'
  step : MapStep (Served text) (presetsOf text rows) event (presetsOf text rows')

theorem Sound.refused (sound : Sound text rows) {event : PresetEvent} {e : BridgeError}
    (fails : event.error? = some e) (refusal : Refusal (Served text) event e) :
    Refines text rows event rows := ⟨sound, .refused fails refusal⟩

/-- A statement that is not carried out, or cannot take a number. -/
theorem Sound.unserved (sound : Sound text rows) {α : Type} {up : Bool} {taken : Prop}
    [Decidable taken] {failure : String} {result : α} {event : PresetEvent} {e : BridgeError}
    (failed : statement (up && decide taken) failure result = .error e)
    (fails : event.error? = some e) (needs : Served text event → up = true ∧ taken)
    (own : failure ∈ event.failures) : Refines text rows event rows := by
  obtain ⟨rfl, down⟩ := statement_error failed
  refine sound.refused fails (.storage (fun served => ?_) own)
  obtain ⟨rfl, fits⟩ := needs served
  simp [fits] at down

/-- A write that its checks refuse, or that cannot be printed. -/
theorem Sound.unchecked (sound : Sound text rows) {event : PresetEvent} {e : BridgeError}
    {write : ImagePresetWrite} (failed : checkedWrite text name write = .error e)
    (fails : event.error? = some e) (named : event.name? = some name)
    (written : event.write? = some write)
    (printed : Served text event → text.print (templateCodec.encode write.template) ≠ none)
    (own : "could not encode preset" ∈ event.failures) : Refines text rows event rows := by
  obtain invalid | invalid | ⟨rfl, unprinted⟩ := checkedWrite_error failed
  · exact sound.refused fails (.name named invalid)
  · exact sound.refused fails (.write written invalid)
  · exact sound.refused fails (.storage (fun served => printed served unprinted) own)

theorem Sound.inserted (sound : Sound text rows) {row : PresetRow} (written : RowSound text row)
    (free : presetsOf text rows row.name = none) : Sound text (rows ++ [row]) where
  keyed := by
    have change : Change (fun old new : PresetRow => new = old) (· = row) (fun _ => False) rows
        (rows ++ [row]) := .inserted rfl
    refine change.keyed sound.keyed (fun _ _ same => congrArg PresetRow.name same) ?_
    rintro _ rfl
    exact (presetsOf_none sound).mp free
  rows := by
    intro other member
    obtain old | new := List.mem_append.mp member
    · exact sound.rows other old
    · cases List.mem_singleton.mp new
      exact written

theorem presetsOf_inserted (sound : Sound text rows) {row : PresetRow} {preset : ImagePreset}
    (written : RowSound text row) (free : presetsOf text rows row.name = none)
    (decoded : decodeRow text row = .ok preset) :
    presetsOf text (rows ++ [row]) = Function.update (presetsOf text rows) row.name (some preset) := by
  apply presetsOf_eq (sound.inserted written free)
  intro name other
  by_cases own : name = row.name
  · subst own
    rw [Function.update_self]
    constructor
    · rintro ⟨⟩
      exact ⟨row, List.mem_append_right _ (List.mem_singleton_self _), rfl, decoded⟩
    · rintro ⟨found, member, named, read⟩
      obtain old | new := List.mem_append.mp member
      · exact absurd named ((presetsOf_none sound).mp free found old)
      · cases List.mem_singleton.mp new
        cases decoded.symm.trans read
        rfl
  · rw [Function.update_of_ne own, presetsOf_some sound]
    constructor
    · rintro ⟨found, member, rest⟩
      exact ⟨found, List.mem_append_left _ member, rest⟩
    · rintro ⟨found, member, named, read⟩
      obtain old | new := List.mem_append.mp member
      · exact ⟨found, old, named, read⟩
      · cases List.mem_singleton.mp new
        exact absurd named.symm own

theorem create_refines (sound : Sound text rows) (up : Bool) (c : ImagePresetCreate) (now : Nat)
    (fits : templateCodec.Fits c.template) :
    Refines text rows (.create up c now (create text up c now rows).1)
      (create text up c now rows).2 := by
  unfold create
  dsimp only
  cases checked : checkedWrite text c.name ⟨c.description, c.template⟩ with
  | error e =>
    exact sound.unchecked checked rfl rfl rfl (fun served => served.2.2) (List.mem_cons_self ..)
  | ok json =>
    obtain ⟨writable, encoded⟩ := checkedWrite_ok checked
    dsimp only
    cases carried : statement (up && decide (now ≤ i64Max)) "could not create preset" () with
    | error e =>
      exact sound.unserved carried rfl (fun served => ⟨served.1, served.2.1⟩)
        (List.mem_cons_of_mem _ (List.mem_singleton_self _))
    | ok _ =>
      dsimp only
      by_cases taken : (rows.any fun row => row.name = c.name) = true
      · rw [if_pos taken]
        exact ⟨sound, .taken writable ((any_iff sound).mp taken)⟩
      · rw [if_neg taken]
        have free : presetsOf text rows c.name = none :=
          of_not_not fun present => taken ((any_iff sound).mpr present)
        have written := RowSound.written writable fits encoded now now
        refine ⟨sound.inserted written free, ?_⟩
        dsimp only
        rw [presetsOf_inserted sound written free (decodeRow_encoded fits encoded ..)]
        exact .created writable free

theorem get_refines (sound : Sound text rows) (up : Bool) (name : String) :
    Refines text rows (.get up name (get text up name rows)) rows := by
  cases result : get text up name rows with
  | error e =>
    obtain invalid | ⟨_, _, rest⟩ := bind_error.mp result
    · exact sound.refused rfl (.name rfl invalid)
    · obtain failed | ⟨row, carried, rest⟩ := bind_error.mp rest
      · obtain ⟨rfl, rfl⟩ := statement_error failed
        exact sound.refused rfl (.storage (fun served => nomatch served) (List.mem_singleton_self _))
      · cases statement_ok carried
        cases found : rows.find? fun row => row.name = name with
        | none =>
          rw [found] at rest
          cases rest
          exact ⟨sound, .missing (by rw [presetsOf, found]; rfl)⟩
        | some row =>
          obtain ⟨member, rfl⟩ := (find_iff sound).mp found
          obtain ⟨preset, _, decoded⟩ := found_row sound member
          rw [found] at rest
          cases decoded.symm.trans rest
  | ok preset =>
    obtain ⟨_, _, rest⟩ := bind_ok.mp result
    obtain ⟨row, carried, rest⟩ := bind_ok.mp rest
    cases statement_ok carried
    cases found : rows.find? fun row => row.name = name with
    | none =>
      rw [found] at rest
      cases rest
    | some row =>
      rw [found] at rest
      obtain ⟨member, own⟩ := (find_iff sound).mp found
      exact ⟨sound, .read ((presetsOf_some sound).mpr ⟨row, member, own, rest⟩)⟩

/-! ## Listing -/

/-- Rows of a sound table are all read. -/
theorem mapM_read {found : Rows} (readable : ∀ row ∈ found, RowSound text row) :
    ∃ items, found.mapM (decodeRow text) = .ok items ∧
      found.map (decodeRow text) = items.map .ok := by
  induction found with
  | nil => exact ⟨[], rfl, rfl⟩
  | cons row rest ih =>
    obtain ⟨template, decoded, _⟩ := (readable row (List.mem_cons_self ..)).decodes
    obtain ⟨items, read, same⟩ := ih fun row member => readable row (List.mem_cons_of_mem _ member)
    refine ⟨⟨row.name, row.description, template, row.created, row.updated⟩ :: items, ?_, ?_⟩
    · rw [List.mapM_cons, decoded, read]
      rfl
    · rw [List.map_cons, List.map_cons, decoded, same]

/-- The sorted rows that a page is taken of. -/
theorem sorted_names (keyed : Keyed PresetRow.name rows) (wanted : PresetRow → Bool) :
    ((rows.filter wanted).insertionSort byName).Pairwise (·.name < ·.name) := by
  have sorted := List.pairwise_insertionSort byName (rows.filter wanted)
  have perm := (List.perm_insertionSort byName (rows.filter wanted)).map PresetRow.name
  have distinct := perm.nodup_iff.mpr (keyed.sublist (List.filter_sublist.map PresetRow.name))
  refine sorted.imp₂ ?_ (List.pairwise_map.mp distinct)
  intro a b below differ
  by_contra more
  exact differ (String.le_antisymm below more)

theorem listed_page (sound : Sound text rows) {after : Option String} {limit : Nat}
    {items : List ImagePreset}
    (read : (listed after limit rows).map (decodeRow text) = items.map .ok) :
    PageOf (presetsOf text rows) after limit items := by
  have own : ∀ item ∈ items, ∃ row ∈ listed after limit rows, decodeRow text row = .ok item := by
    intro item member
    have among : (.ok item : Outcome ImagePreset) ∈ (listed after limit rows).map (decodeRow text) :=
      read ▸ List.mem_map_of_mem member
    exact List.mem_map.mp among
  have shown : ∀ row ∈ listed after limit rows, ∃ item ∈ items, decodeRow text row = .ok item := by
    intro row member
    have among : decodeRow text row ∈ items.map .ok := read ▸ List.mem_map_of_mem member
    obtain ⟨item, present, same⟩ := List.mem_map.mp among
    exact ⟨item, present, same.symm⟩
  have length : items.length = (listed after limit rows).length := by
    rw [← List.length_map (f := decodeRow text), read, List.length_map]
  have sorted := sorted_names sound.keyed fun row => after.all (· < row.name)
  refine ⟨?_, ?_, ?_, ?_⟩
  · rw [length]
    exact List.length_take_le ..
  · have pairs : ((listed after limit rows).map (decodeRow text)).Pairwise fun x y =>
        ∀ a b, x = .ok a → y = .ok b → a.name < b.name := by
      refine List.pairwise_map.mpr ((sorted.sublist (List.take_sublist ..)).imp ?_)
      intro row other below a b first second
      rw [(decodeRow_ok first).1, (decodeRow_ok second).1]
      exact below
    rw [read] at pairs
    exact (List.pairwise_map.mp pairs).imp fun below => below _ _ rfl rfl
  · intro item member
    obtain ⟨row, among, decoded⟩ := own item member
    have named := (decodeRow_ok decoded).1
    have present := List.mem_filter.mp ((List.mem_insertionSort _).mp (List.mem_of_mem_take among))
    rw [named]
    exact ⟨(presetsOf_some sound).mpr ⟨row, present.1, rfl, decoded⟩, present.2⟩
  · intro name preset found later
    obtain ⟨row, present, rfl, decoded⟩ := (presetsOf_some sound).mp found
    have among : row ∈ (rows.filter fun row => after.all (· < row.name)).insertionSort byName :=
      (List.mem_insertionSort _).mpr (List.mem_filter.mpr ⟨present, later⟩)
    rw [← List.take_append_drop limit ((rows.filter fun row =>
      after.all (· < row.name)).insertionSort byName)] at among sorted
    obtain first | beyond := List.mem_append.mp among
    · obtain ⟨item, member, same⟩ := shown row first
      cases decoded.symm.trans same
      exact Or.inl member
    · refine Or.inr ⟨?_, ?_⟩
      · have some := List.length_pos_of_mem beyond
        rw [List.length_drop] at some
        rw [length]
        unfold listed
        rw [List.length_take]
        omega
      · intro item member
        obtain ⟨other, earlier, read⟩ := own item member
        rw [(decodeRow_ok read).1]
        exact (List.pairwise_append.mp sorted).2.2 other earlier row beyond

theorem list_refines (sound : Sound text rows) (up : Bool) (after : Option String) (limit : Nat) :
    Refines text rows (.list up after limit (list text up after limit rows)) rows := by
  unfold list
  cases carried : statement (up && decide (limit ≤ i64Max)) "could not list presets"
      (listed after limit rows) with
  | error e =>
    exact sound.unserved carried rfl id (List.mem_singleton_self _)
  | ok found =>
    cases statement_ok carried
    have readable : ∀ row ∈ listed after limit rows, RowSound text row := fun row member =>
      sound.rows row (List.mem_of_mem_filter ((List.mem_insertionSort _).mp
        (List.mem_of_mem_take member)))
    obtain ⟨items, read, same⟩ := mapM_read readable
    have answered : (.ok (listed after limit rows) >>= fun found => found.mapM (decodeRow text)) =
        (.ok items : Outcome (List ImagePreset)) := read
    rw [answered]
    exact ⟨sound, .listed (listed_page sound same)⟩

/-! ## Replacements and deletions -/

section

variable {write : ImagePresetWrite} {json : String} {now : Nat}

theorem decodeRow_rewritten (fits : templateCodec.Fits write.template)
    (encoded : encodeTemplate text write.template = .ok json) {row : PresetRow} {old : ImagePreset}
    (read : decodeRow text row = .ok old) :
    decodeRow text (row.rewrite write json now) = .ok (old.rewrite write now) := by
  obtain ⟨named, _, created, _⟩ := decodeRow_ok read
  unfold PresetRow.rewrite ImagePreset.rewrite
  rw [decodeRow_encoded fits encoded, named, created]

theorem Sound.rewritten (sound : Sound text rows) (writable : Writable name write)
    (fits : templateCodec.Fits write.template)
    (encoded : encodeTemplate text write.template = .ok json) :
    Sound text (Table.update (·.name = name) (PresetRow.rewrite write json now) rows) where
  keyed := sound.keyed.update fun _ _ => rfl
  rows := by
    intro row member
    obtain ⟨kept, _⟩ | ⟨old, _, chosen, rfl⟩ := mem_update.mp member
    · exact sound.rows row kept
    · cases of_decide_eq_true chosen
      exact .written writable fits encoded ..

theorem presetsOf_rewritten (sound : Sound text rows) (writable : Writable name write)
    (fits : templateCodec.Fits write.template)
    (encoded : encodeTemplate text write.template = .ok json) {old : ImagePreset}
    (found : presetsOf text rows name = some old) :
    presetsOf text (Table.update (·.name = name) (PresetRow.rewrite write json now) rows) =
      Function.update (presetsOf text rows) name (some (old.rewrite write now)) := by
  obtain ⟨row, present, named, read⟩ := (presetsOf_some sound).mp found
  apply presetsOf_eq (sound.rewritten writable fits encoded)
  intro key preset
  by_cases own : key = name
  · subst own
    rw [Function.update_self]
    constructor
    · rintro ⟨⟩
      exact ⟨row.rewrite write json now,
        mem_update.mpr (Or.inr ⟨row, present, decide_eq_true named, rfl⟩), named,
        decodeRow_rewritten fits encoded read⟩
    · rintro ⟨other, member, named', read'⟩
      obtain ⟨_, skipped⟩ | ⟨origin, present', chosen, rfl⟩ := mem_update.mp member
      · exact absurd named' (of_decide_eq_false skipped)
      · cases sound.keyed.same present' present (named'.trans named.symm)
        cases (decodeRow_rewritten fits encoded read).symm.trans read'
        rfl
  · rw [Function.update_of_ne own, presetsOf_some sound]
    constructor
    · rintro ⟨other, member, rfl, rest⟩
      exact ⟨other, mem_update.mpr (Or.inl ⟨member, decide_eq_false own⟩), rfl, rest⟩
    · rintro ⟨other, member, named', rest⟩
      obtain ⟨kept, _⟩ | ⟨origin, _, chosen, rfl⟩ := mem_update.mp member
      · exact ⟨other, kept, named', rest⟩
      · exact absurd (named'.symm.trans (of_decide_eq_true chosen)) own

theorem update_refines (sound : Sound text rows) (up : Bool) (name : String)
    (write : ImagePresetWrite) (now : Nat) (fits : templateCodec.Fits write.template) :
    Refines text rows (.update up name write now (update text up name write now rows).1)
      (update text up name write now rows).2 := by
  unfold update
  cases checked : checkedWrite text name write with
  | error e =>
    exact sound.unchecked checked rfl rfl rfl (fun served => served.2.2) (List.mem_cons_self ..)
  | ok json =>
    obtain ⟨writable, encoded⟩ := checkedWrite_ok checked
    dsimp only
    cases carried : statement (up && decide (now ≤ i64Max)) "could not update preset" () with
    | error e =>
      exact sound.unserved carried rfl (fun served => ⟨served.1, served.2.1⟩)
        (List.mem_cons_of_mem _ (List.mem_singleton_self _))
    | ok _ =>
      dsimp only
      by_cases none : changed (fun row : PresetRow => decide (row.name = name)) rows = 0
      · rw [if_pos none]
        exact ⟨sound, .unknownUpdate writable ((changed_zero sound).mp none)⟩
      · rw [if_neg none]
        obtain ⟨old, found⟩ := Option.ne_none_iff_exists'.mp fun absent =>
          none ((changed_zero sound).mpr absent)
        refine ⟨sound.rewritten writable fits encoded, ?_⟩
        dsimp only
        rw [presetsOf_rewritten sound writable fits encoded found]
        exact .updated writable found

end

theorem Sound.removed (sound : Sound text rows) (name : String) :
    Sound text (rows.filter (·.name ≠ name)) where
  keyed := (List.filter_sublist.map PresetRow.name).nodup sound.keyed
  rows := fun row member => sound.rows row (List.mem_of_mem_filter member)

theorem presetsOf_removed (sound : Sound text rows) (name : String) :
    presetsOf text (rows.filter (·.name ≠ name)) = Function.update (presetsOf text rows) name none := by
  apply presetsOf_eq (sound.removed name)
  intro key preset
  by_cases own : key = name
  · subst own
    rw [Function.update_self]
    constructor
    · intro impossible
      cases impossible
    · rintro ⟨row, member, rfl, _⟩
      exact absurd rfl (of_decide_eq_true (List.mem_filter.mp member).2)
  · rw [Function.update_of_ne own, presetsOf_some sound]
    constructor
    · rintro ⟨row, member, rfl, rest⟩
      exact ⟨row, List.mem_filter.mpr ⟨member, decide_eq_true own⟩, rfl, rest⟩
    · rintro ⟨row, member, rest⟩
      exact ⟨row, List.mem_of_mem_filter member, rest⟩

theorem delete_refines (sound : Sound text rows) (up : Bool) (name : String) :
    Refines text rows (.delete up name (delete up name rows).1) (delete up name rows).2 := by
  unfold delete
  cases valid : validatePresetName name with
  | error e => exact sound.refused rfl (.name rfl valid)
  | ok _ =>
    dsimp only
    cases carried : statement up "could not delete preset" () with
    | error e =>
      obtain ⟨rfl, rfl⟩ := statement_error carried
      exact sound.refused rfl (.storage (fun served => nomatch served) (List.mem_singleton_self _))
    | ok _ =>
      dsimp only
      by_cases none : changed (fun row : PresetRow => decide (row.name = name)) rows = 0
      · rw [if_pos none]
        exact ⟨sound, .unknownDelete ((changed_zero sound).mp none)⟩
      · rw [if_neg none]
        obtain ⟨old, found⟩ := Option.ne_none_iff_exists'.mp fun absent =>
          none ((changed_zero sound).mpr absent)
        refine ⟨sound.removed name, ?_⟩
        dsimp only
        rw [presetsOf_removed sound]
        exact .deleted found

/-! ## Whole runs -/

open Transition

theorem step_refines (sound : Sound text rows) {event : PresetEvent} {rows' : Rows}
    (step : Step text rows event rows') : Refines text rows event rows' := by
  cases step with
  | create up c now fits => exact create_refines sound up c now fits
  | get up name => exact get_refines sound up name
  | list up after limit => exact list_refines sound up after limit
  | update up name write now fits => exact update_refines sound up name write now fits
  | delete up name => exact delete_refines sound up name

theorem sound_along {origin : Rows} (sound : Sound text origin)
    (run : Run (Step text) Unrestricted origin rows) : Sound text rows := by
  refine run.invariant sound ?_
  intro _ _ _ _ sound step _
  exact (step_refines sound step).sound

theorem empty_sound : Sound text [] := ⟨List.nodup_nil, fun _ impossible => nomatch impossible⟩

theorem reached_sound (run : Run (Step text) Unrestricted [] rows) : Sound text rows :=
  sound_along empty_sound run

/-- The map of a table goes through the states of a map that starts empty. -/
theorem reached_map (run : Run (Step text) Unrestricted [] rows) :
    Run (MapStep (Served text)) Unrestricted (fun _ => none) (presetsOf text rows) := by
  induction run with
  | start => exact Run.start
  | next run step _ ih => exact ih.then (step_refines (reached_sound run) step).step

/-! ## Replacements among other calls -/

/-- The preset that an operation may write. -/
def PresetEvent.Writes (name : String) : PresetEvent → Prop
  | .create _ c _ _ => c.name = name
  | .update _ updated _ _ _ => updated = name
  | .delete _ deleted _ => deleted = name
  | _ => False

section

variable {served : PresetEvent → Prop} {presets presets' : Presets} {event : PresetEvent}

theorem MapStep.frame (step : MapStep served presets event presets') (other : ¬event.Writes name) :
    presets' name = presets name := by
  cases step with
  | created => exact Function.update_of_ne (fun own => other own.symm) ..
  | updated => exact Function.update_of_ne (fun own => other own.symm) ..
  | deleted => exact Function.update_of_ne (fun own => other own.symm) ..
  | taken | read | missing | listed | unknownUpdate | unknownDelete | refused => rfl

theorem MapStep.updated_ok {up : Bool} {write : ImagePresetWrite} {now : Nat}
    (step : MapStep served presets (.update up name write now (.ok ())) presets') :
    ∃ old, presets name = some old ∧
      presets' = Function.update presets name (some (old.rewrite write now)) := by
  cases step with
  | updated _ found => exact ⟨_, found, rfl⟩
  | refused fails _ => cases fails

theorem MapStep.listed_ok {up : Bool} {after : Option String} {limit : Nat}
    {items : List ImagePreset}
    (step : MapStep served presets (.list up after limit (.ok items)) presets') :
    PageOf presets after limit items := by
  cases step with
  | listed page => exact page
  | refused fails _ => cases fails

theorem MapStep.list_unserved {up : Bool} {after : Option String} {limit : Nat} {e : BridgeError}
    (step : MapStep served presets (.list up after limit (.error e)) presets') :
    ¬served (.list up after limit (.error e)) := by
  cases step with
  | refused _ refusal =>
    cases refusal with
    | name asked _ => cases asked
    | write asked _ => cases asked
    | storage down _ => exact down

theorem MapStep.read_ok {up : Bool} {preset : ImagePreset}
    (step : MapStep served presets (.get up name (.ok preset)) presets') :
    presets name = some preset := by
  cases step with
  | read found => exact found
  | refused fails _ => cases fails

end

/-- Operations that write other presets leave a preset. -/
theorem untouched {origin : Rows} (sound : Sound text origin)
    (others : Run (Step text) (fun _ event => ¬event.Writes name) origin rows) :
    Sound text rows ∧ presetsOf text rows name = presetsOf text origin name := by
  induction others with
  | start => exact ⟨sound, rfl⟩
  | next _ step other kept =>
    have next := step_refines kept.1 step
    exact ⟨next.sound, (next.step.frame other).trans kept.2⟩

/-! ## A preset that is created, and replaced beside another -/

/-- The text of the default template. -/
def portraitText : String :=
  "\x7b\"operation\":\"generate\",\"parameters\":\x7b\"n\":1,\"size\":\"auto\",\"quality\":\"auto\"," ++
  "\"output_format\":\"png\",\"background\":\"auto\",\"moderation\":\"auto\",\"partial_images\":0," ++
  "\"failure_policy\":\"fail_fast\",\"action\":\"auto\"\x7d,\"routing\":\x7b\"fallback_policy\":" ++
  "\"on_unavailable\"\x7d,\"session\":\x7b\"mode\":\"isolated\"\x7d,\"output\":\x7b" ++
  "\"response_format\":\"b64_json\",\"collision\":\"error\",\"metadata\":\"none\"," ++
  "\"transparency\":\x7b\"mode\":\"auto\",\"transparent_threshold\":12,\"opaque_threshold\":96,\"despill\":true\x7d\x7d,\"policies\":" ++
  "\x7b\"compatibility\":\"strict\",\"negative_prompt\":\"auto\",\"revised_prompt\":\"include\"," ++
  "\"batch_execution\":\"auto\"\x7d\x7d"

/-- A text layer for the default template. -/
def portraitJson : JsonText where
  print json :=
    match templateCodec.decode json with
    | .ok template => if template = {} then some portraitText else none
    | .error _ => none
  parse text := if text = portraitText then some (templateCodec.encode {}) else none
  restores := by
    intro template text fits printed
    rw [templateCodec.restores template fits] at printed
    dsimp only at printed
    split at printed
    · rename_i same
      cases printed
      rw [if_pos rfl, same]
    · cases printed

theorem portrait_fits : templateCodec.Fits {} := by
  have fits := ImageRequest.generate_representable ""
  exact ⟨⟨⟨⟨⟨⟨⟨⟨⟨⟨trivial, fun _ _ => trivial⟩, fun _ _ => trivial⟩, trivial⟩,
    ImageRequest.parameters_fit fits⟩, ImageRequest.routing_fits _⟩,
    ⟨⟨⟨trivial, trivial⟩, fun _ _ => trivial⟩, fun _ _ => trivial⟩⟩, ImageRequest.output_fits fits⟩,
    ⟨⟨⟨⟨trivial, trivial⟩, trivial⟩, trivial⟩, trivial⟩⟩, fits.timeout⟩, fun _ _ => trivial⟩

def portrait (description : Option String) : ImagePresetCreate := ⟨"portrait", description, {}⟩

def portraitRow : PresetRow := ⟨"portrait", some "Editorial portrait", portraitText, 10, 10⟩

theorem portrait_printed : portraitJson.print (templateCodec.encode {}) = some portraitText := by
  unfold portraitJson
  dsimp only
  rw [templateCodec.restores {} portrait_fits]
  exact if_pos rfl

theorem portrait_encoded : encodeTemplate portraitJson {} = .ok portraitText := by
  unfold encodeTemplate
  rw [portrait_printed]

theorem portrait_checked {name : String} {description : Option String}
    (named : validatePresetName name = .ok ())
    (plain : ¬(description.any fun text =>
      decide (len text > Preset.maxDescriptionBytes) || hasControl text) = true) :
    checkedWrite portraitJson name ⟨description, {}⟩ = .ok portraitText := by
  have valid : validatePresetWrite ⟨description, {}⟩ = .ok () := by
    simp only [validatePresetWrite, bind_ok, failIf_ok]
    refine ⟨(), plain, (), by decide, _, ImagePresetTemplate.request_given _ (by decide), ?_⟩
    exact (Validation.validateRequest_ok _ _).mpr (by decide)
  exact bind_ok.mpr ⟨(), named, bind_ok.mpr ⟨(), valid, portrait_encoded⟩⟩

theorem portrait_created :
    create portraitJson true (portrait (some "Editorial portrait")) 10 [] =
      (.ok ⟨"portrait", some "Editorial portrait", {}, 10, 10⟩, [portraitRow]) := by
  unfold create portrait
  dsimp only
  rw [portrait_checked rfl (by decide)]
  rfl

theorem portrait_taken :
    create portraitJson true (portrait none) 11 [portraitRow] = (.error nameTaken, [portraitRow]) := by
  unfold create portrait
  dsimp only
  rw [portrait_checked rfl (by decide)]
  rfl

theorem portrait_run : Run (Step portraitJson) Unrestricted [] [portraitRow] := by
  have step := @Step.create portraitJson [] true (portrait (some "Editorial portrait")) 10
    portrait_fits
  rw [portrait_created] at step
  exact Run.start.then step

def updatedRow : PresetRow := ⟨"portrait", some "Updated", portraitText, 10, 12⟩

def landscape : ImagePresetCreate := ⟨"landscape", none, {}⟩

def landscapeRow : PresetRow := ⟨"landscape", none, portraitText, 12, 12⟩

/-- Another call creates a preset. -/
def afterLandscape (rows : Rows) : Rows := (create portraitJson true landscape 12 rows).2

theorem portrait_updated :
    update portraitJson true "portrait" ⟨some "Updated", {}⟩ 12 [portraitRow] =
      (.ok (), [updatedRow]) := by
  unfold update
  rw [portrait_checked rfl (by decide)]
  rfl

theorem landscape_created : afterLandscape [updatedRow] = [updatedRow, landscapeRow] := by
  unfold afterLandscape create landscape
  dsimp only
  rw [portrait_checked rfl (by decide)]
  rfl

theorem landscape_apart (rows : Rows) :
    Run (Step portraitJson) (fun _ event => ¬event.Writes "portrait") rows (afterLandscape rows) := by
  have apart : "landscape" ≠ "portrait" := by decide
  exact Run.start.next (@Step.create portraitJson rows true landscape 12 portrait_fits) apart

theorem portrait_replaced :
    (replace portraitJson true "portrait" ⟨some "Updated", {}⟩ 12 afterLandscape true
      [portraitRow]).1 = .ok ⟨"portrait", some "Updated", {}, 10, 12⟩ := by
  unfold replace
  rw [portrait_updated]
  dsimp only
  rw [landscape_created]
  have named : validatePresetName "portrait" = .ok () := rfl
  have found : ([updatedRow, landscapeRow].find? fun row => row.name = "portrait") =
      some updatedRow := rfl
  unfold get statement
  rw [named, if_pos rfl, found]
  dsimp only [bind, Except.bind]
  exact decodeRow_encoded portrait_fits portrait_encoded ..

/-! ## The store as a map -/

/-- Whatever operations came before, and whichever of them the database failed: an operation on the
table returns what it returns on the map of all presets, and changes that map as it says. -/
theorem presets_refine {event : PresetEvent} {rows' : Rows}
    (run : Run (Step text) Unrestricted [] rows) (step : Step text rows event rows') :
    Run (MapStep (Served text)) Unrestricted (fun _ => none) (presetsOf text rows) ∧
      MapStep (Served text) (presetsOf text rows) event (presetsOf text rows') :=
  ⟨reached_map run, (step_refines (reached_sound run) step).step⟩

theorem portrait_refines :
    Run (MapStep (Served portraitJson)) Unrestricted (fun _ => none)
        (presetsOf portraitJson [portraitRow]) ∧
      MapStep (Served portraitJson) (presetsOf portraitJson [portraitRow])
        (.create true (portrait none) 11 (.error nameTaken)) (presetsOf portraitJson [portraitRow]) := by
  have step := @Step.create portraitJson [portraitRow] true (portrait none) 11 portrait_fits
  rw [portrait_taken] at step
  exact presets_refine portrait_run step

/-- While other calls leave its preset alone, a replacement returns the preset that it found with
what it wrote, under the time of creation, and that is what the store has afterwards. -/
theorem replace_answers {write : ImagePresetWrite} {now : Nat} {up upAgain : Bool}
    {meanwhile : Rows → Rows} {preset : ImagePreset}
    (run : Run (Step text) Unrestricted [] rows) (fits : templateCodec.Fits write.template)
    (others : Run (Step text) (fun _ event => ¬event.Writes name)
      (update text up name write now rows).2 (meanwhile (update text up name write now rows).2))
    (replaced : (replace text up name write now meanwhile upAgain rows).1 = .ok preset) :
    ∃ old, presetsOf text rows name = some old ∧ preset = old.rewrite write now ∧
      presetsOf text (replace text up name write now meanwhile upAgain rows).2 name =
        some preset := by
  have begun := update_refines (reached_sound run) up name write now fits
  have kept := untouched begun.sound others
  unfold replace at replaced ⊢
  cases result : update text up name write now rows with
  | mk outcome after =>
    rw [result] at begun kept replaced
    cases outcome with
    | error e => cases replaced
    | ok _ =>
      obtain ⟨old, found, changed⟩ := begun.step.updated_ok
      dsimp only at kept replaced ⊢
      have read := (get_refines kept.1 upAgain name).step
      rw [replaced] at read
      have stored : presetsOf text (meanwhile after) name = some (old.rewrite write now) := by
        rw [kept.2, changed, Function.update_self]
      cases stored.symm.trans read.read_ok
      exact ⟨old, found, rfl, stored⟩

theorem portrait_answers :
    ∃ old, presetsOf portraitJson [portraitRow] "portrait" = some old ∧
      (⟨"portrait", some "Updated", {}, 10, 12⟩ : ImagePreset) =
        old.rewrite ⟨some "Updated", {}⟩ 12 ∧
      presetsOf portraitJson (replace portraitJson true "portrait" ⟨some "Updated", {}⟩ 12
        afterLandscape true [portraitRow]).2 "portrait" =
          some ⟨"portrait", some "Updated", {}, 10, 12⟩ :=
  replace_answers portrait_run portrait_fits (landscape_apart _) portrait_replaced

end ImagegenBridge.PresetStore
