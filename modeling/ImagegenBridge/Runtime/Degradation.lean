import ImagegenBridge.Runtime.EmbeddedRecord

/-!
# What a large record loses

`embedded_metadata` of `crates/runtime/src/materialize.rs`, with its loop over the map of members:
a member that is present is removed, the list of the removed ones is written anew, and the record
is encoded again. The loop goes through the stages of the degradation and stops at the first that
fits.
-/

namespace ImagegenBridge

namespace EmbeddedRecord

open Materialize
open Jobs (encodeJson)

/-- The members the loop may remove, in its order. -/
def droppable : List String := ["usage", "session", "normalizations", "warnings", "revised_prompt"]

def has (object : Fields) (name : String) : Bool := (object.map Prod.fst).contains name

/-- `Map::remove`: the map without a member it had. -/
def removeField (name : String) (object : Fields) : Option Fields :=
  if has object name then some (object.filter fun field => field.1 ≠ name) else none

def encodeObject (object : Fields) : Bytes := utf8 (encodeJson (.object object))

def dropLoop : List String → Fields → List String → Outcome Bytes
  | [], _, _ =>
    .error (artifactError "embedded artifact metadata exceeds the portable 40 KiB limit")
  | name :: rest, object, omitted =>
    match removeField name object with
    | none => dropLoop rest object omitted
    | some object =>
      let omitted := omitted ++ [name]
      let object := insertField "omitted_fields" (.array (omitted.map Json.string)) object
      let encoded := encodeObject object
      if encoded.length ≤ maxEmbeddedMetadataBytes then .ok encoded
      else dropLoop rest object omitted

def embeddedMetadata (original effective : ImageRequest) (response : ImageResponse)
    (image : VerifiedImage) : Outcome Bytes :=
  let object := recordFields original effective response image
  let encoded := encodeObject object
  if encoded.length ≤ maxEmbeddedMetadataBytes then .ok encoded
  else dropLoop droppable object []

variable {original effective : ImageRequest} {response : ImageResponse} {image : VerifiedImage}
  {record object : Fields} {omitted dropped : List String} {name : String}

/-! ## The members of a stage -/

theorem has_append (left right : Fields) (name : String) :
    has (left ++ right) name = (has left name || has right name) := by
  unfold has
  rw [List.map_append, List.contains_append]

theorem has_filter (record : Fields) (kept : String → Bool) (name : String) :
    has (record.filter fun field => kept field.1) name = (has record name && kept name) := by
  unfold has
  rw [Bool.eq_iff_iff, Bool.and_eq_true]
  simp only [List.contains_eq_mem, decide_eq_true_eq, List.mem_map, List.mem_filter]
  constructor
  · rintro ⟨field, ⟨present, keeps⟩, rfl⟩
    exact ⟨⟨field, present, rfl⟩, keeps⟩
  · rintro ⟨⟨field, present, rfl⟩, keeps⟩
    exact ⟨field, ⟨present, keeps⟩, rfl⟩

theorem has_listField (key : String) (items : List Json) (name : String) :
    has (listField key items) name = (!items.isEmpty && decide (name = key)) := by
  unfold has listField
  cases items <;> simp

theorem has_optionalField (key : String) (value : Option Json) (name : String) :
    has (optionalField key value) name = (value.isSome && decide (name = key)) := by
  unfold has optionalField
  cases value <;> simp

theorem insertField_listField {key : String} {items : List Json} {value : Json}
    (fresh : has object key = false) :
    insertField key value (object ++ listField key items) = object ++ [(key, value)] := by
  induction object with
  | nil => cases items <;> simp [listField, insertField]
  | cons field rest ih =>
    obtain ⟨k, v⟩ := field
    simp only [has, List.map_cons, List.contains_cons, Bool.or_eq_false_iff] at fresh
    have other : k ≠ key := fun same => by simp [same] at fresh
    rw [List.cons_append, insertField, if_neg other, ih fresh.2, List.cons_append]

/-- One more member is removed. -/
theorem removeField_stage (named : name ≠ "omitted_fields") (kept : name ∉ omitted) :
    removeField name (withoutFields record omitted) =
      if has record name then
        some (record.filter (fun field => !(omitted ++ [name]).contains field.1)
          ++ listField "omitted_fields" (omitted.map Json.string))
      else none := by
  have present : has (withoutFields record omitted) name = has record name := by
    unfold withoutFields
    rw [has_append, has_filter record (fun name => !omitted.contains name), has_listField,
      List.contains_eq_mem, decide_eq_false kept]
    simp [named]
  unfold removeField
  rw [present]
  cases has record name with
  | false => rfl
  | true =>
    have note : (listField "omitted_fields" (omitted.map Json.string)).filter
        (fun field => decide (field.1 ≠ name)) =
        listField "omitted_fields" (omitted.map Json.string) := by
      unfold listField
      split
      · rfl
      · simp [Ne.symm named]
    rw [if_pos rfl, if_pos rfl, withoutFields, List.filter_append, note, List.filter_filter]
    congr 2
    refine List.filter_congr fun field _ => ?_
    simp [List.contains_eq_mem, Bool.and_comm]

/-- The map after a round is the record without the members removed so far. -/
theorem insertField_stage (fresh : has record "omitted_fields" = false) :
    insertField "omitted_fields" (.array ((omitted ++ [name]).map Json.string))
        (record.filter (fun field => !(omitted ++ [name]).contains field.1)
          ++ listField "omitted_fields" (omitted.map Json.string)) =
      withoutFields record (omitted ++ [name]) := by
  have still : has (record.filter fun field => !(omitted ++ [name]).contains field.1)
      "omitted_fields" = false := by
    rw [has_filter record (fun name' => !(omitted ++ [name]).contains name'), fresh, Bool.false_and]
  rw [insertField_listField still, withoutFields]
  simp [listField]

/-- The loop is the trimming of the members that are there. The induction is on the names. -/
theorem dropLoop_trims (fresh : has record "omitted_fields" = false) (names omitted : List String)
    (distinct : (omitted ++ names).Nodup) (named : "omitted_fields" ∉ names) :
    dropLoop names (withoutFields record omitted) omitted =
      trimEmbedded (fun dropped => some (encodeObject (withoutFields record dropped))) omitted
        (names.filter (has record)) := by
  induction names generalizing omitted with
  | nil => rfl
  | cons name rest ih =>
    have kept : name ∉ omitted := by
      intro among
      exact (List.nodup_append.mp distinct).2.2 name among name (List.mem_cons_self ..) rfl
    have other : name ≠ "omitted_fields" := fun same => named (same ▸ List.mem_cons_self ..)
    have later : "omitted_fields" ∉ rest := fun among => named (List.mem_cons_of_mem _ among)
    rw [dropLoop, removeField_stage other kept, List.filter_cons]
    cases present : has record name with
    | false =>
      have skipped : (omitted ++ rest).Nodup :=
        distinct.sublist ((List.Sublist.refl omitted).append (List.sublist_cons_self ..))
      exact ih omitted skipped later
    | true =>
      simp only [if_true]
      rw [insertField_stage fresh, trimEmbedded]
      dsimp only
      rw [ih (omitted ++ [name]) (by rwa [List.append_assoc]) later]

/-! ## The record -/

/-- All names a record may have, in the order of the struct. -/
def recordNames : List String := ["version", "kind", "request_id", "created", "operation",
  "original_prompt", "effective_prompt", "negative_prompt", "policies", "provider", "model",
  "requested", "effective", "normalizations", "revised_prompt", "usage", "session", "timings",
  "warnings", "image"]

theorem optionalField_names (name : String) (value : Option Json) :
    ((optionalField name value).map Prod.fst).Sublist [name] := by
  cases value <;> simp [optionalField]

theorem listField_names (name : String) (items : List Json) :
    ((listField name items).map Prod.fst).Sublist [name] := by
  cases items <;> simp [listField]

theorem recordFields_names (original effective : ImageRequest) (response : ImageResponse)
    (image : VerifiedImage) :
    ((recordFields original effective response image).map Prod.fst).Sublist recordNames := by
  unfold recordFields optionalString
  simp only [List.map_append]
  have parts : recordNames = ["version", "kind", "request_id", "created", "operation",
      "original_prompt"] ++ ["effective_prompt"] ++ ["negative_prompt"] ++ ["policies", "provider",
      "model", "requested", "effective"] ++ ["normalizations"] ++ ["revised_prompt"] ++ ["usage"]
      ++ ["session"] ++ ["timings"] ++ ["warnings"] ++ ["image"] := rfl
  rw [parts]
  repeat' apply List.Sublist.append
  all_goals first
    | exact optionalField_names ..
    | exact listField_names ..
    | exact List.Sublist.refl _

theorem recordFields_distinct (original effective : ImageRequest) (response : ImageResponse)
    (image : VerifiedImage) :
    ((recordFields original effective response image).map Prod.fst).Nodup :=
  (by decide : recordNames.Nodup).sublist (recordFields_names ..)

theorem recordFields_fresh (original effective : ImageRequest) (response : ImageResponse)
    (image : VerifiedImage) :
    has (recordFields original effective response image) "omitted_fields" = false := by
  unfold has
  rw [List.contains_eq_mem, decide_eq_false_iff_not]
  exact fun among => absurd ((recordFields_names ..).subset among) (by decide)

theorem has_cons (field : String × Json) (rest : Fields) (name : String) :
    has (field :: rest) name = (decide (name = field.1) || has rest name) := by
  unfold has
  rw [List.map_cons, List.contains_cons]
  rfl

/-- The names the loop finds are the optional members of the response. -/
theorem droppable_present (original effective : ImageRequest) (response : ImageResponse)
    (image : VerifiedImage) :
    droppable.filter (has (recordFields original effective response image)) =
      optionalFields response := by
  have none (name : String) : has [] name = false := rfl
  have usage : has (recordFields original effective response image) "usage" =
      response.usage.isSome := by
    simp [recordFields, optionalString, has_append, has_cons, has_optionalField, has_listField, none]
  have session : has (recordFields original effective response image) "session" =
      response.session.isSome := by
    simp [recordFields, optionalString, has_append, has_cons, has_optionalField, has_listField, none]
  have normalizations : has (recordFields original effective response image) "normalizations" =
      !response.normalizations.isEmpty := by
    simp [recordFields, optionalString, has_append, has_cons, has_optionalField, has_listField, none]
  have warnings : has (recordFields original effective response image) "warnings" =
      !response.warnings.isEmpty := by
    simp [recordFields, optionalString, has_append, has_cons, has_optionalField, has_listField, none]
  have revised : has (recordFields original effective response image) "revised_prompt" =
      response.revisedPrompt.isSome := by
    simp [recordFields, optionalString, has_append, has_cons, has_optionalField, has_listField, none]
  simp only [droppable, optionalFields, List.filter_cons, List.filter_nil, usage, session,
    normalizations, warnings, revised]
  cases response.usage.isSome <;> cases response.session.isSome <;>
    cases response.normalizations.isEmpty <;> cases response.warnings.isEmpty <;>
    cases response.revisedPrompt.isSome <;> rfl

/-- The function with the loop is the one over the answers of a world that encodes the record. -/
theorem embeddedMetadata_recording (world : World) (original effective : ImageRequest)
    (response : ImageResponse) (image : VerifiedImage) :
    Materialize.embeddedMetadata (recording world) original effective response image =
      embeddedMetadata original effective response image := by
  have whole : withoutFields (recordFields original effective response image) [] =
      recordFields original effective response image := by
    simp [withoutFields, listField]
  have loop := dropLoop_trims (recordFields_fresh original effective response image) droppable []
    (by decide) (by decide)
  rw [whole, droppable_present] at loop
  have first : encodeRecord original effective response image [] =
      some (encodeObject (recordFields original effective response image)) := by
    rw [encodeRecord, whole]
    rfl
  unfold Materialize.embeddedMetadata embeddedMetadata
  dsimp only [recording]
  rw [first, loop]
  rfl

/-! ## What is left -/

theorem lookup_filter (record : Fields) (kept : String → Bool) (name : String) :
    (record.filter fun field => kept field.1).lookup name =
      if kept name then record.lookup name else none := by
  induction record with
  | nil => simp
  | cons field rest ih =>
    obtain ⟨key, value⟩ := field
    by_cases same : name = key
    · subst same
      cases keeps : kept name with
      | true => simp [keeps]
      | false =>
        rw [List.filter_cons, if_neg (by simp [keeps]), ih, keeps]
        rfl
    · have other : (name == key) = false := by simpa using same
      rw [List.lookup_cons, other, ← ih, List.filter_cons]
      split
      · rw [List.lookup_cons, other]
      · rfl

/-- A record that lost some of its members, and says which. -/
structure Degraded (record : Fields) (dropped : List String) (members : Fields) : Prop where
  /-- The members are given up in one order. -/
  ordered : dropped <+: droppable.filter (has record)
  listed : members.lookup "omitted_fields" =
    if dropped = [] then none else some (.array (dropped.map Json.string))
  gone : ∀ name ∈ dropped, members.lookup name = none
  kept : ∀ name, name ∉ dropped → name ≠ "omitted_fields" →
    members.lookup name = record.lookup name
  /-- No key is written twice. -/
  distinct : (members.map Prod.fst).Nodup

theorem lookup_listField (key : String) (items : List Json) (name : String) :
    (listField key items).lookup name =
      if items ≠ [] ∧ name = key then some (.array items) else none := by
  cases items with
  | nil => rfl
  | cons item rest =>
    by_cases same : name = key
    · simp [listField, same]
    · have other : (name == key) = false := by simpa using same
      simp [listField, List.lookup_cons, other, same]

theorem lookup_stage (record : Fields) (dropped : List String) (name : String) :
    (withoutFields record dropped).lookup name =
      (if name ∈ dropped then none else record.lookup name).or
        (if dropped ≠ [] ∧ name = "omitted_fields" then some (.array (dropped.map Json.string))
          else none) := by
  unfold withoutFields
  rw [List.lookup_append, lookup_filter record (fun name => !dropped.contains name),
    lookup_listField]
  congr 1
  · rw [List.contains_eq_mem]
    by_cases among : name ∈ dropped <;> simp [among]
  · simp

/-- Every stage of the loop is an honest record. -/
theorem degraded_stage (fresh : has record "omitted_fields" = false)
    (distinct : (record.map Prod.fst).Nodup)
    (ordered : dropped <+: droppable.filter (has record)) :
    Degraded record dropped (withoutFields record dropped) := by
  have unlisted : "omitted_fields" ∉ record.map Prod.fst := by
    simpa [has] using fresh
  have named : "omitted_fields" ∉ dropped := by
    intro among
    exact absurd (List.mem_of_mem_filter (ordered.subset among)) (by decide)
  refine ⟨ordered, ?_, ?_, ?_, ?_⟩
  · have absent : record.lookup "omitted_fields" = none := by
      rw [List.lookup_eq_none_iff]
      intro field present
      rw [bne_iff_ne]
      exact fun same => unlisted (same ▸ List.mem_map_of_mem present)
    rw [lookup_stage, if_neg named, absent]
    cases dropped <;> simp
  · intro name among
    have other : name ≠ "omitted_fields" := fun same => named (same ▸ among)
    rw [lookup_stage, if_pos among, if_neg fun both => other both.2]
    rfl
  · intro name kept other
    rw [lookup_stage, if_neg kept, if_neg fun both => other both.2, Option.or_none]
  · unfold withoutFields
    rw [List.map_append]
    have left := (List.filter_sublist
      (p := fun field : String × Json => !dropped.contains field.1) (l := record)).map Prod.fst
    refine List.nodup_append.mpr ⟨left.nodup distinct, ?_, ?_⟩
    · exact (listField_names ..).nodup (List.nodup_singleton _)
    · rintro key before key' after rfl
      have only := List.mem_singleton.mp ((listField_names ..).subset after)
      exact unlisted (only ▸ left.subset before)

/-! ## The loop -/

def limitError : BridgeError :=
  artifactError "embedded artifact metadata exceeds the portable 40 KiB limit"

/-- The trimming ends at the first stage that fits. The induction is on the members that are
still there. -/
theorem trimEmbedded_first (stage : List String → Bytes) (omitted rest : List String) :
    match trimEmbedded (fun dropped => some (stage dropped)) omitted rest with
    | .ok bytes => ∃ more, more ≠ [] ∧ more <+: rest ∧ bytes = stage (omitted ++ more) ∧
        bytes.length ≤ maxEmbeddedMetadataBytes ∧
        ∀ fewer, fewer ≠ [] → fewer <+: more → fewer ≠ more →
          maxEmbeddedMetadataBytes < (stage (omitted ++ fewer)).length
    | .error e => e = limitError ∧ ∀ more, more ≠ [] → more <+: rest →
        maxEmbeddedMetadataBytes < (stage (omitted ++ more)).length := by
  induction rest generalizing omitted with
  | nil => exact ⟨rfl, fun more some none => absurd (List.prefix_nil.mp none) some⟩
  | cons name rest ih =>
    rw [trimEmbedded]
    dsimp only
    by_cases fits : (stage (omitted ++ [name])).length ≤ maxEmbeddedMetadataBytes
    · rw [if_pos fits]
      refine ⟨[name], by simp, ⟨rest, rfl⟩, rfl, fits, ?_⟩
      intro fewer some first differs
      have whole : fewer = [name] := by
        have positive := List.length_pos_iff.mpr some
        exact first.eq_of_length_le (by simp only [List.length_singleton]; omega)
      exact absurd whole differs
    · rw [if_neg fits]
      have large := Nat.lt_of_not_le fits
      have later := ih (omitted ++ [name])
      -- a longer stage of the rest is a stage of the whole list
      have longer : ∀ fewer, fewer ≠ [] → fewer <+: name :: rest →
          (∀ tail, fewer = name :: tail → tail ≠ [] → tail <+: rest →
            maxEmbeddedMetadataBytes < (stage (omitted ++ [name] ++ tail)).length) →
          maxEmbeddedMetadataBytes < (stage (omitted ++ fewer)).length := by
        intro fewer some first more
        cases fewer with
        | nil => exact absurd rfl some
        | cons head tail =>
          obtain ⟨rfl, among⟩ := List.cons_prefix_cons.mp first
          by_cases last : tail = []
          · subst last
            exact large
          · rw [List.append_cons omitted head tail]
            exact more tail rfl last among
      cases trimmed : trimEmbedded (fun dropped => some (stage dropped)) (omitted ++ [name]) rest with
      | ok bytes =>
        rw [trimmed] at later
        obtain ⟨more, some, first, rfl, small, least⟩ := later
        refine ⟨name :: more, by simp, List.cons_prefix_cons.mpr ⟨rfl, first⟩, ?_, small, ?_⟩
        · rw [List.append_cons omitted name more]
        · intro fewer some' first' differs
          have among : fewer <+: name :: rest :=
            first'.trans (List.cons_prefix_cons.mpr ⟨rfl, first⟩)
          refine longer fewer some' among fun tail same more' _ => ?_
          subst same
          have shorter := (List.cons_prefix_cons.mp first').2
          exact least tail more' shorter fun equal => differs (by rw [equal])
      | error e =>
        rw [trimmed] at later
        refine ⟨later.1, fun more some first => ?_⟩
        exact longer more some first fun tail _ more' among => later.2 tail more' among

/-- The bytes of a stage. -/
def stageBytes (record : Fields) (dropped : List String) : Bytes :=
  encodeObject (withoutFields record dropped)

/-- What may be said of the bytes or the error that a record ends in: the bytes fit into the limit
and lost no more than they name, in the order in which members are given up and no more of them
than it takes; or no stage fits. -/
def Honest (record : Fields) : Outcome Bytes → Prop
  | .ok bytes => bytes.length ≤ maxEmbeddedMetadataBytes ∧
      ∃ dropped members, bytes = encodeObject members ∧ Degraded record dropped members ∧
        ∀ fewer, fewer <+: dropped → fewer ≠ dropped →
          maxEmbeddedMetadataBytes < (stageBytes record fewer).length
  | .error e => e = limitError ∧ ∀ dropped, dropped <+: droppable.filter (has record) →
      maxEmbeddedMetadataBytes < (stageBytes record dropped).length

theorem dropLoop_honest (fresh : has record "omitted_fields" = false)
    (distinct : (record.map Prod.fst).Nodup)
    (large : maxEmbeddedMetadataBytes < (stageBytes record []).length) :
    Honest record (dropLoop droppable record []) := by
  have bare : withoutFields record [] = record := by
    simp [withoutFields, listField]
  have loop := dropLoop_trims fresh droppable [] (by decide) (by decide)
  have first := trimEmbedded_first (stageBytes record) [] (droppable.filter (has record))
  rw [bare] at loop
  rw [loop]
  change Honest record (trimEmbedded (fun dropped => some (stageBytes record dropped)) []
    (droppable.filter (has record)))
  cases trimmed : trimEmbedded (fun dropped => some (stageBytes record dropped)) []
      (droppable.filter (has record)) with
  | ok bytes =>
    rw [trimmed] at first
    obtain ⟨dropped, _, ordered, same, small, least⟩ := first
    refine ⟨small, dropped, _, same, degraded_stage fresh distinct ordered, ?_⟩
    intro fewer first differs
    by_cases none : fewer = []
    · rw [none]
      exact large
    · exact least fewer none first differs
  | error e =>
    rw [trimmed] at first
    refine ⟨first.1, fun dropped ordered => ?_⟩
    by_cases none : dropped = []
    · rw [none]
      exact large
    · exact first.2 dropped none ordered

/-- An embedded record is an object within the limit that names the members it lost. -/
theorem embeddedMetadata_honest (original effective : ImageRequest) (response : ImageResponse)
    (image : VerifiedImage) :
    Honest (recordFields original effective response image)
      (embeddedMetadata original effective response image) := by
  have fresh := recordFields_fresh original effective response image
  have distinct := recordFields_distinct original effective response image
  unfold embeddedMetadata
  generalize recordFields original effective response image = record at fresh distinct ⊢
  have bare : withoutFields record [] = record := by
    simp [withoutFields, listField]
  have whole : stageBytes record [] = encodeObject record := congrArg encodeObject bare
  dsimp only
  rw [← whole]
  by_cases fits : (stageBytes record []).length ≤ maxEmbeddedMetadataBytes
  · rw [if_pos fits]
    refine ⟨fits, [], _, rfl, degraded_stage fresh distinct List.nil_prefix, ?_⟩
    intro fewer first differs
    exact absurd (List.prefix_nil.mp first) differs
  · rw [if_neg fits]
    exact dropLoop_honest fresh distinct (Nat.lt_of_not_le fits)

end EmbeddedRecord

end ImagegenBridge
