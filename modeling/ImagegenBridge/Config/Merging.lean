import ImagegenBridge.Config.Loader
import ImagegenBridge.Lib.LayeredWrites
import Mathlib.Data.List.Nodup

/-!
# What merging and setting a path write

A value is what it has at its leaves. `mergeValues` writes the topmost parts of the source that
are not a table over a table, `setPath` writes one value; the provenance is entered leaf by leaf
for each of these writes.
-/

namespace ImagegenBridge.Config

open Outcome

/-- A table is no leaf, and an empty one has none below it. -/
def leafAt : Json → List String → Option Json
  | .object fields, key :: rest => (fields.lookup key).bind fun child => leafAt child rest
  | .object _, [] => none
  | value, [] => some value
  | _, _ :: _ => none

@[simp] theorem leafAt_object_nil (fields : List (String × Json)) :
    leafAt (.object fields) [] = none := rfl

@[simp] theorem leafAt_object_cons (fields : List (String × Json)) (key : String)
    (rest : List String) :
    leafAt (.object fields) (key :: rest) =
      (fields.lookup key).bind fun child => leafAt child rest := rfl

theorem leafAt_scalar {value : Json} (scalar : ¬ isObject value = true) (q : List String) :
    leafAt value q = if q = [] then some value else none := by
  cases value with
  | object fields => exact absurd rfl scalar
  | _ => cases q <;> simp [leafAt]

theorem isObject_iff {value : Json} :
    isObject value = true ↔ ∃ fields, value = .object fields := by
  cases value <;> simp [isObject, fieldsOf]

/-- The dotted text of a path below another. -/
def pathText (parent : String) (path : List String) : String := path.foldl joinPath parent

/-- The dotted text of a field path. -/
def dotted (path : List String) : String := pathText "" path

@[simp] theorem pathText_nil (parent : String) : pathText parent [] = parent := rfl

@[simp] theorem pathText_cons (parent key : String) (rest : List String) :
    pathText parent (key :: rest) = pathText (joinPath parent key) rest := rfl

theorem pathText_append (parent : String) (path below : List String) :
    pathText parent (path ++ below) = pathText (pathText parent path) below :=
  List.foldl_append ..

/-! ## Leaves on record -/

theorem lookup_insertField {α : Type} (key other : String) (value : α)
    (fields : List (String × α)) :
    (insertField key value fields).lookup other =
      if other = key then some value else fields.lookup other := by
  by_cases same : other = key
  · rw [if_pos same, same, lookup_insertField_self]
  · rw [if_neg same, lookup_insertField_ne value fields same]

theorem lookup_of_mem {fields : List (String × Json)} {key : String} {child : Json}
    (nodup : (fields.map Prod.fst).Nodup) (among : (key, child) ∈ fields) :
    fields.lookup key = some child := by
  induction fields with
  | nil => cases among
  | cons field rest ih =>
    obtain ⟨first, value⟩ := field
    rw [List.map_cons, List.nodup_cons] at nodup
    rw [List.lookup_cons]
    rcases List.mem_cons.mp among with here | later
    · cases here
      rw [beq_self_eq_true]
    · have named : key ∈ rest.map Prod.fst := List.mem_map.mpr ⟨(key, child), later, rfl⟩
      have differ : ¬ key = first := by
        rintro rfl
        exact nodup.1 named
      rw [beq_false_of_ne differ]
      exact ih nodup.2 later

theorem mem_of_lookup {fields : List (String × Json)} {key : String} {child : Json}
    (found : fields.lookup key = some child) : (key, child) ∈ fields := by
  obtain ⟨before, after, split, -⟩ := List.lookup_eq_some_iff.mp found
  rw [split]
  exact List.mem_append_right _ List.mem_cons_self

theorem distinctFields_mem {fields : List (String × Json)} {key : String} {child : Json}
    (distinct : DistinctFields fields) (among : (key, child) ∈ fields) : Distinct child := by
  induction fields with
  | nil => cases among
  | cons field rest ih =>
    obtain ⟨first, value⟩ := field
    rcases List.mem_cons.mp among with here | later
    · cases here
      exact distinct.1
    · exact ih distinct.2 later

/-- A leaf of the value has the text, under a parent. -/
def Texts (value : Json) (parent text : String) : Prop :=
  ∃ r, (leafAt value r).isSome ∧ pathText parent r = text

theorem texts_scalar {value : Json} (scalar : ¬ isObject value = true) (parent text : String) :
    Texts value parent text ↔ parent = text := by
  constructor
  · rintro ⟨r, has, rfl⟩
    rw [leafAt_scalar scalar] at has
    cases r with
    | nil => rfl
    | cons key rest => cases has
  · intro same
    exact ⟨[], by rw [leafAt_scalar scalar]; rfl, same⟩

theorem texts_object {fields : List (String × Json)} (nodup : (fields.map Prod.fst).Nodup)
    (parent text : String) :
    Texts (.object fields) parent text ↔
      ∃ field ∈ fields, Texts field.2 (joinPath parent field.1) text := by
  constructor
  · rintro ⟨r, has, rfl⟩
    cases r with
    | nil => cases has
    | cons key rest =>
      rw [leafAt_object_cons] at has
      cases found : fields.lookup key with
      | none =>
        rw [found] at has
        cases has
      | some child =>
        rw [found] at has
        exact ⟨(key, child), mem_of_lookup found, rest, has, rfl⟩
  · rintro ⟨⟨key, child⟩, among, rest, has, rfl⟩
    refine ⟨key :: rest, ?_, rfl⟩
    rw [leafAt_object_cons, lookup_of_mem nodup among]
    exact has

theorem recordLeaves_scalar {value : Json} (scalar : ¬ isObject value = true)
    (source : ConfigSource) (sourceKey : Option String) (path : String)
    (provenance : Provenance) :
    recordLeaves source sourceKey value path provenance =
      if path = "" then provenance
      else insertField path ⟨source, sourceKey.getD path⟩ provenance := by
  cases value with
  | object fields => exact absurd rfl scalar
  | _ => rw [recordLeaves]; intros; contradiction

open Classical in
theorem lookup_recordScalar {value : Json} (scalar : ¬ isObject value = true)
    (source : ConfigSource) (sourceKey : Option String) (path text : String)
    (provenance : Provenance) :
    (recordLeaves source sourceKey value path provenance).lookup text =
      if text ≠ "" ∧ Texts value path text then some ⟨source, sourceKey.getD text⟩
      else provenance.lookup text := by
  simp only [recordLeaves_scalar scalar, texts_scalar scalar]
  by_cases top : path = ""
  · rw [if_pos top, if_neg fun both => both.1 (both.2.symm.trans top)]
  · rw [if_neg top, lookup_insertField]
    by_cases same : text = path
    · rw [if_pos same, if_pos ⟨same ▸ top, same.symm⟩, same]
    · rw [if_neg same, if_neg fun both => same both.2.symm]

open Classical in
mutual

/-- The record has the origin of the value for the text of each of its leaves. -/
theorem lookup_recordLeaves (source : ConfigSource) (sourceKey : Option String) (value : Json)
    (path : String) (provenance : Provenance) (text : String) (distinct : Distinct value) :
    (recordLeaves source sourceKey value path provenance).lookup text =
      if text ≠ "" ∧ Texts value path text then some ⟨source, sourceKey.getD text⟩
      else provenance.lookup text := by
  cases value with
  | object fields =>
    rw [recordLeaves, lookup_recordFields source sourceKey fields path provenance text distinct.2]
    simp only [texts_object distinct.1]
  | null => exact lookup_recordScalar (by simp [isObject, fieldsOf]) ..
  | bool value => exact lookup_recordScalar (by simp [isObject, fieldsOf]) ..
  | integer value => exact lookup_recordScalar (by simp [isObject, fieldsOf]) ..
  | decimal text => exact lookup_recordScalar (by simp [isObject, fieldsOf]) ..
  | string value => exact lookup_recordScalar (by simp [isObject, fieldsOf]) ..
  | array items => exact lookup_recordScalar (by simp [isObject, fieldsOf]) ..

theorem lookup_recordFields (source : ConfigSource) (sourceKey : Option String)
    (fields : List (String × Json)) (path : String) (provenance : Provenance) (text : String)
    (distinct : DistinctFields fields) :
    (recordFields source sourceKey fields path provenance).lookup text =
      if text ≠ "" ∧ ∃ field ∈ fields, Texts field.2 (joinPath path field.1) text then
        some ⟨source, sourceKey.getD text⟩
      else provenance.lookup text := by
  cases fields with
  | nil => simp [recordFields]
  | cons field rest =>
    obtain ⟨key, child⟩ := field
    rw [recordFields, lookup_recordFields source sourceKey rest path _ text distinct.2,
      lookup_recordLeaves source sourceKey child _ provenance text distinct.1]
    simp only [List.mem_cons, exists_eq_or_imp]
    by_cases later : text ≠ "" ∧ ∃ field ∈ rest, Texts field.2 (joinPath path field.1) text
    · rw [if_pos later, if_pos ⟨later.1, Or.inr later.2⟩]
    · rw [if_neg later]
      by_cases here : text ≠ "" ∧ Texts child (joinPath path key) text
      · rw [if_pos here, if_pos ⟨here.1, Or.inl here.2⟩]
      · rw [if_neg here, if_neg]
        rintro ⟨named, now | after⟩
        · exact here ⟨named, now⟩
        · exact later ⟨named, after⟩

end

/-! ## Merging -/

/-- What a merge puts where: the topmost parts of the source that are not tables over tables. -/
abbrev Placement := List String × Json

def Placement.under (key : String) (placement : Placement) : Placement :=
  (key :: placement.1, placement.2)

mutual

def placements : Json → Json → List Placement
  | .object sourceFields, .object fields => fieldPlacements sourceFields fields
  | value, _ => [([], value)]

def fieldPlacements : List (String × Json) → List (String × Json) → List Placement
  | [], _ => []
  | (key, value) :: rest, fields =>
    (placements value ((fields.lookup key).getD .null)).map (Placement.under key) ++
      fieldPlacements rest fields

end

/-- A write of the loader: a value at a path, and what the record has for its leaves. -/
structure Assignment where
  path : List String
  value : Json
  source : ConfigSource
  sourceKey : Option String

def Assignment.origin (a : Assignment) (text : String) : ConfigOrigin :=
  ⟨a.source, a.sourceKey.getD text⟩

def Assignment.write (a : Assignment) :
    LayeredWrites.Write String Json String ConfigOrigin :=
  ⟨a.path, leafAt a.value, a.origin⟩

/-- `record_leaves` for a write below a parent. -/
def Assignment.record (parent : String) (provenance : Provenance) (a : Assignment) : Provenance :=
  recordLeaves a.source a.sourceKey a.value (pathText parent a.path) provenance

def Placement.assignment (source : ConfigSource) (sourceKey : Option String)
    (placement : Placement) : Assignment :=
  ⟨placement.1, placement.2, source, sourceKey⟩

theorem placements_top {value existing : Json}
    (top : ¬ (isObject existing = true ∧ isObject value = true)) :
    placements value existing = [([], value)] := by
  cases value with
  | object sourceFields =>
    cases existing with
    | object fields => exact absurd ⟨rfl, rfl⟩ top
    | _ => rw [placements]; intros; contradiction
  | _ => rw [placements]; intros; contradiction

theorem mergeValues_top {value existing : Json}
    (top : ¬ (isObject existing = true ∧ isObject value = true)) (source : ConfigSource)
    (sourceKey : Option String) (path : String) (provenance : Provenance) :
    mergeValues source sourceKey value existing path provenance =
      (value, recordLeaves source sourceKey value path provenance) := by
  cases value with
  | object sourceFields =>
    cases existing with
    | object fields => exact absurd ⟨rfl, rfl⟩ top
    | _ => rw [mergeValues]; intros; contradiction
  | _ => rw [mergeValues]; intros; contradiction

/-- One round of the loop is a merge into what the key has, a key without a value being null. -/
theorem mergeFields_cons (source : ConfigSource) (sourceKey : Option String) (key : String)
    (value : Json) (rest fields : List (String × Json)) (path : String)
    (provenance : Provenance) :
    mergeFields source sourceKey ((key, value) :: rest) fields path provenance =
      mergeFields source sourceKey rest
        (insertField key (mergeValues source sourceKey value ((fields.lookup key).getD .null)
          (joinPath path key) provenance).1 fields) path
        (mergeValues source sourceKey value ((fields.lookup key).getD .null)
          (joinPath path key) provenance).2 := by
  rw [mergeFields]
  cases found : fields.lookup key with
  | none => rw [Option.getD_none, mergeValues_top (by simp [isObject, fieldsOf])]
  | some existing =>
    rw [Option.getD_some]
    by_cases tables : isObject existing = true ∧ isObject value = true
    · simp only [if_pos tables]
    · simp only [if_neg tables, mergeValues_top tables]

theorem fieldPlacements_congr {rest fields others : List (String × Json)}
    (agree : ∀ key ∈ rest.map Prod.fst, fields.lookup key = others.lookup key) :
    fieldPlacements rest fields = fieldPlacements rest others := by
  induction rest with
  | nil => rfl
  | cons field rest ih =>
    obtain ⟨key, value⟩ := field
    rw [fieldPlacements, fieldPlacements, agree key List.mem_cons_self,
      ih fun k among => agree k (List.mem_cons_of_mem _ among)]

/-- The writes of a merge. -/
def mergeAssignments (source : ConfigSource) (sourceKey : Option String) (value existing : Json) :
    List Assignment :=
  (placements value existing).map (Placement.assignment source sourceKey)

def fieldAssignments (source : ConfigSource) (sourceKey : Option String)
    (sourceFields fields : List (String × Json)) : List Assignment :=
  (fieldPlacements sourceFields fields).map (Placement.assignment source sourceKey)

def Assignment.under (key : String) (a : Assignment) : Assignment :=
  { a with path := key :: a.path }

theorem fieldAssignments_cons (source : ConfigSource) (sourceKey : Option String) (key : String)
    (value : Json) (rest fields : List (String × Json)) :
    fieldAssignments source sourceKey ((key, value) :: rest) fields =
      (mergeAssignments source sourceKey value ((fields.lookup key).getD .null)).map
          (Assignment.under key) ++
        fieldAssignments source sourceKey rest fields := by
  simp only [fieldAssignments, mergeAssignments, fieldPlacements, List.map_append, List.map_map]
  rfl

theorem fieldAssignments_insert {key : String} {rest : List (String × Json)}
    (new : key ∉ rest.map Prod.fst) (source : ConfigSource) (sourceKey : Option String)
    (value : Json) (fields : List (String × Json)) :
    fieldAssignments source sourceKey rest (insertField key value fields) =
      fieldAssignments source sourceKey rest fields := by
  rw [fieldAssignments, @fieldPlacements_congr _ _ fields, fieldAssignments]
  intro other among
  exact lookup_insertField_ne value fields fun same => new (same ▸ among)

mutual

/-- The record of a merge is the record of its writes. -/
theorem mergeValues_record (source : ConfigSource) (sourceKey : Option String)
    (value existing : Json) (path : String) (provenance : Provenance)
    (distinct : Distinct value) :
    (mergeValues source sourceKey value existing path provenance).2 =
      (mergeAssignments source sourceKey value existing).foldl (Assignment.record path)
        provenance := by
  by_cases tables : isObject existing = true ∧ isObject value = true
  · obtain ⟨here, there⟩ := tables
    cases existing with
    | object fields =>
      cases value with
      | object sourceFields =>
        rw [mergeValues]
        exact mergeFields_record source sourceKey sourceFields fields path provenance distinct.1
          distinct.2
      | _ => cases there
    | _ => cases here
  · rw [mergeValues_top tables, mergeAssignments, placements_top tables]
    rfl

theorem mergeFields_record (source : ConfigSource) (sourceKey : Option String)
    (sourceFields fields : List (String × Json)) (path : String) (provenance : Provenance)
    (nodup : (sourceFields.map Prod.fst).Nodup) (distinct : DistinctFields sourceFields) :
    (mergeFields source sourceKey sourceFields fields path provenance).2 =
      (fieldAssignments source sourceKey sourceFields fields).foldl (Assignment.record path)
        provenance := by
  cases sourceFields with
  | nil => rw [mergeFields]; rfl
  | cons field rest =>
    obtain ⟨key, value⟩ := field
    obtain ⟨new, nodup⟩ := List.nodup_cons.mp nodup
    rw [mergeFields_cons, mergeFields_record source sourceKey rest _ path _ nodup distinct.2,
      mergeValues_record source sourceKey value _ _ provenance distinct.1,
      fieldAssignments_insert new, fieldAssignments_cons, List.foldl_append, List.foldl_map]
    rfl

end

theorem leafAt_insertField (key : String) (value : Json) (fields : List (String × Json))
    (q : List String) :
    leafAt (.object (insertField key value fields)) q =
      match q with
      | k :: r => if k = key then leafAt value r else leafAt (.object fields) q
      | [] => none := by
  cases q with
  | nil => rfl
  | cons k r =>
    rw [leafAt_object_cons, lookup_insertField]
    by_cases same : k = key
    · simp [same]
    · simp [same]

/-- The leaves after some writes. -/
def written (writes : List Assignment) (tree : List String → Option Json) :
    List String → Option Json :=
  (writes.map Assignment.write).foldl LayeredWrites.assign tree

theorem written_append (first second : List Assignment) (tree : List String → Option Json) :
    written (first ++ second) tree = written second (written first tree) := by
  rw [written, List.map_append, List.foldl_append, written, written]

/-- One write at the top leaves nothing of what was there. -/
theorem written_top (a : Assignment) (top : a.path = []) (tree : List String → Option Json) :
    written [a] tree = leafAt a.value := by
  funext q
  have covered := LayeredWrites.assign_append tree a.write q
  rw [show a.write.path = [] from top, List.nil_append] at covered
  exact covered

theorem written_under (key : String) (writes : List Assignment)
    (tree : List String → Option Json) (q : List String) :
    written (writes.map (Assignment.under key)) tree q =
      match q with
      | k :: r => if k = key then written writes (fun r => tree (key :: r)) r else tree q
      | [] => tree q := by
  rw [written, List.map_map]
  have same : Assignment.write ∘ Assignment.under key =
      (fun w : LayeredWrites.Write String Json String ConfigOrigin =>
        { w with path := key :: w.path }) ∘ Assignment.write := rfl
  rw [same, ← List.map_map, LayeredWrites.foldl_assign_under]
  cases q with
  | nil => rfl
  | cons k r => rfl

mutual

/-- The leaves of a merge are those of its writes. -/
theorem mergeValues_leaf (source : ConfigSource) (sourceKey : Option String)
    (value existing : Json) (path : String) (provenance : Provenance)
    (distinct : Distinct value) :
    leafAt (mergeValues source sourceKey value existing path provenance).1 =
      written (mergeAssignments source sourceKey value existing) (leafAt existing) := by
  by_cases tables : isObject existing = true ∧ isObject value = true
  · obtain ⟨here, there⟩ := tables
    cases existing with
    | object fields =>
      cases value with
      | object sourceFields =>
        rw [mergeValues]
        exact mergeFields_leaf source sourceKey sourceFields fields path provenance distinct.1
          distinct.2
      | _ => cases there
    | _ => cases here
  · rw [mergeValues_top tables, mergeAssignments, placements_top tables]
    exact (written_top ⟨[], value, source, sourceKey⟩ rfl _).symm

theorem mergeFields_leaf (source : ConfigSource) (sourceKey : Option String)
    (sourceFields fields : List (String × Json)) (path : String) (provenance : Provenance)
    (nodup : (sourceFields.map Prod.fst).Nodup) (distinct : DistinctFields sourceFields) :
    leafAt (.object (mergeFields source sourceKey sourceFields fields path provenance).1) =
      written (fieldAssignments source sourceKey sourceFields fields) (leafAt (.object fields)) := by
  cases sourceFields with
  | nil => rw [mergeFields]; rfl
  | cons field rest =>
    obtain ⟨key, value⟩ := field
    obtain ⟨new, nodup⟩ := List.nodup_cons.mp nodup
    rw [mergeFields_cons, mergeFields_leaf source sourceKey rest _ path _ nodup distinct.2,
      fieldAssignments_insert new, fieldAssignments_cons, written_append]
    congr 1
    funext q
    rw [leafAt_insertField, written_under]
    cases q with
    | nil => rfl
    | cons k r =>
      by_cases same : k = key
      · subst same
        simp only [if_true, leafAt_object_cons]
        rw [mergeValues_leaf source sourceKey value _ _ provenance distinct.1]
        cases found : fields.lookup k with
        | some existing => rfl
        | none =>
          -- what is not there is replaced at the top, whatever it is taken for
          rw [Option.getD_none, mergeAssignments, placements_top (by simp [isObject, fieldsOf])]
          exact congrFun ((written_top ⟨[], value, source, sourceKey⟩ rfl _).trans
            (written_top ⟨[], value, source, sourceKey⟩ rfl _).symm) r
      · simp only [if_neg same]

end

/-! ## Setting a path -/

theorem assignPath_leaf {path : List String} {value root changed : Json}
    (assigned : assignPath path value root = .ok changed) (origin : String → ConfigOrigin) :
    leafAt changed = LayeredWrites.assign (leafAt root) ⟨path, leafAt value, origin⟩ := by
  induction path generalizing root changed with
  | nil => cases assigned
  | cons segment rest ih =>
    cases root with
    | object fields =>
      cases rest with
      | nil =>
        cases assigned
        funext q
        rw [leafAt_insertField]
        cases q with
        | nil => simp [LayeredWrites.assign]
        | cons k r =>
          by_cases same : k = segment
          · simp [LayeredWrites.assign, same]
          · simp [LayeredWrites.assign, same, Ne.symm same]
      | cons second more =>
        obtain ⟨child, inner, outer⟩ := bind_ok.mp assigned
        cases outer
        funext q
        rw [leafAt_insertField]
        cases q with
        | nil => simp [LayeredWrites.assign]
        | cons k r =>
          by_cases same : k = segment
          · subst same
            simp only [if_true, ih inner]
            cases found : fields.lookup k with
            | some existing => simp [LayeredWrites.assign, found]
            | none =>
              cases r with
              | nil => simp [LayeredWrites.assign, found]
              | cons l r => simp [LayeredWrites.assign, found]
          · simp [LayeredWrites.assign, same, Ne.symm same]
    | _ => cases rest <;> cases assigned

end ImagegenBridge.Config
