import ImagegenBridge.Config.Merging
import Mathlib.Data.List.Perm.Basic

/-!
# The provenance of a resolved configuration

The writes of the layers in their order say what the merged value is and what the provenance has.
The value at a leaf is that of the last write that covers it. The provenance never loses a text,
so that it has the texts of the leaves alone exactly when no text was retired.
-/

namespace ImagegenBridge.Config

open Outcome LayeredWrites

/-! ## The writes of the layers -/

def defaultAssignment (defaults : Document) : Assignment := ⟨[], defaults.value, .default, none⟩

def ConfigLoader.fileAssignments (loader : ConfigLoader) (toml : TomlParser)
    (defaults : Document) : Option ConfigFile → Outcome (List Assignment)
  | none => .ok []
  | some file => do
    let layer ← loader.readFile toml file
    .ok (mergeAssignments .file none layer.value defaults.value)

def ConfigLoader.variableAssignment (loader : ConfigLoader) (toml : TomlParser)
    (entry : String × String) : Outcome Assignment := do
  let segments ← environmentSegments (loader.variableKey entry.1)
  let document ← parseOverrideValue toml entry.2
  .ok ⟨segments, document.value, .environment, some entry.1⟩

def overrideAssignment (toml : TomlParser) (operation : ConfigOverride) : Outcome Assignment := do
  let segments ← dottedSegments operation.key
  let document ← overrideValue toml operation.value
  .ok ⟨segments, document.value, .override, some operation.key⟩

/-- The defaults, the file, the variables by name, the overrides. -/
def ConfigLoader.assignments (loader : ConfigLoader) (toml : TomlParser) (defaults : Document)
    (file : Option ConfigFile) (environment : List (String × String))
    (overrides : List ConfigOverride) : Outcome (List Assignment) := do
  let file ← loader.fileAssignments toml defaults file
  let environment ← (loader.variables environment).mapM (loader.variableAssignment toml)
  let overrides ← overrides.mapM (overrideAssignment toml)
  .ok (defaultAssignment defaults :: (file ++ environment ++ overrides))

/-- What has been merged is what the writes say. -/
structure Accounted (merged : Merged) (writes : List Assignment) : Prop where
  leaves : leafAt merged.1 = written writes fun _ => none
  record : merged.2 = writes.foldl (Assignment.record "") []

/-! ## Texts of keys -/

theorem joinPath_ne_empty (parent key : String) (named : parent ≠ "") :
    joinPath parent key ≠ "" := by
  rw [joinPath, if_neg named]
  intro impossible
  have parts := congrArg String.toList impossible
  simp at parts

theorem intercalate_pathText (parent : String) (rest : List String) (named : parent ≠ "") :
    String.intercalate "." (parent :: rest) = pathText parent rest := by
  induction rest generalizing parent with
  | nil => simp
  | cons key rest ih =>
    have joined := ih (joinPath parent key) (joinPath_ne_empty parent key named)
    rw [pathText_cons, ← joined, joinPath, if_neg named, String.intercalate_cons_cons]
    cases rest with
    | nil => simp
    | cons second rest => simp [String.append_assoc]

theorem intercalate_dotted {path : List String} (named : ∀ key ∈ path, key ≠ "") :
    String.intercalate "." path = dotted path := by
  cases path with
  | nil => simp [dotted]
  | cons key rest =>
    rw [intercalate_pathText key rest (named key List.mem_cons_self), dotted, pathText_cons,
      joinPath, if_pos rfl]

theorem mapM_forall {α β : Type} {f : α → Outcome β} {P : β → Prop} {items : List α}
    {results : List β} (each : ∀ item result, f item = .ok result → P result)
    (mapped : items.mapM f = .ok results) : ∀ result ∈ results, P result := by
  induction items generalizing results with
  | nil =>
    cases mapped
    intro result among
    cases among
  | cons item rest ih =>
    rw [List.mapM_cons] at mapped
    obtain ⟨first, now, mapped⟩ := bind_ok.mp mapped
    obtain ⟨others, later, mapped⟩ := bind_ok.mp mapped
    cases mapped
    exact List.forall_mem_cons.mpr ⟨each item first now, ih later⟩

theorem ofList_ne_empty {chars : List Char} (some_char : chars ≠ []) : String.ofList chars ≠ "" := by
  intro impossible
  have parts := congrArg String.toList impossible
  simp at parts
  exact some_char parts

theorem environmentSegments_named {key : String} {segments : List String}
    (parsed : environmentSegments key = .ok segments) : ∀ segment ∈ segments, segment ≠ "" := by
  obtain ⟨_, _, parsed⟩ := bind_ok.mp parsed
  refine mapM_forall (fun chars segment parsed => ?_) parsed
  obtain ⟨_, valid, parsed⟩ := bind_ok.mp parsed
  cases parsed
  rw [failIf_ok] at valid
  exact ofList_ne_empty fun empty => valid (Or.inl (List.map_eq_nil_iff.mp empty))

theorem dottedSegments_named {key : String} {segments : List String}
    (parsed : dottedSegments key = .ok segments) : ∀ segment ∈ segments, segment ≠ "" := by
  obtain ⟨_, _, parsed⟩ := bind_ok.mp parsed
  refine mapM_forall (fun chars segment parsed => ?_) parsed
  obtain ⟨_, valid, parsed⟩ := bind_ok.mp parsed
  cases parsed
  rw [failIf_ok] at valid
  exact ofList_ne_empty fun empty => valid (Or.inl empty)

/-! ## Layer after layer -/

variable {loader : ConfigLoader} {toml : TomlParser} {defaults : Document}
  {file : Option ConfigFile} {environment : List (String × String)}
  {overrides : List ConfigOverride}

theorem defaults_accounted (defaults : Document) :
    Accounted (mergeDefaults defaults) [defaultAssignment defaults] :=
  ⟨(written_top (defaultAssignment defaults) rfl _).symm, rfl⟩

theorem Accounted.merge {merged : Merged} {writes : List Assignment}
    (accounted : Accounted merged writes) (layer : Document) (source : ConfigSource) :
    Accounted (mergeValues source none layer.value merged.1 "" merged.2)
      (writes ++ mergeAssignments source none layer.value merged.1) where
  leaves := by
    rw [mergeValues_leaf _ _ _ _ _ _ layer.distinct, accounted.leaves, written_append]
  record := by
    rw [mergeValues_record _ _ _ _ _ _ layer.distinct, accounted.record, List.foldl_append]

theorem mergeFile_accounted {merged : Merged}
    (ran : loader.mergeFile toml file (mergeDefaults defaults) = .ok merged) :
    ∃ writes, loader.fileAssignments toml defaults file = .ok writes ∧
      Accounted merged (defaultAssignment defaults :: writes) := by
  cases file with
  | none =>
    cases ran
    exact ⟨[], rfl, defaults_accounted defaults⟩
  | some file =>
    obtain ⟨layer, read, ran⟩ := bind_ok.mp ran
    cases ran
    refine ⟨mergeAssignments .file none layer.value defaults.value, ?_, ?_⟩
    · rw [ConfigLoader.fileAssignments, read]
      rfl
    · exact (defaults_accounted defaults).merge layer .file

theorem Accounted.set {merged merged' : Merged} {writes : List Assignment} {a : Assignment}
    {key : String} (accounted : Accounted merged writes) (named : ∀ key ∈ a.path, key ≠ "")
    (keyed : a.sourceKey = some key)
    (set : setPath a.path a.value a.source key merged.1 merged.2 = .ok merged') :
    Accounted merged' (writes ++ [a]) := by
  obtain ⟨root, assigned, set⟩ := bind_ok.mp set
  cases set
  constructor
  · rw [written_append, ← accounted.leaves]
    exact assignPath_leaf assigned a.origin
  · rw [List.foldl_append, ← accounted.record, intercalate_dotted named, ← keyed]
    rfl

/-- One write for each item of a layer, one after the other. -/
theorem layer_accounted {α : Type} {items : List α} {assignment : α → Outcome Assignment}
    {step : Merged → α → Outcome Merged}
    (sets : ∀ merged merged' item writes, Accounted merged writes →
      step merged item = .ok merged' →
        ∃ a, assignment item = .ok a ∧ Accounted merged' (writes ++ [a]))
    {merged merged' : Merged} {writes : List Assignment} (accounted : Accounted merged writes)
    (ran : items.foldlM step merged = .ok merged') :
    ∃ more, items.mapM assignment = .ok more ∧ Accounted merged' (writes ++ more) := by
  induction items generalizing merged writes with
  | nil =>
    cases ran
    exact ⟨[], rfl, by rwa [List.append_nil]⟩
  | cons item rest ih =>
    rw [List.foldlM_cons] at ran
    obtain ⟨next, stepped, ran⟩ := bind_ok.mp ran
    obtain ⟨a, made, accounted⟩ := sets merged next item writes accounted stepped
    obtain ⟨more, mapped, accounted⟩ := ih accounted ran
    refine ⟨a :: more, ?_, by simpa using accounted⟩
    rw [List.mapM_cons, made, mapped]
    rfl

theorem mergeVariable_accounted (merged merged' : Merged) (entry : String × String)
    (writes : List Assignment) (accounted : Accounted merged writes)
    (ran : loader.mergeVariable toml merged entry = .ok merged') :
    ∃ a, loader.variableAssignment toml entry = .ok a ∧ Accounted merged' (writes ++ [a]) := by
  obtain ⟨segments, split, ran⟩ := bind_ok.mp ran
  obtain ⟨document, parsed, ran⟩ := bind_ok.mp ran
  refine ⟨⟨segments, document.value, .environment, some entry.1⟩, ?_,
    accounted.set (environmentSegments_named split) rfl ran⟩
  rw [ConfigLoader.variableAssignment, split, parsed]
  rfl

theorem mergeOverride_accounted (merged merged' : Merged) (operation : ConfigOverride)
    (writes : List Assignment) (accounted : Accounted merged writes)
    (ran : mergeOverride toml merged operation = .ok merged') :
    ∃ a, overrideAssignment toml operation = .ok a ∧ Accounted merged' (writes ++ [a]) := by
  obtain ⟨segments, split, ran⟩ := bind_ok.mp ran
  obtain ⟨document, parsed, ran⟩ := bind_ok.mp ran
  refine ⟨⟨segments, document.value, .override, some operation.key⟩, ?_,
    accounted.set (dottedSegments_named split) rfl ran⟩
  rw [overrideAssignment, split, parsed]
  rfl

/-- A successful merge is the fold of the writes of its layers. -/
theorem mergeLayers_accounted {merged : Merged}
    (ran : loader.mergeLayers toml defaults file environment overrides = .ok merged) :
    ∃ writes, loader.assignments toml defaults file environment overrides = .ok writes ∧
      Accounted merged writes := by
  obtain ⟨based, fileRan, ran⟩ := bind_ok.mp ran
  obtain ⟨changed, environmentRan, overridesRan⟩ := bind_ok.mp ran
  obtain ⟨first, read, accounted⟩ := mergeFile_accounted fileRan
  obtain ⟨second, set, accounted⟩ :=
    layer_accounted mergeVariable_accounted accounted environmentRan
  obtain ⟨third, operations, accounted⟩ :=
    layer_accounted mergeOverride_accounted accounted overridesRan
  refine ⟨defaultAssignment defaults :: (first ++ second ++ third), ?_,
    by simpa using accounted⟩
  rw [ConfigLoader.assignments, read, set, operations]
  rfl

/-! ## Maps within the writes -/

mutual

theorem placements_distinct (value existing : Json) (distinct : Distinct value) :
    ∀ placement ∈ placements value existing, Distinct placement.2 := by
  by_cases tables : isObject existing = true ∧ isObject value = true
  · obtain ⟨here, there⟩ := tables
    cases existing with
    | object fields =>
      cases value with
      | object sourceFields =>
        rw [placements]
        exact fieldPlacements_distinct sourceFields fields distinct.2
      | _ => cases there
    | _ => cases here
  · rw [placements_top tables]
    exact List.forall_mem_singleton.mpr distinct

theorem fieldPlacements_distinct (sourceFields fields : List (String × Json))
    (distinct : DistinctFields sourceFields) :
    ∀ placement ∈ fieldPlacements sourceFields fields, Distinct placement.2 := by
  cases sourceFields with
  | nil =>
    rw [fieldPlacements]
    exact fun _ among => absurd among List.not_mem_nil
  | cons field rest =>
    obtain ⟨key, value⟩ := field
    rw [fieldPlacements]
    intro placement among
    rcases List.mem_append.mp among with here | later
    · obtain ⟨inner, within, rfl⟩ := List.mem_map.mp here
      exact placements_distinct value _ distinct.1 inner within
    · exact fieldPlacements_distinct rest fields distinct.2 placement later

end

theorem fileAssignments_distinct {writes : List Assignment}
    (made : loader.fileAssignments toml defaults file = .ok writes) :
    ∀ a ∈ writes, Distinct a.value := by
  cases file with
  | none =>
    cases made
    exact fun _ among => absurd among List.not_mem_nil
  | some file =>
    obtain ⟨layer, _, made⟩ := bind_ok.mp made
    cases made
    intro a among
    obtain ⟨placement, within, rfl⟩ := List.mem_map.mp among
    exact placements_distinct layer.value _ layer.distinct placement within

theorem variableAssignment_distinct (entry : String × String) (a : Assignment)
    (made : loader.variableAssignment toml entry = .ok a) : Distinct a.value := by
  obtain ⟨_, _, made⟩ := bind_ok.mp made
  obtain ⟨document, _, made⟩ := bind_ok.mp made
  cases made
  exact document.distinct

theorem overrideAssignment_distinct (operation : ConfigOverride) (a : Assignment)
    (made : overrideAssignment toml operation = .ok a) : Distinct a.value := by
  obtain ⟨_, _, made⟩ := bind_ok.mp made
  obtain ⟨document, _, made⟩ := bind_ok.mp made
  cases made
  exact document.distinct

theorem assignments_distinct {writes : List Assignment}
    (made : loader.assignments toml defaults file environment overrides = .ok writes) :
    ∀ a ∈ writes, Distinct a.value := by
  obtain ⟨first, read, made⟩ := bind_ok.mp made
  obtain ⟨second, set, made⟩ := bind_ok.mp made
  obtain ⟨third, operations, made⟩ := bind_ok.mp made
  cases made
  simp only [List.forall_mem_cons, List.forall_mem_append]
  exact ⟨defaults.distinct, ⟨fileAssignments_distinct read,
    mapM_forall variableAssignment_distinct set⟩,
    mapM_forall overrideAssignment_distinct operations⟩

/-! ## What the provenance has -/

theorem names_iff (a : Assignment) (text : String) :
    a.write.Names dotted text ↔ Texts a.value (dotted a.path) text := by
  constructor
  · rintro ⟨q, has, rfl⟩
    obtain ⟨r, rfl, leaf⟩ := Write.leaf_isSome_iff.mp has
    exact ⟨r, leaf, (pathText_append "" a.path r).symm⟩
  · rintro ⟨r, leaf, rfl⟩
    exact ⟨a.path ++ r, Write.leaf_isSome_iff.mpr ⟨r, rfl, leaf⟩, pathText_append "" a.path r⟩

/-- A text has the origin of the last write of a leaf with this text. -/
theorem lookup_record {writes : List Assignment} (distinct : ∀ a ∈ writes, Distinct a.value)
    (text : String) :
    (writes.foldl (Assignment.record "") []).lookup text =
      if text = "" then none
      else (lastNaming dotted (writes.map Assignment.write) text).map fun w => w.origin text := by
  induction writes using List.reverseRecOn with
  | nil => simp [lastNaming]
  | append_singleton writes a ih =>
    rw [List.foldl_append, List.foldl_cons, List.foldl_nil, Assignment.record,
      lookup_recordLeaves _ _ _ _ _ _ (distinct a (by simp)),
      ih fun b among => distinct b (List.mem_append_left _ among), List.map_append,
      List.map_singleton, lastNaming_concat]
    by_cases top : text = ""
    · rw [if_neg fun both => both.1 top, if_pos top, if_pos top]
    · rw [if_neg top, if_neg top]
      by_cases named : a.write.Names dotted text
      · rw [if_pos ⟨top, (names_iff a text).mp named⟩, if_pos named]
        rfl
      · rw [if_neg fun both => named ((names_iff a text).mpr both.2), if_neg named]

/-! ## The order of the environment -/

/-- No variable of the loader has two values. -/
def ConfigLoader.OneValueEach (loader : ConfigLoader) (environment : List (String × String)) :
    Prop :=
  ∀ x ∈ loader.variables environment, ∀ y ∈ loader.variables environment, x.1 = y.1 → x = y

theorem variables_sorted (loader : ConfigLoader) (environment : List (String × String)) :
    (loader.variables environment).Pairwise fun left right => left.1 ≤ right.1 := by
  have sorted := @List.pairwise_mergeSort _ (fun left right : String × String =>
      decide (left.1 ≤ right.1))
    (fun a b c first second => by
      simp only [decide_eq_true_eq] at first second ⊢
      exact le_trans first second)
    (fun a b => by simpa using le_total a.1 b.1)
    (environment.filter fun entry => loader.envPrefix.toList.isPrefixOf entry.1.toList)
  simpa [ConfigLoader.variables] using sorted

theorem variables_perm {reordered : List (String × String)} (perm : reordered.Perm environment) :
    (loader.variables reordered).Perm (loader.variables environment) :=
  ((List.mergeSort_perm _ _).trans (perm.filter _)).trans (List.mergeSort_perm _ _).symm

/-- The layers do not depend on the order in which the environment lists its variables. -/
theorem variables_reordered {reordered : List (String × String)}
    (perm : reordered.Perm environment) (once : loader.OneValueEach environment) :
    loader.variables reordered = loader.variables environment := by
  have same := @variables_perm loader _ _ perm
  apply List.Perm.eq_of_pairwise _ (variables_sorted loader reordered)
    (variables_sorted loader environment) same
  intro x y among within first second
  exact once x (same.subset among) y within (le_antisymm first second)

/-! ## Exactness -/

/-- What is at a path is what the last write at it or above it put there. -/
def LastWriteWins (merged : Json) (writes : List Assignment) : Prop :=
  ∀ q, leafAt merged q =
    (lastCovering (writes.map Assignment.write) q).bind fun w => w.leaf q

structure ExactProvenance (merged : Json) (writes : List Assignment) (provenance : Provenance) :
    Prop where
  keys : ∀ text, (provenance.lookup text).isSome ↔
    ∃ q, (leafAt merged q).isSome ∧ dotted q = text
  origins : ∀ w q, Standing (writes.map Assignment.write) w q →
    provenance.lookup (dotted q) = some (w.origin (dotted q))

/-- Every text of a leaf that was written is that of a leaf in the end, and no leaf in the end
has a text that says nothing of its writer. -/
structure TextsKept (writes : List Assignment) : Prop where
  kept : ∀ text, text ≠ "" → ¬ Retired dotted (writes.map Assignment.write) text
  own : ∀ w q, Standing (writes.map Assignment.write) w q →
    dotted q ≠ "" ∧ ¬ Shadowed dotted (writes.map Assignment.write) q

variable {merged : Merged} {writes : List Assignment}

theorem Accounted.lastWriteWins (accounted : Accounted merged writes) :
    LastWriteWins merged.1 writes := by
  intro q
  rw [accounted.leaves, written, foldl_assign]
  cases lastCovering (writes.map Assignment.write) q <;> rfl

theorem Accounted.leaf_iff (accounted : Accounted merged writes) (q : List String) :
    (leafAt merged.1 q).isSome ↔ ∃ w, Standing (writes.map Assignment.write) w q := by
  rw [accounted.leaves]
  exact leaf_iff_standing ..

theorem Accounted.lookup (accounted : Accounted merged writes)
    (distinct : ∀ a ∈ writes, Distinct a.value) {text : String} (named : text ≠ "") :
    merged.2.lookup text =
      (lastNaming dotted (writes.map Assignment.write) text).map fun w => w.origin text := by
  rw [accounted.record, lookup_record distinct, if_neg named]

theorem Accounted.exact (accounted : Accounted merged writes)
    (distinct : ∀ a ∈ writes, Distinct a.value) (texts : TextsKept writes) :
    ExactProvenance merged.1 writes merged.2 where
  keys := by
    intro text
    simp only [accounted.leaf_iff]
    by_cases named : text = ""
    · rw [accounted.record, lookup_record distinct, if_pos named]
      constructor
      · intro impossible
        cases impossible
      · rintro ⟨q, ⟨w, standing⟩, rfl⟩
        exact absurd named (texts.own w q standing).1
    · rw [accounted.lookup distinct named, Option.isSome_map, lastNaming_isSome]
      constructor
      · intro written
        by_contra gone
        refine texts.kept text named ⟨written, ?_⟩
        rintro ⟨w, q, standing, same⟩
        exact gone ⟨q, ⟨w, standing⟩, same⟩
      · rintro ⟨q, ⟨w, standing⟩, rfl⟩
        exact ⟨w, lastCovering_mem standing.1, standing.names⟩
  origins := by
    intro w q standing
    obtain ⟨named, clear⟩ := texts.own w q standing
    rw [accounted.lookup distinct named]
    have written : (lastNaming dotted (writes.map Assignment.write) (dotted q)).isSome :=
      lastNaming_isSome.mpr ⟨w, lastCovering_mem standing.1, standing.names⟩
    obtain ⟨v, last⟩ := Option.isSome_iff_exists.mp written
    rw [last, Option.map_some]
    by_contra differ
    exact clear ⟨w, v, standing.1, last, fun same => differ (congrArg some same)⟩

theorem Accounted.textsKept (accounted : Accounted merged writes)
    (distinct : ∀ a ∈ writes, Distinct a.value)
    (exact : ExactProvenance merged.1 writes merged.2) : TextsKept writes where
  kept := by
    rintro text named ⟨written, gone⟩
    have has : (merged.2.lookup text).isSome := by
      rw [accounted.lookup distinct named, Option.isSome_map]
      exact lastNaming_isSome.mpr written
    obtain ⟨q, leaf, same⟩ := (exact.keys text).mp has
    obtain ⟨w, standing⟩ := (accounted.leaf_iff q).mp leaf
    exact gone ⟨w, q, standing, same⟩
  own := by
    intro w q standing
    have found := exact.origins w q standing
    have named : dotted q ≠ "" := by
      intro top
      rw [accounted.record, lookup_record distinct, if_pos top] at found
      cases found
    refine ⟨named, ?_⟩
    rintro ⟨u, v, last, naming, differ⟩
    obtain rfl : w = u := Option.some.inj (standing.1.symm.trans last)
    rw [accounted.lookup distinct named, naming, Option.map_some] at found
    exact differ (Option.some.inj found)

variable {Config : Type} {deserialize : Json → Except String Config}
  {result : ResolvedConfig Config}

theorem resolve_merged
    (resolved : loader.resolveWithEnvironment toml defaults deserialize file environment
      overrides = .ok result) :
    ∃ value, loader.mergeLayers toml defaults file environment overrides =
        .ok (value, result.provenance) ∧ deserialize value = .ok result.config := by
  obtain ⟨merged, ran, resolved⟩ := bind_ok.mp resolved
  cases typed : deserialize merged.1 with
  | error field =>
    rw [typed] at resolved
    cases resolved
  | ok config =>
    rw [typed] at resolved
    cases resolved
    exact ⟨merged.1, ran, typed⟩

/-- The provenance is exact where no text of a written leaf is lost. -/
theorem provenance_exact_iff (once : loader.OneValueEach environment)
    (resolved : loader.resolveWithEnvironment toml defaults deserialize file environment
      overrides = .ok result) :
    ∃ value writes,
      loader.mergeLayers toml defaults file environment overrides =
        .ok (value, result.provenance) ∧
      deserialize value = .ok result.config ∧
      loader.assignments toml defaults file environment overrides = .ok writes ∧
      ((LastWriteWins value writes ∧
        (∀ reordered, reordered.Perm environment →
          loader.resolveWithEnvironment toml defaults deserialize file reordered overrides =
            .ok result) ∧
        ExactProvenance value writes result.provenance) ↔ TextsKept writes) := by
  obtain ⟨value, ran, typed⟩ := resolve_merged resolved
  obtain ⟨writes, made, accounted⟩ := mergeLayers_accounted ran
  have distinct := assignments_distinct made
  refine ⟨value, writes, ran, typed, made, ?_⟩
  constructor
  · rintro ⟨-, -, exact⟩
    exact accounted.textsKept distinct exact
  · intro texts
    refine ⟨accounted.lastWriteWins, ?_, accounted.exact distinct texts⟩
    intro reordered perm
    rw [← resolved, ConfigLoader.resolveWithEnvironment, ConfigLoader.mergeLayers,
      variables_reordered perm once]
    rfl

/-! ## The metrics settings -/

/-- The part of the defaults that has the metrics settings. -/
def metricsDefaults : Document where
  value := .object [("server", .object [("metrics", .object [("enabled", .bool false)])])]
  distinct := by simp [Distinct, DistinctFields]

/-- TOML with one of two values. -/
def twoValues : TomlParser
  | "value = {}" => some ⟨.object [("value", .object [])], by simp [Distinct, DistinctFields]⟩
  | "value = true" => some ⟨.object [("value", .bool true)], by simp [Distinct, DistinctFields]⟩
  | _ => none

def metricsVariable : String := "IMAGEGEN_BRIDGE__SERVER__METRICS"

/-- The merged settings, under an environment. -/
def metricsUnder (environment : List (String × String)) : Outcome (ResolvedConfig Json) :=
  ({} : ConfigLoader).resolveWithEnvironment twoValues metricsDefaults .ok none environment []

def setMetrics (merged : Merged) (raw : String) : Outcome Merged := do
  let document ← parseOverrideValue twoValues raw
  setPath ["server", "metrics"] document.value .environment metricsVariable merged.1 merged.2

theorem mergeVariable_metrics (merged : Merged) (raw : String) :
    ({} : ConfigLoader).mergeVariable twoValues merged (metricsVariable, raw) =
      setMetrics merged raw := by
  have key : ({} : ConfigLoader).variableKey metricsVariable = "SERVER__METRICS" := by
    rfl
  have segments : environmentSegments "SERVER__METRICS" = .ok ["server", "metrics"] := rfl
  rw [ConfigLoader.mergeVariable, key, segments]
  rfl

theorem variables_metrics (raws : List String) :
    ({} : ConfigLoader).variables (raws.map (metricsVariable, ·)) =
      raws.map (metricsVariable, ·) := by
  have named : ({} : ConfigLoader).envPrefix.toList.isPrefixOf metricsVariable.toList = true := by
    rfl
  rw [ConfigLoader.variables, List.filter_eq_self.mpr, List.mergeSort_of_pairwise]
  · simp [List.pairwise_map, List.pairwise_of_forall]
  · intro entry among
    obtain ⟨raw, -, rfl⟩ := List.mem_map.mp among
    exact named

theorem metricsUnder_eq (raws : List String) :
    metricsUnder (raws.map (metricsVariable, ·)) =
      (raws.foldlM setMetrics (mergeDefaults metricsDefaults)).map
        fun merged => ⟨merged.1, merged.2⟩ := by
  have based : ({} : ConfigLoader).mergeFile twoValues none (mergeDefaults metricsDefaults) =
    .ok (mergeDefaults metricsDefaults) := rfl
  rw [metricsUnder, ConfigLoader.resolveWithEnvironment, ConfigLoader.mergeLayers,
    variables_metrics, based]
  simp only [List.foldlM_map, mergeVariable_metrics]
  change ((raws.foldlM setMetrics (mergeDefaults metricsDefaults)).bind _).bind _ = _
  cases raws.foldlM setMetrics (mergeDefaults metricsDefaults) <;> rfl

theorem nested_leaf (outer inner : String) (q : List String) :
    leafAt (.object [(outer, .object [(inner, .object [])])]) q = none := by
  match q with
  | [] => rfl
  | [first] =>
    rw [leafAt_object_cons, List.lookup_cons, List.lookup_nil]
    cases first == outer <;> rfl
  | first :: second :: rest =>
    rw [leafAt_object_cons, List.lookup_cons, List.lookup_nil]
    cases first == outer with
    | false => rfl
    | true =>
      rw [Option.bind_some, leafAt_object_cons, List.lookup_cons, List.lookup_nil]
      cases second == inner with
      | false => rfl
      | true => cases rest <;> rfl

/-- An empty table in the place of the metrics settings leaves the key of what was there, and of
two values for one variable the order decides. -/
theorem emptied_table_keeps_key :
    (∃ result, metricsUnder [(metricsVariable, "{}")] = .ok result ∧
      (result.provenance.lookup "server.metrics.enabled").isSome ∧
      ∀ q, leafAt result.config q = none) ∧
    metricsUnder [(metricsVariable, "{}"), (metricsVariable, "true")] ≠
      metricsUnder [(metricsVariable, "true"), (metricsVariable, "{}")] := by
  constructor
  · refine ⟨⟨.object [("server", .object [("metrics", .object [])])],
      [("server.metrics.enabled", ⟨.default, "server.metrics.enabled"⟩)]⟩, ?_, by decide,
      nested_leaf "server" "metrics"⟩
    exact (metricsUnder_eq ["{}"]).trans rfl
  · intro same
    have folds := (metricsUnder_eq ["{}", "true"]).symm.trans
      (same.trans (metricsUnder_eq ["true", "{}"]))
    have leaves := congrArg (fun outcome =>
      outcome.toOption.map fun r => (leafAt r.config ["server", "metrics"]).isSome) folds
    exact absurd leaves (by decide +kernel)

def metricsOverride : Assignment :=
  ⟨["server", "metrics", "enabled"], .bool true, .override, some "server.metrics.enabled"⟩

theorem dottedSegments_metrics :
    dottedSegments "server.metrics.enabled" = .ok ["server", "metrics", "enabled"] := by
  have parsed : (dottedSegments "server.metrics.enabled").toOption =
      some ["server", "metrics", "enabled"] := by rfl
  cases split : dottedSegments "server.metrics.enabled" with
  | error e => rw [split] at parsed; cases parsed
  | ok segments => rw [split] at parsed; cases parsed; rfl

theorem overrideValue_metrics : overrideValue twoValues (some "true") = .ok ⟨.bool true, trivial⟩ := by
  have answer : twoValues ("value = " ++ "true") =
    some ⟨.object [("value", .bool true)], by simp [Distinct, DistinctFields]⟩ := rfl
  have small : ¬ "true".utf8ByteSize > maxOverrideBytes := by decide
  rw [overrideValue, parseOverrideValue, failIf, if_neg small, answer]
  rfl

theorem mergeOverride_metrics :
    mergeOverride twoValues (mergeDefaults metricsDefaults)
      ⟨"server.metrics.enabled", some "true"⟩ = .ok
        (.object [("server", .object [("metrics", .object [("enabled", .bool true)])])],
          [("server.metrics.enabled", ⟨.override, "server.metrics.enabled"⟩)]) := by
  rw [mergeOverride, dottedSegments_metrics, overrideValue_metrics]
  rfl

theorem overrideAssignment_metrics :
    overrideAssignment twoValues ⟨"server.metrics.enabled", some "true"⟩ = .ok metricsOverride := by
  rw [overrideAssignment, dottedSegments_metrics, overrideValue_metrics]
  rfl

theorem singleton_leaf {key : String} {child : Json} {q : List String}
    (has : (leafAt (.object [(key, child)]) q).isSome) :
    ∃ r, q = key :: r ∧ (leafAt child r).isSome := by
  cases q with
  | nil => cases has
  | cons k r =>
    rw [leafAt_object_cons, List.lookup_cons, List.lookup_nil] at has
    by_cases same : k = key
    · subst same
      rw [beq_self_eq_true] at has
      exact ⟨r, rfl, has⟩
    · rw [beq_false_of_ne same] at has
      cases has

theorem metrics_leaf {a : Assignment}
    (among : a ∈ [defaultAssignment metricsDefaults, metricsOverride]) {q : List String}
    (has : (a.write.leaf q).isSome) : q = ["server", "metrics", "enabled"] := by
  obtain ⟨r, rfl, leaf⟩ := Write.leaf_isSome_iff.mp has
  rcases List.mem_pair.mp among with rfl | rfl
  · obtain ⟨below, rfl, server⟩ := singleton_leaf leaf
    obtain ⟨below, rfl, metrics⟩ := singleton_leaf server
    obtain ⟨below, rfl, enabled⟩ := singleton_leaf metrics
    cases below with
    | nil => rfl
    | cons key r => cases enabled
  · cases r with
    | nil => rfl
    | cons key r => cases leaf

theorem metrics_kept : TextsKept [defaultAssignment metricsDefaults, metricsOverride] := by
  have standing : Standing ([defaultAssignment metricsDefaults, metricsOverride].map
      Assignment.write) metricsOverride.write ["server", "metrics", "enabled"] := ⟨rfl, rfl⟩
  constructor
  · rintro text - ⟨⟨w, among, q, has, rfl⟩, gone⟩
    obtain ⟨a, within, rfl⟩ := List.mem_map.mp among
    exact gone ⟨_, _, standing, congrArg dotted (metrics_leaf within has).symm⟩
  · intro w q stands
    obtain ⟨a, within, rfl⟩ := List.mem_map.mp (lastCovering_mem stands.1)
    obtain rfl := metrics_leaf within stands.2
    refine ⟨by decide, not_shadowed stands ?_⟩
    rintro v among ⟨r, has, -⟩
    obtain ⟨b, member, rfl⟩ := List.mem_map.mp among
    rwa [metrics_leaf member has] at has

/-- The settings with the one override that turns the metrics on. -/
theorem provenance_exact_metrics : ∃ result value writes,
    ({} : ConfigLoader).resolveWithEnvironment twoValues metricsDefaults .ok none []
      [⟨"server.metrics.enabled", some "true"⟩] = .ok result ∧
    ({} : ConfigLoader).assignments twoValues metricsDefaults none []
      [⟨"server.metrics.enabled", some "true"⟩] = .ok writes ∧
    LastWriteWins value writes ∧ ExactProvenance value writes result.provenance := by
  have empty : ({} : ConfigLoader).variables [] = [] := List.mergeSort_nil
  have resolved : ({} : ConfigLoader).resolveWithEnvironment twoValues metricsDefaults .ok none []
      [⟨"server.metrics.enabled", some "true"⟩] = .ok (
        ⟨.object [("server", .object [("metrics", .object [("enabled", .bool true)])])],
          [("server.metrics.enabled", ⟨.override, "server.metrics.enabled"⟩)]⟩ :
          ResolvedConfig Json) := by
    rw [ConfigLoader.resolveWithEnvironment, ConfigLoader.mergeLayers, empty]
    change ((mergeOverride twoValues (mergeDefaults metricsDefaults)
      ⟨"server.metrics.enabled", some "true"⟩).bind _).bind _ = _
    rw [mergeOverride_metrics]
    rfl
  have once : ({} : ConfigLoader).OneValueEach [] := by
    intro x among
    rw [empty] at among
    exact absurd among List.not_mem_nil
  have layers : ({} : ConfigLoader).assignments twoValues metricsDefaults none []
      [⟨"server.metrics.enabled", some "true"⟩] =
        .ok [defaultAssignment metricsDefaults, metricsOverride] := by
    rw [ConfigLoader.assignments, empty]
    simp only [List.mapM_cons, overrideAssignment_metrics]
    rfl
  obtain ⟨value, writes, ran, typed, made, exact⟩ := provenance_exact_iff once resolved
  obtain rfl := Except.ok.inj (layers.symm.trans made)
  obtain ⟨wins, -, provenance⟩ := exact.mpr metrics_kept
  exact ⟨_, value, _, resolved, layers, wins, provenance⟩

end ImagegenBridge.Config
